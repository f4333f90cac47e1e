import Golden.Host.Find.Reading
import Golden.Host.Shell.Pattern
import Golden.Host.Tool.Basic
import Golden.Host.Tool.Listing
import Golden.Host.Tool.Removing

/-! # Searching for files

Directories are gone through with all that is in them, and for each file an expression is looked
at. -/

namespace Golden.Host.Find

open Tool

/-- A file that is looked at. -/
structure Entry where
  path : String
  /-- The path that the search has begun with. -/
  root : String
  depth : Nat
  facts : Facts
  deriving Inhabited

/-- A file that is kept for a command, and the directory that the command is run in. -/
structure Kept where
  directory : Option String
  name : String
  deriving DecidableEq, Inhabited

/-- What changes on the way. -/
structure Walk where
  /-- What is in the directory is not looked at. -/
  isPruned : Bool
  status : Nat
  /-- The files that are kept for commands, backwards. -/
  gathered : Array (List Kept)
  deriving Inhabited

/-! ### Names -/

/-- What is in front of the last slash. -/
def front (cs : List Char) : String :=
  match cs.reverse.dropWhile (· ≠ '/') with
  | [] => "."
  | _ :: rest => String.ofList rest.reverse

/-- The directory of a path. -/
def directoryOf (path : String) : String := front (withoutSlashes path.toList)

/-- The last name of a path with the slashes behind it. -/
def writtenName (path : String) : String :=
  let cs := withoutSlashes path.toList
  if cs = ['/'] then path
  else
    let front := cs.length - (cs.reverse.takeWhile (· ≠ '/')).length
    String.ofList (path.toList.drop front)

/-- Whether a pattern stands for a text. -/
def accepts (pattern : String) (ignoresCase : Bool) (text : String) : Bool :=
  let fold (s : String) : List Char := (if ignoresCase then s.toLower else s).toList
  Shell.Pattern.accepts (Shell.Pattern.compile ((fold pattern).map fun c => ⟨c, false⟩)) (fold text)

/-! ### Tests -/

/-- The letter for what kind of thing something is. -/
def kindLetter : Kind → Char
  | .directory => 'd'
  | .regular => 'f'
  | .link => 'l'
  | .device => 'c'
  | .fifo => 'p'

/-- The seconds of a span of time. -/
def Span.seconds : Span → Nat
  | .minutes => 60
  | .days => 86400

/-- Whether an age in nanoseconds is within a bound. -/
def ageAccepts (b : Bound) (span : Span) (age : Int) : Bool :=
  let unit : Int := span.seconds * Calendar.nanosecond
  match span with
  | .days => b.accepts (age / unit).toNat && (0 ≤ age || b ≠ .exactly 0)
  | .minutes =>
    match b with
    | .more n => n * unit < age
    | .less n => age < n * unit
    | .exactly n => n * unit - unit ≤ age && age < n * unit

/-- Whether a test holds. -/
def Test.holds (s : Setting) (e : Entry) : Test → Tool Bool
  | constant b => pure b
  | name p i => pure (accepts p i (baseOf e.path))
  | path p i => pure (accepts p i e.path)
  | target p i => do
    let r : Except Errno String ← call (.readLink e.path)
    return r.toOption.any (accepts p i)
  | expression m => pure (m.accepts e.path.toList.toArray)
  | kind letters follow => do
    let facts ← if follow && e.facts.kind = .link then act (Act.facts? e.path true)
      else pure (some e.facts)
    return letters.contains (kindLetter (facts.getD e.facts).kind)
  | size b unit => pure (b.accepts ((e.facts.size + unit - 1) / unit))
  | empty => do
    match e.facts.kind with
    | .regular => return e.facts.size = 0
    | .directory =>
      let names : Except Errno (List String) ← call (.list e.path)
      return names.toOption = some []
    | _ => return false
  | newer time => pure (time < e.facts.modified)
  | age b span => pure (ageAccepts b span ((s.now : Int) - e.facts.modified))
  | permission p => pure (p.accepts e.facts.mode)
  | links b => pure (b.accepts e.facts.links)
  | number b => pure (b.accepts e.facts.number)
  | owner b => pure (b.accepts 0)
  | runnable => pure (e.facts.kind = .directory || e.facts.mode &&& 0o111 ≠ 0)

/-! ### Actions -/

/-- A moment with a fraction of ten digits. -/
def longMoment (t : Nat) : String :=
  let m := Calendar.momentOf t
  String.ofList (Calendar.format m "%a %b %e %H:%M:%S.%N0 %Y".toList)

/-- What an item of a format stands for. -/
def itemText (e : Entry) (target : String) (c : Char) : String :=
  let f := e.facts
  match c with
  | 'a' | 'c' | 't' => longMoment f.modified
  | 'b' => toString (Listing.blocksOf f * 2)
  | 'd' => toString e.depth
  | 'D' => "2049"
  | 'f' => writtenName e.path
  | 'F' => "ext4"
  | 'g' | 'u' => user
  | 'G' | 'U' => "0"
  | 'h' => front e.path.toList
  | 'H' => e.root
  | 'i' => toString f.number
  | 'k' => toString (Listing.blocksOf f)
  | 'l' => target
  | 'm' => String.ofList (Nat.toDigits 8 f.mode)
  | 'M' => Listing.kindLetter f.kind ++ Mode.spell f.mode
  | 'n' => toString f.links
  | 'p' => e.path
  | 'P' =>
    let rest := (e.path.drop e.root.length).toString
    if rest.startsWith "/" then (rest.drop 1).toString else rest
  | 's' => toString f.size
  | 'S' => "1"
  | 'y' | 'Y' => String.singleton (kindLetter f.kind)
  | _ => ""

/-- A moment as a letter tells. -/
def momentText (e : Entry) (c : Char) : String :=
  let t := e.facts.modified
  let m := Calendar.momentOf t
  let fraction := Calendar.padded '0' 9 m.nano ++ "0"
  match c with
  | '@' => toString (t / 1000000000) ++ "." ++ fraction
  | '+' => String.ofList (Calendar.format m "%Y-%m-%d+%H:%M:%S".toList) ++ "." ++ fraction
  | 'T' | 'X' => String.ofList (Calendar.format m "%H:%M:%S".toList) ++ "." ++ fraction
  | 'S' => String.ofList (Calendar.format m "%S".toList) ++ "." ++ fraction
  | c => (Calendar.item? m none c).getD ""

/-- Writes a text to standard output or to a file. -/
def report (file : Option Nat) (text : String) : Tool Unit :=
  match file with
  | none => put text
  | some d => do
    let _ ← act (Act.write d text)

/-- The text of a format up to where it stops, and whether it does. -/
def formatted (e : Entry) (target : String) : List Piece → List Char × Bool
  | [] => ([], false)
  | .stop :: _ => ([], true)
  | .text s :: rest =>
    let (more, stops) := formatted e target rest
    (s.toList ++ more, stops)
  | .item layout c :: rest =>
    let (more, stops) := formatted e target rest
    (layout.text (itemText e target c).toList ++ more, stops)
  | .moment layout c :: rest =>
    let (more, stops) := formatted e target rest
    (layout.text (momentText e c).toList ++ more, stops)

/-- The directory that a command is run in, and the path there. -/
def inside (path : String) : String × String :=
  let directory := directoryOf path
  let name := baseOf path
  (if directory = "" then "/" else directory, if name = "/" then "/" else "./" ++ name)

/-- Runs a command, in a directory if one is told. Gives whether it has done well. -/
def runCommand (directory : Option String) (command : List String) : Tool Bool := do
  let name := (← console).name
  let refusal (e : Errno) : Act Nat := do
    Act.complain (name ++ ": " ++ Quoting.always (command.headD "") ++ ": " ++ e.words ++ "\n")
    return 1
  let prepare : Act Unit := match directory with
    | none => pure ()
    | some d => do
      let _ ← Act.call (.changeDirectory d)
  let pid ← Tool.start refusal prepare command
  return (← await pid none) = some (.exited 0)

/-- Runs a command for the files that are kept for it, which have one directory. -/
def release (command : List String) (kept : List Kept) (w : Walk) : Tool Walk := do
  match kept with
  | [] => return w
  | k :: _ =>
    if ← runCommand k.directory (command ++ kept.reverse.map (·.name)) then return w
    return { w with status := 1 }

/-- The number of characters that arguments of a command can have. -/
def commandSize : Nat := 131072 - 4096

/-- Keeps a file for a command, which is run first if it cannot have more. -/
def keep (s : Setting) (index : Nat) (path : String) (w : Walk) : Tool Walk := do
  match s.gathered[index]? with
  | none => return w
  | some (command, inDirectory) =>
    let own : Kept :=
      if inDirectory then ⟨some (inside path).1, (inside path).2⟩ else ⟨none, path⟩
    let kept := (w.gathered[index]?).getD []
    let isOther := kept.head?.any fun k => k.directory ≠ own.directory
    let size := kept.foldl (fun n k => n + k.name.length + 1) own.name.length
    if isOther || commandSize < size then
      let w ← release command kept w
      return { w with gathered := w.gathered.setIfInBounds index [own] }
    return { w with gathered := w.gathered.setIfInBounds index (own :: kept) }

/-- Runs all commands for the files that are kept for them. -/
def releaseAll : List ((List String × Bool) × List Kept) → Walk → Tool Walk
  | [], w => pure w
  | ((command, _), kept) :: rest, w => do
    let w ← release command kept w
    releaseAll rest w

/-- Runs what is left, and ends. -/
def finish {α : Type} (s : Setting) (w : Walk) : Tool α := do
  let w ← releaseAll (s.gathered.zip w.gathered.toList) w
  exit w.status

/-- A command with a path in the places for it. -/
def fillIn (path : String) (command : List String) : List String :=
  command.map fun a => path.intercalate (a.splitOn "\x7b\x7d")

/-- Does something with a file. Tells whether it has done well. -/
def Action.perform (s : Setting) (e : Entry) (w : Walk) : Action → Tool (Bool × Walk)
  | print ending file => do
    report file (e.path ++ ending)
    return (true, w)
  | format ps file => do
    let r : Except Errno String ← if e.facts.kind = .link then call (.readLink e.path)
      else pure (.ok "")
    let (text, stops) := formatted e (r.toOption.getD "") ps
    report file (String.ofList text)
    if stops then flush
    return (true, w)
  | execute command inDirectory asks => do
    let (directory, name) := inside e.path
    let path := if inDirectory then name else e.path
    let question := "< " ++ command.headD "" ++ " ... " ++ e.path ++ " > ? "
    let goesOn ← if asks then do
        flush
        complain question
        let answer ← readAnswer Act.manySteps ""
        pure (answer.startsWith "y" || answer.startsWith "Y")
      else pure true
    if !goesOn then return (false, w)
    return (← runCommand (if inDirectory then some directory else none) (fillIn path command), w)
  | gather index => do return (true, ← keep s index e.path w)
  | delete => do
    if e.path = "." then return (true, w)
    let r : Except Errno Unit ← if e.facts.kind = .directory then call (.removeDirectory e.path)
      else call (.unlink e.path)
    match r with
    | .ok () => return (true, w)
    | .error x =>
      flush
      warn ("cannot delete " ++ Quoting.always e.path ++ ": " ++ x.words)
      return (false, { w with status := 1 })
  | prune => pure (true, { w with isPruned := !s.contentsFirst })
  | quit => finish s w

/-- Looks at an expression. -/
def Expression.look (s : Setting) (e : Entry) : Expression → Walk → Tool (Bool × Walk)
  | test t, w => do return (← t.holds s e, w)
  | action a, w => a.perform s e w
  | not x, w => do
    let (b, w) ← x.look s e w
    return (!b, w)
  | and x y, w => do
    let (b, w) ← x.look s e w
    if b then y.look s e w else return (false, w)
  | or x y, w => do
    let (b, w) ← x.look s e w
    if b then return (true, w) else y.look s e w
  | both x y, w => do
    let (_, w) ← x.look s e w
    y.look s e w

/-! ### Going through directories -/

/-- Tells what is wrong with a path. -/
def noteWrong (path : String) (x : Errno) (w : Walk) : Tool Walk := do
  flush
  warn (Quoting.always path ++ ": " ++ x.words)
  return { w with status := 1 }

/-- Looks at a file if it is deep enough. -/
def lookAt (s : Setting) (x : Expression) (e : Entry) (w : Walk) : Tool Walk := do
  if e.depth < s.least then return w
  let (_, w) ← x.look s e w
  return w

/-- Goes through a file and what is in it, at most `n` deep. -/
def visit (s : Setting) (x : Expression) (root : String) :
    Nat → Nat → String → Walk → Tool Walk
  | 0, _, _, w => pure w
  | n + 1, depth, path, w => do
    let follows := if depth = 0 then s.followsFirst else s.follows
    let direct : Except Errno Facts ← call (.facts path follows)
    let facts ← match direct with
      | .error _ => if follows then call (.facts path false) else pure direct
      | r => pure r
    match facts with
    | .error e => noteWrong path e w
    | .ok facts =>
      let entry : Entry := ⟨path, root, depth, facts⟩
      let w := { w with isPruned := false }
      let w ← if s.contentsFirst then pure w else lookAt s x entry w
      let goesIn := facts.kind = .directory && !w.isPruned && !(s.most.any (· ≤ depth))
      let w ← if !goesIn then pure w
        else do
          let names : Except Errno (List String) ← call (.list path)
          match names with
          | .error e => noteWrong path e w
          | .ok names =>
            let front := if path.endsWith "/" then path else path ++ "/"
            names.foldlM (fun w name => visit s x root n (depth + 1) (front ++ name) w) w
      if s.contentsFirst then lookAt s x entry w else return w

/-- Reads the options in front of all paths. -/
def readLeading : List String → Setting → List String × Setting
  | "-H" :: rest, s => readLeading rest { s with follows := false, followsFirst := true }
  | "-L" :: rest, s => readLeading rest { s with follows := true, followsFirst := true }
  | "-P" :: rest, s => readLeading rest { s with follows := false, followsFirst := false }
  | "--" :: rest, s => (rest, s)
  | a :: rest, s =>
    match a.toList with
    | '-' :: 'O' :: cs => if cs.all Char.isDigit then readLeading rest s else (a :: rest, s)
    | _ => (a :: rest, s)
  | [], s => ([], s)

/-- Searches for files. -/
def program : Program := Tool.program fun args => do
  let now : Nat ← call .now
  let start : Setting :=
    { least := 0, most := none, contentsFirst := false, follows := false, followsFirst := false
      extended := none, acts := false, gathered := [], now }
  let (args, start) := readLeading args start
  let paths := args.takeWhile fun a => !beginsExpression a
  let words := args.drop paths.length
  let (ws, s) ← readWords (words.length + 1) start "" words
  let always : Expression := .test (.constant true)
  match if ws.isEmpty then .ok always else Expression.ofWords ws with
  | .error f => fail 1 f.message
  | .ok x =>
    let x := if s.acts then x else .and x (.action (.print "\n" none))
    let w : Walk := ⟨false, 0, Array.replicate s.gathered.length []⟩
    let roots := if paths = [] then ["."] else paths
    let w ← roots.foldlM (fun w path => visit s x path Act.manySteps 0 path w) w
    finish s w

end Golden.Host.Find
