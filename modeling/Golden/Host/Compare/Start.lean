import Golden.Host.Calendar
import Golden.Host.Compare.Script
import Golden.Host.Shell.Pattern
import Golden.Host.Tool.Input
import Golden.Host.Tool.Options

/-! # A tool that tells differences of files

The lines of two files are compared, or those of all files with the same names in two directories.
Changes are shown one by one, or in groups with the lines around them. -/

namespace Golden.Host.Compare

open Tool

/-- How differences are shown. -/
inductive Manner where
  | plain
  /-- Both sides of a group together. -/
  | unified (context : Nat)
  /-- Both sides of a group one behind the other. -/
  | copied (context : Nat)
  /-- Commands that change the first file, from its end on. -/
  | commands
  /-- Commands that change the first file, with numbers of lines in it. -/
  | counts
  | brief
  deriving DecidableEq, Inhabited

/-- What blanks count for. -/
inductive Blanks where
  | all
  /-- Any number of blanks counts like one, and none at the end of a line. -/
  | some
  | notLast
  | none
  deriving DecidableEq, Inhabited

/-- How files are compared. -/
structure Plan where
  manner : Manner
  blanks : Blanks
  ignoresCase : Bool
  ignoresEmpty : Bool
  isText : Bool
  tellsSame : Bool
  isDeep : Bool
  /-- Files that are not there count as empty. -/
  takesMissing : Bool
  /-- A carriage return at the end of a line counts for nothing. -/
  dropsReturns : Bool
  /-- Patterns of names that are left out in directories. -/
  excluded : List String
  labels : List String
  /-- The options as they have been given. -/
  options : List String
  deriving DecidableEq, Inhabited

/-! ### Lines -/

/-- A text with blanks made the same, as a line ends. -/
def squeeze : List Char → List Char
  | [] => []
  | c :: cs =>
    if Numbers.isSpace c then
      match squeeze cs with
      | ' ' :: rest => ' ' :: rest
      | [] => []
      | rest => ' ' :: rest
    else c :: squeeze cs

/-- What is compared of a line, which ends with a line feed if the line does. -/
def Plan.keyOf (p : Plan) (l : Line) : String :=
  let cs := l.text.toList
  let cs := match p.blanks with
    | .all => cs
    | .some => squeeze cs
    | .notLast => (cs.reverse.dropWhile Numbers.isSpace).reverse
    | .none => cs.filter fun c => !Numbers.isSpace c
  let cs := if p.ignoresCase then cs.map Char.toLower else cs
  String.ofList (if l.isWhole || p.blanks ≠ .all then cs ++ ['\n'] else cs)

/-- Numbers for lines that are the same for equal lines. -/
def numbered (keys : List String) (known : Std.HashMap String Nat) :
    List Nat × Std.HashMap String Nat :=
  let r := keys.foldl (fun (r : List Nat × Std.HashMap String Nat) k =>
    match r.2[k]? with
    | some n => (n :: r.1, r.2)
    | none => (r.2.size :: r.1, r.2.insert k r.2.size)) ([], known)
  (r.1.reverse, r.2)

/-- Two files whose lines are compared. -/
structure Sides where
  left : Array Line
  right : Array Line
  deriving Inhabited

/-- The number of lines that are shown around a change. -/
def Manner.context : Manner → Nat
  | unified n | copied n => n
  | _ => 0

/-- The changes between two files. -/
def Plan.changes (p : Plan) (s : Sides) : List Change :=
  let (a, known) := numbered (s.left.toList.map p.keyOf) ∅
  let (b, _) := numbered (s.right.toList.map p.keyOf) known
  Compare.changes p.manner.context a.toArray b.toArray

/-- The lines between two numbers. -/
def linesFrom (ls : Array Line) (first count : Nat) : List Line :=
  (ls.extract first (first + count)).toList

/-- Whether a change is only about empty lines. -/
def isEmptyChange (s : Sides) (c : Change) : Bool :=
  (linesFrom s.left c.left c.taken ++ linesFrom s.right c.right c.brought).all fun l => l.text = ""

/-! ### Showing changes -/

/-- A line behind a sign. -/
def shown (sign : String) (l : Line) : String :=
  sign ++ l.text ++ "\n" ++ (if l.isWhole then "" else "\\ No newline at end of file\n")

/-- Lines behind a sign. -/
def shownAll (sign : String) (ls : List Line) : String := String.join (ls.map (shown sign))

/-- The numbers of the first and the last line of a part. -/
def plainRange (first count : Nat) : String :=
  if 1 < count then toString (first + 1) ++ "," ++ toString (first + count)
  else toString (first + count)

/-- A change with the lines that it takes and brings. -/
def plainChange (s : Sides) (c : Change) : String :=
  let letter := if c.taken = 0 then "a" else if c.brought = 0 then "d" else "c"
  plainRange c.left c.taken ++ letter ++ plainRange c.right c.brought ++ "\n" ++
    shownAll "< " (linesFrom s.left c.left c.taken) ++
    (if c.taken ≠ 0 && c.brought ≠ 0 then "---\n" else "") ++
    shownAll "> " (linesFrom s.right c.right c.brought)

/-- The lines of a command that brings lines. A line with a point alone ends the command early. -/
def enteredLines : List Line → String
  | [] => ".\n"
  | [l] => if l.text = "." then "..\n.\ns/.//\n" else l.text ++ "\n.\n"
  | l :: ls =>
    (if l.text = "." then "..\n.\ns/.//\na\n" else l.text ++ "\n") ++ enteredLines ls

/-- A change as a command. -/
def commandChange (s : Sides) (c : Change) : String :=
  plainRange c.left c.taken ++
    (if c.brought = 0 then "d\n"
    else (if c.taken = 0 then "a\n" else "c\n") ++
      enteredLines (linesFrom s.right c.right c.brought))

/-- A change as commands with numbers of lines. -/
def countChange (s : Sides) (c : Change) : String :=
  (if c.taken = 0 then "" else "d" ++ toString (c.left + 1) ++ " " ++ toString c.taken ++ "\n") ++
    (if c.brought = 0 then ""
    else "a" ++ toString (c.left + c.taken) ++ " " ++ toString c.brought ++ "\n" ++
      String.join ((linesFrom s.right c.right c.brought).map fun l => Line.spell '\n' l))

/-- Changes in groups: those with few lines between them are together. -/
def groups (context : Nat) : List Change → List (List Change)
  | [] => []
  | c :: cs =>
    match groups context cs with
    | (d :: ds) :: rest =>
      if d.left - (c.left + c.taken) ≤ 2 * context then (c :: d :: ds) :: rest
      else [c] :: (d :: ds) :: rest
    | rest => [c] :: rest

/-- A part of both files. -/
structure Window where
  left : Nat
  leftCount : Nat
  right : Nat
  rightCount : Nat
  deriving DecidableEq, Inhabited

/-- The part of both files that is shown for a group. -/
def windowOf (context : Nat) (s : Sides) (first last : Change) : Window :=
  let before := min context first.left
  let behind := min context (s.left.size - (last.left + last.taken))
  let left := first.left - before
  let right := first.right - before
  ⟨left, last.left + last.taken + behind - left, right, last.right + last.brought + behind - right⟩

/-- The first line and the number of lines of a part. -/
def unifiedRange (first count : Nat) : String :=
  if count = 0 then toString first ++ ",0"
  else if count = 1 then toString (first + 1)
  else toString (first + 1) ++ "," ++ toString count

/-- The lines of a group from a line of the first file on. -/
def unifiedLines (s : Sides) (stop : Nat) : Nat → List Change → String
  | i, [] => shownAll " " (linesFrom s.left i (stop - i))
  | i, c :: cs =>
    shownAll " " (linesFrom s.left i (c.left - i)) ++
      shownAll "-" (linesFrom s.left c.left c.taken) ++
      shownAll "+" (linesFrom s.right c.right c.brought) ++
      unifiedLines s stop (c.left + c.taken) cs

/-- A group with both sides together. -/
def unifiedGroup (context : Nat) (s : Sides) (cs : List Change) : String :=
  let w := windowOf context s (cs.headD default) (cs.getLastD default)
  "@@ -" ++ unifiedRange w.left w.leftCount ++ " +" ++ unifiedRange w.right w.rightCount ++
    " @@\n" ++ unifiedLines s (w.left + w.leftCount) w.left cs

/-- The lines of one side of a group. `place` tells where a change is on this side and how many
lines it has there. -/
def copiedLines (ls : Array Line) (sign : String) (place : Change → Nat × Nat) (stop : Nat) :
    Nat → List Change → String
  | i, [] => shownAll "  " (linesFrom ls i (stop - i))
  | i, c :: cs =>
    let (first, count) := place c
    let mark := if c.taken ≠ 0 && c.brought ≠ 0 then "! " else sign
    shownAll "  " (linesFrom ls i (first - i)) ++ shownAll mark (linesFrom ls first count) ++
      copiedLines ls sign place stop (first + count) cs

/-- A group with both sides one behind the other. -/
def copiedGroup (context : Nat) (s : Sides) (cs : List Change) : String :=
  let w := windowOf context s (cs.headD default) (cs.getLastD default)
  let takes := cs.any fun c => c.taken ≠ 0
  let brings := cs.any fun c => c.brought ≠ 0
  let left := copiedLines s.left "- " (fun c => (c.left, c.taken)) (w.left + w.leftCount) w.left cs
  let right :=
    copiedLines s.right "+ " (fun c => (c.right, c.brought)) (w.right + w.rightCount) w.right cs
  "***************\n*** " ++ plainRange w.left w.leftCount ++ " ****\n" ++
    (if takes then left else "") ++
    "--- " ++ plainRange w.right w.rightCount ++ " ----\n" ++ (if brings then right else "")

/-- The changes as they are shown. `title` gives the line for a file behind a sign. -/
def Plan.present (p : Plan) (title : String → Bool → String) (s : Sides) (cs : List Change) :
    String :=
  let context := p.manner.context
  let isWanted (cs : List Change) : Bool := !(p.ignoresEmpty && cs.all (isEmptyChange s))
  let parts := (groups context cs).filter isWanted
  if parts = [] then ""
  else
    match p.manner with
    | .unified n =>
      title "---" true ++ title "+++" false ++ String.join (parts.map (unifiedGroup n s))
    | .copied n =>
      title "***" true ++ title "---" false ++ String.join (parts.map (copiedGroup n s))
    | .commands => String.join ((cs.filter fun c => isWanted [c]).reverse.map (commandChange s))
    | .counts => String.join ((cs.filter fun c => isWanted [c]).map (countChange s))
    | _ => String.join ((cs.filter fun c => isWanted [c]).map (plainChange s))

/-! ### Files -/

/-- A file that is compared. -/
structure Given where
  name : String
  /-- What is known of it, if it is there. -/
  facts : Option Facts
  deriving Inhabited

/-- What is known of a file. -/
def look (name : String) : Tool (Except Errno Facts) :=
  if name = "-" then call (.factsOf 0) else call (.facts name true)

/-- The line that names a file. -/
def titleOf (p : Plan) (g : Given) (place : Nat) (sign : String) : String :=
  match p.labels[place]? with
  | some label => sign ++ " " ++ label ++ "\n"
  | none =>
    let time : Int := (g.facts.map fun f => (f.modified : Int)).getD 0
    let format := match p.manner with
      | .copied _ => "%a %b %e %H:%M:%S %Y"
      | _ => "%Y-%m-%d %H:%M:%S.%N %z"
    sign ++ " " ++ g.name ++ "\t" ++
      String.ofList (Calendar.format (Calendar.momentOf time) format.toList) ++ "\n"

/-- The text of a file, which is empty if it is not there. -/
def textOf (g : Given) : Tool (Except Errno String) :=
  match g.facts with
  | none => pure (.ok "")
  | some _ => contents g.name

/-- The name of a file in a message about a difference. -/
def Plan.labelOf (p : Plan) (place : Nat) (g : Given) : String := (p.labels[place]?).getD g.name

/-- The lines of a text. -/
def Plan.linesOf (p : Plan) (text : String) : Array Line :=
  let ls := (Line.ofText '\n' text).toArray
  if p.dropsReturns then
    ls.map fun l =>
      if l.text.endsWith "\x0d" then { l with text := (l.text.take (l.text.length - 1)).toString }
      else l
  else ls

/-- Compares two files, and gives the status. -/
def compareFiles (p : Plan) (isBelow : Bool) (a b : Given) : Tool Nat := do
  let isSame := a.facts.isSome && a.facts.map (·.number) = b.facts.map (·.number)
  let x ← if isSame then pure (.ok "") else textOf a
  let y ← if isSame then pure (.ok "") else textOf b
  let tell (name : String) (r : Except Errno String) : Tool Unit := do
    match r with
    | .error e =>
      flush
      warn (name ++ ": " ++ e.words)
    | .ok _ => pure ()
  match x, y with
  | .ok x, .ok y =>
    let isBinary := !p.isText && (x.contains '\x00' || y.contains '\x00')
    let s : Sides := ⟨p.linesOf x, p.linesOf y⟩
    let both := p.labelOf 0 a ++ " and " ++ p.labelOf 1 b
    let text ← if x = y then pure ""
      else if isBinary then
        pure ((if p.manner = .brief then "Files " else "Binary files ") ++ both ++ " differ\n")
      else do
        let title (sign : String) (isLeft : Bool) : String :=
          if isLeft then titleOf p a 0 sign else titleOf p b 1 sign
        let shown := p.present title s (p.changes s)
        if shown = "" then pure ""
        else if p.manner = .brief then pure ("Files " ++ both ++ " differ\n")
        else if isBelow then do
          let words := (← console).name :: (p.options ++ [a.name, b.name]).map Quoting.name
          pure (" ".intercalate words ++ "\n" ++ shown)
        else pure shown
    put text
    if text = "" then
      if p.tellsSame then put ("Files " ++ a.name ++ " and " ++ b.name ++ " are identical\n")
      return 0
    else return 1
  | x, y => do
    tell a.name x
    tell b.name y
    return 2

/-- The names in a directory, or nothing if it is not there. -/
def namesIn (g : Given) : Tool (Except Errno (List String)) := do
  match g.facts with
  | none => return .ok []
  | some _ =>
    let r : Except Errno (List String) ← call (.list g.name)
    return r.map fun l => l.mergeSort fun a b => !(b < a)

/-- The greater of two statuses, for each element of a list. -/
def worst {α : Type} (f : α → Tool Nat) : List α → Nat → Tool Nat
  | [], status => pure status
  | a :: as, status => do
    let n ← f a
    worst f as (max status n)

/-- Whether a name in a directory is left out. -/
def Plan.isExcluded (p : Plan) (name : String) : Bool :=
  p.excluded.any fun pattern =>
    Shell.Pattern.accepts
      (Shell.Pattern.compile (pattern.toList.map fun c => ⟨c, false⟩)) name.toList

/-- Whether something is a directory. -/
def isDirectory (g : Given) : Bool := g.facts.any fun f => f.kind = .directory

/-- Compares two things, in directories that lie at most `n` deep in each other. -/
def compareBelow (p : Plan) : Nat → Bool → Given → Given → Tool Nat
  | 0, _, _, _ => pure 2
  | n + 1, isBelow, a, b => do
    let bothDirectories := (isDirectory a || a.facts.isNone) && (isDirectory b || b.facts.isNone)
    if bothDirectories then
      if isBelow && !p.isDeep then
        put ("Common subdirectories: " ++ a.name ++ " and " ++ b.name ++ "\n")
        return 0
      match ← namesIn a, ← namesIn b with
      | .ok xs, .ok ys =>
        let all := (xs ++ ys.filter fun y => !xs.contains y).filter fun name => !p.isExcluded name
        worst (fun name => do
          let pathA := inside a.name name
          let pathB := inside b.name name
          if !p.takesMissing && !xs.contains name then
            put ("Only in " ++ b.name ++ ": " ++ name ++ "\n")
            return 1
          if !p.takesMissing && !ys.contains name then
            put ("Only in " ++ a.name ++ ": " ++ name ++ "\n")
            return 1
          let factsA ← look pathA
          let factsB ← look pathB
          compareBelow p n true ⟨pathA, factsA.toOption⟩ ⟨pathB, factsB.toOption⟩)
          (all.mergeSort fun a b => !(b < a)) 0
      | .error e, _ => do
        warn (a.name ++ ": " ++ e.words)
        return 2
      | _, .error e => do
        warn (b.name ++ ": " ++ e.words)
        return 2
    else
      match isDirectory a || isDirectory b, a.facts, b.facts with
      | true, some f, some g =>
        put ("File " ++ a.name ++ " is a " ++ f.kindWords ++ " while file " ++ b.name ++ " is a " ++
          g.kindWords ++ "\n")
        return 1
      | _, _, _ => compareFiles p isBelow a b

/-! ### The tool -/

/-- The options. -/
def optionTable : OptionTable :=
  { OptionTable.ofLetters "0123456789abBcC:deHiL:nNpqrstuU:wx:ZE" with
    words := [("text", .nothing, "a"), ("ignore-space-change", .nothing, "b"),
      ("ignore-blank-lines", .nothing, "B"), ("context", .maybe, "C"), ("minimal", .nothing, "d"),
      ("ignore-case", .nothing, "i"), ("label", .argument, "L"), ("new-file", .nothing, "N"),
      ("brief", .nothing, "q"), ("recursive", .nothing, "r"),
      ("report-identical-files", .nothing, "s"), ("unified", .maybe, "U"),
      ("ignore-all-space", .nothing, "w"), ("ignore-trailing-space", .nothing, "Z"),
      ("ed", .nothing, "e"), ("rcs", .nothing, "n"), ("exclude", .argument, "x"),
      ("expand-tabs", .nothing, "t"), ("speed-large-files", .nothing, "H"),
      ("strip-trailing-cr", .nothing, "cr"), ("normal", .nothing, "normal"),
      ("color", .maybe, "color")]
    usage := fun name => name ++ ": Try '" ++ name ++ " --help' for more information.\n"
    status := 2 }

/-- The number of lines around a change that an option tells. -/
def contextOf (o : Opt) : Tool Nat := do
  match o.value with
  | none => return 3
  | some text =>
    match text.toNat? with
    | some n => return n
    | none => misuse optionTable ("invalid context length '" ++ text ++ "'")

/-- How differences are shown, as options tell. -/
def mannerOf : List Opt → Manner → Tool Manner
  | [], m => pure m
  | o :: os, m => do
    match o.key with
    | "u" => mannerOf os (.unified 3)
    | "c" => mannerOf os (.copied 3)
    | "U" => do mannerOf os (.unified (← contextOf o))
    | "C" => do mannerOf os (.copied (← contextOf o))
    | "e" => mannerOf os .commands
    | "n" => mannerOf os .counts
    | "q" => mannerOf os .brief
    | "normal" => mannerOf os .plain
    | _ => mannerOf os m

/-- The manner with a number of lines that is given as an option of digits alone. Another option
that tells the number counts for more, unless it tells fewer. -/
def mannerWith (os : List Opt) (m : Manner) : Manner :=
  let digits := (os.map (·.key)).filter fun k => k.toList.all Char.isDigit
  let n := Numbers.ofDigits 10 (String.join digits).toList
  let isTold := os.any fun o => o.key = "U" || o.key = "C"
  let choose (k : Nat) : Nat := if digits = [] then k else if isTold then max k n else n
  match m with
  | .unified k => .unified (choose k)
  | .copied k => .copied (choose k)
  | m => m

/-- The arguments that are options, as far as they stand in front of `--`. -/
def givenOptions (names : List String) (args : List String) : List String :=
  (args.takeWhile (· ≠ "--")).filter fun a => !names.contains a

/-- The last name of a path. -/
def lastName (path : String) : String := ((path.splitOn "/").getLast?).getD path

/-- Tells the differences of two files or directories. -/
def program : Program := programWith (fun e => ("standard output: " ++ e.words, 2)) fun args => do
  let (os, names) ← options optionTable args
  let manner := mannerWith os (← mannerOf os .plain)
  let (a, b) ← match names with
    | [] => misuse optionTable ("missing operand after '" ++ (← console).name ++ "'")
    | [a] => misuse optionTable ("missing operand after '" ++ a ++ "'")
    | [a, b] => pure (a, b)
    | _ :: _ :: c :: _ => misuse optionTable ("extra operand '" ++ c ++ "'")
  let blanks : Blanks := if isGiven os "w" then .none
    else if isGiven os "b" then .some
    else if isGiven os "Z" then .notLast else .all
  let p : Plan :=
    { manner, blanks, ignoresCase := isGiven os "i", ignoresEmpty := isGiven os "B"
      isText := isGiven os "a", tellsSame := isGiven os "s", isDeep := isGiven os "r"
      takesMissing := isGiven os "N", dropsReturns := isGiven os "cr", excluded := valuesOf os "x"
      labels := valuesOf os "L"
      options := givenOptions names args }
  let factsA ← look a
  let factsB ← look b
  let isFolder (r : Except Errno Facts) : Bool :=
    r.toOption.any fun f => f.kind = .directory
  let given (name other : String) (own others : Except Errno Facts) :
      Tool (String × Except Errno Facts) := do
    if isFolder own && !isFolder others && others.isOk && other ≠ "-" then
      let path := inside name (lastName other)
      return (path, ← look path)
    else return (name, own)
  let (a, leftFacts) ← given a b factsA factsB
  let (b, rightFacts) ← given b a factsB factsA
  let isMissing (r : Except Errno Facts) : Bool := match r with
    | .error .noEntry => true
    | _ => false
  let isTaken := p.takesMissing && !(isMissing leftFacts && isMissing rightFacts)
  let check (name : String) (r : Except Errno Facts) : Tool Bool := do
    match r with
    | .ok _ => return true
    | .error e =>
      if isTaken && isMissing r then return true
      warn (name ++ ": " ++ e.words)
      return false
  let okA ← check a leftFacts
  let okB ← check b rightFacts
  if !(okA && okB) then exit 2
  let status ← compareBelow p 1000 false ⟨a, leftFacts.toOption⟩ ⟨b, rightFacts.toOption⟩
  exit status

end Golden.Host.Compare
