import Golden.Host.Numbers
import Golden.Host.Regex.Parse
import Golden.Host.Shell.Pattern
import Golden.Host.Tool.Input
import Golden.Host.Tool.Options

/-! # Looking for lines

Lines are selected in which one of several expressions matches (`grep`). They are written, or their
number, the names of their files, or the parts that match. -/

namespace Golden.Host.Tool

/-- How lines are looked for and what is written. -/
structure Grep where
  matchers : List Matcher
  inverted : Bool
  counts : Bool
  /-- Names of files are written that have selected lines, or that have none. -/
  names : Option Bool
  isQuiet : Bool
  onlyParts : Bool
  isSilent : Bool
  /-- Nobody sees what is written. -/
  isUnseen : Bool
  numbers : Bool
  offsets : Bool
  titles : Bool
  /-- Files that are found in directories have titles in any case. -/
  titlesInside : Bool
  most : Option Nat
  before : Nat
  behind : Nat
  hasContext : Bool
  ending : Char
  nul : Bool
  asText : Bool
  skipsBinary : Bool
  label : String
  skipsDirectories : Bool
  recursive : Bool
  includes : List String
  excludes : List String
  excludedDirectories : List String

namespace Grep

/-- Whether a line is selected. -/
def selects (g : Grep) (line : Array Char) : Bool :=
  (g.matchers.any fun m => m.accepts line) != g.inverted

/-- The leftmost and longest match of several expressions. -/
def firstOf (ms : List Matcher) (line : Array Char) (i : Nat) : Option (Nat × Nat) :=
  ms.foldl (fun best m =>
    let own := (m.find? line i).bind fun c => c.getD 0 none
    match best, own with
    | none, o => o
    | b, none => b
    | some (a, b), some (x, y) =>
      if x < a || (x = a && b < y) then some (x, y) else some (a, b)) none

/-- The parts of a line that match, from a place on. -/
def parts (ms : List Matcher) (line : Array Char) : Nat → Nat → List (Nat × Nat)
  | 0, _ => []
  | n + 1, i =>
    match firstOf ms line i with
    | none => []
    | some (a, b) =>
      if a = b then if a < line.size then parts ms line n (a + 1) else []
      else (a, b) :: parts ms line n b

/-- Looking through a file: the number of the line, its offset, the number of selected lines, the
lines just before that are not written, the number of lines that are still written behind a selected
one, the number of the last line that was written, and whether the file holds more than text. -/
structure Progress where
  number : Nat
  offset : Nat
  selected : Nat
  held : List (Nat × Nat × String)
  due : Nat
  last : Nat
  isBinary : Bool
  /-- Something has been written of any file. -/
  hasWritten : Bool
  deriving Inhabited

/-- What stands in front of a line. -/
def front (g : Grep) (name : String) (sign : Char) (number offset : Nat) : String :=
  let s := String.singleton sign
  (if g.titles then name ++ (if g.nul then "\x00" else s) else "") ++
    (if g.numbers then toString number ++ s else "") ++
    (if g.offsets then toString offset ++ s else "")

/-- Writes a line, and what separates it from the one before. -/
def putLine (g : Grep) (name : String) (sign : Char) (number offset : Nat) (text : String)
    (p : Progress) : Tool Progress := do
  let isApart := p.last + 1 < number || p.last = 0
  if g.hasContext && p.hasWritten && isApart then put "--\n"
  put ((g.front name sign number offset ++ text).push g.ending)
  return { p with last := number, hasWritten := true }

/-- Writes the lines that are held. -/
def putHeld (g : Grep) (name : String) : List (Nat × Nat × String) → Progress → Tool Progress
  | [], p => pure p
  | (number, offset, text) :: rest, p => do
    let p ← g.putLine name '-' number offset text p
    putHeld g name rest p

/-- Whether lines are written. -/
def writes (g : Grep) : Bool := !(g.counts || g.names.isSome || g.isQuiet)

/-- Looks at a line. Tells whether to go on. -/
def look (g : Grep) (name : String) (p : Progress) (l : Line) : Tool (Progress × Bool) := do
  let line := l.text.toList.toArray
  let number := p.number + 1
  let offset := p.offset
  let p := { p with number, offset := p.offset + l.text.length + 1 }
  if g.most.any (· ≤ p.selected) then
    if p.due = 0 || !g.writes then return (p, false)
    let p ← g.putLine name '-' number offset l.text p
    return ({ p with due := p.due - 1 }, true)
  if g.selects line then
    let p := { p with selected := p.selected + 1 }
    if g.isQuiet then exit 0
    if g.names.isSome then return (p, false)
    if g.counts then return (p, true)
    if p.isBinary then return (p, false)
    if g.onlyParts then
      if !g.inverted then
        (parts g.matchers line (line.size + 1) 0).forM fun (a, b) =>
          put ((g.front name ':' number (offset + a) ++ Matcher.part line a b).push g.ending)
      return (p, true)
    let p ← g.putHeld name p.held.reverse { p with held := [] }
    let p ← g.putLine name ':' number offset l.text p
    return ({ p with due := g.behind }, true)
  else if !g.writes || g.onlyParts then return (p, true)
  else if 0 < p.due then
    let p ← g.putLine name '-' number offset l.text p
    return ({ p with due := p.due - 1 }, true)
  else return ({ p with held := ((number, offset, l.text) :: p.held).take g.before }, true)

/-- Looks at lines, one behind the other. Tells whether to go on. -/
def lookEach (g : Grep) (name : String) : List Line → Progress → Tool (Progress × Bool)
  | [], p => pure (p, true)
  | l :: rest, p => do
    let (p, goesOn) ← g.look name p l
    if goesOn then lookEach g name rest p else return (p, false)

/-- Whether a text makes a file one that holds more than text. -/
def isStrange (g : Grep) (text : String) : Bool :=
  !g.asText && g.ending ≠ '\x00' && text.contains '\x00'

/-- Looks at a line. Octets that are zero end lines in a file that holds more than text. -/
def lookWithin (g : Grep) (name : String) (p : Progress) (l : Line) : Tool (Progress × Bool) := do
  if g.isStrange l.text then
    let parts := Line.ofText '\x00' (if l.isWhole then l.text.push '\x00' else l.text)
    g.lookEach name parts { p with isBinary := true }
  else g.look name p l

/-- What is noted about all files: whether any line was selected, whether anything went wrong, and
whether anything has been written. -/
structure Found where
  any : Bool
  wrong : Bool
  hasWritten : Bool
  deriving DecidableEq, Inhabited

/-- Tells what is wrong with a file. -/
def complainOf (g : Grep) (name : String) (e : Errno) (f : Found) : Tool Found := do
  if !g.isSilent then
    flush
    warn (name ++ ": " ++ e.words)
  return { f with wrong := true }

/-- Looks through an open file. -/
def lookThrough (g : Grep) (name : String) (d : Nat) (f : Found) : Tool Found := do
  let first ← readPiece d
  let text := first.toOption.getD ""
  let isBinary := g.isStrange text
  let start : Progress := ⟨0, 0, 0, [], 0, 0, isBinary, f.hasWritten⟩
  let (p, wrong) ← match first with
    | .error e => pure (start, some e)
    | .ok _ =>
      if isBinary && g.skipsBinary then pure (start, none)
      else
        ((Lines.ofDescriptor d g.ending).take text).fold (g.lookWithin name) Act.manySteps start
  let f ← match wrong with
    | some e => g.complainOf name e f
    | none => pure f
  if g.counts && g.names.isNone && !g.isQuiet then
    put ((if g.titles then name ++ (if g.nul then "\x00" else ":") else "") ++
      toString p.selected ++ "\n")
  if g.names.any fun any => any = decide (0 < p.selected) then
    put (name ++ (if g.nul then "\x00" else "\n"))
  if g.writes && !g.isUnseen && p.isBinary && 0 < p.selected then
    flush
    warn (name ++ ": binary file matches")
  return { f with any := f.any || 0 < p.selected, hasWritten := p.hasWritten }

/-- Whether a name is accepted by one of several patterns. -/
def isNamed (patterns : List String) (name : String) : Bool :=
  patterns.any fun p => Shell.Pattern.accepts
    (Shell.Pattern.compile (p.toList.map fun c => ⟨c, false⟩)) name.toList

/-- The last name of a path. -/
def lastName (path : String) : String := ((path.splitOn "/").filter (· ≠ "")).getLastD path

/-- Looks through a file. -/
def lookFile (g : Grep) (name : String) (f : Found) : Tool Found := do
  match ← openInput name with
  | .error e => g.complainOf name e f
  | .ok d =>
    let f ← g.lookThrough (if name = "-" then g.label else name) d f
    closeInput d
    return f

/-- Looks through a file or through all files of a directory, in which directories lie at most `n`
deep in each other. -/
def lookAll (g : Grep) : Nat → Bool → String → Found → Tool Found
  | 0, _, _, f => pure f
  | n + 1, isGiven, name, f => do
    let isDirectory ← if name = "-" then pure false else act (Act.isDirectory name)
    if !isDirectory then
      let base := lastName name
      let isLeftOut := isNamed g.excludes base || (g.includes ≠ [] && !isNamed g.includes base)
      let isChoosing := g.recursive || g.excludes ≠ [] || g.includes ≠ []
      if isLeftOut && isChoosing && name ≠ "-" then return f
      let facts ← act (Act.facts? name false)
      if !isGiven && facts.any fun x => x.kind = .link || x.kind = .device || x.kind = .fifo then
        return f
      let g := if !isGiven && g.titlesInside then { g with titles := true } else g
      g.lookFile name f
    else if g.recursive then
      if !isGiven && isNamed g.excludedDirectories (lastName name) then return f
      match ← call (.list name) with
      | .error e => g.complainOf name e f
      | .ok (names : List String) =>
        let pathOf (m : String) : String := if name = "." && !isGiven then m else inside name m
        names.foldlM (fun f m => g.lookAll n false (pathOf m) f) f
    else if g.skipsDirectories then return f
    else g.lookFile name f

end Grep

/-- What is said of options that make no sense. -/
def grepUsage (name : String) : String :=
  "Usage: " ++ name ++ " [OPTION]... PATTERNS [FILE]...\nTry '" ++ name ++
    " --help' for more information.\n"

/-- The options of `grep`. -/
def grepOptions : OptionTable :=
  { letters := "EFGPe:f:iyvwxclLqsnHhom:A:B:C:rRzZabTUuD:d:I0::1::2::3::4::5::6::7::8::9::"
    words := [("extended-regexp", .nothing, "E"), ("fixed-strings", .nothing, "F"),
      ("basic-regexp", .nothing, "G"), ("perl-regexp", .nothing, "P"), ("regexp", .argument, "e"),
      ("file", .argument, "f"), ("ignore-case", .nothing, "i"), ("no-ignore-case", .nothing, "noi"),
      ("invert-match", .nothing, "v"), ("word-regexp", .nothing, "w"),
      ("line-regexp", .nothing, "x"), ("count", .nothing, "c"),
      ("files-with-matches", .nothing, "l"), ("files-without-match", .nothing, "L"),
      ("quiet", .nothing, "q"), ("silent", .nothing, "q"), ("no-messages", .nothing, "s"),
      ("line-number", .nothing, "n"), ("with-filename", .nothing, "H"),
      ("no-filename", .nothing, "h"), ("only-matching", .nothing, "o"),
      ("max-count", .argument, "m"), ("after-context", .argument, "A"),
      ("before-context", .argument, "B"), ("context", .argument, "C"),
      ("recursive", .nothing, "r"), ("dereference-recursive", .nothing, "R"),
      ("null-data", .nothing, "z"), ("null", .nothing, "Z"), ("text", .nothing, "a"),
      ("byte-offset", .nothing, "b"), ("include", .argument, "include"),
      ("exclude", .argument, "exclude"), ("exclude-dir", .argument, "exclude-dir"),
      ("color", .maybe, "color"), ("colour", .maybe, "color"), ("label", .argument, "label"),
      ("line-buffered", .nothing, "line-buffered"), ("initial-tab", .nothing, "T"),
      ("binary", .nothing, "U"), ("binary-files", .argument, "binary-files"),
      ("directories", .argument, "d"), ("devices", .argument, "D"),
      ("group-separator", .argument, "group-separator"),
      ("no-group-separator", .nothing, "no-group-separator")]
    inOrder := false
    usage := grepUsage
    status := 2 }

/-- What is said when standard output refuses what is written. -/
def grepRefusal (e : Errno) : String × Nat := ("write error: " ++ e.words, 2)

/-- The number of lines around a selected one that an option tells. -/
def contextOf (os : List Opt) (key : String) : Tool (Option Nat) := do
  match valueOf? os key with
  | none => return none
  | some v =>
    match Sizes.read [] v with
    | some n => return some n
    | none => fail 2 (v ++ ": invalid context length argument")

/-- The lines of a text that are patterns. -/
def patternsIn (text : String) : List String := (Line.ofText '\n' text).map (·.text)

/-- Selects lines. -/
def grepWith (args : List String) : Tool Unit := do
  let (os, names) ← options grepOptions args
  let kinds := (os.filter fun o => ["E", "F", "G", "P"].contains o.key).map (·.key)
  let kind := kinds.getLastD "G"
  if (kinds.any fun k => k ≠ kind) && (kinds.contains "P" || kinds.contains "F") then
    fail 2 "conflicting matchers specified"
  let given ← os.mapM fun o => do
    if o.key = "e" then return some ((o.value.getD "").splitOn "\n")
    else if o.key = "f" then
      match ← contents (o.value.getD "") with
      | .ok text => return some (patternsIn text)
      | .error e => fail 2 (o.value.getD "" ++ ": " ++ e.words)
    else return none
  let given := given.filterMap id
  let (patterns, names) ← match given, names with
    | [], [] => misuseQuietly
    | [], p :: names => pure (p.splitOn "\n", names)
    | ps, names => pure (ps.flatten, names)
  let ignoresCase := match lastOf? os ["i", "y", "noi"] with
    | some "noi" | none => false
    | some _ => true
  let dialect : Dialect := ⟨kind = "E" || kind = "P", true, ignoresCase, false, false⟩
  let matchers ← patterns.mapM fun p => do
    if kind = "F" then return Matcher.literal ignoresCase p
    match Matcher.ofText dialect p with
    | .ok m =>
      let isOperator := kind = "E" && (p.toList.head?.any fun c => c = '*' || c = '+' || c = '?')
      if isOperator then
        warn ("warning: " ++ (p.take 1).toString ++ " at start of expression")
      return m
    | .error e => fail 2 e.message
  let matchers := if isGiven os "x" then matchers.map Matcher.wholeText
    else if isGiven os "w" then matchers.map Matcher.wholeWord else matchers
  let most ← match valueOf? os "m" with
    | none => pure none
    | some v =>
      match Numbers.whole? (some 10) v with
      | some n => pure (if n < 0 then none else some n.toNat)
      | none => fail 2 "invalid max count"
  let isNumber (o : Opt) : Bool := o.key.toList.all Char.isDigit
  let short := (os.filter isNumber).map fun o => o.key ++ o.value.getD ""
  let around ← contextOf os "C"
  let around := around.or ((String.join short).toNat?)
  let before ← contextOf os "B"
  let behind ← contextOf os "A"
  let recursive := isGiven os "r" || isGiven os "R" || valueOf? os "d" = some "recurse"
  let places := if names = [] then (if recursive then ["."] else ["-"]) else names
  let (titles, titlesInside) := match lastOf? os ["H", "h"] with
    | some "H" => (true, true)
    | some _ => (false, false)
    | none => (decide (1 < places.length), recursive)
  let output : Except Errno Facts ← call (.factsOf 1)
  let nothing ← act (Act.facts? "/dev/null" true)
  let isUnseen := nothing.isSome && output.toOption.map Facts.number = nothing.map Facts.number
  let g : Grep :=
    { matchers, isUnseen, inverted := isGiven os "v", counts := isGiven os "c"
      names := match lastOf? os ["l", "L"] with
        | some "l" => some true
        | some _ => some false
        | none => none
      isQuiet := isGiven os "q", onlyParts := isGiven os "o", isSilent := isGiven os "s"
      numbers := isGiven os "n", offsets := isGiven os "b", titles, titlesInside, most
      before := (before.or around).getD 0, behind := (behind.or around).getD 0
      hasContext := (before.or (behind.or around)).isSome
      ending := if isGiven os "z" then '\x00' else '\n'
      nul := isGiven os "Z"
      asText := isGiven os "a" || valueOf? os "binary-files" = some "text"
      skipsBinary := isGiven os "I" || valueOf? os "binary-files" = some "without-match"
      label := (valueOf? os "label").getD "(standard input)"
      skipsDirectories := valueOf? os "d" = some "skip", recursive
      includes := valuesOf os "include", excludes := valuesOf os "exclude"
      excludedDirectories := valuesOf os "exclude-dir" }
  let isBare := !isGiven os "x" && !isGiven os "w"
  let isHopeless := if g.inverted then isBare && patterns ≠ [] && patterns.all (· = "")
    else patterns = []
  if (most = some 0 || isHopeless) && g.names ≠ some false then exit 1
  let f ← if names = [] && recursive then
      match ← call (.list ".") with
      | .error e => g.complainOf "." e ⟨false, false, false⟩
      | .ok (inside : List String) =>
        inside.foldlM (fun f name => g.lookAll Act.manySteps false name f) ⟨false, false, false⟩
    else places.foldlM (fun f name => g.lookAll Act.manySteps true name f) ⟨false, false, false⟩
  exit (if f.wrong && !(g.isQuiet && f.any) then 2 else if f.any then 0 else 1)
where
  /-- Tells how the tool is used, and ends. -/
  misuseQuietly {α : Type} : Tool α := do
    complain (grepUsage (← console).name)
    quit 2

/-- Selects lines. -/
def grep : Program := programWith grepRefusal grepWith

/-- Selects lines with an option in front of the arguments, under the usual name. -/
def grepAs (option : String) : Program := fun args env =>
  grep ("grep" :: option :: args.tail) env

end Golden.Host.Tool
