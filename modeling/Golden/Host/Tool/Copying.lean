import Golden.Host.Tool.Input
import Golden.Host.Tool.Options

/-! # Tools that copy

Tools that write what they read: as it is (`cat`, `tee`), numbered, or backwards. -/

namespace Golden.Host.Tool

/-! ### One behind the other -/

/-- Writes octets at once. -/
def putAtOnce (text : String) : Tool Unit := do
  put text
  flush

/-- How lines are shown. -/
structure Showing where
  numbers : Bool
  /-- Lines with nothing in them have no numbers. -/
  numbersSome : Bool
  squeezes : Bool
  ends : Bool
  tabs : Bool
  others : Bool
  deriving DecidableEq, Inhabited

/-- What a character that cannot be shown is shown as. -/
def shown (s : Showing) (c : Char) : List Char :=
  if c = '\t' then if s.tabs then ['^', 'I'] else [c]
  else if !s.others then [c]
  else
    let n := c.toNat
    let (front, m) : List Char × Nat := if 128 ≤ n then (['M', '-'], n - 128) else ([], n)
    front ++
      (if m < 32 then ['^', Char.ofNat (m + 64)]
      else if m = 127 then ['^', '?']
      else [Char.ofNat m])

/-- Where showing lines has come to: the number of the last line, the number of lines with nothing
in them just before, and whether a line begins. -/
structure ShownSoFar where
  number : Nat
  blanks : Nat
  isStart : Bool
  deriving DecidableEq, Inhabited

/-- A text at the right of a column. -/
def padLeft (width : Nat) (s : String) : String :=
  String.ofList (List.replicate (width - s.length) ' ') ++ s

/-- A text at the left of a column. -/
def padRight (width : Nat) (s : String) : String :=
  s ++ String.ofList (List.replicate (width - s.length) ' ')

/-- Shows a line. -/
def showLine (s : Showing) (p : ShownSoFar) (l : Line) : Tool ShownSoFar := do
  let isBlank := p.isStart && l.text = "" && l.isWhole
  let blanks := if isBlank then p.blanks + 1 else 0
  if s.squeezes && 1 < blanks then return { p with blanks }
  let isNumbered := p.isStart && s.numbers && !(s.numbersSome && isBlank)
  let number := if isNumbered then p.number + 1 else p.number
  let front := if isNumbered then padLeft 6 (toString number) ++ "\t" else ""
  let cs := l.text.toList
  let cutsReturn := s.ends && !s.others && l.isWhole && cs.getLast? = some '\x0d'
  let body := (if cutsReturn then cs.dropLast else cs).flatMap (shown s)
  let ending := if l.isWhole then
      (if cutsReturn then "^M" else "") ++ (if s.ends then "$\n" else "\n")
    else ""
  put (front ++ String.ofList body ++ ending)
  return ⟨number, blanks, l.isWhole⟩

/-- Whether standard output goes to the file that is read, behind what is read. -/
def goesToItself (d : Nat) : Tool Bool := do
  match ← call (.factsOf d), ← call (.factsOf 1) with
  | .ok (a : Facts), .ok (b : Facts) =>
    if a.kind = .regular && a.number = b.number then
      match ← call (.seek d 0 .current) with
      | .ok (offset : Nat) => return offset < b.size
      | .error _ => return false
    else return false
  | _, _ => return false

/-- Shows a file. -/
def showFile (s : Showing) (p : ShownSoFar) (name : String) : Tool ShownSoFar := do
  match ← openInput name with
  | .error e =>
    flush
    note (Quoting.name name ++ ": " ++ e.words)
    return p
  | .ok d =>
    if ← goesToItself d then
      note (Quoting.name name ++ ": input file is output file")
      return p
    let isPlain := s = ⟨false, false, false, false, false, false⟩
    let (p, wrong) ← if isPlain then do
        let wrong ← eachPiece d putAtOnce Act.manySteps
        pure (p, wrong)
      else
        (Lines.ofDescriptor d '\n').fold (fun p l => do return (← showLine s p l, true))
          Act.manySteps p
    closeInput d
    match wrong with
    | some e =>
      flush
      note (Quoting.name name ++ ": " ++ e.words)
    | none => pure ()
    return p

/-- Shows files one behind the other. -/
def showFiles (s : Showing) : List String → ShownSoFar → Tool Unit
  | [], _ => pure ()
  | name :: rest, p => do
    let p ← showFile s p name
    showFiles s rest p

/-- The options of `cat`. -/
def catOptions : OptionTable :=
  { OptionTable.ofLetters "benstuvAET" with
    words := [("number-nonblank", .nothing, "b"), ("number", .nothing, "n"),
      ("squeeze-blank", .nothing, "s"), ("show-nonprinting", .nothing, "v"),
      ("show-ends", .nothing, "E"), ("show-tabs", .nothing, "T"), ("show-all", .nothing, "A")] }

/-- Writes files one behind the other. -/
def cat : Program := program fun args => do
  let (os, names) ← options catOptions args
  let has (letters : List String) : Bool := letters.any (isGiven os)
  let s : Showing :=
    ⟨has ["n", "b"], has ["b"], has ["s"], has ["E", "e", "A"], has ["T", "t", "A"],
      has ["v", "e", "t", "A"]⟩
  showFiles s (inputs names) ⟨0, 0, true⟩

/-! ### To several places -/

/-- Writes a piece to open files. A file that refuses it is not written to any more. -/
def putToAll (piece : String) : List (String × Nat) → Tool (List (String × Nat))
  | [] => pure []
  | (name, d) :: rest => do
    match ← act (Act.write d piece) with
    | .ok () => return (name, d) :: (← putToAll piece rest)
    | .error e =>
      note (Quoting.name name ++ ": " ++ e.words)
      putToAll piece rest

/-- Writes what is read to open files. -/
def spread : Nat → List (String × Nat) → Tool Unit
  | 0, _ => pure ()
  | _, [] => pure ()
  | n + 1, files => do
    match ← readPiece 0 with
    | .error e => note ("read error: " ++ e.words)
    | .ok "" => pure ()
    | .ok piece => spread n (← putToAll piece files)

/-- Opens files for writing. -/
def openOutputs (how : Opening) : List String → Tool (List (String × Nat))
  | [] => pure []
  | name :: rest => do
    match ← act (Act.openFile name how) with
    | .ok d => return (name, d) :: (← openOutputs how rest)
    | .error e =>
      note (Quoting.name name ++ ": " ++ e.words)
      openOutputs how rest

/-- Writes standard input to standard output and to files. -/
def tee : Program := program fun args => do
  let t := { OptionTable.ofLetters "aip" with
    words := [("append", .nothing, "a"), ("ignore-interrupts", .nothing, "i")] }
  let (os, names) ← options t args
  let files ← openOutputs (if isGiven os "a" then .toAppend else .toWrite) names
  spread Act.manySteps (("standard output", 1) :: files)

/-! ### Backwards -/

/-- The pieces of a text that end with a separator, or begin with one if `before`. -/
def recordsOf (separator : String) (before : Bool) (text : String) : List String :=
  match text.splitOn separator with
  | [] => []
  | first :: rest =>
    if before then first :: rest.map (separator ++ ·)
    else
      let all := first :: rest
      (all.dropLast.map (· ++ separator)) ++
        (if all.getLast? = some "" then [] else all.getLast?.toList)

/-- Writes the lines of files from the last to the first. -/
def tac : Program := program fun args => do
  let t := { OptionTable.ofLetters "brs:" with
    words := [("before", .nothing, "b"), ("regex", .nothing, "r"), ("separator", .argument, "s")] }
  let (os, names) ← options t args
  let separator := (valueOf? os "s").getD "\n"
  (inputs names).forM fun name => do
    match ← openInput name with
    | .error e =>
      note ("failed to open " ++ Quoting.always name ++ " for reading: " ++ e.words)
    | .ok d =>
      match ← act (Act.readAll d) with
      | .error e => note (Quoting.name name ++ ": read error: " ++ e.words)
      | .ok text =>
        put (String.join (recordsOf separator (isGiven os "b") text).reverse)
        closeInput d

/-- Writes the lines of files with their characters backwards. -/
def rev : Program := program fun args => do
  let (_, names) ← options (.ofLetters "") args
  (inputs names).forM fun name => do
    match ← openInput name with
    | .error e => note ("cannot open " ++ name ++ ": " ++ e.words)
    | .ok d =>
      let backwards (l : Line) : Line := { l with text := String.ofList l.text.toList.reverse }
      let (_, wrong) ← (Lines.ofDescriptor d '\n').fold (fun _ l => do
        put ((backwards l).spell '\n')
        return ((), true)) Act.manySteps ()
      closeInput d
      match wrong with
      | some e => note (name ++ ": " ++ e.words)
      | none => pure ()

/-! ### Numbered -/

/-- Which lines are numbered. -/
inductive Numbered where
  | all
  | filled
  | none
  deriving DecidableEq, Inhabited

/-- How lines are numbered. -/
structure Numbering where
  header : Numbered
  body : Numbered
  footer : Numbered
  width : Nat
  separator : String
  first : Int
  step : Int
  /-- Numbers stand at the left, or have zeros in front. -/
  format : String
  /-- The signs between the parts of a page. -/
  delimiter : String
  /-- Numbers do not begin anew in every part of a page. -/
  goesOn : Bool
  /-- So many lines with nothing in them count as one. -/
  join : Nat
  deriving DecidableEq, Inhabited

/-- Where numbering has come to. -/
structure NumberedSoFar where
  number : Int
  style : Numbered
  blanks : Nat
  deriving DecidableEq, Inhabited

/-- A number in its column. -/
def Numbering.spell (n : Numbering) (k : Int) : String :=
  let text := toString k
  match n.format with
  | "ln" => padRight n.width text
  | "rz" =>
    let digits := toString k.natAbs
    let sign := if k < 0 then "-" else ""
    sign ++ String.ofList (List.replicate (n.width - sign.length - digits.length) '0') ++ digits
  | _ => padLeft n.width text

/-- Numbers a line. -/
def Numbering.number (n : Numbering) (p : NumberedSoFar) (l : Line) : Tool NumberedSoFar := do
  let section? : Option Numbered :=
    if n.delimiter = "" then none
    else if l.text = n.delimiter ++ n.delimiter ++ n.delimiter then some n.header
    else if l.text = n.delimiter ++ n.delimiter then some n.body
    else if l.text = n.delimiter then some n.footer
    else none
  match section? with
  | some style =>
    put "\n"
    return { p with style, number := if n.goesOn then p.number else n.first }
  | none =>
    let blanks := if l.text = "" then p.blanks + 1 else 0
    let isNumbered : Bool := match p.style with
      | .all => n.join ≤ 1 || l.text ≠ "" || blanks = n.join
      | .filled => l.text ≠ ""
      | .none => false
    if isNumbered then
      put (n.spell p.number ++ n.separator ++ l.text ++ "\n")
      return { p with number := p.number + n.step, blanks := 0 }
    else
      let blank := String.ofList (List.replicate (n.width + n.separator.length) ' ')
      put (blank ++ l.text ++ "\n")
      return { p with blanks := if blanks = n.join then 0 else blanks }

/-- Numbers the lines of files one behind the other. -/
def Numbering.files (n : Numbering) : List String → NumberedSoFar → Tool Unit
  | [], _ => pure ()
  | name :: rest, p => do
    match ← openInput name with
    | .error e =>
      note (Quoting.name name ++ ": " ++ e.words)
      n.files rest p
    | .ok d =>
      let (p, wrong) ← (Lines.ofDescriptor d '\n').fold
        (fun p l => do return (← n.number p l, true)) Act.manySteps p
      closeInput d
      match wrong with
      | some e => note (Quoting.name name ++ ": " ++ e.words)
      | none => pure ()
      n.files rest p

/-- Writes files with numbers in front of their lines. -/
def nl : Program := program fun args => do
  let t := { OptionTable.ofLetters "b:d:f:h:i:l:n:ps:v:w:" with
    words := [("body-numbering", .argument, "b"), ("section-delimiter", .argument, "d"),
      ("footer-numbering", .argument, "f"), ("header-numbering", .argument, "h"),
      ("line-increment", .argument, "i"), ("join-blank-lines", .argument, "l"),
      ("number-format", .argument, "n"), ("no-renumber", .nothing, "p"),
      ("number-separator", .argument, "s"), ("starting-line-number", .argument, "v"),
      ("number-width", .argument, "w")] }
  let (os, names) ← options t args
  let style (key what : String) (usual : Numbered) : Tool Numbered := do
    match valueOf? os key with
    | none => return usual
    | some "a" => return .all
    | some "t" => return .filled
    | some "n" => return .none
    | some v => misuse t ("invalid " ++ what ++ " numbering style: " ++ Quoting.escaped v)
  let number (key what : String) (usual : Int) (least : Int) : Tool Int := do
    match valueOf? os key with
    | none => return usual
    | some v =>
      match Numbers.whole? (some 10) v with
      | some n =>
        if least ≤ n then return n else fail 1 ("invalid " ++ what ++ ": " ++ Quoting.escaped v)
      | none => fail 1 ("invalid " ++ what ++ ": " ++ Quoting.escaped v)
  let header ← style "h" "header" .none
  let body ← style "b" "body" .filled
  let footer ← style "f" "footer" .none
  let first ← number "v" "starting line number" 1 Numbers.least
  let step ← number "i" "line number increment" 1 Numbers.least
  let join ← number "l" "line number of blank lines" 1 1
  let width ← number "w" "line number field width" 6 1
  let format := (valueOf? os "n").getD "rn"
  if !(["ln", "rn", "rz"].contains format) then
    misuse t ("invalid line numbering format: " ++ Quoting.escaped format)
  let delimiter := match valueOf? os "d" with
    | none => "\\:"
    | some d => if d.length = 1 then d ++ ":" else d
  let n : Numbering :=
    ⟨header, body, footer, width.toNat, (valueOf? os "s").getD "\t", first, step, format, delimiter,
      isGiven os "p", join.toNat⟩
  n.files (inputs names) ⟨first, body, 0⟩

end Golden.Host.Tool
