import Golden.Host.Numbers
import Golden.Host.Tool.Copying

/-! # Tools that write parts

The beginning or the end of files (`head`, `tail`), and the numbers of their parts (`wc`). -/

namespace Golden.Host.Tool

/-- How much is written of a file. -/
structure Amount where
  octets : Bool
  number : Nat
  /-- Counted from the other end. -/
  fromOther : Bool
  deriving DecidableEq, Inhabited

/-- When names are written above files. -/
inductive Titles where
  | several
  | always
  | never
  deriving DecidableEq, Inhabited

/-- The options of `head` and `tail`. -/
def partOptions : OptionTable :=
  { OptionTable.ofLetters "c:fFn:qs:vz0:" with
    words := [("bytes", .argument, "c"), ("lines", .argument, "n"), ("quiet", .nothing, "q"),
      ("silent", .nothing, "q"), ("verbose", .nothing, "v"), ("zero-terminated", .nothing, "z"),
      ("follow", .maybe, "f"), ("pid", .argument, "pid"), ("retry", .nothing, "retry"),
      ("sleep-interval", .argument, "s")] }

/-- The number that an option tells. -/
def partNumber (octets : Bool) (s : String) : Tool Nat := do
  let what := if octets then "bytes" else "lines"
  match Sizes.read Sizes.usualLetters s with
  | none => fail 1 ("invalid number of " ++ what ++ ": " ++ Quoting.escaped s)
  | some n => return min n Sizes.greatest

/-- Options in the old manner: a number and letters. -/
def oldOptions (args : List String) : List String :=
  match args with
  | a :: rest =>
    match a.toList with
    | '-' :: d :: cs =>
      if d.isDigit then
        let digits := (d :: cs).takeWhile Char.isDigit
        let letters := (d :: cs).drop digits.length
        let isOctets (c : Char) : Bool := c = 'c' || c = 'b' || c = 'k' || c = 'm'
        let unit := if letters.any isOctets then "-c" else "-n"
        let times := letters.filter fun c => c = 'b' || c = 'k' || c = 'm'
        let others := letters.filter fun c => c = 'q' || c = 'v' || c = 'z' || c = 'f'
        unit :: String.ofList (digits ++ times) ::
          (others.map fun c => "-" ++ String.singleton c) ++ rest
      else args
    | _ => args
  | [] => []

/-- Whether names are written above files. -/
def titlesOf (os : List Opt) : Titles :=
  match lastOf? os ["q", "v"] with
  | some "q" => .never
  | some _ => .always
  | none => .several

/-- Writes the name of a file above it. -/
def putTitle (isFirst : Bool) (name : String) : Tool Unit :=
  put ((if isFirst then "" else "\n") ++ "==> " ++ inputName name ++ " <==\n")

/-- Goes through files, with names above them. -/
def eachPart (titles : Bool) (f : String → Nat → Tool (Option Errno)) :
    Bool → List String → Tool Unit
  | _, [] => pure ()
  | isFirst, name :: rest => do
    match ← openInput name with
    | .error e =>
      flush
      note ("cannot open " ++ Quoting.always (inputName name) ++ " for reading: " ++ e.words)
      eachPart titles f isFirst rest
    | .ok d =>
      if titles then putTitle isFirst name
      match ← f name d with
      | some e =>
        flush
        note ("error reading " ++ Quoting.always (inputName name) ++ ": " ++ e.words)
      | none => pure ()
      closeInput d
      eachPart titles f false rest

/-- Goes back in a file, if that is possible. -/
def goBack (d n : Nat) : Tool Unit := do
  let _ ← call (.seek d (-(n : Int)) .current)
  pure ()

/-- Writes the first lines of what is read. -/
def putFirstLines (ending : Char) : Nat → Lines → Tool (Option Errno)
  | 0, l => do
    goBack l.descriptor l.unread
    return none
  | n + 1, l => do
    match ← l.next with
    | (.error e, _) => return some e
    | (.ok none, _) => return none
    | (.ok (some line), l) =>
      put (line.spell ending)
      putFirstLines ending n l

/-- Writes the first octets of what is read, in at most so many pieces. -/
def putFirstOctets (d : Nat) : Nat → Nat → Tool (Option Errno)
  | 0, _ => pure none
  | n + 1, count => do
    if count = 0 then return none
    let r : Except Errno ByteArray ← call (.read d (min count Act.blockSize))
    match r with
    | .error e => return some e
    | .ok octets =>
      if octets.isEmpty then return none
      put (Octets.unpack octets)
      putFirstOctets d n (count - octets.size)

/-- The text without its last lines. -/
def withoutLast (ending : Char) (n : Nat) (s : String) : String :=
  let ls := Line.ofText ending s
  String.join ((ls.take (ls.length - n)).map (Line.spell ending))

/-- Reads all of an open file, and writes a part of it. -/
def putPartOf (part : String → String) (d : Nat) : Tool (Option Errno) := do
  match ← act (Act.readAll d) with
  | .error e => return some e
  | .ok text =>
    put (part text)
    return none

/-- Writes the beginning of files. -/
def head : Program := program fun args => do
  let (os, names) ← options partOptions (oldOptions args)
  let ending := if isGiven os "z" then '\x00' else '\n'
  let amount : Amount ← match os.findRev? fun o => o.key = "c" || o.key = "n" with
    | none => pure ⟨false, 10, false⟩
    | some o => do
      let octets := o.key = "c"
      let text := o.value.getD ""
      let fromOther := text.startsWith "-"
      let digits := if fromOther then (text.drop 1).toString else text
      pure ⟨octets, ← partNumber octets digits, fromOther⟩
  let names := inputs names
  let titles := match titlesOf os with
    | .several => 1 < names.length
    | .always => true
    | .never => false
  eachPart titles (fun _ d => do
    match amount with
    | ⟨false, n, false⟩ => putFirstLines ending n (.ofDescriptor d ending)
    | ⟨true, n, false⟩ => putFirstOctets d Act.manySteps n
    | ⟨false, n, true⟩ => putPartOf (withoutLast ending n) d
    | ⟨true, n, true⟩ => putPartOf (fun s => (s.take (s.length - n)).toString) d) true names

/-- Options in the old manner, in which a plus sign counts from the beginning. -/
def oldTailOptions (args : List String) : List String :=
  match args with
  | a :: rest =>
    match a.toList with
    | '+' :: d :: _ => if d.isDigit && rest.length ≤ 1 then "-n" :: a :: rest else args
    | _ => oldOptions args
  | [] => []

/-- Writes the end of files. -/
def tail : Program := program fun args => do
  let (os, names) ← options partOptions (oldTailOptions args)
  let ending := if isGiven os "z" then '\x00' else '\n'
  let amount : Amount ← match os.findRev? fun o => o.key = "c" || o.key = "n" with
    | none => pure ⟨false, 10, false⟩
    | some o => do
      let octets := o.key = "c"
      let text := o.value.getD ""
      let fromOther := text.startsWith "+"
      let digits := if fromOther || text.startsWith "-" then (text.drop 1).toString else text
      match Sizes.read Sizes.usualLetters digits with
      | some n => pure ⟨octets, n, fromOther⟩
      | none =>
        let what := if octets then "bytes" else "lines"
        fail 1 ("invalid number of " ++ what ++ ": " ++ Quoting.escaped text)
  let names := inputs names
  let titles := match titlesOf os with
    | .several => 1 < names.length
    | .always => true
    | .never => false
  let part (s : String) : String :=
    if amount.octets then
      if amount.fromOther then (s.drop (amount.number - 1)).toString
      else (s.drop (s.length - amount.number)).toString
    else
      let ls := Line.ofText ending s
      let kept := if amount.fromOther then ls.drop (amount.number - 1)
        else ls.drop (ls.length - amount.number)
      String.join (kept.map (Line.spell ending))
  eachPart titles (fun _ d => putPartOf part d) true names

/-! ### Numbers of parts -/

/-- The numbers of the parts of a text. -/
structure Counts where
  lines : Nat
  words : Nat
  octets : Nat
  /-- The width of the widest line. -/
  widest : Nat
  deriving DecidableEq, Inhabited

namespace Counts

/-- Nothing. -/
def zero : Counts := ⟨0, 0, 0, 0⟩

/-- The numbers for two texts. -/
def add (a b : Counts) : Counts :=
  ⟨a.lines + b.lines, a.words + b.words, a.octets + b.octets, max a.widest b.widest⟩

/-- Counting, with whether a word has begun and the width of the line so far. -/
structure Progress where
  counts : Counts
  inWord : Bool
  column : Nat
  deriving Inhabited

/-- Counts a character. Words begin with a sign that can be seen. -/
def step (p : Progress) (c : Char) : Progress :=
  let isSpace := Numbers.isSpace c
  let isSeen := '!' ≤ c && c ≤ '~'
  let column := if c = '\n' || c = '\x0d' || c = '\x0c' then 0
    else if c = '\t' then (p.column / 8 + 1) * 8
    else if ' ' ≤ c && c ≤ '~' then p.column + 1
    else p.column
  ⟨⟨p.counts.lines + (if c = '\n' then 1 else 0),
      p.counts.words + (if isSeen && !p.inWord then 1 else 0), p.counts.octets + 1,
      max p.counts.widest column⟩,
    isSeen || (p.inWord && !isSpace), column⟩

end Counts

/-- Counts the parts of what is read. -/
def countFrom (d : Nat) : Nat → Counts.Progress → Tool (Counts × Option Errno)
  | 0, p => pure (p.counts, none)
  | n + 1, p => do
    match ← readPiece d with
    | .error e => return (p.counts, some e)
    | .ok "" => return (p.counts, none)
    | .ok text => countFrom d n (text.foldl Counts.step p)

/-- The width of the columns of numbers. -/
def countWidth (columns : Nat) (names : List String) : Tool Nat := do
  if columns = 1 && names.length ≤ 1 then return 1
  let sizes ← names.mapM fun name => do
    let r : Except Errno Facts ← if name = "-" then call (.factsOf 0) else call (.facts name true)
    match r with
    | .error _ => return (none : Option (Option Nat))
    | .ok f => return some (if f.kind = .regular then some f.size else none)
  match sizes with
  | none :: _ => return 1
  | _ =>
    let known := sizes.filterMap id
    let total := (known.filterMap id).foldl Nat.add 0
    let least := if known.any (·.isNone) then 7 else 1
    return max least (toString total).length

/-- Writes how many lines, words and octets there are in files. -/
def wc : Program := program fun args => do
  let t := { OptionTable.ofLetters "clLmw" with
    words := [("bytes", .nothing, "c"), ("chars", .nothing, "m"), ("lines", .nothing, "l"),
      ("words", .nothing, "w"), ("max-line-length", .nothing, "L"),
      ("files0-from", .argument, "files"), ("total", .argument, "total")] }
  let (os, names) ← options t args
  let keys := ["l", "w", "m", "c", "L"].filter (isGiven os)
  let keys := if keys = [] then ["l", "w", "c"] else keys
  let all := inputs names
  let width ← countWidth keys.length all
  let line (c : Counts) (name : String) : Tool Unit := do
    let columns := keys.map fun k => match k with
      | "l" => c.lines
      | "w" => c.words
      | "L" => c.widest
      | _ => c.octets
    let cells := columns.map fun n => padLeft width (toString n)
    put (" ".intercalate cells ++ (if name = "" then "" else " " ++ name) ++ "\n")
  let counts ← all.mapM fun name => do
    match ← openInput name with
    | .error e =>
      note (Quoting.name name ++ ": " ++ e.words)
      return Counts.zero
    | .ok d =>
      let (c, wrong) ← countFrom d Act.manySteps ⟨.zero, false, 0⟩
      closeInput d
      match wrong with
      | some e => note (Quoting.name name ++ ": " ++ e.words)
      | none => pure ()
      line c (if names = [] then "" else name)
      return c
  let total := (valueOf? os "total").getD "auto"
  if total = "always" || (total = "auto" && 1 < all.length) then
    line (counts.foldl Counts.add .zero) "total"

end Golden.Host.Tool
