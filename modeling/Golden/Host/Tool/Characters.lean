import Golden.Host.CharClass
import Golden.Host.Numbers
import Golden.Host.Tool.Copying

/-! # Tools for characters

Characters are put in the places of others (`tr`), or shown as numbers and names (`od`). -/

namespace Golden.Host.Tool

/-! ### Sets of characters -/

/-- A character of a text, and whether it is escaped. -/
abbrev SetLetter : Type := Char × Bool

/-- The characters of a text with its escapes replaced. -/
def setLetters : List Char → List SetLetter
  | [] => []
  | ['\\'] => [('\\', true)]
  | '\\' :: c :: cs =>
    match cs with
    | d :: e :: rest =>
      if Text.isOctal c && Text.isOctal d && Text.isOctal e && c ≤ '3' then
        (Escapes.octet (Numbers.ofDigits 8 [c, d, e]), true) :: setLetters rest
      else if Text.isOctal c && Text.isOctal d then
        (Escapes.octet (Numbers.ofDigits 8 [c, d]), true) :: setLetters (e :: rest)
      else (single c, true) :: setLetters (d :: e :: rest)
    | [d] =>
      if Text.isOctal c && Text.isOctal d then
        [(Escapes.octet (Numbers.ofDigits 8 [c, d]), true)]
      else (single c, true) :: setLetters [d]
    | [] => [(single c, true)]
  | c :: cs => (c, false) :: setLetters cs
where
  /-- What a single character behind a backslash stands for. -/
  single (c : Char) : Char :=
    if Text.isOctal c then Escapes.octet (Numbers.ofDigits 8 [c])
    else if c = 'e' then 'e' else (Escapes.letter? c).getD c

/-- A part of a set. -/
inductive SetPart where
  | chars (cs : List Char)
  | named (name : String)
  /-- As many as are needed to make a set as long as another. -/
  | filling (c : Char)

/-- Why a text is no set of characters. -/
inductive SetMistake where
  | reversed (a b : Char)
  | noClass (name : String)
  | badEquivalence (text : String)
  | badCount (text : String)
  deriving DecidableEq, Inhabited

/-- A character in a message. -/
def shownLetter (c : Char) : String :=
  if Quoting.isShown c then String.singleton c
  else String.ofList ('\\' :: (match Quoting.letter? c with
    | some l => [l]
    | none => Quoting.octal c))

/-- What is said of a mistake. -/
def SetMistake.message : SetMistake → String
  | reversed a b =>
    "range-endpoints of '" ++ shownLetter a ++ "-" ++ shownLetter b ++
      "' are in reverse collating sequence order"
  | noClass name => "invalid character class " ++ Quoting.escaped name
  | badEquivalence text => text ++ ": equivalence class operand must be a single character"
  | badCount text => "invalid repeat count " ++ Quoting.escaped text ++ " in [c*n] construct"

/-- The characters between two. -/
def charRange (a b : Char) : List Char :=
  (List.range' a.toNat (b.toNat + 1 - a.toNat)).map Char.ofNat

/-- What is between two signs at the beginning, where the second is followed by a bracket. -/
def bracketed? (sign : Char) (ls : List SetLetter) : Option (List Char × List SetLetter) :=
  let rec go : List Char → List SetLetter → Option (List Char × List SetLetter)
    | done, (c, false) :: (']', false) :: rest =>
      if c = sign then some (done.reverse, rest) else go (c :: done) ((']', false) :: rest)
    | done, l :: rest => go (l.1 :: done) rest
    | _, [] => none
  go [] ls

/-- A part in brackets at the beginning: a class, or a character that is repeated. -/
def bracketPart? (ls : List SetLetter) : Except SetMistake (Option (SetPart × List SetLetter)) :=
  match ls with
  | (':', false) :: rest =>
    match bracketed? ':' rest with
    | some (name, rest) =>
      let name := String.ofList name
      if (CharClass.named? name).isSome then .ok (some (.named name, rest))
      else .error (.noClass name)
    | none => .ok none
  | ('=', false) :: rest =>
    match bracketed? '=' rest with
    | some ([c], rest) => .ok (some (.chars [c], rest))
    | some (cs, _) => .error (.badEquivalence (String.ofList cs))
    | none => .ok none
  | (c, _) :: ('*', false) :: rest =>
    let digits := (rest.takeWhile fun l => !l.2 && l.1.isDigit).map Prod.fst
    match rest.drop digits.length with
    | (']', false) :: more =>
      let n := Numbers.ofDigits (if digits.head? = some '0' then 8 else 10) digits
      .ok (some (if n = 0 then .filling c else .chars (List.replicate n c), more))
    | _ => .ok none
  | _ => .ok none

/-- The parts of a set. -/
def setParts : Nat → List SetLetter → Except SetMistake (List SetPart)
  | 0, _ => .ok []
  | _, [] => .ok []
  | n + 1, l :: rest => do
    let special ← if l = ('[', false) then bracketPart? rest else pure none
    match special, rest with
    | some (part, more), _ => return part :: (← setParts n more)
    | none, ('-', false) :: last :: more =>
      if last.1 < l.1 then throw (.reversed l.1 last.1)
      return .chars (charRange l.1 last.1) :: (← setParts n more)
    | none, _ => return .chars [l.1] :: (← setParts n rest)

/-- The characters of a part, if a filling has so many. -/
def SetPart.expand (filling : Nat) : SetPart → List Char
  | .chars cs => cs
  | .named name =>
    ((List.range 256).map Char.ofNat).filter ((CharClass.named? name).getD fun _ => false)
  | .filling c => List.replicate filling c

/-- The characters of a set that is to have a length. -/
def expandSet (length : Nat) (parts : List SetPart) : List Char :=
  let others := (parts.flatMap (SetPart.expand 0)).length
  let isFilling : SetPart → Bool
    | .filling _ => true
    | _ => false
  let fillings := (parts.filter isFilling).length
  let each := if fillings = 0 then 0 else (length - others) / fillings
  parts.flatMap (SetPart.expand each)

/-- Reads a set. -/
def readSet (text : String) : Tool (List SetPart) := do
  if text.endsWith "\\" && !text.endsWith "\\\\" then
    warn "warning: an unescaped backslash at end of string is not portable"
  let ls := setLetters text.toList
  match setParts (ls.length + 1) ls with
  | .ok parts => return parts
  | .error e => fail 1 e.message

/-- What happens to characters. -/
structure Exchange where
  /-- What is put in the place of a character, if it is not dropped. -/
  change : Char → Option Char
  /-- Whether a character stands only once where it follows itself. -/
  squeezes : Char → Bool

/-- Exchanges characters of a text behind a character that has been written. -/
def Exchange.apply (x : Exchange) : Option Char → List Char → List Char → Option Char × List Char
  | before, [], done => (before, done.reverse)
  | before, c :: cs, done =>
    match x.change c with
    | none => x.apply before cs done
    | some d =>
      if before = some d && x.squeezes d then x.apply before cs done
      else x.apply (some d) cs (d :: done)

/-- Exchanges the characters of what is read. -/
def Exchange.run (x : Exchange) : Nat → Option Char → Tool Unit
  | 0, _ => pure ()
  | n + 1, before => do
    match ← readPiece 0 with
    | .error e => fail 1 ("read error: " ++ e.words)
    | .ok "" => pure ()
    | .ok text =>
      let (before, cs) := x.apply before text.toList []
      put (String.ofList cs)
      flush
      x.run n before

/-- The options of `tr`. -/
def trOptions : OptionTable :=
  { OptionTable.ofLetters "cCdst" with
    inOrder := true
    words := [("complement", .nothing, "c"), ("delete", .nothing, "d"),
      ("squeeze-repeats", .nothing, "s"), ("truncate-set1", .nothing, "t")] }

/-- Exchanges characters. -/
def tr : Program := program fun args => do
  let (os, names) ← options trOptions args
  let deletes := isGiven os "d"
  let squeezes := isGiven os "s"
  let misuseWith {α : Type} (text more : String) : Tool α :=
    misuse trOptions (text ++ "\n" ++ more)
  match names with
  | [] => missing trOptions none
  | [a] =>
    if deletes && squeezes then
      misuseWith ("missing operand after " ++ Quoting.escaped a)
        "Two strings must be given when both deleting and squeezing repeats."
    if !deletes && !squeezes then
      misuseWith ("missing operand after " ++ Quoting.escaped a)
        "Two strings must be given when translating."
  | [_, b] =>
    if deletes && !squeezes then
      misuseWith ("extra operand " ++ Quoting.escaped b)
        "Only one string may be given when deleting without squeezing repeats."
  | _ :: _ :: c :: _ => extra trOptions c
  let first ← readSet (names.headD "")
  let given := expandSet 0 first
  let isInFirst : Char → Bool :=
    let table : Array Bool := given.foldl (fun t c => t.setIfInBounds c.toNat true)
      (Array.replicate 256 false)
    if isGiven os "c" || isGiven os "C" then fun c => !(table[c.toNat]?.getD false)
    else fun c => table[c.toNat]?.getD false
  let whole := if isGiven os "c" || isGiven os "C" then
      ((List.range 256).map Char.ofNat).filter isInFirst
    else given
  match names with
  | [_, b] =>
    let second ← readSet b
    if !deletes then
      let isOther : SetPart → Bool
        | .named name => name ≠ "upper" && name ≠ "lower"
        | _ => false
      if second.any isOther then
        fail 1 ("when translating, the only character classes that may appear in\n" ++
          "string2 are 'upper' and 'lower'")
    let targets := expandSet whole.length second
    let isInSecond (c : Char) : Bool := targets.contains c
    if deletes then
      let x : Exchange := ⟨fun c => if isInFirst c then none else some c, isInSecond⟩
      x.run Act.manySteps none
    else
      if targets = [] && !isGiven os "t" then
        fail 1 "when not truncating set1, string2 must be non-empty"
      let last := targets.getLastD '\x00'
      let pairs := if isGiven os "t" then whole.zip targets
        else whole.zip (targets ++ List.replicate (whole.length - targets.length) last)
      let table := pairs.foldl (fun (t : Array Char) p => t.setIfInBounds p.1.toNat p.2)
        ((List.range 256).map Char.ofNat).toArray
      let x : Exchange :=
        ⟨fun c => some (table[c.toNat]?.getD c), fun c => squeezes && isInSecond c⟩
      x.run Act.manySteps none
  | _ =>
    let x : Exchange :=
      if deletes then ⟨fun c => if isInFirst c then none else some c, fun _ => false⟩
      else ⟨some, isInFirst⟩
    x.run Act.manySteps none

/-! ### Octets as numbers -/

/-- How octets are shown. -/
inductive DumpKind where
  | name
  | char
  | signed
  | octal
  | unsigned
  | hex
  deriving DecidableEq, Inhabited

/-- A row of numbers for each line: of how many octets each, and whether their characters stand
behind them. -/
structure DumpType where
  kind : DumpKind
  size : Nat
  text : Bool
  deriving DecidableEq, Inhabited

namespace DumpType

/-- The width of a number. -/
def width (t : DumpType) : Nat :=
  match t.kind, t.size with
  | .name, _ | .char, _ => 3
  | .octal, 1 => 3
  | .octal, 2 => 6
  | .octal, 4 => 11
  | .octal, _ => 22
  | .signed, 1 => 4
  | .signed, 2 => 6
  | .signed, 4 => 11
  | .signed, _ => 20
  | .unsigned, 1 => 3
  | .unsigned, 2 => 5
  | .unsigned, 4 => 10
  | .unsigned, _ => 20
  | .hex, n => 2 * n

/-- The names of control characters. -/
def names : List String :=
  ["nul", "soh", "stx", "etx", "eot", "enq", "ack", "bel", "bs", "ht", "nl", "vt", "ff", "cr",
   "so", "si", "dle", "dc1", "dc2", "dc3", "dc4", "nak", "syn", "etb", "can", "em", "sub", "esc",
   "fs", "gs", "rs", "us", "sp"]

/-- A character as it can be written. -/
def charText (c : Char) : String :=
  if Quoting.isShown c then String.singleton c
  else if c = '\x00' then "\\0"
  else
    match Quoting.letter? c with
    | some l => "\\" ++ String.singleton l
    | none => String.ofList (Quoting.octal c)

/-- A number. -/
def spell (t : DumpType) (octets : List Char) : String :=
  let n := octets.foldr (fun c n => n * 256 + c.toNat) 0
  let bits := Nat.pow 2 (8 * t.size)
  match t.kind with
  | .name =>
    let k := n % 128
    if k = 127 then "del" else (names[k]?).getD (String.singleton (Char.ofNat k))
  | .char => charText (Char.ofNat n)
  | .signed => if bits / 2 ≤ n then toString ((n : Int) - bits) else toString n
  | .unsigned => toString n
  | .octal =>
    let ds := Nat.toDigits 8 n
    String.ofList (List.replicate (t.width - ds.length) '0' ++ ds)
  | .hex =>
    let ds := Nat.toDigits 16 n
    String.ofList (List.replicate (t.width - ds.length) '0' ++ ds)

end DumpType

/-- How a file is shown. -/
structure Dump where
  types : List DumpType
  /-- The base of addresses and their least number of digits. -/
  radix : Option (Nat × Nat)
  width : Nat
  all : Bool
  deriving DecidableEq, Inhabited

namespace Dump

/-- An address. -/
def address (d : Dump) (n : Nat) : String :=
  match d.radix with
  | none => ""
  | some (base, least) =>
    let ds := Nat.toDigits base n
    String.ofList (List.replicate (least - ds.length) '0' ++ ds)

/-- The octets of numbers. -/
def fields (size : Nat) : Nat → List Char → List (List Char)
  | 0, _ => []
  | n + 1, cs =>
    if cs = [] then []
    else
      let one := cs.take size
      (one ++ List.replicate (size - one.length) '\x00') :: fields size n (cs.drop size)

/-- The numbers of a line. -/
def row (d : Dump) (t : DumpType) (octets : List Char) : String :=
  let count := d.width / t.size
  let widest := (d.types.map fun u => (u.width + 1) * (d.width / u.size)).max?.getD 0
  let pad := widest - (t.width + 1) * count
  let cells := (fields t.size count octets).zipIdx.map fun (field, k) =>
    let i := count - k
    let left := pad * i / count
    let next := pad * (i - 1) / count
    " " ++ padLeft (left - next + t.width) (t.spell field)
  let missing := count - cells.length
  let trailer := if t.text then
      String.ofList (List.replicate (missing * (t.width + 1) + pad * missing / count) ' ') ++
        "  >" ++
        String.ofList (octets.map fun c => if Quoting.isShown c then c else '.') ++ "<"
    else ""
  String.join cells ++ trailer

/-- The lines for some octets. -/
def line (d : Dump) (address : Nat) (octets : List Char) : String :=
  let front := d.address address
  let blank := String.ofList (List.replicate front.length ' ')
  String.join (d.types.zipIdx.map fun (t, k) =>
    (if k = 0 then front else blank) ++ d.row t octets ++ "\n")

/-- Shows octets from an address on. -/
def lines (d : Dump) : Nat → Nat → Option (List Char) → Bool → List Char → Tool Unit
  | 0, _, _, _, _ => pure ()
  | n + 1, address, before, isStarred, octets => do
    let one := octets.take d.width
    if one = [] then
      if d.radix.isSome then put (d.address address ++ "\n")
    else
      let next := address + one.length
      if !d.all && before = some one && one.length = d.width then
        if !isStarred then put "*\n"
        d.lines n next before true (octets.drop d.width)
      else
        put (d.line address one)
        d.lines n next (some one) false (octets.drop d.width)

end Dump

/-- The types that a text asks for. -/
def dumpTypes : Nat → List Char → Except Char (List DumpType)
  | 0, _ => .ok []
  | _, [] => .ok []
  | n + 1, c :: cs => do
    let kind? : Option DumpKind := match c with
      | 'a' => some .name
      | 'c' => some .char
      | 'd' => some .signed
      | 'o' => some .octal
      | 'u' => some .unsigned
      | 'x' => some .hex
      | _ => none
    match kind? with
    | none => throw c
    | some kind =>
      let digits := cs.takeWhile Char.isDigit
      let rest := cs.drop digits.length
      let (size, rest) := if kind = .name || kind = .char then (1, cs)
        else if digits ≠ [] then (Numbers.ofDigits 10 digits, rest)
        else
          match rest with
          | 'C' :: rest => (1, rest)
          | 'S' :: rest => (2, rest)
          | 'I' :: rest => (4, rest)
          | 'L' :: rest => (8, rest)
          | rest => (4, rest)
      let (text, rest) := match rest with
        | 'z' :: rest => (true, rest)
        | rest => (false, rest)
      let more ← dumpTypes n rest
      return ⟨kind, if [1, 2, 4, 8].contains size then size else 4, text⟩ :: more

/-- The types that single letters ask for. -/
def dumpLetters : List (String × DumpType) :=
  [("a", ⟨.name, 1, false⟩), ("b", ⟨.octal, 1, false⟩), ("c", ⟨.char, 1, false⟩),
   ("d", ⟨.unsigned, 2, false⟩), ("h", ⟨.hex, 2, false⟩), ("i", ⟨.signed, 4, false⟩),
   ("l", ⟨.signed, 8, false⟩), ("o", ⟨.octal, 2, false⟩), ("s", ⟨.signed, 2, false⟩),
   ("x", ⟨.hex, 2, false⟩)]

/-- Shows files as numbers. -/
def od : Program := program fun args => do
  let t := { OptionTable.ofLetters "A:bcdehHij:loN:st:vw::xaDOXBS:LFfI" with
    words := [("address-radix", .argument, "A"), ("format", .argument, "t"),
      ("skip-bytes", .argument, "j"), ("read-bytes", .argument, "N"),
      ("output-duplicates", .nothing, "v"), ("width", .maybe, "w"),
      ("endian", .argument, "endian"), ("traditional", .nothing, "traditional")] }
  let (os, names) ← options t args
  let radix ← match valueOf? os "A" with
    | none | some "o" => pure (some (8, 7))
    | some "d" => pure (some (10, 7))
    | some "x" => pure (some (16, 6))
    | some "n" => pure none
    | some a =>
      fail 1 ("invalid output address radix " ++ Quoting.escaped (a.take 1).toString ++
        "; it must be one character from [doxn]")
  let types ← os.mapM fun o => do
    match o.key, dumpLetters.lookup o.key with
    | "t", _ =>
      let text := o.value.getD ""
      match dumpTypes (text.length + 1) text.toList with
      | .ok types => return types
      | .error c =>
        fail 1 ("invalid character " ++ Quoting.escaped (String.singleton c) ++
          " in type string " ++ Quoting.escaped text)
    | _, some t => return [t]
    | _, none => return []
  let types := if types.flatten = [] then [⟨.octal, 2, false⟩] else types.flatten
  let number (key : String) : Tool (Option Nat) := do
    match valueOf? os key with
    | none => return none
    | some v =>
      match Sizes.read Sizes.usualLetters v with
      | some n => return some n
      | none => fail 1 ("invalid -" ++ key ++ " argument " ++ Quoting.escaped v)
  let skip := (← number "j").getD 0
  let most ← number "N"
  let unit := types.foldl (fun n t => Nat.lcm n t.size) 1
  let asked ← number "w"
  let width := if isGiven os "w" then asked.getD 32 else max 1 (16 / unit) * unit
  let width := if width = 0 || width % unit ≠ 0 then unit else width
  let texts ← (inputs names).mapM fun name => do
    match ← contents name with
    | .ok text => return text
    | .error e =>
      note (Quoting.name name ++ ": " ++ e.words)
      return ""
  let octets := (String.join texts).toList
  if octets.length < skip then fail 1 "cannot skip past end of combined input"
  let octets := octets.drop skip
  let octets := match most with
    | some n => octets.take n
    | none => octets
  let d : Dump := ⟨types, radix, width, isGiven os "v"⟩
  let isAllMissing := (← console).status ≠ 0 && octets = []
  if isAllMissing then pure ()
  else d.lines (octets.length + 2) skip none false octets

end Golden.Host.Tool
