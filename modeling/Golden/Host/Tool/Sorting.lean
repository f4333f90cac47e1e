import Golden.Host.CharClass
import Golden.Host.Decimal
import Golden.Host.Tool.Fields

/-! # Sorted lines

Lines are sorted by keys: parts of them that are compared as texts or numbers (`sort`). Tools for
lines that are sorted find those that are equal (`uniq`), or those that are in two files (`comm`,
`join`). -/

namespace Golden.Host.Tool

/-! ### Keys -/

/-- How keys are compared. -/
inductive KeyKind where
  | text
  | numeric
  | general
  | human
  | month
  | version
  deriving DecidableEq, Inhabited

/-- What matters when keys are compared. -/
structure KeyOrder where
  order : KeyKind
  reversed : Bool
  skipsFirst : Bool
  skipsLast : Bool
  /-- Only blanks, letters and digits count. -/
  dictionary : Bool
  /-- Only characters count that are shown. -/
  shownOnly : Bool
  ignoresCase : Bool
  deriving DecidableEq, Inhabited

/-- Texts as they are. -/
def KeyOrder.plain : KeyOrder := ⟨.text, false, false, false, false, false, false⟩

/-- A key: the fields and characters that it begins and ends with, numbered from zero. -/
structure Key where
  firstField : Nat
  firstChar : Nat
  /-- The last field, and the number of its characters, all of them if that is zero. -/
  last : Option (Nat × Nat)
  order : KeyOrder
  deriving DecidableEq, Inhabited

namespace Key

/-- The length of a field, with the delimiter behind it if there is one and `inclusive`. -/
def fieldLength (tab : Option Char) (inclusive : Bool) (cs : List Char) : Nat :=
  match tab with
  | some t =>
    let n := (cs.takeWhile (· ≠ t)).length
    if n < cs.length && inclusive then n + 1 else n
  | none =>
    let blanks := (cs.takeWhile CharClass.isFieldBlank).length
    blanks + ((cs.drop blanks).takeWhile fun c => !CharClass.isFieldBlank c).length

/-- The length of some fields. The delimiter behind the last one counts if `inclusive`. -/
def fieldsLength (tab : Option Char) (inclusive : Bool) : Nat → List Char → Nat
  | 0, _ => 0
  | n + 1, cs =>
    if cs = [] then 0
    else
      let k := fieldLength tab (n ≠ 0 || inclusive) cs
      k + fieldsLength tab inclusive n (cs.drop k)

/-- The part of a line that is a key. -/
def part (tab : Option Char) (k : Key) (line : List Char) : List Char :=
  let blanksAt (n : Nat) : Nat := ((line.drop n).takeWhile CharClass.isFieldBlank).length
  let first := fieldsLength tab true k.firstField line
  let first := if k.order.skipsFirst then first + blanksAt first else first
  let first := min line.length (first + k.firstChar)
  let last := match k.last with
    | none => line.length
    | some (field, 0) => fieldsLength tab false (field + 1) line
    | some (field, chars) =>
      let n := fieldsLength tab true field line
      let n := if k.order.skipsLast then n + blanksAt n else n
      min line.length (n + chars)
  (line.take last).drop first

end Key

/-! ### Comparing -/

/-- Compares texts by their octets. -/
def compareTexts : List Char → List Char → Ordering
  | [], [] => .eq
  | [], _ => .lt
  | _, [] => .gt
  | a :: as, b :: bs => if a < b then .lt else if b < a then .gt else compareTexts as bs

/-- A number at the beginning of a text: whether it is below zero, its digits in front of the point
without zeros at their front, and those behind it without zeros at their end. -/
def numeralOf (cs : List Char) : Bool × List Char × List Char :=
  let cs := cs.dropWhile CharClass.isFieldBlank
  let (isNegative, cs) := match cs with
    | '-' :: rest => (true, rest)
    | cs => (false, cs)
  let whole := cs.takeWhile Char.isDigit
  let places := match cs.drop whole.length with
    | '.' :: rest => rest.takeWhile Char.isDigit
    | _ => []
  (isNegative, whole.dropWhile (· = '0'), (places.reverse.dropWhile (· = '0')).reverse)

/-- Compares numbers that texts begin with. -/
def compareNumerals (a b : List Char) : Ordering :=
  let (m, a, p) := numeralOf a
  let (n, b, q) := numeralOf b
  let isZero (a p : List Char) : Bool := a = [] && p = []
  let size := (compare a.length b.length).then ((compareTexts a b).then (compareTexts p q))
  let below (isNegative : Bool) (a p : List Char) : Bool := isNegative && !isZero a p
  match below m a p, below n b q with
  | true, true => size.swap
  | true, false => .lt
  | false, true => .gt
  | false, false => size

/-- The place of the letter behind a number that tells how often it is counted. -/
def humanOrder (cs : List Char) : Int :=
  let rest := cs.dropWhile CharClass.isFieldBlank
  let (isNegative, rest) := match rest with
    | '-' :: r => (true, r)
    | r => (false, r)
  let digits := rest.takeWhile fun c => c.isDigit || c = '.'
  let power : Nat := match rest.drop digits.length with
    | c :: _ => (Sizes.power? c).getD 0
    | [] => 0
  let isZero := digits.all fun c => c = '0' || c = '.'
  if isZero then 0 else if isNegative then -(power : Int) else power

/-- The number of the month whose name a text begins with. -/
def monthOf (cs : List Char) : Nat :=
  let name := String.ofList (((cs.dropWhile CharClass.isFieldBlank).take 3).map Char.toUpper)
  let months := ["JAN", "FEB", "MAR", "APR", "MAY", "JUN", "JUL", "AUG", "SEP", "OCT", "NOV", "DEC"]
  match months.idxOf? name with
  | some i => i + 1
  | none => 0

/-- Compares numbers with fractions and exponents. Texts that are no numbers come first. -/
def compareReals (a b : List Char) : Ordering :=
  let rank (r : Real.Scan) : Nat :=
    if !r.isNumber then 0
    else
      match r.value with
      | .noNumber _ => 1
      | .infinite true => 2
      | .finite .. => 3
      | .infinite false => 4
  let x := Real.scan a
  let y := Real.scan b
  (compare (rank x) (rank y)).then <|
    match x.value, y.value with
    | .finite s n d, .finite t m e =>
      let left : Int := (if s then -1 else 1) * (n * e : Nat)
      let right : Int := (if t then -1 else 1) * (m * d : Nat)
      if left < right then .lt else if right < left then .gt else .eq
    | _, _ => .eq

/-- The place of a character in names with numbers in them. -/
def versionRank (c : Option Char) : Int :=
  match c with
  | none => 0
  | some '~' => -1
  | some c => if c.isDigit then 0 else if c.isAlpha then c.toNat else c.toNat + 256

/-- Compares the parts of names up to a digit. -/
def compareWords (a b : List Char) : Nat → Ordering
  | 0 => .eq
  | n + 1 =>
    let isWord (cs : List Char) : Bool := cs.head?.any fun c => !c.isDigit
    if !isWord a && !isWord b then .eq
    else
      let first (cs : List Char) : Option Char := cs.head?.filter fun c => !c.isDigit
      (compare (versionRank (first a)) (versionRank (first b))).then (compareWords a.tail b.tail n)

/-- Compares names in which numbers count as such. -/
def compareVersions : Nat → List Char → List Char → Ordering
  | 0, _, _ => .eq
  | _, [], [] => .eq
  | n + 1, a, b =>
    let word (cs : List Char) : List Char := cs.takeWhile fun c => !c.isDigit
    let v := word a
    let w := word b
    let words := compareWords v w (max v.length w.length)
    let a := a.drop v.length
    let b := b.drop w.length
    let digits (cs : List Char) : List Char := cs.takeWhile Char.isDigit
    let m := (digits a).dropWhile (· = '0')
    let k := (digits b).dropWhile (· = '0')
    let numbers := (compare m.length k.length).then (compareTexts m k)
    words.then <| numbers.then <|
      compareVersions n (a.drop (digits a).length) (b.drop (digits b).length)

/-- Compares keys. -/
def KeyOrder.compare (o : KeyOrder) (a b : List Char) : Ordering :=
  let kept (cs : List Char) : List Char :=
    let cs := if o.dictionary then cs.filter fun c => c.isAlphanum || CharClass.isFieldBlank c
      else if o.shownOnly then cs.filter fun c => ' ' ≤ c && c ≤ '~' else cs
    if o.ignoresCase then cs.map Char.toUpper else cs
  let r := match o.order with
    | .text => compareTexts (kept a) (kept b)
    | .numeric => compareNumerals a b
    | .general => compareReals a b
    | .human => (Ord.compare (humanOrder a) (humanOrder b)).then (compareNumerals a b)
    | .month => Ord.compare (monthOf a) (monthOf b)
    | .version => compareVersions (a.length + b.length + 1) a b
  if o.reversed then r.swap else r

/-! ### Sorting -/

/-- How lines are sorted. -/
structure SortOrder where
  keys : List Key
  whole : KeyOrder
  tab : Option Char
  /-- Of equal lines only the first is kept. -/
  unique : Bool
  /-- Lines with equal keys stay in their order. -/
  stable : Bool
  deriving DecidableEq, Inhabited

namespace SortOrder

/-- Compares lines by their keys. -/
def compareKeys (o : SortOrder) (a b : List Char) : Ordering :=
  let kept (cs : List Char) : List Char :=
    if o.whole.skipsFirst then cs.dropWhile CharClass.isFieldBlank else cs
  if o.keys = [] then o.whole.compare (kept a) (kept b)
  else o.keys.foldl (fun r k => r.then (k.order.compare (k.part o.tab a) (k.part o.tab b))) .eq

/-- Compares lines. -/
def compare (o : SortOrder) (a b : List Char) : Ordering :=
  let r := o.compareKeys a b
  if r ≠ .eq || o.unique || o.stable then r
  else
    let r := compareTexts a b
    if o.whole.reversed then r.swap else r

/-- Of lines that follow one another and are equal the first. -/
def distinct (o : SortOrder) : List (List Char) → List (List Char)
  | [] => []
  | [a] => [a]
  | a :: b :: rest =>
    if o.compareKeys a b = .eq then o.distinct (a :: rest) else a :: o.distinct (b :: rest)
termination_by l => l.length

/-- Sorts lines, or puts lines together that are sorted already if `merges`. -/
def sort (o : SortOrder) (merges : Bool) (files : List (List (List Char))) : List (List Char) :=
  let le (a b : List Char) : Bool := o.compare a b ≠ .gt
  let sorted := if merges then files.foldl (fun done ls => done.merge ls le) []
    else files.flatten.mergeSort le
  if o.unique then o.distinct sorted else sorted

end SortOrder

/-- The options of `sort`. -/
def sortOptions : OptionTable :=
  { OptionTable.ofLetters "bcCdfgik:mMno:rRsS:t:T:uVyhz" with
    words := [("ignore-leading-blanks", .nothing, "b"), ("check", .maybe, "c"),
      ("dictionary-order", .nothing, "d"), ("ignore-case", .nothing, "f"),
      ("general-numeric-sort", .nothing, "g"), ("ignore-nonprinting", .nothing, "i"),
      ("key", .argument, "k"), ("merge", .nothing, "m"), ("month-sort", .nothing, "M"),
      ("numeric-sort", .nothing, "n"), ("human-numeric-sort", .nothing, "h"),
      ("version-sort", .nothing, "V"), ("output", .argument, "o"), ("reverse", .nothing, "r"),
      ("stable", .nothing, "s"), ("buffer-size", .argument, "S"),
      ("field-separator", .argument, "t"), ("temporary-directory", .argument, "T"),
      ("unique", .nothing, "u"), ("zero-terminated", .nothing, "z"),
      ("parallel", .argument, "parallel")]
    status := 2 }

/-- An order with what a letter says. -/
def withLetter (o : KeyOrder) (atEnd : Bool) (c : Char) : Option KeyOrder :=
  match c with
  | 'b' => some (if atEnd then { o with skipsLast := true } else { o with skipsFirst := true })
  | 'd' => some { o with dictionary := true }
  | 'f' => some { o with ignoresCase := true }
  | 'g' => some { o with order := .general }
  | 'h' => some { o with order := .human }
  | 'i' => some { o with shownOnly := true }
  | 'M' => some { o with order := .month }
  | 'n' => some { o with order := .numeric }
  | 'r' => some { o with reversed := true }
  | 'V' => some { o with order := .version }
  | _ => none

/-- An order with what letters say, and what is behind them. -/
def withLetters (atEnd : Bool) : KeyOrder → List Char → KeyOrder × List Char
  | o, [] => (o, [])
  | o, c :: cs =>
    match withLetter o atEnd c with
    | some o => withLetters atEnd o cs
    | none => (o, c :: cs)

/-- A key that a text stands for. -/
def keyOf (usual : KeyOrder) (text : String) : Tool Key := do
  let bad {α : Type} (why : String) : Tool α :=
    fail 2 (why ++ ": invalid field specification " ++ Quoting.escaped text)
  let number (why : String) (cs : List Char) : Tool (Nat × List Char) := do
    let ds := cs.takeWhile Char.isDigit
    if ds = [] then
      fail 2 (why ++ ": invalid count at start of " ++ Quoting.escaped (String.ofList cs))
    return (Numbers.ofDigits 10 ds, cs.drop ds.length)
  let (field, cs) ← number "invalid number at field start" text.toList
  if field = 0 then bad "field number is zero"
  let (char, cs) ← match cs with
    | '.' :: rest => do
      let (n, rest) ← number "invalid number after '.'" rest
      if n = 0 then bad "character offset is zero"
      pure (n - 1, rest)
    | cs => pure (0, cs)
  let (o, cs) := withLetters false .plain cs
  let (last, o, cs) ← match cs with
    | ',' :: rest => do
      let (n, rest) ← number "invalid number after ','" rest
      if n = 0 then bad "field number is zero"
      let (k, rest) ← match rest with
        | '.' :: rest => number "invalid number after '.'" rest
        | rest => pure (0, rest)
      let (o, rest) := withLetters true o rest
      pure (some (n - 1, k), o, rest)
    | cs => pure (none, o, cs)
  if cs ≠ [] then bad "stray character in field spec"
  return ⟨field - 1, char, last, if o = .plain then usual else o⟩

/-- The first line that is out of order, with its number. -/
def disorder (o : SortOrder) : Nat → List (List Char) → Option (Nat × List Char)
  | n, a :: b :: rest =>
    let r := o.compare a b
    if r = .gt || (o.unique && r = .eq) then some (n + 1, b) else disorder o (n + 1) (b :: rest)
  | _, _ => none
termination_by _ l => l.length

/-- What is said when sorted lines are refused. -/
def sortRefusal (e : Errno) : String × Nat :=
  ("write failed: 'standard output': " ++ e.words, 2)

/-- Writes the lines of files sorted. -/
def sort : Program := programWith sortRefusal fun args => do
  let (os, names) ← options sortOptions args
  let orderLetters := os.filterMap fun o => if o.value.isNone then o.key.toList.head? else none
  let usual := orderLetters.foldl (fun (o : KeyOrder) c => (withLetter o false c).getD o) .plain
  let usual := { usual with skipsLast := usual.skipsFirst }
  let keys ← (valuesOf os "k").mapM (keyOf usual)
  let tab ← match valueOf? os "t" with
    | none => pure none
    | some "" => fail 2 "empty tab"
    | some "\\0" => pure (some '\x00')
    | some t =>
      match t.toList with
      | [c] => pure (some c)
      | _ => fail 2 ("multi-character tab " ++ Quoting.escaped t)
  let o : SortOrder := ⟨keys, usual, tab, isGiven os "u", isGiven os "s"⟩
  let ending := if isGiven os "z" then '\x00' else '\n'
  let checks := isGiven os "c" || isGiven os "C"
  if checks && 1 < names.length then
    fail 2 ("extra operand " ++ Quoting.escaped ((names[1]?).getD "") ++ " not allowed with -c")
  let texts ← (inputs names).mapM fun name => do
    match ← openInput name with
    | .error e => fail 2 ("cannot read: " ++ Quoting.name name ++ ": " ++ e.words)
    | .ok d =>
      match ← act (Act.readAll d) with
      | .error e => fail 2 ("read failed: " ++ Quoting.name name ++ ": " ++ e.words)
      | .ok text => return (Line.ofText ending text).map fun l => l.text.toList
  if checks then
    match disorder o 1 texts.flatten with
    | none => pure ()
    | some (n, line) =>
      let isQuiet := isGiven os "C" || ((valueOf? os "c").any fun v => v = "quiet" || v = "silent")
      if !isQuiet then
        complain ((← console).name ++ ": " ++ (names.headD "-") ++ ":" ++ toString n ++
          ": disorder: " ++ String.ofList line ++ "\n")
      exit 1
  else
    let sorted := String.join <|
      (o.sort (isGiven os "m") texts).map fun l => (String.ofList l).push ending
    match valueOf? os "o" with
    | none => put sorted
    | some path =>
      match ← act (Act.writeFile path sorted) with
      | .ok () => pure ()
      | .error e => fail 2 ("open failed: " ++ Quoting.name path ++ ": " ++ e.words)

/-! ### Equal lines -/

/-- Which lines are written of those that are equal. -/
structure UniqChoice where
  counts : Bool
  repeated : Bool
  allRepeated : Bool
  single : Bool
  deriving DecidableEq, Inhabited

/-- The part of a line that is compared. -/
def uniqPart (fields chars : Nat) (width : Option Nat) (ignoresCase : Bool) (line : List Char) :
    List Char :=
  let skipField (cs : List Char) : List Char :=
    (cs.dropWhile CharClass.isFieldBlank).dropWhile fun c => !CharClass.isFieldBlank c
  let rest := (Nat.repeat skipField fields line).drop chars
  let rest := match width with
    | some w => rest.take w
    | none => rest
  if ignoresCase then rest.map Char.toUpper else rest

/-- Writes lines that are equal. -/
def putEqual (c : UniqChoice) (ending : Char) (first : String) (others : List String) :
    Tool Unit := do
  let n := others.length + 1
  let isWanted := if n = 1 then !(c.repeated || c.allRepeated) else !c.single
  if isWanted then
    if c.allRepeated then
      (first :: others).forM fun l => put (l.push ending)
    else put ((if c.counts then padLeft 7 (toString n) ++ " " else "") ++ first.push ending)

/-- Writes each line once. -/
def uniq : Program := program fun args => do
  let t := { OptionTable.ofLetters "cdDf:is:uw:z" with
    words := [("count", .nothing, "c"), ("repeated", .nothing, "d"), ("all-repeated", .maybe, "D"),
      ("skip-fields", .argument, "f"), ("ignore-case", .nothing, "i"),
      ("skip-chars", .argument, "s"), ("unique", .nothing, "u"), ("check-chars", .argument, "w"),
      ("zero-terminated", .nothing, "z")] }
  let (os, names) ← options t args
  let number (key what : String) : Tool (Option Nat) := do
    match valueOf? os key with
    | none => return none
    | some v =>
      match Sizes.read [] v with
      | some n => return some n
      | none => fail 1 (v ++ ": invalid number of " ++ what)
  let fields ← number "f" "fields to skip"
  let chars ← number "s" "bytes to skip"
  let width ← number "w" "bytes to compare"
  let (input, output) ← match names with
    | [] => pure ("-", none)
    | [a] => pure (a, none)
    | [a, b] => pure (a, if b = "-" then none else some b)
    | _ :: _ :: c :: _ => extra t c
  let c : UniqChoice := ⟨isGiven os "c", isGiven os "d", isGiven os "D", isGiven os "u"⟩
  if c.counts && c.allRepeated then
    misuse t "printing all duplicated lines and repeat counts is meaningless"
  let ending := if isGiven os "z" then '\x00' else '\n'
  let part (s : String) : List Char :=
    uniqPart (fields.getD 0) (chars.getD 0) width (isGiven os "i") s.toList
  match ← openInput input with
  | .error e => fail 1 (Quoting.name input ++ ": " ++ e.words)
  | .ok d =>
    match output with
    | none => pure ()
    | some path =>
      match ← act (Act.openFile path .toWrite) with
      | .error e => fail 1 (Quoting.name path ++ ": " ++ e.words)
      | .ok f =>
        let _ ← call (.duplicateTo f 1)
        closeInput f
    let ls := Lines.ofDescriptor d ending
    let (held, wrong) ← ls.fold (fun (held : Option (String × List String)) l => do
      match held with
      | none => return (some (l.text, []), true)
      | some (first, others) =>
        if part first = part l.text then return (some (first, others ++ [l.text]), true)
        putEqual c ending first others
        return (some (l.text, []), true)) Act.manySteps none
    match held with
    | some (first, others) => putEqual c ending first others
    | none => pure ()
    match wrong with
    | some e => fail 1 ("error reading " ++ Quoting.always input ++ ": " ++ e.words)
    | none => pure ()

/-! ### Lines of two files -/

/-- Where a line is found. -/
inductive Side where
  | first
  | second
  | both
  deriving DecidableEq, Inhabited

/-- The lines of two files in one order. -/
def mergeSides (compare : List Char → List Char → Ordering) :
    Nat → List String → List String → List (Side × String)
  | 0, _, _ => []
  | _, [], bs => bs.map fun b => (.second, b)
  | _, as, [] => as.map fun a => (.first, a)
  | n + 1, a :: as, b :: bs =>
    match compare a.toList b.toList with
    | .lt => (.first, a) :: mergeSides compare n as (b :: bs)
    | .gt => (.second, b) :: mergeSides compare n (a :: as) bs
    | .eq => (.both, a) :: mergeSides compare n as bs

/-- Whether lines are sorted. -/
def isSorted (ls : List String) : Bool :=
  (ls.zip ls.tail).all fun p => compareTexts p.1.toList p.2.toList ≠ .gt

/-- Writes the lines of two sorted files in columns: those of the first, those of the second, and
those of both. -/
def comm : Program := program fun args => do
  let t := { OptionTable.ofLetters "123z" with
    words := [("check-order", .nothing, "check"), ("nocheck-order", .nothing, "nocheck"),
      ("output-delimiter", .argument, "output"), ("total", .nothing, "total"),
      ("zero-terminated", .nothing, "z")] }
  let (os, names) ← options t args
  match names with
  | [] => missing t none
  | [a] => missing t (some a)
  | _ :: _ :: c :: _ => extra t c
  | [a, b] =>
    let ending := if isGiven os "z" then '\x00' else '\n'
    let read (name : String) : Tool (List String) := do
      match ← contents name with
      | .error e => fail 1 (Quoting.name name ++ ": " ++ e.words)
      | .ok text => return (Line.ofText ending text).map (·.text)
    let first ← read a
    let second ← read b
    let delimiter := (valueOf? os "output").getD "\t"
    let hides (k : String) : Bool := isGiven os k
    let all := mergeSides compareTexts (first.length + second.length) first second
    all.forM fun (side, text) => do
      match side with
      | .first => if !hides "1" then put (text.push ending)
      | .second =>
        if !hides "2" then put ((if hides "1" then "" else delimiter) ++ text.push ending)
      | .both =>
        if !hides "3" then
          put ((if hides "1" then "" else delimiter) ++ (if hides "2" then "" else delimiter) ++
            text.push ending)
    if isGiven os "total" then
      let count (s : Side) : String := toString (all.filter (·.1 = s)).length
      put (delimiter.intercalate [count .first, count .second, count .both, "total"] ++ "\n")
    let isUnpaired := all.any (·.1 ≠ .both)
    if !isGiven os "nocheck" && (isUnpaired || isGiven os "check") then
      let one := !isSorted first
      let two := !isSorted second
      if one then warn "file 1 is not in sorted order"
      if two then warn "file 2 is not in sorted order"
      if one || two then
        flush
        if !isGiven os "check" then warn "input is not in sorted order"
        exit 1

/-! ### Joining -/

/-- How lines are joined. -/
structure Joining where
  tab : Option Char
  ignoresCase : Bool
  fields : Nat × Nat
  /-- The files whose lines are written even if there is none to join them with. -/
  alone : List Nat
  /-- Lines that are joined are not written. -/
  onlyAlone : Bool
  filling : String
  /-- The fields that are written: the key, or the field of a file. -/
  format : Option (List (Option (Nat × Nat)))
  ending : Char

namespace Joining

/-- The fields of a line. -/
def split (j : Joining) (line : String) : List String :=
  match j.tab with
  | some c => line.splitToList (· = c)
  | none => (line.splitToList fun c => c = ' ' || c = '\t').filter (· ≠ "")

/-- The key of a line. -/
def key (j : Joining) (field : Nat) (fields : List String) : List Char :=
  let cs := ((fields[field - 1]?).getD "").toList
  if j.ignoresCase then cs.map Char.toUpper else cs

/-- The line that two lines make, of which one may be missing. -/
def line (j : Joining) (a b : Option (List String)) : String :=
  let fieldOf (l : Option (List String)) (n : Nat) : String :=
    let text := (l.bind fun fs => fs[n - 1]?).getD ""
    if text = "" then j.filling else text
  let keyText : String := match a with
    | some _ => fieldOf a j.fields.1
    | none => fieldOf b j.fields.2
  let others (l : Option (List String)) (field : Nat) : List String :=
    match l with
    | none => []
    | some fs => (fs.zipIdx 1).filterMap fun p => if p.2 = field then none else some p.1
  let texts := match j.format with
    | some fs => fs.map fun f =>
      match f with
      | none => keyText
      | some (1, n) => fieldOf a n
      | some (_, n) => fieldOf b n
    | none => keyText :: others a j.fields.1 ++ others b j.fields.2
  let separator := String.singleton (j.tab.getD ' ')
  (separator.intercalate texts).push j.ending

/-- The lines that two files make. -/
def join (j : Joining) : Nat → List (List String) → List (List String) → List String
  | 0, _, _ => []
  | n + 1, as, bs =>
    let left (l : List String) : List Char := j.key j.fields.1 l
    let right (l : List String) : List Char := j.key j.fields.2 l
    let alone (k : Nat) (text : String) : List String := if j.alone.contains k then [text] else []
    match as, bs with
    | [], bs => bs.flatMap fun b => alone 2 (j.line none (some b))
    | as, [] => as.flatMap fun a => alone 1 (j.line (some a) none)
    | a :: as, b :: bs =>
      match compareTexts (left a) (right b) with
      | .lt => alone 1 (j.line (some a) none) ++ j.join n as (b :: bs)
      | .gt => alone 2 (j.line none (some b)) ++ j.join n (a :: as) bs
      | .eq =>
        let same := a :: as.takeWhile fun l => left l = left a
        let others := b :: bs.takeWhile fun l => right l = right b
        let pairs := same.flatMap fun x => others.map fun y => j.line (some x) (some y)
        (if j.onlyAlone then [] else pairs) ++
          j.join n ((a :: as).drop same.length) ((b :: bs).drop others.length)

end Joining

/-- The field that a text of a format stands for. -/
def joinedField? (s : String) : Option (Option (Nat × Nat)) :=
  match s.splitOn "." with
  | ["0"] => some none
  | [file, field] =>
    match file, field.toNat? with
    | "1", some n => if 0 < n then some (some (1, n)) else none
    | "2", some n => if 0 < n then some (some (2, n)) else none
    | _, _ => none
  | _ => none

/-- Joins the lines of two sorted files that have the same key. -/
def join : Program := program fun args => do
  let t := { OptionTable.ofLetters "a:e:i1:2:j:o:t:v:z" with
    words := [("ignore-case", .nothing, "i"), ("check-order", .nothing, "check"),
      ("nocheck-order", .nothing, "nocheck"), ("zero-terminated", .nothing, "z"),
      ("header", .nothing, "header")] }
  let (os, names) ← options t args
  match names with
  | [] => missing t none
  | [a] => missing t (some a)
  | _ :: _ :: c :: _ => extra t c
  | [a, b] =>
    let ending := if isGiven os "z" then '\x00' else '\n'
    let field (key : String) : Tool Nat := do
      match (valueOf? os key).or (valueOf? os "j") with
      | none => return 1
      | some v =>
        match v.toNat? with
        | some n =>
          if n = 0 then fail 1 ("invalid field number: " ++ Quoting.escaped v)
          return n
        | none => fail 1 ("invalid field number: " ++ Quoting.escaped v)
    let first ← field "1"
    let second ← field "2"
    let tab ← match valueOf? os "t" with
      | none => pure none
      | some "" => pure (some '\n')
      | some "\\0" => pure (some '\x00')
      | some t =>
        match t.toList with
        | [c] => pure (some c)
        | _ => fail 1 ("multi-character tab " ++ Quoting.escaped t)
    let format ← match valuesOf os "o" with
      | [] => pure none
      | texts =>
        let pieces := texts.flatMap fun s =>
          (s.splitToList fun c => c = ',' || c = ' ').filter (· ≠ "")
        if pieces = ["auto"] then pure none
        else do
          let fields ← pieces.mapM fun s => do
            match joinedField? s with
            | some f => return f
            | none => fail 1 ("invalid field specifier: " ++ Quoting.escaped s)
          pure (some fields)
    let alone := ((valuesOf os "a") ++ (valuesOf os "v")).filterMap String.toNat?
    let j : Joining :=
      ⟨tab, isGiven os "i", (first, second), alone, isGiven os "v", (valueOf? os "e").getD "",
        format, ending⟩
    let read (name : String) : Tool (List (List String)) := do
      match ← contents name with
      | .error e => fail 1 (Quoting.name name ++ ": " ++ e.words)
      | .ok text => return (Line.ofText ending text).map fun l => j.split l.text
    let one ← read a
    let two ← read b
    let (heads, one, two) := if isGiven os "header" then
        ([j.line one.head? two.head?], one.tail, two.tail)
      else ([], one, two)
    (heads ++ j.join (one.length + two.length + 1) one two).forM put

end Golden.Host.Tool
