import Golden.Host.Numbers
import Golden.Host.Tool.Input
import Golden.Host.Tool.Options

/-! # A tool that splits files

A file is split into pieces of so many lines or octets, which have names with counting letters. -/

namespace Golden.Host.Tool

/-- How a number of pieces is made. -/
inductive PartKind where
  /-- Pieces of the same size. -/
  | octets
  /-- As octets, but a line is in the piece in which it begins. -/
  | lines
  /-- Each line goes to the next piece. -/
  | turns
  deriving DecidableEq, Inhabited

/-- How pieces are made. -/
inductive PieceKind where
  | lines (n : Nat)
  | octets (n : Nat)
  /-- As many lines as fit into so many octets. -/
  | fitting (n : Nat)
  /-- A number of pieces. -/
  | parts (kind : PartKind) (n : Nat)
  deriving DecidableEq, Inhabited

/-- The letters that count pieces. -/
def countLetters (style : Option String) : List Char :=
  (match style with
    | some "d" => "0123456789"
    | some _ => "0123456789abcdef"
    | none => "abcdefghijklmnopqrstuvwxyz").toList

/-- A number in letters. -/
def spellCount (letters : List Char) : Nat → Nat → List Char
  | 0, _ => []
  | width + 1, n =>
    spellCount letters width (n / letters.length) ++
      [(letters[n % letters.length]?).getD (letters.headD '0')]

/-- The end of the name of a piece. Without a fixed width, names get longer when their letters do
not suffice. -/
def pieceSuffix (letters : List Char) (width : Option Nat) (n : Nat) : Option (List Char) :=
  let base := letters.length
  match width with
  | some w => if n < Nat.pow base w then some (spellCount letters w n) else none
  | none =>
    let last := letters.getLastD '0'
    let first := Nat.pow base 2 - base
    if n < first then some (spellCount letters 2 n)
    else
      let second := Nat.pow base 3 - Nat.pow base 2
      if n < first + second then some (last :: spellCount letters 3 (n - first))
      else some (last :: last :: spellCount letters 4 (n - first - second))

/-- The number of letters that suffice for `n` names. -/
def suffixWidth (base n : Nat) : Nat :=
  ((List.range (n + 1)).find? fun w => n ≤ Nat.pow base w).getD n

/-- Lines put together as far as they fit into `n` octets, after what is there already. -/
def fitLines (n : Nat) : String → List String → List String
  | done, [] => if done = "" then [] else [done]
  | done, l :: ls =>
    if done.length + l.length ≤ n then fitLines n (done ++ l) ls
    else
      let parts := (Octets.pieces n (l.length + 1) l.toList).map String.ofList
      (if done = "" then [] else [done]) ++ parts.dropLast ++ fitLines n (parts.getLastD "") ls

/-- Lines with the numbers of the octets at which they begin. -/
def withStarts : Nat → List String → List (Nat × String)
  | _, [] => []
  | k, l :: ls => (k, l) :: withStarts (k + l.length) ls

/-- The pieces of a text in which lines end with a character. -/
def piecesOf (ending : Char) (k : PieceKind) (text : String) : List String :=
  let lines := (Line.ofText ending text).map (Line.spell ending)
  let start (n i : Nat) : Nat := i * (text.length / n) + min i (text.length % n)
  match k with
  | .octets n => (Octets.pieces n (text.length + 1) text.toList).map String.ofList
  | .lines n => (Octets.pieces n (lines.length + 1) lines).map String.join
  | .fitting n => fitLines n "" lines
  | .parts .octets n =>
    let cs := text.toList
    (List.range n).map fun i =>
      String.ofList ((cs.drop (start n i)).take (start n (i + 1) - start n i))
  | .parts .lines n =>
    let placed := withStarts 0 lines
    (List.range n).map fun i =>
      let own := placed.filter fun p => start n i ≤ p.1 && p.1 < start n (i + 1)
      String.join (own.map (·.2))
  | .parts .turns n =>
    (List.range n).map fun i =>
      String.join ((lines.zipIdx.filter fun p => p.2 % n = i).map (·.1))

/-- The options of `split`. -/
def splitOptions : OptionTable :=
  { OptionTable.ofLetters "0123456789a:b:C:del:n:t:ux" with
    words := [("suffix-length", .argument, "a"), ("bytes", .argument, "b"),
      ("line-bytes", .argument, "C"), ("lines", .argument, "l"), ("number", .argument, "n"),
      ("numeric-suffixes", .maybe, "d"), ("hex-suffixes", .maybe, "x"),
      ("additional-suffix", .argument, "more"), ("verbose", .nothing, "verbose"),
      ("elide-empty-files", .nothing, "e"), ("separator", .argument, "t"),
      ("unbuffered", .nothing, "u")] }

/-- A number that is not zero. -/
def splitNumber (what text : String) : Tool Nat := do
  match (Sizes.read Sizes.usualLetters text).filter (0 < ·) with
  | some n => return n
  | none => fail 1 ("invalid number of " ++ what ++ ": " ++ Quoting.escaped text)

/-- Reads how many pieces there are, and which one of them is wanted. -/
def splitParts (text : String) : Tool (PieceKind × Option Nat) := do
  let (kind, rest) := if text.startsWith "l/" then (PartKind.lines, (text.drop 2).toString)
    else if text.startsWith "r/" then (PartKind.turns, (text.drop 2).toString)
    else (PartKind.octets, text)
  let digits := rest.toList.takeWhile Char.isDigit
  match digits, rest.toList.drop digits.length with
  | _ :: _, '/' :: cs =>
    let n ← splitNumber "chunks" (String.ofList cs)
    let k := Numbers.ofDigits 10 digits
    if k = 0 || n < k then
      fail 1 ("invalid chunk number: " ++ Quoting.escaped (String.ofList digits))
    return (.parts kind n, some k)
  | _, _ =>
    let n ← splitNumber "chunks" rest
    return (.parts kind n, none)

/-- Reads how pieces are made. -/
def splitKind (os : List Opt) : Tool (PieceKind × Option Nat) := do
  let isDigit (key : String) : Bool := key.toList.all Char.isDigit
  let digits := (os.map (·.key)).filter isDigit
  let ways := os.filter fun o => ["b", "C", "l", "n"].contains o.key
  if 1 < ways.length + min 1 digits.length then
    misuse splitOptions "cannot split in more than one way"
  match ways, digits with
  | o :: _, _ =>
    let text := o.value.getD ""
    match o.key with
    | "b" => return (.octets (← splitNumber "bytes" text), none)
    | "C" => return (.fitting (← splitNumber "lines" text), none)
    | "n" => splitParts text
    | _ => return (.lines (← splitNumber "lines" text), none)
  | [], [] => return (.lines 1000, none)
  | [], ds => return (.lines (← splitNumber "lines" (String.join ds)), none)

/-- The character at the end of a line. -/
def splitSeparator (text : Option String) : Tool Char := do
  match text.map String.toList with
  | none => return '\n'
  | some [c] => return c
  | some ['\\', '0'] => return '\x00'
  | some [] => fail 1 "empty record separator"
  | some cs => fail 1 ("multi-character separator " ++ Quoting.escaped (String.ofList cs))

/-- Splits a file. -/
def split : Program := program fun args => do
  let t := splitOptions
  let (os, names) ← options t args
  let (kind, wanted) ← splitKind os
  let ending ← splitSeparator (valueOf? os "t")
  let width ← match valueOf? os "a" with
    | none => pure none
    | some text =>
      match text.toNat? with
      | some n => pure (if n = 0 then none else some n)
      | none => fail 1 ("invalid suffix length: " ++ Quoting.escaped text)
  let style := lastOf? os ["d", "x"]
  let letters := countLetters style
  let more := (valueOf? os "more").getD ""
  if more.contains '/' then
    misuse t ("invalid suffix " ++ Quoting.escaped more ++ ", contains directory separator")
  let told := style.bind (valueOf? os)
  let first ← match told with
    | none => pure 0
    | some text =>
      let digits := text.toList.map (Numbers.digit? letters.length)
      if text = "" || digits.any Option.isNone then
        misuse t (Quoting.escaped text ++ ": invalid start value for " ++
          (if style = some "d" then "numerical" else "hexadecimal") ++ " suffix")
      else pure (Numbers.ofDigits letters.length text.toList)
  let needed := match kind with
    | .parts _ n => suffixWidth letters.length (first + n)
    | _ => 0
  let width ← match width, kind with
    | some w, _ => do
      if w < needed then fail 1 ("the suffix length needs to be at least " ++ toString needed)
      pure (some w)
    | none, .parts _ _ => pure (some (max 2 needed))
    | none, _ => pure (if told.isSome then some 2 else none)
  let (name, front) ← match names with
    | [] => pure ("-", "x")
    | [a] => pure (a, "x")
    | [a, b] => pure (a, b)
    | _ :: _ :: c :: _ => extra t c
  let opened ← openInput name
  match opened with
  | .error e => fail 1 ("cannot open " ++ Quoting.always name ++ " for reading: " ++ e.words)
  | .ok d =>
    match ← act (Act.readAll d) with
    | .error e => fail 1 (Quoting.name name ++ ": " ++ e.words)
    | .ok text =>
      let pieces := piecesOf ending kind text
      match wanted with
      | some k => put ((pieces[k - 1]?).getD "")
      | none =>
        let pieces := pieces.filter fun p => p ≠ "" || !isGiven os "e"
        pieces.zipIdx.forM fun (p, i) => do
          match pieceSuffix letters width (first + i) with
          | none => fail 1 "output file suffixes exhausted"
          | some s =>
            let path := front ++ String.ofList s ++ more
            if isGiven os "verbose" then put ("creating file " ++ Quoting.always path ++ "\n")
            match ← act (Act.writeFile path p) with
            | .ok () => pure ()
            | .error e => fail 1 (Quoting.name path ++ ": " ++ e.words)

end Golden.Host.Tool
