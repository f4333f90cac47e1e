import Golden.Host.Awk.Syntax
import Golden.Host.Double
import Golden.Host.CharClass
import Golden.Host.Layout

/-! # Values of programs that go through records

A value is a number or a text, or it has come from outside and is a number if it looks like one.
Each value can be taken as a number and as a text. A text is laid out from values as a format
says, whose pieces are read first (`Piece.ofText`) and filled one by one (`Piece.spell`). -/

namespace Golden.Host.Awk

/-- A value. -/
inductive Value where
  /-- What nothing has been given to. -/
  | nothing
  | number (r : Real)
  | text (s : String)
  /-- A text from outside. -/
  | given (s : String)
  deriving DecidableEq, Inhabited

/-- The number of a truth value. -/
def ofBool (b : Bool) : Value := .number (Real.ofInt (if b then 1 else 0))

/-- A whole number. -/
def Value.ofNat (n : Nat) : Value := .number (Real.ofInt n)

/-- Whether a text is a number between blanks. -/
def looksNumeric (s : String) : Bool :=
  let cs := s.toList.dropWhile Numbers.isSpace
  let unsigned := match cs with
    | '-' :: ds | '+' :: ds => ds
    | ds => ds
  let read := match unsigned with
    | '0' :: 'x' :: ds => Real.readUnsigned 16 ['p', 'P'] 2 ds
    | ds => Real.readUnsigned 10 ['e', 'E'] 10 ds
  read.any fun r => r.2.all Numbers.isSpace

/-- The number at the beginning of a text. -/
def numberOf (s : String) : Real := (Real.scan s.toList).value.keep

/-- The value as a number. -/
def Value.toNumber : Value → Real
  | .nothing => Real.zero
  | .number r => r
  | .text s | .given s => numberOf s

/-- Whether a value counts as true. -/
def Value.isTrue : Value → Bool
  | .nothing => false
  | .number r => !r.isZero
  | .text s => s ≠ ""
  | .given s => if looksNumeric s then !(numberOf s).isZero else s ≠ ""

/-- The value as a number, if it is one. -/
def Value.number? : Value → Option Real
  | .nothing => some Real.zero
  | .number r => some r
  | .text _ => none
  | .given s => if looksNumeric s then some (numberOf s) else none

/-- The whole number of a number that is shown without a fraction. -/
def wholeOf? (r : Real) : Option Int :=
  match r with
  | .finite s n d =>
    if n % d = 0 then
      let k := Real.signed s (n / d)
      if Numbers.least ≤ k && k ≤ UInt64.size then some (min k (UInt64.size - 1)) else none
    else none
  | _ => none

/-! ### Formats -/

/-- A number in a format, which may be taken from the values. -/
inductive Count where
  | fixed (n : Nat)
  | taken
  deriving DecidableEq, Inhabited

/-- A piece of a format. -/
inductive Piece where
  | text (cs : List Char)
  | item (flags : List Char) (width places : Option Count) (letter : Char)
  /-- An item of a kind that there is none of. -/
  | unknown
  deriving DecidableEq, Inhabited

/-- Why a format cannot be filled. -/
inductive FormatFault where
  | fewValues
  /-- The item with a number is of no kind. -/
  | badItem (n : Nat)
  deriving DecidableEq, Inhabited

namespace Piece

/-- Reads a number of an item. -/
def readCount (cs : List Char) : Option Count × List Char :=
  match cs with
  | '*' :: rest => (some .taken, rest)
  | cs =>
    let ds := cs.takeWhile Char.isDigit
    (if ds = [] then none else some (.fixed (Numbers.ofDigits 10 ds)), cs.drop ds.length)

/-- The letters of items. -/
def letters : List Char := "cdiouxXeEfFgGaAs".toList

/-- Reads an item from behind its percent sign. -/
def readItem (cs : List Char) : Piece × List Char :=
  let flags := cs.takeWhile Layout.letters.contains
  let (width, rest) := readCount (cs.drop flags.length)
  let (places, rest) := match rest with
    | '.' :: rest =>
      let (n, rest) := readCount rest
      (some (n.getD (.fixed 0)), rest)
    | rest => (none, rest)
  let rest := rest.dropWhile fun c => c = 'h' || c = 'l'
  match rest with
  | c :: rest => if letters.contains c then (.item flags width places c, rest) else (.unknown, rest)
  | [] => (.unknown, [])

/-- The pieces of a format, of which there are at most `n`. -/
def ofText : Nat → List Char → List Piece
  | 0, _ => []
  | _, [] => []
  | n + 1, '%' :: '%' :: cs => .text ['%'] :: ofText n cs
  | n + 1, '%' :: cs =>
    let (piece, rest) := readItem cs
    piece :: ofText n rest
  | n + 1, c :: cs =>
    let front := cs.takeWhile (· ≠ '%')
    .text (c :: front) :: ofText n (cs.drop front.length)

/-- A number without its fraction, as far as there is room for it. -/
def toWhole (r : Real) : Int :=
  match r with
  | .noNumber _ => Numbers.least
  | r =>
    let n := r.toIntBetween (Numbers.least - 1) (UInt64.size - 1)
    if n < Numbers.least then Numbers.least + 1 else n

/-- The value that a letter lays out, with the text of a value. -/
def layOut (l : Layout) (letter : Char) (textOf : Value → String) (v : Value) : List Char :=
  match letter with
  | 's' => l.text (textOf v).toList
  | 'c' =>
    match v with
    | .text s => l.text [(s.toList.head?).getD '\x00']
    | v =>
      match v.number? with
      | some r => l.fill [Escapes.octet (toWhole r % 256).toNat]
      | none => l.fill [((textOf v).toList.head?).getD '\x00']
  | 'd' | 'i' => l.integer (toWhole v.toNumber)
  | 'o' | 'u' | 'x' | 'X' => l.unsigned letter ((toWhole v.toNumber) % UInt64.size).toNat
  | letter => l.real letter 1 v.toNumber

/-- Takes a number out of the values. -/
def take (count : Option Count) (vs : List Value) : Option (Option Int × List Value) :=
  match count, vs with
  | none, vs => some (none, vs)
  | some (.fixed n), vs => some (some n, vs)
  | some .taken, v :: vs => some (some (toWhole v.toNumber), vs)
  | some .taken, [] => none

/-- Fills the pieces with values. Gives what has been laid out, and why it does not go on. -/
def spell (textOf : Value → String) :
    List Piece → List Value → Nat → List (List Char) → String × Option FormatFault
  | [], _, _, done => (String.ofList done.reverse.flatten, none)
  | .text cs :: rest, vs, k, done => spell textOf rest vs k (cs :: done)
  | .unknown :: _, _, k, done =>
    (String.ofList done.reverse.flatten, some (.badItem (k + 1)))
  | .item flags width places letter :: rest, vs, k, done =>
    let few := (String.ofList done.reverse.flatten, some FormatFault.fewValues)
    match take width vs with
    | none => few
    | some (width, vs) =>
      match take places vs with
      | none => few
      | some (places, vs) =>
        match vs with
        | [] => few
        | v :: vs =>
          let width := width.getD 0
          let l := Layout.plain.withLetters (if width < 0 then '-' :: flags else flags)
          let l := { l with
            width := width.natAbs
            places := (places.filter (0 ≤ ·)).map Int.toNat }
          spell textOf rest vs (k + 1) (layOut l letter textOf v :: done)

end Piece

/-- A text that is laid out as a format says. -/
def layOut (textOf : Value → String) (format : String) (vs : List Value) :
    String × Option FormatFault :=
  Piece.spell textOf (Piece.ofText (format.length + 1) format.toList) vs 0 []

/-- The text of a number, as a format says if it has a fraction. -/
def textOfNumber (format : String) (r : Real) : String :=
  match wholeOf? r with
  | some n => toString n
  | none => (layOut (fun _ => "") format [.number r]).1

/-- The value as a text, with a format for numbers. -/
def Value.toText (format : String) : Value → String
  | .nothing => ""
  | .number r => textOfNumber format r
  | .text s | .given s => s

/-! ### Comparing -/

/-- The order of two values: that of numbers if both are numbers, and otherwise that of texts. -/
def Value.order (format : String) (a b : Value) : Ordering :=
  match a.number?, b.number? with
  | some x, some y => Real.order x y
  | _, _ => compare (a.toText format).toList (b.toText format).toList

/-- Whether a comparison holds in an order. -/
def Relation.holds (r : Relation) (o : Ordering) : Bool :=
  match r with
  | .less => o = .lt
  | .atMost => o ≠ .gt
  | .equal => o = .eq
  | .unequal => o ≠ .eq
  | .greater => o = .gt
  | .atLeast => o ≠ .lt

/-- What is calculated of two numbers. -/
def Operation.apply (o : Operation) (a b : Real) : Real :=
  match o with
  | .add => a.add b
  | .sub => a.sub b
  | .mul => a.mul b
  | .div => a.div b
  | .rem => a.rem b
  | .pow => a.pow b

end Golden.Host.Awk
