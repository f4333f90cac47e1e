/-! # Whole numbers in texts -/

namespace Golden.Host.Numbers

/-- Whether a character is a blank or ends a line, page or row. -/
def isSpace (c : Char) : Bool := c = ' ' || ('\t' ≤ c && c ≤ '\r')

/-- The value of a digit, which may be a letter. -/
def digit? (base : Nat) (c : Char) : Option Nat :=
  let value? := if c.isDigit then some (c.toNat - '0'.toNat)
    else if c.isLower then some (c.toNat - 'a'.toNat + 10)
    else if c.isUpper then some (c.toNat - 'A'.toNat + 10)
    else none
  value?.filter (· < base)

/-- The number that the digits at the beginning of a text stand for, and what is behind them. -/
def readDigits (base : Nat) : Nat → List Char → Nat × List Char
  | n, [] => (n, [])
  | n, c :: cs =>
    match digit? base c with
    | some d => readDigits base (n * base + d) cs
    | none => (n, c :: cs)

/-- The number that digits stand for. -/
def ofDigits (base : Nat) (cs : List Char) : Nat := (readDigits base 0 cs).1

/-- A number at the beginning of a text: its value, whether there is one, and what is behind it. -/
structure Scan where
  value : Int
  isNumber : Bool
  rest : List Char
  deriving DecidableEq, Inhabited

/-- The base that digits are written in, if they may tell it, and the digits. -/
def baseOf (cs : List Char) : Nat × List Char :=
  match cs with
  | '0' :: x :: d :: rest =>
    if (x = 'x' || x = 'X') && (digit? 16 d).isSome then (16, d :: rest) else (8, cs)
  | '0' :: _ => (8, cs)
  | _ => (10, cs)

/-- Reads a number, behind blanks and a sign. If no base is given the digits tell it. -/
def scan (base? : Option Nat) (cs : List Char) : Scan :=
  let trimmed := cs.dropWhile isSpace
  let (isNegative, unsigned) := match trimmed with
    | '-' :: ds => (true, ds)
    | '+' :: ds => (false, ds)
    | ds => (false, ds)
  let (base, ds) := match base? with
    | some b => (b, unsigned)
    | none => baseOf unsigned
  let (n, rest) := readDigits base 0 ds
  if rest.length = ds.length then ⟨0, false, cs⟩
  else ⟨if isNegative then -(n : Int) else n, true, rest⟩

/-- The greatest number of 64 bits. -/
def greatest : Int := 9223372036854775807

/-- The least number of 64 bits. -/
def least : Int := -9223372036854775808

/-- Whether a number has 64 bits. -/
def fits (n : Int) : Bool := least ≤ n && n ≤ greatest

/-- The nearest number of 64 bits. -/
def clip (n : Int) : Int := max least (min greatest n)

/-- The number that a whole text stands for. -/
def whole? (base? : Option Nat) (s : String) : Option Int :=
  let r := scan base? s.toList
  if r.isNumber && r.rest.all isSpace && fits r.value then some r.value else none

end Golden.Host.Numbers

/-! ### Sizes

A size is a number with a letter behind it that tells how often it is counted. -/

namespace Golden.Host.Sizes

/-- The powers that letters stand for. -/
def power? (c : Char) : Option Nat :=
  match c with
  | 'k' | 'K' => some 1
  | 'm' | 'M' => some 2
  | 'G' => some 3
  | 'T' => some 4
  | 'P' => some 5
  | 'E' => some 6
  | 'Z' => some 7
  | 'Y' => some 8
  | 'R' => some 9
  | 'Q' => some 10
  | _ => none

/-- What letters behind a number stand for. -/
def multiplier? (letters : List Char) (cs : List Char) : Option Nat :=
  match cs with
  | [] => some 1
  | c :: rest =>
    if !letters.contains c then none
    else
      match c, rest with
      | 'b', [] => some 512
      | 'c', [] => some 1
      | 'w', [] => some 2
      | 'B', [] => some 1024
      | c, [] => (power? c).map (Nat.pow 1024)
      | c, ['B'] => (power? c).map (Nat.pow 1000)
      | c, ['i', 'B'] => (power? c).map (Nat.pow 1024)
      | _, _ => none

/-- The letters that most sizes can have. -/
def usualLetters : List Char := "bkKmMGTPEZYRQ".toList

/-- A size that a text stands for, which is too large if it has more than 64 bits. -/
def read (letters : List Char) (s : String) : Option Nat :=
  let cs := s.toList.dropWhile Numbers.isSpace
  let cs := match cs with
    | '+' :: rest => rest
    | cs => cs
  let ds := cs.takeWhile Char.isDigit
  let rest := cs.drop ds.length
  if ds = [] then
    if rest.head?.any letters.contains then multiplier? letters rest else none
  else (multiplier? letters rest).map (Numbers.ofDigits 10 ds * ·)

/-- The greatest size. -/
def greatest : Nat := UInt64.size - 1

end Golden.Host.Sizes
