import Golden.Host.Numbers

/-! # Numbers with fractions

A number is kept as an exact fraction. Programs keep so many binary digits of it as they have room
for (`Fraction.round`), and show decimal digits of what they have kept: a fixed number of them
behind the point (`Real.fixed`), or a fixed number in all with an exponent (`Real.scientific`).
What lies half between two numbers goes to the one with an even last digit. -/

namespace Golden.Host

/-- A number, or what takes the place of one. -/
inductive Real where
  | finite (isNegative : Bool) (numerator denominator : Nat)
  | infinite (isNegative : Bool)
  | noNumber (isNegative : Bool)
  deriving DecidableEq, Inhabited

/-- How many binary digits are kept, and the least and the greatest exponent. -/
structure Precision where
  digits : Nat
  least : Int
  greatest : Int
  deriving DecidableEq, Inhabited

namespace Precision

/-- Numbers of 64 bits. -/
def double : Precision := ⟨53, -1074, 971⟩

/-- Numbers of 80 bits. -/
def extended : Precision := ⟨64, -16445, 16320⟩

end Precision

namespace Fraction

/-- The quotient, rounded to the nearest number, a half to an even one. -/
def roundDiv (n d : Nat) : Nat :=
  let q := n / d
  let r := 2 * (n % d)
  if d < r || (r = d && q % 2 = 1) then q + 1 else q

/-- The power of ten in a fraction above zero. -/
def exponent10 (n d : Nat) : Int :=
  let guess : Int := ((Nat.log2 n : Int) - (Nat.log2 d : Int)) * 30103 / 100000
  let reaches (e : Int) : Bool :=
    if 0 ≤ e then d * Nat.pow 10 e.toNat ≤ n else d ≤ n * Nat.pow 10 (-e).toNat
  let up := if reaches (guess + 1) then guess + 1 else guess
  let up := if reaches (up + 1) then up + 1 else up
  if reaches up then up else if reaches (up - 1) then up - 1 else up - 2

/-- The power of two in a fraction above zero. -/
def exponent2 (n d : Nat) : Int :=
  let guess : Int := (Nat.log2 n : Int) - (Nat.log2 d : Int)
  let reaches (e : Int) : Bool :=
    if 0 ≤ e then d * Nat.pow 2 e.toNat ≤ n else d ≤ n * Nat.pow 2 (-e).toNat
  if reaches guess then guess else guess - 1

/-- A number times a power of two, as a fraction. -/
def scaled (m : Nat) (e : Int) : Nat × Nat :=
  if 0 ≤ e then (m * Nat.pow 2 e.toNat, 1) else (m, Nat.pow 2 (-e).toNat)

/-- What is kept of a fraction, or nothing if it is too large. -/
def round (p : Precision) (n d : Nat) : Option (Nat × Nat) :=
  if n = 0 then some (0, 1)
  else
    let e := max p.least (exponent2 n d - (p.digits : Int) + 1)
    let m := if 0 ≤ e then roundDiv n (d * Nat.pow 2 e.toNat)
      else roundDiv (n * Nat.pow 2 (-e).toNat) d
    let (m, e) := if m = Nat.pow 2 p.digits then (m / 2, e + 1) else (m, e)
    if p.greatest < e then none else some (scaled m e)

end Fraction

namespace Real

/-- Zero. -/
def zero : Real := .finite false 0 1

/-- A whole number. -/
def ofInt (n : Int) : Real := .finite (n < 0) n.natAbs 1

/-- What is kept of a number. -/
def round (p : Precision) : Real → Real
  | .finite s n d =>
    match Fraction.round p n d with
    | some (n, d) => .finite s n d
    | none => .infinite s
  | r => r

/-- Whether a number is below zero, as its sign says. -/
def isNegative : Real → Bool
  | .finite s _ _ | .infinite s | .noNumber s => s

/-- The number without its sign. -/
def magnitude : Real → Real
  | .finite _ n d => .finite false n d
  | .infinite _ => .infinite false
  | .noNumber _ => .noNumber false

/-! ### Reading -/

/-- A number at the beginning of a text: its value, whether there is one, and what is behind it. -/
structure Scan where
  value : Real
  isNumber : Bool
  rest : List Char
  deriving DecidableEq, Inhabited

/-- Reads an exponent behind its letter. -/
def readExponent (letters : List Char) (cs : List Char) : Int × List Char :=
  match cs with
  | l :: rest =>
    if !letters.contains l then (0, cs)
    else
      let (isNegative, ds) := match rest with
        | '-' :: ds => (true, ds)
        | '+' :: ds => (false, ds)
        | ds => (false, ds)
      let (n, more) := Numbers.readDigits 10 0 ds
      if more.length = ds.length then (0, cs) else (if isNegative then -(n : Int) else n, more)
  | [] => (0, cs)

/-- The greatest power that is not cut down. -/
def exponentLimit : Int := 20000

/-- A number in a base with a fraction and an exponent. -/
def readUnsigned (base : Nat) (letters : List Char) (power : Nat) (cs : List Char) :
    Option (Real × List Char) :=
  let (whole, rest) := Numbers.readDigits base 0 cs
  let wholeDigits := cs.length - rest.length
  let (all, places, rest) := match rest with
    | '.' :: more =>
      let (all, after) := Numbers.readDigits base whole more
      if wholeDigits = 0 && after.length = more.length then (whole, 0, rest)
      else (all, more.length - after.length, after)
    | _ => (whole, 0, rest)
  if wholeDigits = 0 && places = 0 then none
  else
    let (e, rest) := readExponent letters rest
    let e := max (-exponentLimit) (min exponentLimit e)
    let (n, d) := if 0 ≤ e then (all * Nat.pow power e.toNat, Nat.pow base places)
      else (all, Nat.pow base places * Nat.pow power (-e).toNat)
    some (.finite false n d, rest)

/-- Whether a text begins with a word, in letters of either size. -/
def startsWith (word : String) (cs : List Char) : Bool :=
  word.toList.isPrefixOf (cs.map Char.toLower)

/-- Reads a number, behind blanks and a sign. -/
def scan (cs : List Char) : Scan :=
  let trimmed := cs.dropWhile Numbers.isSpace
  let (isNegative, unsigned) := match trimmed with
    | '-' :: ds => (true, ds)
    | '+' :: ds => (false, ds)
    | ds => (false, ds)
  let signed (r : Real) : Real :=
    match r with
    | .finite _ n d => .finite isNegative n d
    | .infinite _ => .infinite isNegative
    | .noNumber _ => .noNumber isNegative
  if startsWith "infinity" unsigned then ⟨.infinite isNegative, true, unsigned.drop 8⟩
  else if startsWith "inf" unsigned then ⟨.infinite isNegative, true, unsigned.drop 3⟩
  else if startsWith "nan" unsigned then ⟨.noNumber isNegative, true, unsigned.drop 3⟩
  else
    let hexadecimal := match unsigned with
      | '0' :: x :: rest => if x = 'x' || x = 'X' then readUnsigned 16 ['p', 'P'] 2 rest else none
      | _ => none
    match hexadecimal.or (readUnsigned 10 ['e', 'E'] 10 unsigned) with
    | some (r, rest) => ⟨signed r, true, rest⟩
    | none => ⟨zero, false, cs⟩

/-! ### Showing -/

/-- Decimal digits, at least so many. -/
def digitsOf (n least : Nat) : List Char :=
  let ds := Nat.toDigits 10 n
  List.replicate (least - ds.length) '0' ++ ds

/-- Digits with a point in front of the last ones. -/
def pointed (places : Nat) (keepsPoint : Bool) (ds : List Char) : List Char :=
  let front := ds.take (ds.length - places)
  if places = 0 then if keepsPoint then front ++ ['.'] else front
  else front ++ '.' :: ds.drop (ds.length - places)

/-- A fraction with a number of places behind the point. -/
def fixed (places : Nat) (keepsPoint : Bool) (n d : Nat) : List Char :=
  pointed places keepsPoint (digitsOf (Fraction.roundDiv (n * Nat.pow 10 places) d) (places + 1))

/-- The digits of a fraction, with so many behind the first, and the power of ten of the first. -/
def leading (places : Nat) (n d : Nat) : List Char × Int :=
  if n = 0 then (List.replicate (places + 1) '0', 0)
  else
    let e := Fraction.exponent10 n d
    let shift := (places : Int) - e
    let m := if 0 ≤ shift then Fraction.roundDiv (n * Nat.pow 10 shift.toNat) d
      else Fraction.roundDiv n (d * Nat.pow 10 (-shift).toNat)
    let ds := Nat.toDigits 10 m
    if ds.length = places + 2 then (ds.dropLast, e + 1) else (ds, e)

/-- An exponent with at least two digits. -/
def spellExponent (e : Int) : List Char :=
  (if e < 0 then '-' else '+') :: digitsOf e.natAbs 2

/-- A fraction with one digit in front of the point, so many behind it, and an exponent. -/
def scientific (places : Nat) (keepsPoint : Bool) (n d : Nat) : List Char :=
  let (ds, e) := leading places n d
  pointed places keepsPoint ds ++ 'e' :: spellExponent e

/-- Digits without zeros at the end of their fraction. -/
def dropZeros (ds : List Char) : List Char :=
  if ds.contains '.' then
    let kept := (ds.reverse.dropWhile (· = '0')).reverse
    if kept.getLast? = some '.' then kept.dropLast else kept
  else ds

/-- A fraction with so many digits in all, in the shorter of both ways. -/
def general (digits : Nat) (keepsZeros : Bool) (n d : Nat) : List Char :=
  let digits := max 1 digits
  let (ds, e) := leading (digits - 1) n d
  let trim (cs : List Char) : List Char := if keepsZeros then cs else dropZeros cs
  if -4 ≤ e && e < digits then trim (fixed ((digits : Int) - 1 - e).toNat keepsZeros n d)
  else trim (pointed (digits - 1) keepsZeros ds) ++ 'e' :: spellExponent e

/-- A digit of base 16. -/
def hexDigit (n : Nat) : Char := ((Nat.toDigits 16 n).head?).getD '0'

/-- A fraction in base 16, with one digit in front of the point and a power of two. The first digit
has `width` binary digits. -/
def hexadecimal (width : Nat) (places : Option Nat) (keepsPoint : Bool) (n d : Nat) : List Char :=
  let finish (ds : List Char) (e : Int) : List Char :=
    let body := match ds with
      | [] => []
      | d :: rest => if rest = [] && !keepsPoint then [d] else d :: '.' :: rest
    body ++ 'p' :: (if e < 0 then '-' else '+') :: Nat.toDigits 10 e.natAbs
  if n = 0 then finish ('0' :: List.replicate (places.getD 0) '0') 0
  else
    let e := Fraction.exponent2 n d - (width : Int) + 1
    let p := places.getD 16
    let shift : Int := 4 * (p : Int) - e
    let m := if 0 ≤ shift then Fraction.roundDiv (n * Nat.pow 2 shift.toNat) d
      else Fraction.roundDiv n (d * Nat.pow 2 (-shift).toNat)
    let first := m / Nat.pow 16 p
    let rest := (List.range p).map fun k => hexDigit (m / Nat.pow 16 (p - 1 - k) % 16)
    let rest := if places.isSome then rest else (rest.reverse.dropWhile (· = '0')).reverse
    finish (hexDigit first :: rest) e

end Real

end Golden.Host
