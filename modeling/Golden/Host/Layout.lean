import Golden.Host.Decimal

/-! # Laying out values

A value is laid out as a text with a sign, digits and filling, as an item of a format says. -/

namespace Golden.Host

/-- How a value is laid out. -/
structure Layout where
  /-- Filling stands behind the value. -/
  left : Bool
  /-- Numbers have a sign even if they are not below zero. -/
  plus : Bool
  /-- A blank stands in the place of a sign. -/
  blank : Bool
  /-- What the base is can be seen, or that there may be a fraction. -/
  marked : Bool
  /-- Filling consists of zeros. -/
  zeros : Bool
  width : Nat
  places : Option Nat
  deriving DecidableEq, Inhabited

namespace Layout

/-- Nothing special. -/
def plain : Layout := ⟨false, false, false, false, false, 0, none⟩

/-- The letters of a layout. -/
def letters : List Char := ['-', '+', ' ', '#', '0']

/-- A layout with what letters say. -/
def withLetters (l : Layout) (cs : List Char) : Layout :=
  { l with
    left := l.left || cs.contains '-'
    plus := l.plus || cs.contains '+'
    blank := l.blank || cs.contains ' '
    marked := l.marked || cs.contains '#'
    zeros := l.zeros || cs.contains '0' }

/-- A text with filling. -/
def fill (l : Layout) (cs : List Char) : List Char :=
  let n := l.width - cs.length
  if l.left then cs ++ List.replicate n ' ' else List.replicate n ' ' ++ cs

/-- Digits with a sign in front and filling. -/
def number (l : Layout) (zeros : Bool) (sign digits : List Char) : List Char :=
  if zeros && l.zeros && !l.left then
    sign ++ List.replicate (l.width - sign.length - digits.length) '0' ++ digits
  else l.fill (sign ++ digits)

/-- The sign of a number. -/
def sign (l : Layout) (isNegative : Bool) : List Char :=
  if isNegative then ['-'] else if l.plus then ['+'] else if l.blank then [' '] else []

/-- A text, cut to the places there are for it. -/
def text (l : Layout) (cs : List Char) : List Char :=
  l.fill (match l.places with
    | some n => cs.take n
    | none => cs)

/-- Digits, as many as there are to be. -/
def digits (l : Layout) (base n : Nat) : List Char :=
  match l.places with
  | none => Nat.toDigits base n
  | some p =>
    if n = 0 then List.replicate p '0'
    else
      let ds := Nat.toDigits base n
      List.replicate (p - ds.length) '0' ++ ds

/-- A whole number. -/
def integer (l : Layout) (n : Int) : List Char :=
  l.number l.places.isNone (l.sign (n < 0)) (l.digits 10 n.natAbs)

/-- A whole number that is not below zero, in a base that a letter tells. -/
def unsigned (l : Layout) (letter : Char) (n : Nat) : List Char :=
  match letter with
  | 'o' =>
    let ds := l.digits 8 n
    let ds := if l.marked && ds.head? ≠ some '0' then '0' :: ds else ds
    l.number l.places.isNone [] ds
  | 'x' =>
    l.number l.places.isNone (if l.marked && n ≠ 0 then ['0', 'x'] else []) (l.digits 16 n)
  | 'X' =>
    l.number l.places.isNone (if l.marked && n ≠ 0 then ['0', 'X'] else [])
      ((l.digits 16 n).map Char.toUpper)
  | _ => l.number l.places.isNone [] (l.digits 10 n)

/-- A number with a fraction, in a way that a letter tells. The first digit of base 16 has `width`
binary digits. -/
def real (l : Layout) (letter : Char) (width : Nat) (r : Real) : List Char :=
  let size (cs : List Char) : List Char := if letter.isUpper then cs.map Char.toUpper else cs
  let places := l.places.getD 6
  match r with
  | .infinite s => l.number false (l.sign s) (size "inf".toList)
  | .noNumber s => l.number false (l.sign s) (size "nan".toList)
  | .finite s n d =>
    match letter.toLower with
    | 'f' => l.number true (l.sign s) (Real.fixed places l.marked n d)
    | 'e' => l.number true (l.sign s) (size (Real.scientific places l.marked n d))
    | 'a' =>
      l.number true (l.sign s ++ size ['0', 'x'])
        (size (Real.hexadecimal width l.places l.marked n d))
    | _ => l.number true (l.sign s) (size (Real.general places l.marked n d))

end Layout

end Golden.Host
