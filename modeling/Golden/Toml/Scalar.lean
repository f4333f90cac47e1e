import Golden.Toml.Basic

/-! # Plain values

Booleans, numbers, dates and times are written without quotes. `plainValue?` tells what a word is,
if it is one of these. -/

namespace Golden.Toml

/-- Whether the characters are digits of the given base, with single underscores between them. -/
def isDigits (isDigit : Char → Bool) : List Char → Bool
  | [] => false
  | [c] => isDigit c
  | c :: '_' :: rest => isDigit c && isDigits isDigit rest
  | c :: rest => isDigit c && isDigits isDigit rest

/-- The value of a digit. -/
def digitValue (c : Char) : Nat :=
  if c ≤ '9' then c.toNat - '0'.toNat
  else if c ≤ 'F' then c.toNat - 'A'.toNat + 10
  else c.toNat - 'a'.toNat + 10

/-- The number that digits stand for. Underscores do not count. -/
def digitsValue (base : Nat) (cs : List Char) : Nat :=
  (cs.filter (· ≠ '_')).foldl (fun n c => n * base + digitValue c) 0

/-- Whether a character is a decimal digit. -/
def isDecimal (c : Char) : Bool := '0' ≤ c && c ≤ '9'

/-- Whether a character is a hexadecimal digit. -/
def isHex (c : Char) : Bool := isDecimal c || ('a' ≤ c && c ≤ 'f') || ('A' ≤ c && c ≤ 'F')

/-- Whether a character is a digit in base `n`, where `n` is at most ten. -/
def isBelow (n : Nat) (c : Char) : Bool := isDecimal c && c.toNat - '0'.toNat < n

/-- Whether the characters are a decimal number without sign and without zeros in front. -/
def isPlainDecimal (cs : List Char) : Bool :=
  isDigits isDecimal cs && (cs.head? ≠ some '0' || cs = ['0'])

/-- Drops a sign. -/
def unsigned : List Char → List Char
  | '+' :: cs => cs
  | '-' :: cs => cs
  | cs => cs

/-! ### Integers -/

/-- Whether the word is an integer, and if so, whether it fits into 128 bits. -/
def integerFits? (cs : List Char) : Option Bool :=
  let based (isDigit : Char → Bool) (base : Nat) (ds : List Char) : Option Bool :=
    if isDigits isDigit ds then some (digitsValue base ds < Nat.pow 2 128) else none
  match cs with
  | '0' :: 'x' :: ds => based isHex 16 ds
  | '0' :: 'o' :: ds => based (isBelow 8) 8 ds
  | '0' :: 'b' :: ds => based (isBelow 2) 2 ds
  | _ =>
    let ds := unsigned cs
    if isPlainDecimal ds then
      let n := digitsValue 10 ds
      some (if cs.head? = some '-' then n ≤ Nat.pow 2 127 else n < Nat.pow 2 128)
    else none

/-! ### Floats -/

/-- The parts of a float: digits in front of the point, behind it, and of the exponent. -/
structure FloatParts where
  whole : List Char
  fraction : Option (List Char)
  exponent : Option (List Char)

/-- Cuts a word at the point and at the exponent. -/
def floatParts (cs : List Char) : FloatParts :=
  let isE (c : Char) : Bool := c = 'e' || c = 'E'
  let mantissa := cs.takeWhile fun c => !isE c
  let exponent := match cs.dropWhile fun c => !isE c with
    | _ :: rest => some rest
    | [] => none
  let fraction := match mantissa.dropWhile (· ≠ '.') with
    | _ :: rest => some rest
    | [] => none
  ⟨mantissa.takeWhile (· ≠ '.'), fraction, exponent⟩

/-- Whether the parts have the form of a float. -/
def FloatParts.isWellFormed (p : FloatParts) : Bool :=
  isPlainDecimal p.whole && (p.fraction.isSome || p.exponent.isSome) &&
    (p.fraction.all (isDigits isDecimal)) &&
      (p.exponent.all fun e => isDigits isDecimal (unsigned e))

/-- The exponent of a float. -/
def FloatParts.power (p : FloatParts) : Int :=
  match p.exponent with
  | none => 0
  | some ('-' :: ds) => -(digitsValue 10 ds : Int)
  | some ds => digitsValue 10 (unsigned ds)

/-- Half a step beyond the greatest number of 64 bits. -/
def tooGreat : Nat := Nat.pow 2 1024 - Nat.pow 2 970

/-- Whether a float is too great for 64 bits. -/
def FloatParts.overflows (p : FloatParts) : Bool :=
  let fraction := (p.fraction.getD []).filter (· ≠ '_')
  let mantissa := digitsValue 10 (p.whole ++ fraction)
  let power := p.power - fraction.length
  if mantissa = 0 then false
  else if 400 < power then true
  else if 0 ≤ power then tooGreat ≤ mantissa * Nat.pow 10 power.toNat
  else if power < -1000 - fraction.length - p.whole.length then false
  else tooGreat * Nat.pow 10 (-power).toNat ≤ mantissa

/-- Whether the word is a float, and if so, whether it fits into 64 bits. -/
def floatFits? (cs : List Char) : Option Bool :=
  let ds := unsigned cs
  if ds = "inf".toList || ds = "nan".toList then some true
  else
    let p := floatParts ds
    if p.isWellFormed then some (!p.overflows) else none

/-! ### Dates and times -/

/-- The number of exactly `n` digits in front, and what follows. -/
def fixedNumber (n : Nat) (cs : List Char) : Option (Nat × List Char) :=
  let ds := cs.take n
  if ds.length = n && ds.all isDecimal then some (digitsValue 10 ds, cs.drop n) else none

/-- Takes a character off the front. -/
def expect (c : Char) : List Char → Option (List Char)
  | d :: rest => if c = d then some rest else none
  | [] => none

/-- Whether a year has a leap day. -/
def isLeapYear (y : Nat) : Bool := y % 4 = 0 && (y % 100 ≠ 0 || y % 400 = 0)

/-- The number of days in a month. -/
def daysIn (year month : Nat) : Nat :=
  if month = 2 then if isLeapYear year then 29 else 28
  else if month = 4 || month = 6 || month = 9 || month = 11 then 30
  else 31

/-- What follows a date. -/
def dropDate? (cs : List Char) : Option (List Char) := do
  let (year, cs) ← fixedNumber 4 cs
  let (month, cs) ← fixedNumber 2 (← expect '-' cs)
  let (day, cs) ← fixedNumber 2 (← expect '-' cs)
  guard (1 ≤ month && month ≤ 12 && 1 ≤ day && day ≤ daysIn year month)
  return cs

/-- What follows a fraction of a second, if there is one. -/
def dropFraction? : List Char → Option (List Char)
  | '.' :: cs => if cs.head?.any isDecimal then some (cs.dropWhile isDecimal) else none
  | cs => some cs

/-- What follows a time. -/
def dropTime? (cs : List Char) : Option (List Char) := do
  let (hour, cs) ← fixedNumber 2 cs
  let (minute, cs) ← fixedNumber 2 (← expect ':' cs)
  guard (hour ≤ 23 && minute ≤ 59)
  match cs with
  | ':' :: cs => do
    let (second, cs) ← fixedNumber 2 cs
    guard (second ≤ 60)
    dropFraction? cs
  | cs => return cs

/-- Whether the characters are a distance from universal time, or nothing. -/
def isOffset : List Char → Bool
  | [] => true
  | ['Z'] => true
  | ['z'] => true
  | c :: cs =>
    (c = '+' || c = '-') &&
      (match fixedNumber 2 cs with
      | some (hours, ':' :: rest) =>
        (match fixedNumber 2 rest with
        | some (minutes, []) => hours ≤ 23 && minutes ≤ 59
        | _ => false)
      | _ => false)

/-- Whether the word is a date, a time, or both. -/
def isDatetime (cs : List Char) : Bool :=
  match dropDate? cs with
  | some [] => true
  | some (c :: rest) =>
    (c = 'T' || c = 't' || c = ' ') && (match dropTime? rest with
      | some offset => isOffset offset
      | none => false)
  | none => dropTime? cs = some []

/-- What a word without quotes stands for. -/
def plainValue? (cs : List Char) : Option Value :=
  if cs = "true".toList then some (.boolean true)
  else if cs = "false".toList then some (.boolean false)
  else if isDatetime cs then some .datetime
  else ((integerFits? cs).or (floatFits? cs)).map .number

end Golden.Toml
