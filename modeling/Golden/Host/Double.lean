import Golden.Host.Decimal

/-! # Arithmetic of 64 bits

Numbers are added, multiplied and divided exactly, and then as many binary digits of the result are
kept as there is room for. Functions that have no exact result are left to the machine. -/

namespace Golden.Host.Real

/-- What is kept of a number in 64 bits. A whole number of 53 bits is kept as it is. -/
def keep (r : Real) : Real :=
  match r with
  | .finite _ n d => if d = 1 && n < Nat.pow 2 53 then r else r.round .double
  | r => r

/-- What is no number: a result that there is none of. -/
def noResult : Real := .noNumber true

/-- A whole number with a sign. -/
def signed (isNegative : Bool) (n : Nat) : Int := if isNegative then -(n : Int) else n

/-- A fraction with a sign, where zero has the given one. -/
def ofSigned (zeroSign : Bool) (n : Int) (d : Nat) : Real :=
  if n = 0 then .finite zeroSign 0 1 else .finite (n < 0) n.natAbs d

/-- The number with the other sign. -/
def neg : Real → Real
  | .finite s n d => .finite (!s) n d
  | .infinite s => .infinite (!s)
  | .noNumber s => .noNumber (!s)

/-- The sum. -/
def add : Real → Real → Real
  | .noNumber s, _ | _, .noNumber s => .noNumber s
  | .infinite s, .infinite t => if s = t then .infinite s else noResult
  | .infinite s, _ | _, .infinite s => .infinite s
  | .finite s n d, .finite t m e =>
    keep (ofSigned (s && t) (signed s n * e + signed t m * d) (d * e))

/-- The difference. -/
def sub (a b : Real) : Real := add a b.neg

/-- Whether a number is zero. -/
def isZero : Real → Bool
  | .finite _ n _ => n = 0
  | _ => false

/-- The product. -/
def mul : Real → Real → Real
  | .noNumber s, _ | _, .noNumber s => .noNumber s
  | .infinite s, r | r, .infinite s =>
    if r.isZero then noResult else .infinite (s != r.isNegative)
  | .finite s n d, .finite t m e => keep (.finite (s != t) (n * m) (d * e))

/-- The quotient. -/
def div : Real → Real → Real
  | .noNumber s, _ | _, .noNumber s => .noNumber s
  | .infinite _, .infinite _ => noResult
  | .infinite s, r => .infinite (s != r.isNegative)
  | r, .infinite s => .finite (s != r.isNegative) 0 1
  | .finite s n d, .finite t m e =>
    if m = 0 then if n = 0 then noResult else .infinite (s != t)
    else keep (.finite (s != t) (n * e) (d * m))

/-- What is left of a division with a whole quotient, with the sign of what is divided. -/
def rem : Real → Real → Real
  | .noNumber s, _ | _, .noNumber s => .noNumber s
  | .infinite _, _ => noResult
  | r, .infinite _ => r
  | .finite s n d, .finite _ m e =>
    if m = 0 then noResult else keep (.finite s ((n * e) % (m * d)) (d * e))

/-- The number without its fraction. -/
def truncate : Real → Real
  | .finite s n d => .finite s (n / d) 1
  | r => r

/-- Whether a number has no fraction. -/
def isWhole : Real → Bool
  | .finite _ n d => n % d = 0
  | _ => false

/-- The nearest whole number towards zero, between bounds. -/
def toIntBetween (least greatest : Int) : Real → Int
  | .finite s n d => max least (min greatest (signed s (n / d)))
  | .infinite s => if s then least else greatest
  | .noNumber _ => least

/-- Compares two numbers. What is no number is like all others. -/
def order : Real → Real → Ordering
  | .noNumber _, _ | _, .noNumber _ => .eq
  | .infinite s, .infinite t => compare (if s then 0 else 1) (if t then 0 else 1)
  | .infinite s, _ => if s then .lt else .gt
  | _, .infinite s => if s then .gt else .lt
  | .finite s n d, .finite t m e => compare (signed s n * e) (signed t m * d)

/-! ### The machine's numbers -/

/-- The machine's number. -/
def toFloat : Real → Float
  | .finite s n d =>
    let e := Fraction.exponent2 (max n 1) d - 60
    let m := if 0 ≤ e then n / (d * Nat.pow 2 e.toNat) else n * Nat.pow 2 (-e).toNat / d
    let x := (Float.ofNat m).scaleB e
    if s then -x else x
  | .infinite s => if s then -(1.0 / 0.0) else 1.0 / 0.0
  | .noNumber _ => 0.0 / 0.0

/-- The number that the machine has. -/
def ofFloat (x : Float) : Real :=
  if x.isNaN then noResult
  else if x.isInf then .infinite (x < 0)
  else
    let bits := x.toBits.toNat
    let isNegative := bits / Nat.pow 2 63 = 1
    let exponent : Nat := bits / Nat.pow 2 52 % Nat.pow 2 11
    let fraction : Nat := bits % Nat.pow 2 52
    let (m, e) : Nat × Int :=
      if exponent = 0 then (fraction, -1074)
      else (fraction + Nat.pow 2 52, (exponent : Int) - 1075)
    let (n, d) := Fraction.scaled m e
    .finite isNegative n d

/-- A function of the machine. -/
def byMachine (f : Float → Float) (r : Real) : Real := ofFloat (f r.toFloat)

/-- The square root, rounded. -/
def sqrt (r : Real) : Real := byMachine Float.sqrt r

/-- The power. Small whole exponents are exact until the result is kept. -/
def pow (a b : Real) : Real :=
  match a, b with
  | .finite s n d, .finite t m e =>
    if m % e = 0 && m / e ≤ 4096 then
      let k := m / e
      let sign := s && k % 2 = 1
      let (n, d) := (Nat.pow n k, Nat.pow d k)
      if t then if n = 0 then .infinite sign else keep (.finite sign d n)
      else keep (.finite sign n d)
    else ofFloat (Float.pow a.toFloat b.toFloat)
  | a, b => ofFloat (Float.pow a.toFloat b.toFloat)

end Golden.Host.Real
