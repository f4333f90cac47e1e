import Golden.Host.Awk.Value
import Golden.Host.Regex

/-! # Functions that every program has

The functions that only calculate: parts of texts and their places, and what takes the place of
matches. -/

namespace Golden.Host.Awk

/-- A number as a whole number that is not too large. -/
def toPlace (r : Real) : Int := r.toIntBetween (-4611686018427387904) 4611686018427387904

/-- The part of a text from a place on, of a length if there is one. What lies in front of the text
counts for the length, but the part begins with the text. -/
def partOf (s : String) (start : Int) (length : Option Int) : String :=
  let length := if start < 1 then length.map (· - start) else length
  let rest := s.toList.drop (max 1 start - 1).toNat
  match length with
  | none => String.ofList rest
  | some n => String.ofList (rest.take n.toNat)

/-- The place of a text in another one, or zero. -/
def placeOf (part : List Char) : Nat → List Char → Nat
  | n, [] => if part = [] then n else 0
  | n, c :: cs => if part.isPrefixOf (c :: cs) then n else placeOf part (n + 1) cs

/-- A piece of what takes the place of a match. -/
inductive Replacement where
  | letter (c : Char)
  /-- What has been matched. -/
  | matched
  deriving DecidableEq, Inhabited

/-- The pieces of what takes the place of a match. -/
def Replacement.ofText : List Char → List Replacement
  | '\\' :: '\\' :: '&' :: cs => .letter '\\' :: .matched :: ofText cs
  | '\\' :: '&' :: cs => .letter '&' :: ofText cs
  | '&' :: cs => .matched :: ofText cs
  | c :: cs => .letter c :: ofText cs
  | [] => []

/-- What takes the place of a match. -/
def Replacement.fill (ps : List Replacement) (found : List Char) : List Char :=
  ps.flatMap fun p => match p with
    | .letter c => [c]
    | .matched => found

/-- A text with matches replaced, from a place on. -/
def replacedFrom (t : Array Char) (ps : List Replacement) : Nat → List (Nat × Nat) → List Char
  | i, [] => (t.extract i t.size).toList
  | i, (a, b) :: rest =>
    (t.extract i a).toList ++ Replacement.fill ps (t.extract a b).toList ++
      replacedFrom t ps b rest

/-- A text with its first match or all of them replaced, and how many there are. -/
def replaced (m : Matcher) (all : Bool) (replacement s : String) : String × Nat :=
  let t := s.toList.toArray
  let found := if all then m.all t else (m.find? t 0).toList
  let places := found.filterMap fun c => c.getD 0 none
  let ps := Replacement.ofText replacement.toList
  (String.ofList (replacedFrom t ps 0 places), places.length)

/-- What a function calculates of a number. -/
def Native.real? : Native → Option (Real → Real)
  | .sin => some (Real.byMachine Float.sin)
  | .cos => some (Real.byMachine Float.cos)
  | .exp => some (Real.byMachine Float.exp)
  | .log => some (Real.byMachine Float.log)
  | .sqrt => some Real.sqrt
  | .int => some Real.truncate
  | _ => none

/-- The number that follows in a row of numbers that look accidental, below 2 to the 31. -/
def nextRandom (n : Nat) : Nat := (n * 1103515245 + 12345) % Nat.pow 2 31

end Golden.Host.Awk
