/-! # Alignments

Where a part of a text is replaced, its lines are aligned with the new ones by a longest common
subsequence. What both sides have in common at the beginning and at the end is set aside first. -/

namespace Golden.Diff

/-- An entry of an alignment. -/
inductive Entry (α : Type) where
  | left (x : α)
  | both (x y : α)
  | right (y : α)
  deriving DecidableEq

namespace Entry

variable {α : Type}

/-- What the entry takes from the first sequence. -/
def fst? : Entry α → Option α
  | left x | both x _ => some x
  | right _ => none

/-- What the entry takes from the second sequence. -/
def snd? : Entry α → Option α
  | right y | both _ y => some y
  | left _ => none

end Entry

variable {α : Type} [DecidableEq α]

/-- The next row of the table of lengths: `above` is the row above it without its first entry,
`corner` the entry above the last one computed, and `last` the last one computed. -/
def nextLengths (x : α) : List α → List Nat → Nat → Nat → List Nat
  | y :: ys, up :: above, corner, last =>
    let n := if x = y then corner + 1 else max up last
    n :: nextLengths x ys above up n
  | _, _, _, _ => []

/-- The table of lengths, from the last row up. A row belongs to a beginning of the first sequence,
and its entries are the lengths of a longest subsequence in common with the beginnings of `ys`. -/
def lengthTable (ys : List α) : List α → List (List Nat) → List (List Nat)
  | x :: xs, row :: rows =>
    lengthTable ys xs ((0 :: nextLengths x ys row.tail 0 0) :: row :: rows)
  | _, rows => rows

/-- The row for the empty beginning. -/
def zeroRow (ys : List α) : List Nat := 0 :: ys.map fun _ => 0

/-- Reads an alignment off the table, backwards: `xs` and `ys` are what is left of both sequences,
the last elements first. `row` and `rows` are the rows that belong to `xs` and to its tails, the
last entries first. -/
def readBack : List α → List α → List Nat → List (List Nat) → List (Entry α)
  | xs, y :: ys, row, rows =>
    if xs = [] ∨ row.head? = row.tail.head? then
      .right y :: readBack xs ys row.tail (rows.map List.tail)
    else
      match xs, rows with
      | x :: xs, up :: rows =>
        if row.head? = up.head? then .left x :: readBack xs (y :: ys) up rows
        else .both x y :: readBack xs ys up.tail (rows.map List.tail)
      | _, _ => []
  | x :: xs, [], _, rows => .left x :: readBack xs [] (rows.headD []) rows.tail
  | [], [], _, _ => []
termination_by xs ys => xs.length + ys.length

/-- Aligns two sequences by a longest common subsequence. -/
def alignMiddle (xs ys : List α) : List (Entry α) :=
  match (lengthTable ys xs [zeroRow ys]).map List.reverse with
  | row :: rows => (readBack xs.reverse ys.reverse row rows).reverse
  | [] => []

/-- Splits off what two sequences have in common at the beginning. -/
def splitCommon : List α → List α → List (Entry α) × List α × List α
  | x :: xs, y :: ys =>
    if x = y then
      let (es, rest) := splitCommon xs ys
      (.both x y :: es, rest)
    else ([], x :: xs, y :: ys)
  | xs, ys => ([], xs, ys)

/-- Aligns two sequences. -/
def align (xs ys : List α) : List (Entry α) :=
  let (front, xs, ys) := splitCommon xs ys
  let (back, xs, ys) := splitCommon xs.reverse ys.reverse
  front ++ alignMiddle xs.reverse ys.reverse ++ back.reverse

end Golden.Diff
