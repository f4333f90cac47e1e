/-! # Matching runs

Two sequences `a` and `b` are compared by the runs they have in common. The longest run in a window
is sought first (`longest`), then the windows in front of it and behind it are searched in turn
(`collect`). What is searched for is a run of elements of `b` that are not popular; an element is
popular if `b` is long and holds it often. The run found is then extended over all equal neighbours.
`blocks` lists the runs in ascending order, with an empty one at the end of both sequences. -/

namespace Golden.Diff

/-- A run of `len` elements that begins at `a` in one sequence and at `b` in the other. -/
structure Match where
  a : Nat
  b : Nat
  len : Nat
  deriving DecidableEq, Inhabited

/-- A window: the positions from `alo` up to `ahi` in one sequence, from `blo` up to `bhi` in the
other. -/
structure Window where
  alo : Nat
  ahi : Nat
  blo : Nat
  bhi : Nat
  deriving DecidableEq, Inhabited

variable {α : Type} [DecidableEq α]

/-! ### The index -/

/-- The length from which on popular elements are set aside. -/
def popularFrom : Nat := 200

/-- Whether an element of `b` is popular. -/
def isPopular (b : List α) (x : α) : Bool :=
  popularFrom ≤ b.length && b.length / 100 + 1 < b.count x

/-- The positions of an element in `b`, ascending. -/
def positions (b : List α) (x : α) : List Nat :=
  (b.zipIdx.filter fun p => p.1 = x).map (·.2)

/-- For every element of `a` its positions in `b`, or none if it is popular there. -/
def index (a b : List α) : List (List Nat) :=
  a.map fun x => if isPopular b x then [] else positions b x

/-! ### The longest run in a window -/

/-- The lengths of the runs that end at the positions `js`, given those that end one row above. -/
def nextRow : List (Nat × Nat) → List Nat → List (Nat × Nat)
  | _, [] => []
  | [], j :: js => (j, 1) :: nextRow [] js
  | (p, k) :: above, j :: js =>
    if p + 1 < j then nextRow above (j :: js)
    else if p + 1 = j then (j, k + 1) :: nextRow above js
    else (j, 1) :: nextRow ((p, k) :: above) js
termination_by above js => above.length + js.length

/-- The better of the best run so far and a run of length `k` that ends at `i` and `j`. -/
def better (i : Nat) (best : Match) (jk : Nat × Nat) : Match :=
  if best.len < jk.2 then ⟨i + 1 - jk.2, jk.1 + 1 - jk.2, jk.2⟩ else best

/-- Goes through the rows of a window, the first of which belongs to position `i`. -/
def scanRows (blo bhi : Nat) : List (List Nat) → Nat → List (Nat × Nat) → Match → Match
  | [], _, _, best => best
  | js :: rows, i, above, best =>
    let row := nextRow above (js.filter fun j => blo ≤ j && j < bhi)
    scanRows blo bhi rows (i + 1) row (row.foldl (better i) best)

/-- How far two sequences agree from the beginning. -/
def commonLength : List α → List α → Nat
  | x :: xs, y :: ys => if x = y then commonLength xs ys + 1 else 0
  | _, _ => 0

/-- Extends a run over equal neighbours on both sides, as far as the window allows. -/
def grow (a b : List α) (w : Window) (m : Match) : Match :=
  let back := commonLength ((a.take m.a).drop w.alo).reverse ((b.take m.b).drop w.blo).reverse
  let forth :=
    commonLength ((a.take w.ahi).drop (m.a + m.len)) ((b.take w.bhi).drop (m.b + m.len))
  ⟨m.a - back, m.b - back, back + m.len + forth⟩

/-- The longest run of unpopular elements in a window, the first in `a` and then in `b` if there are
several, extended over equal neighbours. -/
def longest (a b : List α) (rows : List (List Nat)) (w : Window) : Match :=
  grow a b w (scanRows w.blo w.bhi ((rows.take w.ahi).drop w.alo) w.alo [] ⟨w.alo, w.blo, 0⟩)

/-! ### All runs -/

/-- The windows in front of a run and behind it, the one behind first. -/
def remaining (w : Window) (m : Match) : List Window :=
  (if m.a + m.len < w.ahi ∧ m.b + m.len < w.bhi then [⟨m.a + m.len, w.ahi, m.b + m.len, w.bhi⟩]
    else []) ++
  (if w.alo < m.a ∧ w.blo < m.b then [⟨w.alo, m.a, w.blo, m.b⟩] else [])

/-- Takes windows from the top of a stack, looks for the longest run in each, and puts the windows
that remain back on the stack. Takes `n` windows at most. -/
def collect (a b : List α) (rows : List (List Nat)) : Nat → List Window → List Match
  | 0, _ => []
  | _, [] => []
  | n + 1, w :: stack =>
    let m := longest a b rows w
    if m.len = 0 then collect a b rows n stack
    else m :: collect a b rows n (remaining w m ++ stack)

/-- More windows than there can be: every run but the last leaves two, and takes one element of each
sequence or more. -/
def enough (a b : List α) : Nat := 2 * min a.length b.length + 1

/-- Whether a run comes before another. -/
def Match.le (m n : Match) : Bool :=
  m.a < n.a || (m.a = n.a && (m.b < n.b || (m.b = n.b && m.len ≤ n.len)))

/-- Joins runs that follow each other without a gap in either sequence. -/
def joinAdjacent (m : Match) : List Match → List Match
  | [] => [m]
  | n :: ms =>
    if m.a + m.len = n.a ∧ m.b + m.len = n.b then joinAdjacent ⟨m.a, m.b, m.len + n.len⟩ ms
    else m :: joinAdjacent n ms

/-- Joins all adjacent runs of a list. -/
def joined : List Match → List Match
  | [] => []
  | m :: ms => joinAdjacent m ms

/-- The runs that two sequences have in common, and the end of both. -/
def blocks (a b : List α) : List Match :=
  let found := collect a b (index a b) (enough a b) [⟨0, a.length, 0, b.length⟩]
  joined (found.mergeSort Match.le) ++ [⟨a.length, b.length, 0⟩]

end Golden.Diff
