import Golden.Diff.Match
import Std.Data.HashMap

/-! # Differences of two rows of lines

Two rows of lines are told apart by the lines that are missing in the other one. The search goes
from both ends at once, until the two sides meet (`middle`), and then goes on in the halves
(`unshared`). Lines that are nowhere in the other row are left out first, and so are lines that
are there too often to tell anything (`kept`). At last runs of lines are moved as far as possible
towards the end, or to where the other row has a run too (`slide`). -/

namespace Golden.Host.Compare

/-- The lines of a row that are missing in the other one. -/
abbrev Marks : Type := Array Bool

/-- Whether a place is marked. Places outside are not. -/
def isMarked (m : Marks) (i : Int) : Bool := if i < 0 then false else m[i.toNat]?.getD false

/-- Marks a place, or takes a mark away. -/
def setMark (m : Marks) (i : Int) (b : Bool) : Marks := m.setIfInBounds i.toNat b

/-! ### The search from both ends -/

/-- How far the search has come on each diagonal. -/
abbrev Reach : Type := Std.HashMap Int Int

/-- Where the search is: the limits of the diagonals, and how far it has come. -/
structure Front where
  least : Int
  greatest : Int
  reach : Reach
  deriving Inhabited

/-- A part of both rows: where it begins and ends. -/
structure Box where
  left : Int
  right : Int
  top : Int
  bottom : Int
  deriving DecidableEq, Inhabited

/-- Widens the diagonals of a front by one on both sides, as far as there are any. -/
def Front.widen (f : Front) (b : Box) (outside : Int) : Front :=
  let low := b.left - b.bottom
  let high := b.right - b.top
  let f := if low < f.least then
      { f with least := f.least - 1, reach := f.reach.insert (f.least - 2) outside }
    else { f with least := f.least + 1 }
  if f.greatest < high then
    { f with greatest := f.greatest + 1, reach := f.reach.insert (f.greatest + 2) outside }
  else { f with greatest := f.greatest - 1 }

/-- Goes on along equal lines. -/
def runForth (same : Int → Int → Bool) (b : Box) : Nat → Int → Int → Int
  | 0, x, _ => x
  | n + 1, x, y =>
    if x < b.right && y < b.bottom && same x y then runForth same b n (x + 1) (y + 1) else x

/-- Goes back along equal lines. -/
def runBack (same : Int → Int → Bool) (b : Box) : Nat → Int → Int → Int
  | 0, x, _ => x
  | n + 1, x, y =>
    if b.left < x && b.top < y && same (x - 1) (y - 1) then runBack same b n (x - 1) (y - 1) else x

/-- Goes on by one difference on each diagonal from `d` down. Gives the place where the other front
is met, if it is. -/
def advance (step : Int → Reach → Int) (meets : Int → Int → Bool) :
    Nat → Int → Front → Front × Option (Int × Int)
  | 0, _, f => (f, none)
  | n + 1, d, f =>
    if d < f.least then (f, none)
    else
      let x := step d f.reach
      let f := { f with reach := f.reach.insert d x }
      if meets d x then (f, some (x, x - d)) else advance step meets n (d - 2) f

/-- Goes on from both ends until they meet. -/
def meet (same : Int → Int → Bool) (b : Box) (isOdd : Bool) (size : Nat) :
    Nat → Front → Front → Int × Int
  | 0, _, _ => (b.left, b.top)
  | n + 1, f, g =>
    let get (r : Reach) (d : Int) : Int := r.getD d 0
    let f := f.widen b (-1)
    let forth (d : Int) (r : Reach) : Int :=
      let low := get r (d - 1)
      let high := get r (d + 1)
      let x := if low < high then high else low + 1
      runForth same b size x (x - d)
    let meetsBack (d x : Int) : Bool :=
      isOdd && g.least ≤ d && d ≤ g.greatest && get g.reach d ≤ x
    match advance forth meetsBack (size + 1) f.greatest f with
    | (_, some p) => p
    | (f, none) =>
      let g := g.widen b ((b.right + b.bottom) * 2 + 2)
      let back (d : Int) (r : Reach) : Int :=
        let low := get r (d - 1)
        let high := get r (d + 1)
        let x := if low < high then low else high - 1
        runBack same b size x (x - d)
      let meetsForth (d x : Int) : Bool :=
        !isOdd && f.least ≤ d && d ≤ f.greatest && x ≤ get f.reach d
      match advance back meetsForth (size + 1) g.greatest g with
      | (_, some p) => p
      | (g, none) => meet same b isOdd size n f g

/-- A place in the middle through which a shortest way leads. -/
def middle (same : Int → Int → Bool) (b : Box) : Int × Int :=
  let f := b.left - b.top
  let g := b.right - b.bottom
  let size := (b.right - b.left + (b.bottom - b.top)).toNat + 1
  meet same b ((f - g) % 2 ≠ 0) size size ⟨f, f, (∅ : Reach).insert f b.left⟩
    ⟨g, g, (∅ : Reach).insert g b.right⟩

/-- The lines of a part of both rows that the other row does not have, with a bound on the depth. -/
def unshared (same : Int → Int → Bool) : Nat → Box → List Int × List Int
  | 0, _ => ([], [])
  | n + 1, b =>
    let size := (b.right - b.left).toNat + 1
    let x := runForth same b size b.left b.top
    let b := { b with left := x, top := b.top + (x - b.left) }
    let x := runBack same b size b.right b.bottom
    let b := { b with right := x, bottom := b.bottom - (b.right - x) }
    let range (i k : Int) : List Int := (List.range (k - i).toNat).map fun (j : Nat) => i + j
    if b.left = b.right then ([], range b.top b.bottom)
    else if b.top = b.bottom then (range b.left b.right, [])
    else
      let (x, y) := middle same b
      let (a, c) := unshared same n { b with right := x, bottom := y }
      let (d, e) := unshared same n { b with left := x, top := y }
      (a ++ d, c ++ e)

/-! ### Lines that tell nothing -/

/-- What becomes of a line before the search. -/
inductive Fate where
  | keeps
  | leaves
  /-- The line is left out if its neighbours are. -/
  | mayLeave
  deriving DecidableEq, Inhabited

/-- How often a number can be divided by four, as a power of two. -/
def rootPower : Nat → Nat → Nat
  | 0, _ => 1
  | n + 1, k => if k / 4 = 0 then 1 else 2 * rootPower n (k / 4)

/-- The number of lines in the other row from which on a line tells nothing. -/
def tooMany (lines : Nat) : Nat := 5 * rootPower lines (lines / 64)

/-- The fates of lines, by how often they are in the other row. -/
def firstFates (counts : List Nat) : List Fate :=
  let many := tooMany counts.length
  counts.map fun n => if n = 0 then .leaves else if many < n then .mayLeave else .keeps

/-- Keeps lines of which too many follow one another. -/
def keepRuns (minimum : Nat) : List Fate → List Fate → List Fate
  | run, .mayLeave :: fs => keepRuns minimum (.mayLeave :: run) fs
  | run, f :: fs => settle run ++ f :: keepRuns minimum [] fs
  | run, [] => settle run
where
  /-- A run that is too long is kept. -/
  settle (run : List Fate) : List Fate :=
    if minimum ≤ run.length then run.map fun _ => .keeps else run

/-- Keeps lines at the beginning of a run, up to three lines in a row that leave, or one behind the
eighth. -/
def keepFront : Nat → Nat → List Fate → List Fate
  | _, _, [] => []
  | k, inRow, f :: fs =>
    if 8 ≤ k && f = .leaves then f :: fs
    else
      match f with
      | .leaves => if inRow = 2 then f :: fs else f :: keepFront (k + 1) (inRow + 1) fs
      | _ => .keeps :: keepFront (k + 1) 0 fs

/-- The fates of lines in a run that begins and ends with lines that leave. -/
def settleRun (run : List Fate) : List Fate :=
  let length := run.length
  let unsettled := run.count .mayLeave
  if length < unsettled * 4 then run.map fun f => if f = .mayLeave then .keeps else f
  else
    let minimum := rootPower length (length / 4) + 1
    (keepFront 0 0 (keepFront 0 0 (keepRuns minimum [] run)).reverse).reverse

/-- The fates of lines. Those that may leave do so only between lines that leave. -/
def settleFates : Nat → List Fate → List Fate
  | 0, fs => fs
  | _, [] => []
  | n + 1, .leaves :: fs =>
    let run := .leaves :: fs.takeWhile (· ≠ .keeps)
    let back := run.reverse.takeWhile (· = .mayLeave)
    let front := run.take (run.length - back.length)
    settleRun front ++ (back.map fun _ => .keeps) ++ settleFates n (fs.drop (run.length - 1))
  | n + 1, _ :: fs => .keeps :: settleFates n fs

/-- The fates of the lines of a row, with another row in which they may be. -/
def fatesIn (row other : Array Nat) : List Fate :=
  let counts : Std.HashMap Nat Nat := other.foldl (fun m k => m.insert k (m.getD k 0 + 1)) ∅
  let fates := firstFates (row.toList.map fun k => counts.getD k 0)
  settleFates (fates.length + 1) fates

/-- The places of the lines that are kept. -/
def kept (fates : List Fate) : Array Nat :=
  (fates.zipIdx.filterMap fun p => if p.1 = .keeps then some p.2 else none).toArray

/-! ### Moving runs -/

/-- A run of marked lines in a row, and the corresponding place in the other row. -/
structure Run where
  marks : Marks
  start : Int
  stop : Int
  place : Int
  /-- The last end at which the other row has a run too. -/
  shared : Option Int
  deriving DecidableEq, Inhabited

/-- The first place from `i` on that is not marked. -/
def passForth (m : Marks) : Nat → Int → Int
  | 0, i => i
  | n + 1, i => if isMarked m i then passForth m n (i + 1) else i

/-- The place from which on all is marked up to `i`. -/
def passBack (m : Marks) : Nat → Int → Int
  | 0, i => i
  | n + 1, i => if isMarked m (i - 1) then passBack m n (i - 1) else i

/-- The place in front of `j` that is not marked. -/
def before (other : Marks) (j : Int) : Int := passBack other (other.size + 1) j - 1

/-- Moves a run back as long as that changes nothing. -/
def moveBack (row : Array Nat) (other : Marks) : Nat → Run → Run
  | 0, r => r
  | n + 1, r =>
    if 0 < r.start && row[(r.start - 1).toNat]? = row[(r.stop - 1).toNat]? then
      let marks := setMark (setMark r.marks (r.start - 1) true) (r.stop - 1) false
      moveBack row other n
        { r with
          marks
          start := passBack marks marks.size (r.start - 1)
          stop := r.stop - 1
          place := before other r.place }
    else r

/-- Moves a run towards the end as long as that changes nothing. -/
def moveForth (row : Array Nat) (other : Marks) : Nat → Run → Run
  | 0, r => r
  | n + 1, r =>
    if r.stop < row.size && row[r.start.toNat]? = row[r.stop.toNat]? then
      let marks := setMark (setMark r.marks r.start false) r.stop true
      let stop := passForth marks marks.size (r.stop + 1)
      let place := passForth other other.size (r.place + 1)
      moveForth row other n
        { r with
          marks
          start := r.start + 1
          stop
          place
          shared := if place ≠ r.place + 1 then some stop else r.shared }
    else r

/-- Moves a run back and forth until it does not grow. -/
def grow (row : Array Nat) (other : Marks) : Nat → Run → Run
  | 0, r => r
  | n + 1, r =>
    let length := r.stop - r.start
    let r := moveBack row other (row.size + 1) r
    let r := { r with shared := if isMarked other (r.place - 1) then some r.stop else none }
    let r := moveForth row other (row.size + 1) r
    if r.stop - r.start = length then r else grow row other n r

/-- Moves a run back by some lines. -/
def backBy (other : Marks) : Nat → Run → Run
  | 0, r => r
  | n + 1, r =>
    backBy other n
      { r with
        marks := setMark (setMark r.marks (r.start - 1) true) (r.stop - 1) false
        start := r.start - 1
        stop := r.stop - 1
        place := before other r.place }

/-- The next place that is marked, and the corresponding place in the other row. -/
def findRun (size : Nat) (m other : Marks) : Nat → Int → Int → Int × Int
  | 0, i, j => (i, j)
  | n + 1, i, j =>
    if i < size && !isMarked m i then
      findRun size m other n (i + 1) (passForth other other.size j + 1)
    else (i, j)

/-- Moves the runs of a row from a place on. -/
def slideFrom (row : Array Nat) (other : Marks) : Nat → Int → Int → Marks → Marks
  | 0, _, _, m => m
  | n + 1, i, j, m =>
    let (i, j) := findRun row.size m other (row.size + 1) i j
    if row.size ≤ i then m
    else
      let stop := passForth m m.size (i + 1)
      let place := passForth other other.size j
      let r := grow row other (row.size + 1) ⟨m, i, stop, place, none⟩
      let r := match r.shared with
        | some k => backBy other (r.stop - k).toNat r
        | none => r
      slideFrom row other n r.stop r.place r.marks

/-- Moves the runs of a row. -/
def slide (row : Array Nat) (m other : Marks) : Marks := slideFrom row other (row.size + 1) 0 0 m

/-! ### Changes -/

/-- A change: where it is in both rows, and how many lines it takes from the one and brings from the
other. -/
structure Change where
  left : Nat
  right : Nat
  taken : Nat
  brought : Nat
  deriving DecidableEq, Inhabited

/-- Collects the changes, going through both rows, at most `n` lines. -/
def collect (m k : Marks) : Nat → Nat → Nat → List Change
  | 0, _, _ => []
  | n + 1, i, j =>
    if m.size ≤ i && k.size ≤ j then []
    else
      let x := (passForth m m.size i).toNat
      let y := (passForth k k.size j).toNat
      if x = i && y = j then collect m k n (i + 1) (j + 1)
      else ⟨i, j, x - i, y - j⟩ :: collect m k n x y

/-- The changes that make one row of lines out of another. So many lines around what differs are
looked at too. -/
def changes (context : Nat) (a b : Array Nat) : List Change :=
  let front := Diff.commonLength a.toList b.toList - context
  let restA := a.toList.drop front
  let restB := b.toList.drop front
  let back := Diff.commonLength restA.reverse restB.reverse - context
  let rowA := (restA.take (restA.length - back)).toArray
  let rowB := (restB.take (restB.length - back)).toArray
  let fatesA := fatesIn rowA rowB
  let fatesB := fatesIn rowB rowA
  let keptA := kept fatesA
  let keptB := kept fatesB
  let line (row keptLines : Array Nat) (i : Int) : Option Nat :=
    keptLines[i.toNat]?.bind fun k => row[k]?
  let same (x y : Int) : Bool := line rowA keptA x = line rowB keptB y
  let (xs, ys) := unshared same (keptA.size + keptB.size + 1) ⟨0, keptA.size, 0, keptB.size⟩
  let marksOf (fates : List Fate) (keptLines : Array Nat) (places : List Int) : Marks :=
    places.foldl (fun m i => match keptLines[i.toNat]? with
      | some k => m.setIfInBounds k true
      | none => m) (fates.map fun f => decide (f ≠ .keeps)).toArray
  let marksA := marksOf fatesA keptA xs
  let marksB := marksOf fatesB keptB ys
  let marksA := slide rowA marksA marksB
  let marksB := slide rowB marksB marksA
  (collect marksA marksB (rowA.size + rowB.size + 1) 0 0).map fun c =>
    { c with left := c.left + front, right := c.right + front }

end Golden.Host.Compare
