import Golden.Diff.Alignment
import Golden.Diff.Match
import Golden.Paint
import Golden.Text.Lines

/-! # Edits and how they are reported

The edits between two sequences cover both of them from the beginning to the end: the common runs
are kept, and what lies between them is deleted, inserted or replaced.

A report shows how output differs from what was expected: one hunk for every edit that keeps
nothing, between two rules. A hunk has a banner with the numbers of the lines, then the lines: those
that are missing after `- `, those that are new after `+ `, and those in common after two spaces. -/

namespace Golden.Diff

/-! ### Edits -/

/-- What an edit does to the part of the first sequence that it covers. -/
inductive EditKind where
  | equal
  | delete
  | insert
  | replace
  deriving DecidableEq, Inhabited

/-- An edit: what happens to the positions from `aStart` up to `aEnd`, in view of those of the other
sequence from `bStart` up to `bEnd`. -/
structure Edit where
  kind : EditKind
  aStart : Nat
  aEnd : Nat
  bStart : Nat
  bEnd : Nat
  deriving DecidableEq, Inhabited

/-- The edit between the positions `i`, `j` and a run that begins later, if there is a gap. -/
def gap (i j : Nat) (m : Match) : List Edit :=
  if i < m.a then
    if j < m.b then [⟨.replace, i, m.a, j, m.b⟩] else [⟨.delete, i, m.a, j, m.b⟩]
  else if j < m.b then [⟨.insert, i, m.a, j, m.b⟩]
  else []

/-- The edit of a run, unless it is empty. -/
def kept (m : Match) : List Edit :=
  if m.len = 0 then [] else [⟨.equal, m.a, m.a + m.len, m.b, m.b + m.len⟩]

/-- The edits from the positions `i` and `j` on. -/
def editsFrom (i j : Nat) : List Match → List Edit
  | [] => []
  | m :: ms => gap i j m ++ (kept m ++ editsFrom (m.a + m.len) (m.b + m.len) ms)

/-- The edits that turn `a` into `b`. -/
def edits {α : Type} [DecidableEq α] (a b : List α) : List Edit := editsFrom 0 0 (blocks a b)

/-- The edits that turn the lines of one text into those of another. -/
def lineEdits (expected actual : String) : List Edit :=
  edits (Text.splitLines expected.toList) (Text.splitLines actual.toList)

/-! ### Reports -/

/-- The rule above and below a report. -/
def rule : String := String.ofList (List.replicate 70 '*')

/-- The numbers of the lines from `start` up to `stop`, counted from 1. -/
def lineNumbers (start stop : Nat) : String :=
  if stop ≤ start + 1 then "line " ++ toString (start + 1)
  else "lines " ++ toString (start + 1) ++ "-" ++ toString stop

/-- The first line of a hunk. -/
def banner (e : Edit) : String :=
  match e.kind with
  | .equal => ""
  | .delete => "*** " ++ lineNumbers e.aStart e.aEnd ++ " of expected output missing:"
  | .replace =>
    "*** mismatch between " ++ lineNumbers e.aStart e.aEnd ++ " of expected output and " ++
      lineNumbers e.bStart e.bEnd ++ " of actual output:"
  | .insert =>
    "*** " ++ lineNumbers e.bStart e.bEnd ++
      " of actual output doesn't appear in expected output after line " ++ toString e.aEnd ++ ":"

/-- The part of a sequence from `start` up to `stop`. -/
def slice {α : Type} (xs : List α) (start stop : Nat) : List α := (xs.take stop).drop start

/-- The entries of a hunk. -/
def hunk {α : Type} [DecidableEq α] (a b : List α) (e : Edit) : List (Entry α) :=
  match e.kind with
  | .equal => []
  | .delete => (slice a e.aStart e.aEnd).map .left
  | .insert => (slice b e.bStart e.bEnd).map .right
  | .replace => align (slice a e.aStart e.aEnd) (slice b e.bStart e.bEnd)

/-- One line of a hunk. -/
def entryLine (p : Painter) : Entry (List Char) → String
  | .left x => line .removed "- " x
  | .both x _ => line .unchanged "  " x
  | .right y => line .added "+ " y
where
  /-- A line of a text after its mark. -/
  line (s : Style) (mark : String) (l : List Char) : String :=
    p.paint s (mark ++ String.ofList (Text.dropLast '\n' l))

/-- The lines of a hunk with its banner. -/
def hunkLines (p : Painter) (a b : List (List Char)) (e : Edit) : List String :=
  if e.kind = .equal then [] else banner e :: (hunk a b e).map (entryLine p)

/-- The lines of a report. -/
def reportLines (p : Painter) (expected actual : String) : List String :=
  let a := Text.splitLines expected.toList
  let b := Text.splitLines actual.toList
  [rule] ++ (edits a b).flatMap (hunkLines p a b) ++ [rule]

/-- A report of the differences between two texts. -/
def report (p : Painter) (expected actual : String) : String :=
  String.join ((reportLines p expected actual).map (· ++ "\n"))

end Golden.Diff
