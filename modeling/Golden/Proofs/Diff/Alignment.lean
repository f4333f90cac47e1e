import Golden.Diff.Alignment
import Mathlib.Data.List.Basic
import Mathlib.Tactic.Common

/-! # Alignments are sound

An alignment has every element of both sequences, in order, and puts elements side by side only if
they are equal (`Aligns`). The table of lengths has the lengths of longest common subsequences
(`lcsLength`), so that the alignment read off it puts two elements side by side only where the length
is neither that without the one nor that without the other.

* `lengthTable_eq`: the rows of the table.
* `aligns_readBack`: what is read off them, from the last elements to the first.
* `aligns_align`: an alignment of two sequences. -/

namespace Golden.Diff

variable {α : Type}

/-- **The entries align two sequences**: they have all elements of both, in order, and only equal
ones side by side. -/
inductive Aligns : List α → List α → List (Entry α) → Prop
  | nil : Aligns [] [] []
  | left (x : α) {xs ys : List α} {es : List (Entry α)} (h : Aligns xs ys es) :
    Aligns (x :: xs) ys (.left x :: es)
  | both (x : α) {xs ys : List α} {es : List (Entry α)} (h : Aligns xs ys es) :
    Aligns (x :: xs) (x :: ys) (.both x x :: es)
  | right (y : α) {xs ys : List α} {es : List (Entry α)} (h : Aligns xs ys es) :
    Aligns xs (y :: ys) (.right y :: es)

namespace Aligns

variable {xs ys xs' ys' : List α} {es es' : List (Entry α)}

theorem filterMap_fst (h : Aligns xs ys es) : es.filterMap Entry.fst? = xs := by
  induction h with
  | nil => rfl
  | left x _ ih => simp [Entry.fst?, ih]
  | both x _ ih => simp [Entry.fst?, ih]
  | right y _ ih => rw [List.filterMap_cons_none rfl, ih]

theorem filterMap_snd (h : Aligns xs ys es) : es.filterMap Entry.snd? = ys := by
  induction h with
  | nil => rfl
  | left x _ ih => rw [List.filterMap_cons_none rfl, ih]
  | both x _ ih => simp [Entry.snd?, ih]
  | right y _ ih => simp [Entry.snd?, ih]

/-- Only equal elements stand side by side. -/
theorem eq_of_both (h : Aligns xs ys es) {x y : α} (hxy : .both x y ∈ es) : x = y := by
  induction h with
  | nil => cases hxy
  | left _ _ ih | right _ _ ih =>
    rcases List.mem_cons.mp hxy with h | h
    · cases h
    · exact ih h
  | both _ _ ih =>
    rcases List.mem_cons.mp hxy with h | h
    · cases h
      rfl
    · exact ih h

/-- Sequences all elements of which stand side by side are equal. -/
theorem eq_of_forall_both (h : Aligns xs ys es) (hall : ∀ e ∈ es, ∃ x y, e = .both x y) :
    xs = ys := by
  induction h with
  | nil => rfl
  | left _ _ _ | right _ _ _ =>
    obtain ⟨_, _, he⟩ := hall _ List.mem_cons_self
    cases he
  | both x _ ih => rw [ih fun e he => hall e (List.mem_cons_of_mem _ he)]

theorem append (h : Aligns xs ys es) (h' : Aligns xs' ys' es') :
    Aligns (xs ++ xs') (ys ++ ys') (es ++ es') := by
  induction h with
  | nil => exact h'
  | left x _ ih => exact .left x ih
  | both x _ ih => exact .both x ih
  | right y _ ih => exact .right y ih

theorem reverse (h : Aligns xs ys es) : Aligns xs.reverse ys.reverse es.reverse := by
  induction h with
  | nil => exact .nil
  | left x _ ih =>
    rw [List.reverse_cons, List.reverse_cons]
    simpa using ih.append (.left x .nil)
  | both x _ ih =>
    rw [List.reverse_cons, List.reverse_cons, List.reverse_cons]
    exact ih.append (.both x .nil)
  | right y _ ih =>
    rw [List.reverse_cons, List.reverse_cons]
    simpa using ih.append (.right y .nil)

end Aligns

/-- Elements of the first sequence alone. -/
theorem aligns_left : ∀ xs : List α, Aligns xs [] (xs.map .left)
  | [] => .nil
  | x :: xs => .left x (aligns_left xs)

/-- Elements of the second sequence alone. -/
theorem aligns_right : ∀ ys : List α, Aligns [] ys (ys.map .right)
  | [] => .nil
  | y :: ys => .right y (aligns_right ys)

/-! ### Lengths of common subsequences -/

variable [DecidableEq α]

/-- The length of a longest common subsequence. -/
def lcsLength : List α → List α → Nat
  | x :: xs, y :: ys =>
    if x = y then lcsLength xs ys + 1 else max (lcsLength xs (y :: ys)) (lcsLength (x :: xs) ys)
  | _, _ => 0
termination_by xs ys => xs.length + ys.length

theorem lcsLength_nil_left (ys : List α) : lcsLength [] ys = 0 := by
  rw [lcsLength]
  simp

theorem lcsLength_nil_right (xs : List α) : lcsLength xs [] = 0 := by
  rw [lcsLength]
  simp

/-- The lengths for the tails of the second sequence, down to the empty one. -/
def lengths (xs : List α) : List α → List Nat
  | [] => [lcsLength xs []]
  | y :: ys => lcsLength xs (y :: ys) :: lengths xs ys

theorem head?_lengths (xs ys : List α) : (lengths xs ys).head? = some (lcsLength xs ys) := by
  cases ys <;> rfl

/-- The rows for the proper tails of the first sequence. -/
def rowsBelow : List α → List α → List (List Nat)
  | [], _ => []
  | _ :: xs, ys => lengths xs ys :: rowsBelow xs ys

theorem map_tail_rowsBelow (y : α) (ys : List α) : ∀ xs : List α,
    (rowsBelow xs (y :: ys)).map List.tail = rowsBelow xs ys
  | [] => rfl
  | _ :: xs => congrArg (lengths xs ys :: ·) (map_tail_rowsBelow y ys xs)

/-! ### The table -/

/-- The lengths for the beginnings of a sequence, those of `done` and more. The beginnings have their
last elements first. -/
def lengthsFrom (xs : List α) : List α → List α → List Nat
  | _, [] => []
  | done, y :: ys => lcsLength xs (y :: done) :: lengthsFrom xs (y :: done) ys

/-- A row of the table is computed from the one above it. -/
theorem nextLengths_lengthsFrom (x : α) (xs : List α) : ∀ done ys : List α,
    nextLengths x ys (lengthsFrom xs done ys) (lcsLength xs done) (lcsLength (x :: xs) done) =
      lengthsFrom (x :: xs) done ys
  | _, [] => rfl
  | done, y :: ys => by
    have hn : (if x = y then lcsLength xs done + 1
        else max (lcsLength xs (y :: done)) (lcsLength (x :: xs) done)) =
          lcsLength (x :: xs) (y :: done) := by rw [lcsLength]
    rw [lengthsFrom, nextLengths, hn, nextLengths_lengthsFrom x xs (y :: done) ys, ← lengthsFrom]

/-- The rows of the table, down to that of the empty beginning. -/
def table (ys : List α) : List α → List (List Nat)
  | [] => [0 :: lengthsFrom [] [] ys]
  | x :: xs => (0 :: lengthsFrom (x :: xs) [] ys) :: table ys xs

theorem table_eq_cons (ys xs : List α) :
    ∃ rows, table ys xs = (0 :: lengthsFrom xs [] ys) :: rows := by
  cases xs <;> exact ⟨_, rfl⟩

theorem zeroRow_eq (ys : List α) : [zeroRow ys] = table ys [] := by
  have hzero : ∀ done rest : List α, lengthsFrom [] done rest = rest.map fun _ => 0 := by
    intro done rest
    induction rest generalizing done with
    | nil => rfl
    | cons y rest ih => rw [lengthsFrom, lcsLength_nil_left, ih, List.map_cons]
  rw [table, zeroRow, hzero]

/-- **The table has a row for every beginning.** -/
theorem lengthTable_eq (ys : List α) : ∀ xs done : List α,
    lengthTable ys xs (table ys done) = table ys (xs.reverse ++ done)
  | [], done => by
    obtain ⟨rows, h⟩ := table_eq_cons ys done
    rw [h, lengthTable.eq_2, List.reverse_nil, List.nil_append, h]
    simp
  | x :: xs, done => by
    have hnext := nextLengths_lengthsFrom x done [] ys
    rw [lcsLength_nil_right, lcsLength_nil_right] at hnext
    obtain ⟨rows, h⟩ := table_eq_cons ys done
    have hrow : (0 :: nextLengths x ys (lengthsFrom done [] ys) 0 0) :: table ys done =
        table ys (x :: done) := by rw [hnext, table]
    rw [h, lengthTable, List.tail_cons, ← h, hrow, lengthTable_eq ys xs (x :: done),
      List.reverse_cons, List.append_assoc, List.singleton_append]

theorem reverse_lengthsFrom (xs : List α) : ∀ done ys : List α,
    (lengthsFrom xs done ys).reverse ++ lengths xs done = lengths xs (ys.reverse ++ done)
  | _, [] => rfl
  | done, y :: ys => by
    rw [lengthsFrom, List.reverse_cons, List.append_assoc, List.singleton_append, ← lengths,
      reverse_lengthsFrom xs (y :: done) ys, List.reverse_cons, List.append_assoc,
      List.singleton_append]

theorem map_reverse_table (ys : List α) : ∀ xs : List α,
    (table ys xs).map List.reverse = lengths xs ys.reverse :: rowsBelow xs ys.reverse
  | [] => by
    have h := reverse_lengthsFrom [] [] ys
    rw [List.append_nil] at h
    rw [table, List.map_singleton, List.reverse_cons, ← h, lengths, lcsLength_nil_left, rowsBelow]
  | x :: xs => by
    have h := reverse_lengthsFrom (x :: xs) [] ys
    rw [List.append_nil] at h
    rw [table, List.map_cons, map_reverse_table ys xs, List.reverse_cons, ← h, lengths,
      lcsLength_nil_right, rowsBelow]

/-! ### Reading the table -/

/-- **What is read off the table** aligns the sequences, the last elements of which come first. -/
theorem aligns_readBack : ∀ xs ys : List α,
    Aligns xs ys (readBack xs ys (lengths xs ys) (rowsBelow xs ys))
  | [], [] => by
    rw [readBack]
    exact .nil
  | x :: xs, [] => by
    rw [readBack]
    exact .left x (aligns_readBack xs [])
  | [], y :: ys => by
    unfold readBack
    rw [if_pos (Or.inl rfl)]
    exact .right y (aligns_readBack [] ys)
  | x :: xs, y :: ys => by
    have hrows := map_tail_rowsBelow y ys (x :: xs)
    rw [rowsBelow] at hrows ⊢
    rw [readBack, hrows]
    simp only [reduceCtorEq, false_or, lengths, List.head?_cons, List.tail_cons, head?_lengths,
      Option.some.injEq]
    split_ifs with hright hleft
    · exact .right y (aligns_readBack (x :: xs) ys)
    · exact .left x (aligns_readBack xs (y :: ys))
    · -- the length would be one of the two if the elements were not equal
      have hxy : x = y := by
        by_contra hne
        rw [lcsLength, if_neg hne] at hright hleft
        omega
      subst hxy
      rw [map_tail_rowsBelow]
      exact .both x (aligns_readBack xs ys)
termination_by xs ys => xs.length + ys.length

theorem aligns_alignMiddle (xs ys : List α) : Aligns xs ys (alignMiddle xs ys) := by
  have htable : (lengthTable ys xs [zeroRow ys]).map List.reverse =
      lengths xs.reverse ys.reverse :: rowsBelow xs.reverse ys.reverse := by
    rw [zeroRow_eq, lengthTable_eq, List.append_nil, map_reverse_table]
  unfold alignMiddle
  rw [htable]
  simpa using (aligns_readBack xs.reverse ys.reverse).reverse

/-! ### Whole sequences -/

/-- What two sequences have in common at the beginning stands side by side. -/
theorem aligns_splitCommon : ∀ xs ys : List α, ∃ zs,
    xs = zs ++ (splitCommon xs ys).2.1 ∧ ys = zs ++ (splitCommon xs ys).2.2 ∧
      Aligns zs zs (splitCommon xs ys).1
  | [], ys => ⟨[], by simp [splitCommon], by simp [splitCommon], by simpa [splitCommon] using .nil⟩
  | x :: xs, [] => ⟨[], by simp [splitCommon], by simp [splitCommon], by
      simpa [splitCommon] using .nil⟩
  | x :: xs, y :: ys => by
    rw [splitCommon]
    split_ifs with h
    · obtain ⟨zs, hxs, hys, hzs⟩ := aligns_splitCommon xs ys
      subst h
      exact ⟨x :: zs, congrArg (x :: ·) hxs, congrArg (x :: ·) hys, .both x hzs⟩
    · exact ⟨[], rfl, rfl, .nil⟩

/-- **An alignment has all elements of both sequences**, in order, and only equal ones side by
side. -/
theorem aligns_align (xs ys : List α) : Aligns xs ys (align xs ys) := by
  obtain ⟨zs, hxs, hys, hfront⟩ := aligns_splitCommon xs ys
  unfold align
  generalize splitCommon xs ys = front at hxs hys hfront
  obtain ⟨zs', hxs', hys', hback⟩ := aligns_splitCommon front.2.1.reverse front.2.2.reverse
  dsimp only
  generalize splitCommon front.2.1.reverse front.2.2.reverse = back at hxs' hys' hback
  rw [List.reverse_eq_iff, List.reverse_append] at hxs' hys'
  rw [hxs, hys, hxs', hys', ← List.append_assoc, ← List.append_assoc]
  exact (hfront.append (aligns_alignMiddle _ _)).append hback.reverse

end Golden.Diff
