import Golden.Proofs.Diff.EditScript
import Golden.Proofs.Diff.Longest

/-! # Whether there is a difference

An edit script that changes nothing is one of a sequence and itself. Conversely, the first search for
a run that a sequence has in common with itself finds the whole of it, whichever of its elements are
popular: the seed begins at the same position on both sides (`seed_self`), because both a seed that
begins earlier in the first sequence and one that begins earlier in the second would be found first.
The seed is then extended up to both ends.

* `longest_self`: the run that a sequence has in common with itself.
* `edits_self`: the edits of a sequence and itself.
* `edits_differ`: there is a change exactly if there is a difference. -/

namespace Golden.Diff

variable {α : Type}

/-! ### Scripts without a change -/

/-- If every change puts in what it takes out, nothing is different. -/
theorem IsEditScript.eq_of_old_eq {a b : List α} {es : List Edit} (h : IsEditScript a b es)
    (hold : ∀ e ∈ es, e.kind ≠ .equal → e.old a = slice b e.bStart e.bEnd) : a = b := by
  have hsame : ∀ e ∈ es, e.old a = e.new a b := by
    intro e he
    by_cases hk : e.kind = .equal
    · exact (if_pos hk).symm
    · rw [(h.sound e he).new_eq, hold e he hk]
  calc a = es.flatMap (Edit.old a) := h.flatMap_old.symm
    _ = es.flatMap (Edit.new a b) := List.flatMap_congr hsame
    _ = b := h.flatMap_new

/-! ### A sequence and itself -/

variable [DecidableEq α]

theorem commonLength_self : ∀ xs : List α, commonLength xs xs = xs.length
  | [] => rfl
  | x :: xs => by rw [commonLength, if_pos rfl, commonLength_self xs, List.length_cons]

/-- **The seed begins at the same position on both sides.** -/
theorem seed_self (a : List α) :
    (seed a a (Window.whole a a)).a = (seed a a (Window.whole a a)).b := by
  have hw := Window.fits_whole a a
  have hseed := isSeed_seed hw
  have hlead {n : Match} := leads_seed hw (m := n)
  generalize seed a a (Window.whole a a) = m at hseed hlead
  have hle := hseed.le_ahi
  have hle' := hseed.le_bhi
  -- the same run, taken twice at its place in the one sequence or the other
  have hfirst : IsSeed a a (Window.whole a a) ⟨m.a, m.a, m.len⟩ :=
    ⟨⟨Nat.zero_le _, hle, Nat.zero_le _, hle, fun _ _ => rfl⟩, fun t ht x hx =>
      hseed.unpopular t ht x ((hseed.agree t ht).symm.trans hx)⟩
  have hsecond : IsSeed a a (Window.whole a a) ⟨m.b, m.b, m.len⟩ :=
    ⟨⟨Nat.zero_le _, hle', Nat.zero_le _, hle', fun _ _ => rfl⟩, hseed.unpopular⟩
  have h1 := hlead hfirst
  have h2 := hlead hsecond
  unfold Match.Leads at h1 h2
  simp only at h1 h2
  omega

/-- **A sequence has all of itself in common with itself.** -/
theorem longest_self (a : List α) :
    longest a a (index a a) (Window.whole a a) = ⟨0, 0, a.length⟩ := by
  have hle := (isSeed_seed (Window.fits_whole a a)).le_ahi
  have hab := seed_self a
  rw [longest_eq]
  generalize seed a a (Window.whole a a) = m at hle hab
  rcases m with ⟨i, j, len⟩
  obtain rfl : i = j := hab
  change i + len ≤ a.length at hle
  have hfront : (((a.take i).drop 0).reverse).length = i := by simp; omega
  have hbehind : ((a.take a.length).drop (i + len)).length = a.length - (i + len) := by simp
  simp only [grow, Window.whole, commonLength_self, hfront, hbehind, Nat.sub_self]
  rw [show i + len + (a.length - (i + len)) = a.length by omega]

/-- The blocks of a sequence and itself. -/
theorem blocks_self (a : List α) : blocks a a =
    (if a = [] then [] else [⟨0, 0, a.length⟩]) ++ [⟨a.length, a.length, 0⟩] := by
  have hlongest := longest_self a
  unfold Window.whole at hlongest
  have hremaining : remaining ⟨0, a.length, 0, a.length⟩ ⟨0, 0, a.length⟩ = [] := by
    simp [remaining]
  have hcollect : collect a a (index a a) (enough a a) [⟨0, a.length, 0, a.length⟩] =
      if a = [] then [] else [⟨0, 0, a.length⟩] := by
    have hnil (n : Nat) : collect a a (index a a) n [] = [] := by cases n <;> rfl
    simp only [enough, collect, hlongest, hremaining, List.length_eq_zero_iff, List.append_nil, hnil]
  unfold blocks
  rw [hcollect]
  split_ifs
  · simp [joined]
  · simp [joined, joinAdjacent]

/-- **The edits of a sequence and itself** keep all of it at once. -/
theorem edits_self (a : List α) : edits a a =
    if a = [] then [] else [⟨.equal, 0, a.length, 0, a.length⟩] := by
  rw [edits, blocks_self]
  split_ifs with h
  · simp [h, editsFrom, gap, kept]
  · simp [h, editsFrom, gap, kept]

/-! ### Differences -/

/-- There is a change exactly if the sequences are different. -/
theorem exists_change_iff {a b : List α} : (∃ e ∈ edits a b, e.kind ≠ .equal) ↔ a ≠ b := by
  constructor
  · rintro ⟨e, he, hk⟩ rfl
    rw [edits_self] at he
    split_ifs at he
    · cases he
    · rw [List.mem_singleton] at he
      exact hk (he ▸ rfl)
  · intro hne
    by_contra hnone
    refine hne ((isEditScript_edits a b).eq_of_old_eq fun e he hk => ?_)
    exact absurd ⟨e, he, hk⟩ hnone

theorem splitLines_inj {s t : String} :
    Text.splitLines s.toList = Text.splitLines t.toList ↔ s = t := by
  refine ⟨fun h => String.toList_inj.mp ?_, fun h => h ▸ rfl⟩
  rw [← Text.flatten_splitLines s.toList, h, Text.flatten_splitLines]

/-- **A comparison shows a change exactly if there is a difference**, whichever elements are popular.
A sequence and itself have one edit, which keeps all of it, or none if it is empty. Two texts are
different exactly if a line of theirs is, also if it is just the last line that ends in one of them
and not in the other. -/
theorem edits_differ (a b : List α) (expected actual : String) :
    ((∃ e ∈ edits a b, e.kind ≠ .equal) ↔ a ≠ b) ∧
    edits a a = (if a = [] then [] else [⟨.equal, 0, a.length, 0, a.length⟩]) ∧
    ((∃ e ∈ lineEdits expected actual, e.kind ≠ .equal) ↔ expected ≠ actual) := by
  refine ⟨exists_change_iff, edits_self a, ?_⟩
  rw [lineEdits, exists_change_iff, Ne, splitLines_inj]

example : lineEdits "a\nb\n" "a\nb" = [⟨.equal, 0, 1, 0, 1⟩, ⟨.replace, 1, 2, 1, 2⟩] := by
  decide +kernel

end Golden.Diff
