import Golden.Diff.Report
import Golden.Proofs.Diff.Blocks

/-! # Edit scripts

A list of edits is an *edit script* of two sequences (`IsEditScript`) if the edits follow each other
without a gap or an overlap, from the beginning of both sequences to their ends (`Tiles`), if every
edit does what its kind says (`Edit.Sound`), and if what is kept and what is changed take turns.

* `IsEditScript.flatMap_old`, `IsEditScript.flatMap_new`: the ranges in the first sequence give that
  sequence back, and with the changed ones replaced by their counterparts they give the second one.
* `isEditScript_editsFrom`: the edits from a list of detached runs on.
* `isEditScript_edits`, `edits_exact`: the edits of two sequences are an edit script of them. -/

namespace Golden.Diff

variable {α : Type}

/-! ### Scripts -/

/-- What an edit covers in the first sequence. -/
def Edit.old (a : List α) (e : Edit) : List α := slice a e.aStart e.aEnd

/-- What takes the place of it: the same if it is kept, and else what the edit covers in the second
sequence. -/
def Edit.new (a b : List α) (e : Edit) : List α :=
  if e.kind = .equal then e.old a else slice b e.bStart e.bEnd

/-- The ranges of an edit are as its kind demands. -/
def Edit.Sound (a b : List α) (e : Edit) : Prop :=
  match e.kind with
  | .equal => e.aStart < e.aEnd ∧ e.bStart < e.bEnd ∧ e.aEnd - e.aStart = e.bEnd - e.bStart ∧
      ∀ t < e.aEnd - e.aStart, a[e.aStart + t]? = b[e.bStart + t]?
  | .delete => e.aStart < e.aEnd ∧ e.bStart = e.bEnd
  | .insert => e.aStart = e.aEnd ∧ e.bStart < e.bEnd
  | .replace => e.aStart < e.aEnd ∧ e.bStart < e.bEnd

/-- The edits follow each other from the positions `i` and `j` up to `i'` and `j'`, without a gap or
an overlap. -/
def Tiles (i' j' : Nat) : Nat → Nat → List Edit → Prop
  | i, j, [] => i = i' ∧ j = j'
  | i, j, e :: es => e.aStart = i ∧ e.bStart = j ∧ i ≤ e.aEnd ∧ j ≤ e.bEnd ∧
      Tiles i' j' e.aEnd e.bEnd es

/-- One of two edits keeps something and the other does not. -/
def Edit.Alternate (e f : Edit) : Prop := e.kind = .equal ↔ f.kind ≠ .equal

/-- **An edit script** of two sequences. -/
structure IsEditScript (a b : List α) (es : List Edit) : Prop where
  tiles : Tiles a.length b.length 0 0 es
  sound : ∀ e ∈ es, e.Sound a b
  alternate : es.IsChain Edit.Alternate

/-! ### Replaying a script -/

theorem slice_append_drop {xs : List α} {i j : Nat} (h : i ≤ j) :
    slice xs i j ++ xs.drop j = xs.drop i := by
  unfold slice
  rw [List.drop_take]
  have := List.take_append_drop (j - i) (xs.drop i)
  rwa [List.drop_drop, Nat.add_sub_cancel' h] at this

/-- What is kept is the same in both sequences. -/
theorem Edit.Sound.new_eq {a b : List α} {e : Edit} (h : e.Sound a b) :
    e.new a b = slice b e.bStart e.bEnd := by
  unfold Edit.new
  split_ifs with hk
  · rw [Edit.Sound, hk] at h
    obtain ⟨-, -, hlen, hagree⟩ := h
    unfold Edit.old slice
    rw [List.drop_take, List.drop_take, ← hlen]
    refine List.ext_getElem? fun t => ?_
    rcases Nat.lt_or_ge t (e.aEnd - e.aStart) with ht | ht
    · rw [List.getElem?_take_of_lt ht, List.getElem?_take_of_lt ht, List.getElem?_drop,
        List.getElem?_drop]
      exact hagree t ht
    · rw [List.getElem?_take_eq_none ht, List.getElem?_take_eq_none ht]
  · rfl

/-- Edits that tile the rest of the first sequence cover it. -/
theorem flatMap_old_of_tiles {a : List α} {j' : Nat} : ∀ {es : List Edit} {i j : Nat},
    Tiles a.length j' i j es → es.flatMap (Edit.old a) = a.drop i
  | [], _, _, ⟨hi, _⟩ => by simp [hi]
  | e :: es, i, j, ⟨hi, hj, h1, h2, h⟩ => by
    rw [List.flatMap_cons, flatMap_old_of_tiles h, Edit.old, hi]
    exact slice_append_drop h1

/-- Sound edits that tile the rests of both sequences turn the one into the other. -/
theorem flatMap_new_of_tiles {a b : List α} : ∀ {es : List Edit} {i j : Nat},
    Tiles a.length b.length i j es → (∀ e ∈ es, e.Sound a b) →
    es.flatMap (Edit.new a b) = b.drop j
  | [], _, _, ⟨_, hj⟩, _ => by simp [hj]
  | e :: es, i, j, ⟨hi, hj, h1, h2, h⟩, hs => by
    rw [List.flatMap_cons, flatMap_new_of_tiles h fun f hf => hs f (List.mem_cons_of_mem _ hf),
      (hs e List.mem_cons_self).new_eq, hj]
    exact slice_append_drop h2

theorem IsEditScript.flatMap_old {a b : List α} {es : List Edit} (h : IsEditScript a b es) :
    es.flatMap (Edit.old a) = a :=
  flatMap_old_of_tiles h.tiles

theorem IsEditScript.flatMap_new {a b : List α} {es : List Edit} (h : IsEditScript a b es) :
    es.flatMap (Edit.new a b) = b :=
  flatMap_new_of_tiles h.tiles h.sound

/-! ### The edits of detached runs -/

theorem tiles_append {i' j' : Nat} : ∀ {es fs : List Edit} {i j k l : Nat}, Tiles k l i j es →
    Tiles i' j' k l fs → Tiles i' j' i j (es ++ fs)
  | [], _, _, _, _, _, ⟨hi, hj⟩, h => by subst hi hj; exact h
  | _ :: _, _, _, _, _, _, ⟨hi, hj, h1, h2, h⟩, h' => ⟨hi, hj, h1, h2, tiles_append h h'⟩

theorem tiles_gap {i j : Nat} {m : Match} (hi : i ≤ m.a) (hj : j ≤ m.b) :
    Tiles m.a m.b i j (gap i j m) := by
  unfold gap
  split_ifs <;> simp [Tiles] <;> omega

theorem tiles_kept (m : Match) : Tiles (m.a + m.len) (m.b + m.len) m.a m.b (kept m) := by
  unfold kept
  split_ifs with h <;> simp [Tiles, h]

/-- The edits from the positions `i` and `j` on tile the rest of both sequences, if the runs come
one after the other and the last one ends at `i'` and `j'`. -/
theorem tiles_editsFrom {i' j' : Nat} : ∀ (ms : List Match) (i j : Nat),
    (∀ m ∈ (ms ++ [Match.mk i' j' 0]).head?, i ≤ m.a ∧ j ≤ m.b) →
    (ms ++ [Match.mk i' j' 0]).IsChain (fun m n => m.area.Precedes n.area) →
    Tiles i' j' i j (editsFrom i j (ms ++ [⟨i', j', 0⟩]))
  | [], i, j, hhead, _ => by
    obtain ⟨hi, hj⟩ := hhead ⟨i', j', 0⟩ rfl
    have := tiles_gap hi hj
    simpa [editsFrom, kept] using this
  | m :: ms, i, j, hhead, hchain => by
    obtain ⟨hi, hj⟩ := hhead m rfl
    rw [List.cons_append, List.isChain_cons] at hchain
    rw [List.cons_append, editsFrom]
    exact tiles_append (tiles_gap hi hj) (tiles_append (tiles_kept m)
      (tiles_editsFrom ms _ _ hchain.1 hchain.2))

theorem sound_gap {a b : List α} {i j : Nat} {m : Match} (hi : i ≤ m.a) (hj : j ≤ m.b) :
    ∀ e ∈ gap i j m, e.Sound a b := by
  intro e he
  unfold gap at he
  split_ifs at he <;> simp only [List.mem_singleton, List.not_mem_nil] at he <;> subst he <;>
    simp only [Edit.Sound] <;> omega

theorem sound_kept {a b : List α} {w : Window} {m : Match} (h : IsRun a b w m) :
    ∀ e ∈ kept m, e.Sound a b := by
  intro e he
  unfold kept at he
  split_ifs at he with h0
  · simp at he
  · rw [List.mem_singleton] at he
    subst he
    refine ⟨by simp only; omega, by simp only; omega, by simp only; omega, fun t ht => ?_⟩
    exact h.agree t (by simp only at ht; omega)

/-- Every edit from the positions `i` and `j` on is sound, if the runs come one after the other. -/
theorem sound_editsFrom {a b : List α} {w : Window} : ∀ (ms : List Match) (i j : Nat),
    (∀ m ∈ ms.head?, i ≤ m.a ∧ j ≤ m.b) → (∀ m ∈ ms, IsRun a b w m) →
    ms.IsChain (fun m n => m.area.Precedes n.area) → ∀ e ∈ editsFrom i j ms, e.Sound a b
  | [], _, _, _, _, _ => by simp [editsFrom]
  | m :: ms, i, j, hhead, hrun, hchain => by
    obtain ⟨hi, hj⟩ := hhead m rfl
    rw [List.isChain_cons] at hchain
    intro e he
    rw [editsFrom, List.mem_append, List.mem_append] at he
    rcases he with he | he | he
    · exact sound_gap hi hj e he
    · exact sound_kept (hrun m List.mem_cons_self) e he
    · exact sound_editsFrom ms _ _ hchain.1 (fun n hn => hrun n (List.mem_cons_of_mem _ hn))
        hchain.2 e he

/-- A gap gives no edit, or one that keeps nothing. -/
theorem gap_cases (i j : Nat) (m : Match) :
    (gap i j m = [] ∧ ¬ i < m.a ∧ ¬ j < m.b) ∨ ∃ e, gap i j m = [e] ∧ e.kind ≠ .equal := by
  unfold gap
  split_ifs with h1 h2 h2
  · exact Or.inr ⟨_, rfl, by simp⟩
  · exact Or.inr ⟨_, rfl, by simp⟩
  · exact Or.inr ⟨_, rfl, by simp⟩
  · exact Or.inl ⟨rfl, h1, h2⟩

/-- The edits take turns, and the first of them keeps nothing if there is a gap before the first
run. -/
theorem alternate_editsFrom (i' j' : Nat) : ∀ (ms : List Match) (i j : Nat),
    (∀ m ∈ ms, 0 < m.len) → ms.IsChain Match.Detached →
    (editsFrom i j (ms ++ [⟨i', j', 0⟩])).IsChain Edit.Alternate ∧
      ((∀ m ∈ ms.head?, i < m.a ∨ j < m.b) →
        ∀ e ∈ (editsFrom i j (ms ++ [⟨i', j', 0⟩])).head?, e.kind ≠ .equal)
  | [], i, j, _, _ => by
    rcases gap_cases i j ⟨i', j', 0⟩ with ⟨h, -⟩ | ⟨e, h, he⟩
    · simp [editsFrom, kept, h]
    · simpa [editsFrom, kept, h] using he
  | m :: ms, i, j, hpos, hchain => by
    rw [List.isChain_cons] at hchain
    obtain ⟨ih, ihead⟩ := alternate_editsFrom i' j' ms (m.a + m.len) (m.b + m.len)
      (fun n hn => hpos n (List.mem_cons_of_mem _ hn)) hchain.2
    have hne := ihead fun n hn => (hchain.1 n hn).2
    have hkept : kept m = [⟨.equal, m.a, m.a + m.len, m.b, m.b + m.len⟩] :=
      if_neg (hpos m List.mem_cons_self).ne'
    have hrest := List.IsChain.cons (R := Edit.Alternate)
      (x := ⟨.equal, m.a, m.a + m.len, m.b, m.b + m.len⟩) ih fun e he => by
        simpa [Edit.Alternate] using hne e he
    rw [List.cons_append, editsFrom, hkept]
    rcases gap_cases i j m with ⟨h, h1, h2⟩ | ⟨e, h, he⟩
    · rw [h]
      refine ⟨hrest, fun hgap => ?_⟩
      rcases hgap m rfl with hgap | hgap
      · exact absurd hgap h1
      · exact absurd hgap h2
    · rw [h, List.singleton_append, List.singleton_append]
      refine ⟨List.IsChain.cons hrest fun f hf => ?_, fun _ f hf => ?_⟩
      · rw [List.head?_cons, Option.mem_some_iff] at hf
        subst hf
        simpa [Edit.Alternate] using he
      · rw [List.head?_cons, Option.mem_some_iff] at hf
        rw [← hf]
        exact he

/-- The edits of detached runs of two sequences, up to their ends, are an edit script. -/
theorem isEditScript_editsFrom {a b : List α} {ms : List Match}
    (hrun : ∀ m ∈ ms, 0 < m.len ∧ IsRun a b (Window.whole a b) m)
    (hchain : ms.IsChain Match.Detached) :
    IsEditScript a b (editsFrom 0 0 (ms ++ [⟨a.length, b.length, 0⟩])) := by
  have hend : IsRun a b (Window.whole a b) ⟨a.length, b.length, 0⟩ :=
    ⟨Nat.zero_le _, le_rfl, Nat.zero_le _, le_rfl, by simp⟩
  have hall : ∀ m ∈ ms ++ [Match.mk a.length b.length 0], IsRun a b (Window.whole a b) m := by
    intro m hm
    rcases List.mem_append.mp hm with hm | hm
    · exact (hrun m hm).2
    · rw [List.mem_singleton] at hm
      exact hm ▸ hend
  have hasc : (ms ++ [Match.mk a.length b.length 0]).IsChain fun m n =>
      m.area.Precedes n.area := by
    refine (hchain.imp fun m n h => h.1).append (List.isChain_singleton _) fun m hm n hn => ?_
    rw [List.head?_cons, Option.mem_some_iff] at hn
    subst hn
    have h := (hrun m (List.mem_of_mem_getLast? hm)).2
    exact ⟨h.le_ahi, h.le_bhi⟩
  exact ⟨tiles_editsFrom ms 0 0 (by simp) hasc, sound_editsFrom _ 0 0 (by simp) hall hasc,
    (alternate_editsFrom _ _ ms 0 0 (fun m hm => (hrun m hm).1) hchain).1⟩

theorem isEditScript_edits [DecidableEq α] (a b : List α) : IsEditScript a b (edits a b) := by
  obtain ⟨ms, hms, hrun, hchain⟩ := blocks_eq a b
  rw [edits, hms]
  exact isEditScript_editsFrom hrun hchain

/-- **The edits of two sequences are an exact edit script**: they cover both from the beginning to
the end, give the first one back, and turn it into the second one. -/
theorem edits_exact [DecidableEq α] (a b : List α) :
    IsEditScript a b (edits a b) ∧ (edits a b).flatMap (Edit.old a) = a ∧
      (edits a b).flatMap (Edit.new a b) = b := by
  have h := isEditScript_edits a b
  exact ⟨h, h.flatMap_old, h.flatMap_new⟩

example : edits [1, 2, 3, 4] [2, 3, 5, 6, 4] =
    [⟨.delete, 0, 1, 0, 0⟩, ⟨.equal, 1, 3, 0, 2⟩, ⟨.insert, 3, 3, 2, 4⟩, ⟨.equal, 3, 4, 4, 5⟩] := by
  cbv

end Golden.Diff
