import Golden.Proofs.Diff.Runs
import Mathlib.Data.List.Chain

/-! # Blocks of a comparison

The stack of windows and the runs found so far are *apart* from each other: of any two areas one
precedes the other in both sequences (`Window.Apart`). Taking a window from the stack keeps this, as
the run found in it and the two windows that remain lie inside of it and are apart themselves.

* `collect_apart`: the runs that the search collects lie in the windows of the stack and are apart.
* `ascending_mergeSort`: in ascending order, every run therefore precedes the next.
* `detached_joined`: once adjacent runs are joined, every run precedes the next with a gap in one
  sequence or the other.
* `blocks_eq`: the blocks of two sequences are such runs, and the empty one at the end of both. -/

namespace Golden.Diff

variable {α : Type}

/-! ### Areas -/

/-- The window that a match covers. -/
def Match.area (m : Match) : Window := ⟨m.a, m.a + m.len, m.b, m.b + m.len⟩

/-- A window ends before another begins, in both sequences. -/
def Window.Precedes (v w : Window) : Prop := v.ahi ≤ w.alo ∧ v.bhi ≤ w.blo

/-- One of two windows precedes the other. -/
def Window.Apart (v w : Window) : Prop := v.Precedes w ∨ w.Precedes v

/-- A window is a part of another. -/
structure Window.Inside (v w : Window) : Prop where
  alo_le : w.alo ≤ v.alo
  le_ahi : v.ahi ≤ w.ahi
  blo_le : w.blo ≤ v.blo
  le_bhi : v.bhi ≤ w.bhi

theorem Window.Apart.symm {v w : Window} (h : v.Apart w) : w.Apart v := Or.symm h

/-- What is apart from a window is apart from its parts. -/
theorem Window.Inside.apart {u v w : Window} (h : v.Inside w) (ha : w.Apart u) : v.Apart u := by
  rcases ha with ⟨h1, h2⟩ | ⟨h1, h2⟩
  · exact Or.inl ⟨h.le_ahi.trans h1, h.le_bhi.trans h2⟩
  · exact Or.inr ⟨h1.trans h.alo_le, h2.trans h.blo_le⟩

theorem IsRun.inside {a b : List α} {w : Window} {m : Match} (h : IsRun a b w m) :
    m.area.Inside w :=
  ⟨h.alo_le, h.le_ahi, h.blo_le, h.le_bhi⟩

theorem IsRun.of_inside {a b : List α} {v w : Window} {m : Match} (h : IsRun a b v m)
    (hv : v.Inside w) : IsRun a b w m :=
  h.mono hv.alo_le hv.le_ahi hv.blo_le hv.le_bhi

/-! ### The search -/

/-- **What remains of a window** are parts of it, apart from the run and from each other. -/
theorem remaining_apart {a b : List α} {w : Window} {m : Match} (hw : w.Fits a b)
    (hm : IsRun a b w m) :
    (∀ v ∈ remaining w m, v.Fits a b ∧ v.Inside w ∧ v.Apart m.area) ∧
      (remaining w m).Pairwise Window.Apart := by
  have h1 := hm.alo_le
  have h2 := hm.le_ahi
  have h3 := hm.blo_le
  have h4 := hm.le_bhi
  have h5 := hw.le_length
  have h6 := hw.le_length'
  have hbehind : m.a + m.len < w.ahi ∧ m.b + m.len < w.bhi →
      (⟨m.a + m.len, w.ahi, m.b + m.len, w.bhi⟩ : Window).Fits a b ∧
      (⟨m.a + m.len, w.ahi, m.b + m.len, w.bhi⟩ : Window).Inside w ∧
      (⟨m.a + m.len, w.ahi, m.b + m.len, w.bhi⟩ : Window).Apart m.area := fun h =>
    ⟨⟨h.1.le, h5, h.2.le, h6⟩, ⟨by simp only; omega, le_rfl, by simp only; omega, le_rfl⟩,
      Or.inr ⟨le_rfl, le_rfl⟩⟩
  have hfront : w.alo < m.a ∧ w.blo < m.b →
      (⟨w.alo, m.a, w.blo, m.b⟩ : Window).Fits a b ∧
      (⟨w.alo, m.a, w.blo, m.b⟩ : Window).Inside w ∧
      (⟨w.alo, m.a, w.blo, m.b⟩ : Window).Apart m.area := fun h =>
    ⟨⟨h.1.le, by simp only; omega, h.2.le, by simp only; omega⟩,
      ⟨le_rfl, by simp only; omega, le_rfl, by simp only; omega⟩, Or.inl ⟨le_rfl, le_rfl⟩⟩
  have hpair : (⟨m.a + m.len, w.ahi, m.b + m.len, w.bhi⟩ : Window).Apart
      ⟨w.alo, m.a, w.blo, m.b⟩ := Or.inr ⟨by simp only; omega, by simp only; omega⟩
  unfold remaining
  split_ifs with hb hf hf
  · simp [hbehind hb, hfront hf, hpair]
  · simp [hbehind hb]
  · simp [hfront hf]
  · simp

section Collect
variable [DecidableEq α] {a b : List α}

/-- **The runs that are collected** are not empty, lie in the windows of the stack, and are apart if
these are. -/
theorem collect_apart : ∀ (n : Nat) (stack : List Window), (∀ w ∈ stack, w.Fits a b) →
    stack.Pairwise Window.Apart →
    (∀ m ∈ collect a b (index a b) n stack, 0 < m.len ∧ ∃ w ∈ stack, IsRun a b w m) ∧
      (collect a b (index a b) n stack).Pairwise fun m n => m.area.Apart n.area
  | 0, _, _, _ => by simp [collect]
  | n + 1, [], _, _ => by simp [collect]
  | n + 1, w :: stack, hfits, hapart => by
    have hw := hfits w List.mem_cons_self
    have hrun := isRun_longest hw
    rw [List.pairwise_cons] at hapart
    rw [collect]
    set m := longest a b (index a b) w
    split_ifs with h0
    · obtain ⟨ih1, ih2⟩ := collect_apart n stack (fun v hv => hfits v (List.mem_cons_of_mem _ hv))
        hapart.2
      refine ⟨fun k hk => ?_, ih2⟩
      obtain ⟨hpos, v, hv, hk⟩ := ih1 k hk
      exact ⟨hpos, v, List.mem_cons_of_mem _ hv, hk⟩
    · obtain ⟨hrem, hpair⟩ := remaining_apart hw hrun
      obtain ⟨ih1, ih2⟩ := collect_apart n (remaining w m ++ stack)
        (fun v hv => (List.mem_append.mp hv).elim (fun hv => (hrem v hv).1)
          fun hv => hfits v (List.mem_cons_of_mem _ hv))
        (List.pairwise_append.mpr ⟨hpair, hapart.2, fun v hv u hu =>
          (hrem v hv).2.1.apart (hapart.1 u hu)⟩)
      refine ⟨fun k hk => ?_, List.pairwise_cons.mpr ⟨fun k hk => ?_, ih2⟩⟩
      · rcases List.mem_cons.mp hk with rfl | hk
        · exact ⟨Nat.pos_of_ne_zero h0, w, List.mem_cons_self, hrun⟩
        · obtain ⟨hpos, v, hv, hkv⟩ := ih1 k hk
          rcases List.mem_append.mp hv with hv | hv
          · exact ⟨hpos, w, List.mem_cons_self, hkv.of_inside (hrem v hv).2.1⟩
          · exact ⟨hpos, v, List.mem_cons_of_mem _ hv, hkv⟩
      · obtain ⟨-, v, hv, hkv⟩ := ih1 k hk
        rcases List.mem_append.mp hv with hv | hv
        · exact (hkv.inside.apart (hrem v hv).2.2).symm
        · exact hrun.inside.apart (hkv.inside.apart (hapart.1 v hv).symm).symm

end Collect

/-! ### Ascending order -/

theorem Match.le_iff {m n : Match} : m.le n = true ↔
    m.a < n.a ∨ (m.a = n.a ∧ (m.b < n.b ∨ (m.b = n.b ∧ m.len ≤ n.len))) := by
  simp [Match.le]

theorem Match.le_trans (l m n : Match) (h : l.le m = true) (h' : m.le n = true) :
    l.le n = true := by
  rw [Match.le_iff] at *
  omega

theorem Match.le_total (m n : Match) : (m.le n || n.le m) = true := by
  rw [Bool.or_eq_true, Match.le_iff, Match.le_iff]
  omega

/-- The earlier one of two runs that are apart precedes the other. -/
theorem Match.precedes_of_le {m n : Match} (hn : 0 < n.len) (h : m.area.Apart n.area)
    (hle : m.le n = true) : m.area.Precedes n.area := by
  rcases h with h | ⟨h1, h2⟩
  · exact h
  · rw [Match.le_iff] at hle
    simp only [Match.area] at h1 h2
    omega

/-- **In ascending order every run precedes the next.** -/
theorem ascending_mergeSort {ms : List Match} (hpos : ∀ m ∈ ms, 0 < m.len)
    (h : ms.Pairwise fun m n => m.area.Apart n.area) :
    (ms.mergeSort Match.le).Pairwise fun m n => m.area.Precedes n.area := by
  have happart := (List.mergeSort_perm ms Match.le).symm.pairwise h Window.Apart.symm
  refine (happart.and (List.pairwise_mergeSort Match.le_trans Match.le_total ms)).imp_of_mem ?_
  intro m n _ hn ⟨h1, h2⟩
  exact Match.precedes_of_le (hpos n (by simpa using hn)) h1 h2

/-! ### Joining -/

/-- A run precedes another with a gap between them, in one sequence or the other. -/
def Match.Detached (m n : Match) : Prop :=
  m.area.Precedes n.area ∧ (m.a + m.len < n.a ∨ m.b + m.len < n.b)

theorem Match.detached_of_precedes {m n : Match} (h : m.area.Precedes n.area)
    (hne : ¬ (m.a + m.len = n.a ∧ m.b + m.len = n.b)) : m.Detached n := by
  refine ⟨h, ?_⟩
  obtain ⟨h1, h2⟩ := h
  simp only [Match.area] at h1 h2
  omega

/-- Joining does not move the beginning of the first run. -/
theorem joinAdjacent_eq_cons : ∀ (ms : List Match) (m : Match),
    ∃ l ns, joinAdjacent m ms = ⟨m.a, m.b, l⟩ :: ns ∧ m.len ≤ l
  | [], m => ⟨m.len, [], rfl, le_rfl⟩
  | n :: ms, m => by
    rw [joinAdjacent]
    split_ifs
    · obtain ⟨l, ns, h, hl⟩ := joinAdjacent_eq_cons ms ⟨m.a, m.b, m.len + n.len⟩
      exact ⟨l, ns, h, (Nat.le_add_right _ _).trans hl⟩
    · exact ⟨m.len, _, rfl, le_rfl⟩

/-- Runs of a window in ascending order are still runs of it when adjacent ones are joined, and then
there is a gap between each and the next. -/
theorem detached_joinAdjacent {a b : List α} {w : Window} : ∀ (ms : List Match) (m : Match),
    (∀ n ∈ m :: ms, 0 < n.len ∧ IsRun a b w n) →
    (m :: ms).IsChain (fun m n => m.area.Precedes n.area) →
    (∀ n ∈ joinAdjacent m ms, 0 < n.len ∧ IsRun a b w n) ∧
      (joinAdjacent m ms).IsChain Match.Detached
  | [], m, hrun, _ => by simpa [joinAdjacent] using hrun
  | n :: ms, m, hrun, hasc => by
    rw [List.isChain_cons_cons] at hasc
    have hm := hrun m List.mem_cons_self
    have hn := hrun n (List.mem_cons_of_mem _ List.mem_cons_self)
    rw [joinAdjacent]
    split_ifs with hadj
    · refine detached_joinAdjacent ms _ (fun k hk => ?_) ?_
      · rcases List.mem_cons.mp hk with rfl | hk
        · exact ⟨Nat.add_pos_left hm.1 _, hm.2.append hn.2 hadj.1 hadj.2⟩
        · exact hrun k (List.mem_cons_of_mem _ (List.mem_cons_of_mem _ hk))
      · -- the joined run ends where `n` did
        refine hasc.2.imp_head fun {k} hk => ?_
        obtain ⟨h1, h2⟩ := hk
        simp only [Match.area] at h1 h2
        exact ⟨by simp only [Match.area]; omega, by simp only [Match.area]; omega⟩
    · obtain ⟨ih1, ih2⟩ := detached_joinAdjacent ms n
        (fun k hk => hrun k (List.mem_cons_of_mem _ hk)) hasc.2
      refine ⟨fun k hk => ?_, List.IsChain.cons ih2 fun k hk => ?_⟩
      · rcases List.mem_cons.mp hk with rfl | hk
        · exact hm
        · exact ih1 k hk
      · obtain ⟨l, ns, h, -⟩ := joinAdjacent_eq_cons ms n
        rw [h, List.head?_cons, Option.mem_some_iff] at hk
        subst hk
        exact Match.detached_of_precedes (n := ⟨n.a, n.b, l⟩) hasc.1 hadj

/-- **Joined runs** of a window are runs of it, with a gap between each and the next. -/
theorem detached_joined {a b : List α} {w : Window} {ms : List Match}
    (hrun : ∀ m ∈ ms, 0 < m.len ∧ IsRun a b w m)
    (hasc : ms.Pairwise fun m n => m.area.Precedes n.area) :
    (∀ m ∈ joined ms, 0 < m.len ∧ IsRun a b w m) ∧ (joined ms).IsChain Match.Detached := by
  cases ms with
  | nil => simp [joined]
  | cons m ms => exact detached_joinAdjacent ms m hrun hasc.isChain

/-! ### Blocks -/

/-- The window of two whole sequences. -/
def Window.whole (a b : List α) : Window := ⟨0, a.length, 0, b.length⟩

theorem Window.fits_whole (a b : List α) : (Window.whole a b).Fits a b :=
  ⟨Nat.zero_le _, le_rfl, Nat.zero_le _, le_rfl⟩

/-- **The blocks of two sequences** are runs of both with a gap between each and the next, and the
empty run at their ends. -/
theorem blocks_eq [DecidableEq α] (a b : List α) :
    ∃ ms, blocks a b = ms ++ [⟨a.length, b.length, 0⟩] ∧
      (∀ m ∈ ms, 0 < m.len ∧ IsRun a b (Window.whole a b) m) ∧ ms.IsChain Match.Detached := by
  obtain ⟨hrun, happart⟩ := collect_apart (a := a) (b := b) (enough a b) [Window.whole a b]
    (by simpa using Window.fits_whole a b) (by simp)
  have hasc := ascending_mergeSort (fun m hm => (hrun m hm).1) happart
  refine ⟨_, rfl, detached_joined (fun m hm => ?_) hasc⟩
  obtain ⟨hpos, w, hw, hm⟩ := hrun m (List.mem_mergeSort.mp hm)
  rw [List.mem_singleton] at hw
  exact ⟨hpos, hw ▸ hm⟩

end Golden.Diff
