import Golden.Diff.Match
import Mathlib.Data.Nat.Basic
import Mathlib.Order.Basic
import Mathlib.Tactic.Common

/-! # Common runs of two sequences

A match that the search returns is a *run* of its window (`IsRun`): it lies in the window, and the
two sequences agree on it.

* `isRun_scanRows`: the rows of the index only ever give runs. A row for position `i` holds the
  lengths of runs that end in front of `i` (`EndsAt`), and every entry of the next row prolongs one
  of them by one element or begins anew.
* `isRun_grow`: a run that is extended over equal neighbours stays one.
* `isRun_longest`: hence the search gives a run, whichever elements the index leaves out. -/

namespace Golden.Diff

variable {α : Type}

/-! ### Runs -/

/-- A run of a window: the match lies in it, and the two sequences agree on the match. -/
structure IsRun (a b : List α) (w : Window) (m : Match) : Prop where
  alo_le : w.alo ≤ m.a
  le_ahi : m.a + m.len ≤ w.ahi
  blo_le : w.blo ≤ m.b
  le_bhi : m.b + m.len ≤ w.bhi
  agree : ∀ t < m.len, a[m.a + t]? = b[m.b + t]?

/-- The window is one of the two sequences. -/
structure Window.Fits (a b : List α) (w : Window) : Prop where
  alo_le : w.alo ≤ w.ahi
  le_length : w.ahi ≤ a.length
  blo_le : w.blo ≤ w.bhi
  le_length' : w.bhi ≤ b.length

theorem Window.Fits.isRun_nil {a b : List α} {w : Window} (hw : w.Fits a b) :
    IsRun a b w ⟨w.alo, w.blo, 0⟩ :=
  ⟨le_rfl, hw.alo_le, le_rfl, hw.blo_le, by simp⟩

/-- A run is prolonged by one element on which the sequences agree. -/
theorem IsRun.succ {a b : List α} {w : Window} {i j k : Nat} (h : IsRun a b w ⟨i, j, k⟩)
    (ha : i + k < w.ahi) (hb : j + k < w.bhi) (he : a[i + k]? = b[j + k]?) :
    IsRun a b w ⟨i, j, k + 1⟩ := by
  refine ⟨h.alo_le, ?_, h.blo_le, ?_, fun t ht => ?_⟩
  · show i + (k + 1) ≤ w.ahi
    omega
  · show j + (k + 1) ≤ w.bhi
    omega
  · rcases Nat.lt_succ_iff_lt_or_eq.mp ht with ht | rfl
    · exact h.agree t ht
    · exact he

/-- Two runs that follow each other without a gap are one run. -/
theorem IsRun.append {a b : List α} {w : Window} {m n : Match} (hm : IsRun a b w m)
    (hn : IsRun a b w n) (ha : m.a + m.len = n.a) (hb : m.b + m.len = n.b) :
    IsRun a b w ⟨m.a, m.b, m.len + n.len⟩ := by
  have h1 := hn.le_ahi
  have h2 := hn.le_bhi
  refine ⟨hm.alo_le, ?_, hm.blo_le, ?_, fun t ht => ?_⟩
  · show m.a + (m.len + n.len) ≤ w.ahi
    omega
  · show m.b + (m.len + n.len) ≤ w.bhi
    omega
  · change t < m.len + n.len at ht
    rcases Nat.lt_or_ge t m.len with h | h
    · exact hm.agree t h
    · have := hn.agree (t - m.len) (by omega)
      rwa [← ha, ← hb, show m.a + m.len + (t - m.len) = m.a + t by omega,
        show m.b + m.len + (t - m.len) = m.b + t by omega] at this

/-- A run of a window is one of every larger window. -/
theorem IsRun.mono {a b : List α} {v w : Window} {m : Match} (h : IsRun a b v m)
    (ha : w.alo ≤ v.alo) (ha' : v.ahi ≤ w.ahi) (hb : w.blo ≤ v.blo) (hb' : v.bhi ≤ w.bhi) :
    IsRun a b w m :=
  ⟨ha.trans h.alo_le, h.le_ahi.trans ha', hb.trans h.blo_le, h.le_bhi.trans hb', h.agree⟩

/-! ### Rows of the index -/

/-- An entry of a row stands for a run that ends in front of position `i` of `a`, the last element
of which is at position `jk.1` of `b`. -/
def EndsAt (a b : List α) (w : Window) (i : Nat) (jk : Nat × Nat) : Prop :=
  jk.2 ≤ i ∧ jk.2 ≤ jk.1 + 1 ∧ IsRun a b w ⟨i - jk.2, jk.1 + 1 - jk.2, jk.2⟩

/-- Positions at which the sequences agree are a run of one element. -/
theorem endsAt_one {a b : List α} {w : Window} {i j : Nat} (hi : w.alo ≤ i) (hi' : i < w.ahi)
    (hj : w.blo ≤ j) (hj' : j < w.bhi) (he : a[i]? = b[j]?) : EndsAt a b w (i + 1) (j, 1) := by
  refine ⟨by simp, by simp, hi, hi', hj, hj', fun t ht => ?_⟩
  obtain rfl : t = 0 := by
    change t < 1 at ht
    omega
  exact he

/-- A run that ends in front of positions at which the sequences agree is prolonged by them. -/
theorem EndsAt.succ {a b : List α} {w : Window} {i p k : Nat} (h : EndsAt a b w i (p, k))
    (hi : i < w.ahi) (hj : p + 1 < w.bhi) (he : a[i]? = b[p + 1]?) :
    EndsAt a b w (i + 1) (p + 1, k + 1) := by
  obtain ⟨h1, h2, h3⟩ := h
  simp only at h1 h2 h3
  refine ⟨by simp only; omega, by simp only; omega, ?_⟩
  simp only [Nat.add_sub_add_right]
  refine h3.succ (by omega) (by omega) ?_
  rw [show i - k + k = i by omega, show p + 1 - k + k = p + 1 by omega]
  exact he

/-- An entry of the next row is at one of its positions, and prolongs an entry of the row above by
one or begins anew. -/
theorem of_mem_nextRow {above : List (Nat × Nat)} {js : List Nat} {j k : Nat}
    (h : (j, k) ∈ nextRow above js) :
    j ∈ js ∧ (k = 1 ∨ ∃ p l, (p, l) ∈ above ∧ j = p + 1 ∧ k = l + 1) := by
  induction above, js using nextRow.induct with
  | case1 above => simp [nextRow] at h
  | case2 j' js ih =>
    rw [nextRow, List.mem_cons] at h
    rcases h with h | h
    · cases h
      simp
    · obtain ⟨h1, h2⟩ := ih h
      exact ⟨List.mem_cons_of_mem _ h1, h2⟩
  | case3 p l above j' js hlt ih =>
    rw [nextRow, if_pos hlt] at h
    obtain ⟨h1, h2⟩ := ih h
    refine ⟨h1, h2.imp id ?_⟩
    rintro ⟨p', l', hm, h3, h4⟩
    exact ⟨p', l', List.mem_cons_of_mem _ hm, h3, h4⟩
  | case4 p l above js hlt ih =>
    rw [nextRow, if_neg hlt, if_pos rfl, List.mem_cons] at h
    rcases h with h | h
    · cases h
      exact ⟨List.mem_cons_self, Or.inr ⟨p, l, List.mem_cons_self, rfl, rfl⟩⟩
    · obtain ⟨h1, h2⟩ := ih h
      refine ⟨List.mem_cons_of_mem _ h1, h2.imp id ?_⟩
      rintro ⟨p', l', hm, h3, h4⟩
      exact ⟨p', l', List.mem_cons_of_mem _ hm, h3, h4⟩
  | case5 p l above j' js hlt hne ih =>
    rw [nextRow, if_neg hlt, if_neg hne, List.mem_cons] at h
    rcases h with h | h
    · cases h
      simp
    · obtain ⟨h1, h2⟩ := ih h
      exact ⟨List.mem_cons_of_mem _ h1, h2⟩

/-- **One row**: its entries stand for runs if those of the row above do. -/
theorem endsAt_nextRow {a b : List α} {w : Window} {i : Nat} {above : List (Nat × Nat)}
    {js : List Nat} (hi : w.alo ≤ i) (hi' : i < w.ahi) (hjs : ∀ j ∈ js, a[i]? = b[j]?)
    (habove : ∀ jk ∈ above, EndsAt a b w i jk) :
    ∀ jk ∈ nextRow above (js.filter fun j => w.blo ≤ j && j < w.bhi), EndsAt a b w (i + 1) jk := by
  rintro ⟨j, k⟩ hjk
  obtain ⟨hj, hk⟩ := of_mem_nextRow hjk
  simp only [List.mem_filter, Bool.and_eq_true, decide_eq_true_eq] at hj
  obtain ⟨hj, hlo, hhi⟩ := hj
  rcases hk with rfl | ⟨p, l, hp, rfl, rfl⟩
  · exact endsAt_one hi hi' hlo hhi (hjs j hj)
  · exact (habove _ hp).succ hi' hhi (hjs _ hj)

/-- The better of two runs is a run. -/
theorem isRun_foldl_better {a b : List α} {w : Window} {i : Nat} :
    ∀ (row : List (Nat × Nat)) (best : Match), (∀ jk ∈ row, EndsAt a b w (i + 1) jk) →
      IsRun a b w best → IsRun a b w (row.foldl (better i) best)
  | [], best, _, hbest => hbest
  | jk :: row, best, hrow, hbest => by
    rw [List.foldl_cons]
    refine isRun_foldl_better row _ (fun p hp => hrow p (List.mem_cons_of_mem _ hp)) ?_
    unfold better
    split_ifs
    · exact (hrow jk List.mem_cons_self).2.2
    · exact hbest

/-- **All rows** of a window give a run of it, when the index holds equal elements only. -/
theorem isRun_scanRows {a b : List α} {w : Window} :
    ∀ (rows : List (List Nat)) (i : Nat) (above : List (Nat × Nat)) (best : Match), w.alo ≤ i →
      i + rows.length ≤ w.ahi →
      (∀ t js, rows[t]? = some js → ∀ j ∈ js, a[i + t]? = b[j]?) →
      (∀ jk ∈ above, EndsAt a b w i jk) → IsRun a b w best →
      IsRun a b w (scanRows w.blo w.bhi rows i above best)
  | [], _, _, _, _, _, _, _, hbest => hbest
  | js :: rows, i, above, best, hi, hlen, hrows, habove, hbest => by
    rw [List.length_cons] at hlen
    have hrow := endsAt_nextRow hi (by omega) (hrows 0 js rfl) habove
    rw [scanRows]
    refine isRun_scanRows rows (i + 1) _ _ (by omega) (by omega) (fun t js' ht j hj => ?_) hrow
      (isRun_foldl_better _ _ hrow hbest)
    rw [show i + 1 + t = i + (t + 1) by omega]
    exact hrows (t + 1) js' (by simpa using ht) j hj

/-! ### Extension over equal neighbours -/

variable [DecidableEq α]

theorem commonLength_le : ∀ xs ys : List α,
    commonLength xs ys ≤ xs.length ∧ commonLength xs ys ≤ ys.length
  | [], _ => by simp [commonLength]
  | _ :: _, [] => by simp [commonLength]
  | x :: xs, y :: ys => by
    have ih := commonLength_le xs ys
    rw [commonLength]
    split_ifs <;> simp only [List.length_cons] <;> omega

theorem getElem?_of_lt_commonLength : ∀ (xs ys : List α) (t : Nat), t < commonLength xs ys →
    xs[t]? = ys[t]?
  | [], _, _, h => by simp [commonLength] at h
  | _ :: _, [], _, h => by simp [commonLength] at h
  | x :: xs, y :: ys, t, h => by
    rw [commonLength] at h
    split_ifs at h with he
    · rcases t with _ | t
      · simp [he]
      · simpa using getElem?_of_lt_commonLength xs ys t (by omega)
    · omega

/-- Behind a run the sequences agree as far as `commonLength` says. -/
theorem IsRun.forth {a b : List α} {w : Window} {m : Match} (h : IsRun a b w m) (hw : w.Fits a b)
    {n : Nat} (hn : n ≤ commonLength ((a.take w.ahi).drop (m.a + m.len))
      ((b.take w.bhi).drop (m.b + m.len))) :
    IsRun a b w ⟨m.a, m.b, m.len + n⟩ := by
  have hle := commonLength_le ((a.take w.ahi).drop (m.a + m.len))
    ((b.take w.bhi).drop (m.b + m.len))
  simp only [List.length_drop, List.length_take] at hle
  have h1 := hw.le_length
  have h2 := hw.le_length'
  induction n with
  | zero => exact h
  | succ n ih =>
    have hlt := getElem?_of_lt_commonLength _ _ n hn
    rw [List.getElem?_drop, List.getElem?_drop, List.getElem?_take_of_lt (by omega),
      List.getElem?_take_of_lt (by omega)] at hlt
    refine (ih (by omega)).succ (by omega) (by omega) ?_
    rw [← Nat.add_assoc, ← Nat.add_assoc]
    exact hlt

/-- In front of a run the sequences agree as far as `commonLength` says. -/
theorem IsRun.back {a b : List α} {w : Window} {m : Match} (h : IsRun a b w m) (hw : w.Fits a b)
    {n : Nat} (hn : n ≤ commonLength ((a.take m.a).drop w.alo).reverse
      ((b.take m.b).drop w.blo).reverse) :
    IsRun a b w ⟨m.a - n, m.b - n, n + m.len⟩ := by
  have hle := commonLength_le ((a.take m.a).drop w.alo).reverse ((b.take m.b).drop w.blo).reverse
  simp only [List.length_reverse, List.length_drop, List.length_take] at hle
  have ha := h.alo_le
  have ha' := h.le_ahi
  have hb := h.blo_le
  have hb' := h.le_bhi
  have h1 := hw.le_length
  have h2 := hw.le_length'
  refine ⟨by simp only; omega, by simp only; omega, by simp only; omega, by simp only; omega,
    fun t ht => ?_⟩
  change t < n + m.len at ht
  change a[m.a - n + t]? = b[m.b - n + t]?
  rcases Nat.lt_or_ge t n with htn | htn
  · -- element `t` of the extension is element `n - 1 - t` of the reversed parts
    have hlt := getElem?_of_lt_commonLength _ _ (n - 1 - t) (Nat.lt_of_lt_of_le (by omega) hn)
    rw [List.getElem?_reverse (by simp only [List.length_drop, List.length_take]; omega),
      List.getElem?_reverse (by simp only [List.length_drop, List.length_take]; omega),
      List.getElem?_drop, List.getElem?_drop] at hlt
    simp only [List.length_drop, List.length_take] at hlt
    rw [List.getElem?_take_of_lt (by omega), List.getElem?_take_of_lt (by omega)] at hlt
    rwa [show w.alo + (min m.a a.length - w.alo - 1 - (n - 1 - t)) = m.a - n + t by omega,
      show w.blo + (min m.b b.length - w.blo - 1 - (n - 1 - t)) = m.b - n + t by omega] at hlt
  · have := h.agree (t - n) (by omega)
    rwa [show m.a + (t - n) = m.a - n + t by omega,
      show m.b + (t - n) = m.b - n + t by omega] at this

/-- **A run stays one** when it is extended over equal neighbours. -/
theorem isRun_grow {a b : List α} {w : Window} {m : Match} (h : IsRun a b w m)
    (hw : w.Fits a b) : IsRun a b w (grow a b w m) := by
  set n := commonLength ((a.take m.a).drop w.alo).reverse ((b.take m.b).drop w.blo).reverse
    with hn
  have hle := commonLength_le ((a.take m.a).drop w.alo).reverse ((b.take m.b).drop w.blo).reverse
  simp only [List.length_reverse, List.length_drop, List.length_take, ← hn] at hle
  refine (h.back hw hn.le).forth hw ?_
  simp only
  rw [show m.a - n + (n + m.len) = m.a + m.len by omega,
    show m.b - n + (n + m.len) = m.b + m.len by omega]

/-! ### The search -/

theorem mem_positions {b : List α} {x : α} {j : Nat} : j ∈ positions b x ↔ b[j]? = some x := by
  simp only [positions, List.mem_map, List.mem_filter, decide_eq_true_eq, Prod.exists,
    List.mk_mem_zipIdx_iff_getElem?]
  constructor
  · rintro ⟨y, i, ⟨h, rfl⟩, rfl⟩
    exact h
  · intro h
    exact ⟨x, j, ⟨h, rfl⟩, rfl⟩

/-- The index of an element of `a` holds positions of equal elements of `b` only. -/
theorem getElem?_of_mem_index {a b : List α} {i : Nat} {js : List Nat}
    (hjs : (index a b)[i]? = some js) {j : Nat} (hj : j ∈ js) : a[i]? = b[j]? := by
  simp only [index, List.getElem?_map, Option.map_eq_some_iff] at hjs
  obtain ⟨x, hx, rfl⟩ := hjs
  split_ifs at hj
  · simp at hj
  · rw [hx, mem_positions.mp hj]

/-- **The search gives a run of its window.** -/
theorem isRun_longest {a b : List α} {w : Window} (hw : w.Fits a b) :
    IsRun a b w (longest a b (index a b) w) := by
  refine isRun_grow (isRun_scanRows _ _ _ _ le_rfl ?_ (fun t js ht j hj => ?_) (by simp)
    hw.isRun_nil) hw
  · have h1 := hw.alo_le
    have h2 := hw.le_length
    simp only [List.length_drop, List.length_take, index, List.length_map]
    omega
  · rw [List.getElem?_drop] at ht
    suffices h : (index a b)[w.alo + t]? = some js from getElem?_of_mem_index h hj
    rw [← ht]
    refine (List.getElem?_take_of_lt ?_).symm
    by_contra hn
    rw [List.getElem?_take_eq_none (by omega)] at ht
    simp at ht

end Golden.Diff
