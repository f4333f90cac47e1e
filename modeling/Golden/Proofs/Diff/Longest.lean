import Golden.Proofs.Diff.Runs

/-! # The longest run of a window

A *seed* is a run without popular elements (`IsSeed`). The rows of the index only know seeds, and
the search keeps the one that *leads* all others (`Match.Leads`): the longest one, and of several the
one that begins first in the one sequence and then in the other.

* `isRow_nextRow`: a row for position `i` has an entry for every seed that ends in front of `i`, at
  least as long as the seed (`IsRow`).
* `leads_foldl_better`: going through the entries of a row keeps what leads.
* `leads_scanRows`: after all rows of a window, the best run leads all seeds of the window.
* `maximal_grow`: a run that is extended over equal neighbours cannot be extended any further
  (`IsMaximal`).
* `maximal_longest`: what the search finds in a window. -/

namespace Golden.Diff

variable {α : Type}

/-! ### What is found first -/

/-- A match leads another if it is longer, or equally long and begins earlier in the first sequence,
or there at the same position and in the second sequence no later. -/
def Match.Leads (m n : Match) : Prop :=
  n.len < m.len ∨ n.len = m.len ∧ (m.a < n.a ∨ m.a = n.a ∧ m.b ≤ n.b)

theorem Match.Leads.refl (m : Match) : m.Leads m := Or.inr ⟨rfl, Or.inr ⟨rfl, le_rfl⟩⟩

theorem Match.Leads.trans {l m n : Match} (h : l.Leads m) (h' : m.Leads n) : l.Leads n := by
  unfold Match.Leads at *
  omega

theorem Match.Leads.len_le {m n : Match} (h : m.Leads n) : n.len ≤ m.len := by
  unfold Match.Leads at h
  omega

/-- **A run that cannot be extended** in its window, neither in front nor behind. -/
structure IsMaximal (a b : List α) (w : Window) (m : Match) : Prop extends IsRun a b w m where
  front : w.alo < m.a → w.blo < m.b → a[m.a - 1]? ≠ b[m.b - 1]?
  behind : m.a + m.len < w.ahi → m.b + m.len < w.bhi → a[m.a + m.len]? ≠ b[m.b + m.len]?

variable [DecidableEq α] {a b : List α} {w : Window}

/-! ### Seeds -/

/-- An element of a sequence is popular if the sequence is long and holds the element often. -/
def Popular (b : List α) (x : α) : Prop := 200 ≤ b.length ∧ b.length / 100 + 1 < b.count x

instance (b : List α) (x : α) : Decidable (Popular b x) := inferInstanceAs (Decidable (_ ∧ _))

theorem isPopular_iff {x : α} : isPopular b x = true ↔ Popular b x := by
  rw [isPopular, Bool.and_eq_true, decide_eq_true_eq, decide_eq_true_eq]
  rfl

/-- **A seed** is a run without popular elements. -/
structure IsSeed (a b : List α) (w : Window) (m : Match) : Prop extends IsRun a b w m where
  unpopular : ∀ t < m.len, ∀ x, b[m.b + t]? = some x → ¬ Popular b x

/-- A beginning of a seed is a seed. -/
theorem IsSeed.init {i j k : Nat} (h : IsSeed a b w ⟨i, j, k + 1⟩) : IsSeed a b w ⟨i, j, k⟩ :=
  ⟨⟨h.alo_le, (Nat.le_succ _).trans h.le_ahi, h.blo_le, (Nat.le_succ _).trans h.le_bhi,
    fun t ht => h.agree t (Nat.lt_succ_of_lt ht)⟩, fun t ht => h.unpopular t (Nat.lt_succ_of_lt ht)⟩

/-- The elements of the first sequence, each with a mark that tells whether it is popular. -/
def marked (a b : List α) : List (α × Bool) := a.map fun x => (x, isPopular b x)

/-- The elements of the second sequence, none of them marked. -/
def unmarked (b : List α) : List (α × Bool) := b.map fun x => (x, false)

theorem marked_eq_unmarked {i j : Nat} : (marked a b)[i]? = (unmarked b)[j]? ↔
    a[i]? = b[j]? ∧ ∀ x, b[j]? = some x → ¬ Popular b x := by
  simp only [marked, unmarked, List.getElem?_map, ← isPopular_iff]
  cases a[i]? with
  | none => cases b[j]? <;> simp
  | some x =>
    cases b[j]? with
    | none => simp
    | some y =>
      simp only [Option.map_some, Option.some.injEq, Prod.mk.injEq, forall_eq', Bool.not_eq_true]
      exact and_congr_right fun h => by rw [h]

/-- **Seeds are runs of marked elements**, because a popular one is not marked as one in the second
sequence. -/
theorem isSeed_iff {m : Match} : IsSeed a b w m ↔ IsRun (marked a b) (unmarked b) w m := by
  constructor
  · intro h
    exact ⟨h.alo_le, h.le_ahi, h.blo_le, h.le_bhi, fun t ht =>
      marked_eq_unmarked.mpr ⟨h.agree t ht, h.unpopular t ht⟩⟩
  · intro h
    exact ⟨⟨h.alo_le, h.le_ahi, h.blo_le, h.le_bhi, fun t ht =>
      (marked_eq_unmarked.mp (h.agree t ht)).1⟩,
      fun t ht => (marked_eq_unmarked.mp (h.agree t ht)).2⟩

/-- **The index** of an element holds the positions of equal elements that are not popular. -/
theorem mem_index_iff {i j : Nat} {js : List Nat} (hjs : (index a b)[i]? = some js) :
    j ∈ js ↔ ∃ x, a[i]? = some x ∧ b[j]? = some x ∧ ¬ Popular b x := by
  simp only [index, List.getElem?_map, Option.map_eq_some_iff] at hjs
  obtain ⟨x, hx, rfl⟩ := hjs
  rw [hx]
  split_ifs with hp
  · simp [isPopular_iff.mp hp]
  · rw [isPopular_iff] at hp
    simp [mem_positions, hp]

theorem ascending_positions (b : List α) (x : α) :
    (positions b x).Pairwise (· < ·) := by
  have hsub : (positions b x).Sublist (b.zipIdx.map (·.2)) := List.filter_sublist.map _
  refine List.Pairwise.sublist hsub ?_
  rw [List.zipIdx_map_snd]
  exact List.pairwise_lt_range'

theorem ascending_index {i : Nat} {js : List Nat} (hjs : (index a b)[i]? = some js) :
    js.Pairwise (· < ·) := by
  simp only [index, List.getElem?_map, Option.map_eq_some_iff] at hjs
  obtain ⟨x, -, rfl⟩ := hjs
  split_ifs
  · exact List.Pairwise.nil
  · exact ascending_positions b x

/-! ### Rows -/

theorem map_fst_nextRow (above : List (Nat × Nat)) (js : List Nat) :
    (nextRow above js).map Prod.fst = js := by
  induction above, js using nextRow.induct with
  | case1 above => simp [nextRow]
  | case2 j js ih => simp [nextRow, ih]
  | case3 p k above j js hlt ih => rw [nextRow, if_pos hlt, ih]
  | case4 p k above js hlt ih => simp [nextRow, ih]
  | case5 p k above j js hlt hne ih => simp [nextRow, hlt, hne, ih]

/-- The entry behind an entry of the row above prolongs it. -/
theorem succ_mem_nextRow {above : List (Nat × Nat)} {js : List Nat}
    (habove : above.Pairwise fun p q => p.1 < q.1) (hjs : js.Pairwise (· < ·)) {p k : Nat}
    (hp : (p, k) ∈ above) (hj : p + 1 ∈ js) : (p + 1, k + 1) ∈ nextRow above js := by
  induction above, js using nextRow.induct with
  | case1 above => simp at hj
  | case2 j js ih => simp at hp
  | case3 p' k' above j js hlt ih =>
    rw [nextRow, if_pos hlt]
    rw [List.pairwise_cons] at habove
    rcases List.mem_cons.mp hp with h | h
    · -- the positions are all too far away for the first entry above
      cases h
      rcases List.mem_cons.mp hj with h | h
      · omega
      · have := (List.pairwise_cons.mp hjs).1 _ h
        omega
    · exact ih habove.2 hjs h hj
  | case4 p' k' above js hlt ih =>
    rw [nextRow, if_neg hlt, if_pos rfl]
    rw [List.pairwise_cons] at habove hjs
    rcases List.mem_cons.mp hp with h | h
    · cases h
      exact List.mem_cons_self
    · have hlt' := habove.1 _ h
      rcases List.mem_cons.mp hj with h' | h'
      · simp only at hlt'
        omega
      · exact List.mem_cons_of_mem _ (ih habove.2 hjs.2 h h')
  | case5 p' k' above j js hlt hne ih =>
    rw [nextRow, if_neg hlt, if_neg hne]
    have hle : p' ≤ p := by
      rcases List.mem_cons.mp hp with h | h
      · cases h
        exact le_rfl
      · exact ((List.pairwise_cons.mp habove).1 _ h).le
    rcases List.mem_cons.mp hj with h | h
    · omega
    · exact List.mem_cons_of_mem _ (ih habove (List.pairwise_cons.mp hjs).2 hp h)

/-- **A row for position** `i`: its entries are in ascending order and stand for runs that end in
front of `i`, and every seed that ends there has an entry, which may be longer than the seed. -/
structure IsRow (a b : List α) (w : Window) (i : Nat) (row : List (Nat × Nat)) : Prop where
  ascending : row.Pairwise fun p q => p.1 < q.1
  ends : ∀ jk ∈ row, EndsAt a b w i jk
  covers : ∀ m j, IsSeed a b w m → m.a + m.len = i → m.b + m.len = j + 1 → 0 < m.len →
    ∃ k, m.len ≤ k ∧ (j, k) ∈ row

/-- No seed ends at the beginning of a window. -/
theorem isRow_nil : IsRow a b w w.alo [] := by
  refine ⟨List.Pairwise.nil, by simp, fun m j h hi _ hpos => ?_⟩
  have := h.alo_le
  omega

/-- **One row** after another. -/
theorem isRow_nextRow {i : Nat} {above : List (Nat × Nat)} {js : List Nat}
    (hrow : IsRow a b w i above) (hi : w.alo ≤ i) (hi' : i < w.ahi)
    (hjs : (index a b)[i]? = some js) :
    IsRow a b w (i + 1) (nextRow above (js.filter fun j => w.blo ≤ j && j < w.bhi)) := by
  set here := js.filter fun j => w.blo ≤ j && j < w.bhi with hhere
  have hasc : here.Pairwise (· < ·) := (ascending_index hjs).filter _
  refine ⟨?_, ?_, ?_⟩
  · rw [← map_fst_nextRow above here, List.pairwise_map] at hasc
    exact hasc
  · exact endsAt_nextRow hi hi' (fun j hj => getElem?_of_mem_index hjs hj) hrow.ends
  · rintro ⟨x, y, len⟩ j h hend hend' hpos
    obtain ⟨len, rfl⟩ : ∃ l, len = l + 1 := ⟨len - 1, (Nat.sub_add_cancel hpos).symm⟩
    simp only at hend hend'
    -- the last element of the seed is one of the row
    have hmem : j ∈ here := by
      have hagree := h.agree len (Nat.lt_succ_self len)
      have hx : x + len = i := by omega
      have hy : y + len = j := by omega
      have hunpopular := h.unpopular len (Nat.lt_succ_self len)
      simp only [hx, hy] at hagree hunpopular
      have hlo := h.blo_le
      have hhi := h.le_bhi
      simp only at hlo hhi
      simp only [hhere, List.mem_filter, Bool.and_eq_true, decide_eq_true_eq]
      refine ⟨(mem_index_iff hjs).mpr ?_, by omega, by omega⟩
      simp only [index, List.getElem?_map, Option.map_eq_some_iff] at hjs
      obtain ⟨e, he, -⟩ := hjs
      exact ⟨e, he, hagree ▸ he, hunpopular e (hagree ▸ he)⟩
    rcases Nat.eq_zero_or_pos len with rfl | hlen
    · have hfst : j ∈ (nextRow above here).map Prod.fst := by rwa [map_fst_nextRow]
      obtain ⟨⟨j', k⟩, hjk, rfl⟩ := List.mem_map.mp hfst
      refine ⟨k, ?_, hjk⟩
      rcases (of_mem_nextRow hjk).2 with rfl | ⟨_, l, -, -, rfl⟩
      · exact le_rfl
      · exact Nat.succ_le_succ (Nat.zero_le l)
    · obtain ⟨k, hk, hkmem⟩ := hrow.covers ⟨x, y, len⟩ (j - 1) h.init (by simp only; omega)
        (by simp only; omega) hlen
      have hj : j - 1 + 1 = j := by omega
      refine ⟨k + 1, Nat.succ_le_succ hk, ?_⟩
      have := succ_mem_nextRow hrow.ascending hasc hkmem (hj.symm ▸ hmem)
      rwa [hj] at this

/-- The run that an entry stands for. -/
def runTo (i : Nat) (jk : Nat × Nat) : Match := ⟨i - jk.2, jk.1 + 1 - jk.2, jk.2⟩

/-- **The entries of a row** are led by the best run in the end, if those that are not longer than it
are so in the beginning. -/
theorem leads_foldl_better {i : Nat} : ∀ (row : List (Nat × Nat)) (best : Match),
    row.Pairwise (fun p q => p.1 < q.1) → (∀ jk ∈ row, jk.2 ≤ i + 1) →
    best.a + best.len ≤ i + 1 →
    (∀ jk ∈ row, jk.2 ≤ best.len → best.Leads (runTo (i + 1) jk)) →
    (row.foldl (better i) best).a + (row.foldl (better i) best).len ≤ i + 1 ∧
      (row.foldl (better i) best).Leads best ∧
      ∀ jk ∈ row, (row.foldl (better i) best).Leads (runTo (i + 1) jk)
  | [], best, _, _, hend, _ => ⟨hend, .refl best, by simp⟩
  | jk :: row, best, hasc, hle, hend, hlead => by
    rw [List.pairwise_cons] at hasc
    have hle' := fun p hp => hle p (List.mem_cons_of_mem jk hp)
    rw [List.foldl_cons]
    by_cases hlt : best.len < jk.2
    · have hbetter : better i best jk = runTo (i + 1) jk := if_pos hlt
      have hjk := hle jk List.mem_cons_self
      rw [hbetter]
      obtain ⟨h1, h2, h3⟩ := leads_foldl_better row (runTo (i + 1) jk) hasc.2 hle'
        (by simp only [runTo]; omega) fun p hp hpk => by
          -- a later entry of the same length begins later in the second sequence
          have := hasc.1 p hp
          simp only [runTo] at hpk
          unfold Match.Leads runTo
          simp only
          omega
      refine ⟨h1, h2.trans (Or.inl hlt), fun p hp => ?_⟩
      rcases List.mem_cons.mp hp with rfl | hp
      · exact h2
      · exact h3 p hp
    · have hbetter : better i best jk = best := if_neg hlt
      rw [hbetter]
      obtain ⟨h1, h2, h3⟩ := leads_foldl_better row best hasc.2 hle' hend
        fun p hp => hlead p (List.mem_cons_of_mem jk hp)
      refine ⟨h1, h2, fun p hp => ?_⟩
      rcases List.mem_cons.mp hp with rfl | hp
      · exact h2.trans (hlead p List.mem_cons_self (Nat.le_of_not_lt hlt))
      · exact h3 p hp

/-- **All rows** of a window give a run that leads every seed which ends in front of them or in
them. -/
theorem leads_scanRows : ∀ (rows : List (List Nat)) (i : Nat) (above : List (Nat × Nat))
    (best : Match), w.alo ≤ i → i + rows.length ≤ w.ahi →
    (∀ t js, rows[t]? = some js → (index a b)[i + t]? = some js) → IsRow a b w i above →
    best.a + best.len ≤ i → (∀ m, IsSeed a b w m → m.len = 0 ∨ m.a + m.len ≤ i → best.Leads m) →
    ∀ m, IsSeed a b w m → m.len = 0 ∨ m.a + m.len ≤ i + rows.length →
      (scanRows w.blo w.bhi rows i above best).Leads m
  | [], _, _, _, _, _, _, _, _, hbest => hbest
  | js :: rows, i, above, best, hi, hlen, hrows, habove, hend, hbest => by
    rw [List.length_cons] at hlen
    have hrow := isRow_nextRow habove hi (by omega) (hrows 0 js rfl)
    rw [scanRows, List.length_cons, show i + (rows.length + 1) = i + 1 + rows.length by omega]
    set row := nextRow above (js.filter fun j => w.blo ≤ j && j < w.bhi)
    obtain ⟨h1, h2, h3⟩ := leads_foldl_better (i := i) row best hrow.ascending
      (fun jk hjk => (hrow.ends jk hjk).1) (by omega) fun jk hjk hle => by
        -- an entry of the same length begins later in the first sequence
        have := (hrow.ends jk hjk).1
        unfold Match.Leads runTo
        simp only
        omega
    refine leads_scanRows rows (i + 1) row _ (by omega) (by omega) (fun t js' ht => ?_) hrow h1
      fun m hm hme => ?_
    · rw [show i + 1 + t = i + (t + 1) by omega]
      exact hrows (t + 1) js' (by simpa using ht)
    · by_cases hm0 : m.len = 0 ∨ m.a + m.len ≤ i
      · exact h2.trans (hbest m hm hm0)
      · obtain ⟨k, hk, hkmem⟩ := hrow.covers m (m.b + m.len - 1) hm (by omega) (by omega)
          (by omega)
        refine (h3 _ hkmem).trans ?_
        unfold Match.Leads runTo
        simp only
        omega

/-! ### The search -/

/-- The rows of a window. -/
def windowRows (a b : List α) (w : Window) : List (List Nat) := ((index a b).take w.ahi).drop w.alo

theorem length_windowRows (hw : w.Fits a b) : w.alo + (windowRows a b w).length = w.ahi := by
  have h1 := hw.alo_le
  have h2 := hw.le_length
  simp only [windowRows, List.length_drop, List.length_take, index, List.length_map]
  omega

theorem getElem?_windowRows {t : Nat} {js : List Nat} (h : (windowRows a b w)[t]? = some js) :
    (index a b)[w.alo + t]? = some js := by
  rw [windowRows, List.getElem?_drop] at h
  by_cases ht : w.alo + t < w.ahi
  · rwa [List.getElem?_take_of_lt ht] at h
  · rw [List.getElem?_take_eq_none (Nat.le_of_not_lt ht)] at h
    cases h

/-- The seed that the search begins with: the first of the longest ones. -/
def seed (a b : List α) (w : Window) : Match :=
  scanRows w.blo w.bhi (windowRows a b w) w.alo [] ⟨w.alo, w.blo, 0⟩

theorem longest_eq (a b : List α) (w : Window) :
    longest a b (index a b) w = grow a b w (seed a b w) := rfl

theorem isSeed_seed (hw : w.Fits a b) : IsSeed a b w (seed a b w) := by
  refine isSeed_iff.mpr (isRun_scanRows _ _ _ _ le_rfl (length_windowRows hw).le
    (fun t js ht j hj => ?_) (by simp) ?_)
  · obtain ⟨x, hx, hxb, hxp⟩ := (mem_index_iff (getElem?_windowRows ht)).mp hj
    refine marked_eq_unmarked.mpr ⟨hx.trans hxb.symm, fun y hy => ?_⟩
    rw [hxb] at hy
    exact Option.some.inj hy ▸ hxp
  · exact isSeed_iff.mp ⟨hw.isRun_nil, by simp⟩

/-- **The search begins with a seed that leads all seeds of the window.** -/
theorem leads_seed (hw : w.Fits a b) {m : Match} (hm : IsSeed a b w m) :
    (seed a b w).Leads m := by
  have hlen := length_windowRows hw
  refine leads_scanRows _ _ _ _ le_rfl hlen.le (fun _ _ => getElem?_windowRows) isRow_nil le_rfl
    (fun n hn hn0 => ?_) m hm (Or.inr ?_)
  · have h1 := hn.alo_le
    have h2 := hn.blo_le
    unfold Match.Leads
    simp only
    omega
  · rw [hlen]
    exact hm.le_ahi

/-! ### Extension over equal neighbours -/

theorem getElem?_commonLength_ne : ∀ xs ys : List α, commonLength xs ys < xs.length →
    commonLength xs ys < ys.length → xs[commonLength xs ys]? ≠ ys[commonLength xs ys]?
  | [], _, h, _ => by simp at h
  | _ :: _, [], _, h => by simp at h
  | x :: xs, y :: ys, h, h' => by
    rw [commonLength] at h h' ⊢
    split_ifs at h h' ⊢ with he
    · simp only [List.length_cons, Nat.add_lt_add_iff_right] at h h'
      simpa using getElem?_commonLength_ne xs ys h h'
    · simpa using he

omit [DecidableEq α] in
theorem getElem?_between {xs : List α} {lo hi t : Nat} (h : lo + t < hi) :
    ((xs.take hi).drop lo)[t]? = xs[lo + t]? := by
  rw [List.getElem?_drop, List.getElem?_take_of_lt h]

omit [DecidableEq α] in
theorem getElem?_between_reverse {xs : List α} {lo hi t : Nat} (h : lo + t < hi)
    (hhi : hi ≤ xs.length) : ((xs.take hi).drop lo).reverse[t]? = xs[hi - t - 1]? := by
  have hlen : ((xs.take hi).drop lo).length = hi - lo := by
    rw [List.length_drop, List.length_take, Nat.min_eq_left hhi]
  rw [List.getElem?_reverse (by omega), hlen, getElem?_between (by omega)]
  congr 1
  omega

/-- **A run that is extended** as far as possible cannot be extended any further. -/
theorem maximal_grow {m : Match} (h : IsRun a b w m) (hw : w.Fits a b) :
    IsMaximal a b w (grow a b w m) := by
  have h1 := hw.le_length
  have h2 := hw.le_length'
  have h3 := h.le_ahi
  have h4 := h.le_bhi
  refine ⟨isRun_grow h hw, fun ha hb => ?_, fun ha hb => ?_⟩
  · -- the next elements in front are not equal, or more of them would be in common
    set n := commonLength ((a.take m.a).drop w.alo).reverse ((b.take m.b).drop w.blo).reverse
      with hn
    change w.alo < m.a - n at ha
    change w.blo < m.b - n at hb
    have hne := getElem?_commonLength_ne ((a.take m.a).drop w.alo).reverse
      ((b.take m.b).drop w.blo).reverse
    rw [← hn, getElem?_between_reverse (by omega) (by omega),
      getElem?_between_reverse (by omega) (by omega)] at hne
    simp only [List.length_reverse, List.length_drop, List.length_take] at hne
    exact hne (by omega) (by omega)
  · set n := commonLength ((a.take m.a).drop w.alo).reverse ((b.take m.b).drop w.blo).reverse
      with hn
    set k := commonLength ((a.take w.ahi).drop (m.a + m.len)) ((b.take w.bhi).drop (m.b + m.len))
      with hk
    have hle := commonLength_le ((a.take m.a).drop w.alo).reverse
      ((b.take m.b).drop w.blo).reverse
    simp only [List.length_reverse, List.length_drop, List.length_take, ← hn] at hle
    have hends : m.a - n + (n + m.len + k) = m.a + m.len + k ∧
        m.b - n + (n + m.len + k) = m.b + m.len + k := by omega
    change m.a - n + (n + m.len + k) < w.ahi at ha
    change m.b - n + (n + m.len + k) < w.bhi at hb
    change a[m.a - n + (n + m.len + k)]? ≠ b[m.b - n + (n + m.len + k)]?
    rw [hends.1] at ha ⊢
    rw [hends.2] at hb ⊢
    have hne := getElem?_commonLength_ne ((a.take w.ahi).drop (m.a + m.len))
      ((b.take w.bhi).drop (m.b + m.len))
    rw [← hk, getElem?_between ha, getElem?_between hb] at hne
    simp only [List.length_drop, List.length_take] at hne
    exact hne (by omega) (by omega)

theorem len_le_grow (a b : List α) (w : Window) (m : Match) : m.len ≤ (grow a b w m).len := by
  unfold grow
  simp only
  omega

/-- A run that is not longer when it is extended is not extended. -/
theorem grow_eq_self {m : Match} (h : (grow a b w m).len ≤ m.len) : grow a b w m = m := by
  unfold grow at h ⊢
  simp only at h ⊢
  set n := commonLength ((a.take m.a).drop w.alo).reverse ((b.take m.b).drop w.blo).reverse
  obtain ⟨hn, hk⟩ : n = 0 ∧ commonLength ((a.take w.ahi).drop (m.a + m.len))
      ((b.take w.bhi).drop (m.b + m.len)) = 0 := by omega
  simp [hn, hk]

/-! ### What is found -/

/-- **The search in a window.** What is found is a run that cannot be extended, and no run without
popular elements is longer. If no element is popular, no run at all is longer, and of those of the
same length it is the one that begins first in the first sequence, and of these the one that begins
first in the second. -/
theorem maximal_longest (hw : w.Fits a b) :
    let m := longest a b (index a b) w
    IsMaximal a b w m ∧
    (∀ n, IsRun a b w n → (∀ t < n.len, ∀ x, b[n.b + t]? = some x → ¬ Popular b x) →
      n.len ≤ m.len) ∧
    ((∀ x ∈ b, ¬ Popular b x) → ∀ n, IsRun a b w n →
      n.len ≤ m.len ∧ (n.len = m.len → m.a < n.a ∨ m.a = n.a ∧ m.b ≤ n.b)) := by
  intro m
  have hseed := isSeed_seed hw
  have hmax : IsMaximal a b w m := maximal_grow hseed.toIsRun hw
  have hlead (n : Match) (hn : IsSeed a b w n) : n.len ≤ m.len :=
    (leads_seed hw hn).len_le.trans (len_le_grow a b w _)
  refine ⟨hmax, fun n hn hp => hlead n ⟨hn, hp⟩, fun hnone n hn => ?_⟩
  have hall {k : Match} (hk : IsRun a b w k) : IsSeed a b w k :=
    ⟨hk, fun _ _ x hx => hnone x (List.mem_of_getElem? hx)⟩
  -- the extension of the seed is a seed itself, so that nothing is extended
  have hsame : m = seed a b w := grow_eq_self (leads_seed hw (hall hmax.toIsRun)).len_le
  refine ⟨hlead n (hall hn), fun hlen => ?_⟩
  have := leads_seed hw (hall hn)
  rw [← hsame] at this
  unfold Match.Leads at this
  omega

/-- A sequence in which zeros are popular. -/
def zeros : List Nat := List.replicate 199 0 ++ [1, 0]

/-- Popular elements only extend what is found. Without any, the first of several runs of the same
length is found. -/
theorem maximal_longest_zeros :
    let a := [2, 0, 1, 0, 1]
    let w : Window := ⟨0, 5, 0, 201⟩
    let a' := [1, 2, 1, 2, 3]
    let b' := [0, 1, 2, 5, 1, 2]
    let w' : Window := ⟨0, 5, 0, 6⟩
    (Popular zeros 0 ∧ w.Fits a zeros ∧ longest a zeros (index a zeros) w = ⟨1, 198, 3⟩ ∧
      IsMaximal a zeros w ⟨1, 198, 3⟩ ∧ ∀ n, IsRun a zeros w n →
        (∀ t < n.len, ∀ x, zeros[n.b + t]? = some x → ¬ Popular zeros x) → n.len ≤ 3) ∧
    (∀ x ∈ b', ¬ Popular b' x) ∧ w'.Fits a' b' ∧ longest a' b' (index a' b') w' = ⟨0, 1, 2⟩ ∧
      ∀ n, IsRun a' b' w' n → n.len ≤ 2 ∧ (n.len = 2 → 0 < n.a ∨ 0 = n.a ∧ 1 ≤ n.b) := by
  intro a w a' b' w'
  have hw : w.Fits a zeros := ⟨by decide, by decide, by decide, by decide +kernel⟩
  have hfound : longest a zeros (index a zeros) w = ⟨1, 198, 3⟩ := by decide +kernel
  have hw' : w'.Fits a' b' := ⟨by decide, by decide, by decide, by decide⟩
  have hfound' : longest a' b' (index a' b') w' = ⟨0, 1, 2⟩ := by decide +kernel
  have hnone : ∀ x ∈ b', ¬ Popular b' x := by decide
  obtain ⟨hmax, hlong, -⟩ := maximal_longest (a := a) (b := zeros) hw
  obtain ⟨-, -, hfirst⟩ := maximal_longest (a := a') (b := b') hw'
  rw [hfound] at hmax hlong
  have hfirst' := hfirst hnone
  rw [hfound'] at hfirst'
  exact ⟨⟨by decide +kernel, hw, hfound, hmax, hlong⟩, hnone, hw', hfound', hfirst'⟩

end Golden.Diff
