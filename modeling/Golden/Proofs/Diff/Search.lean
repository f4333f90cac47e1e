import Golden.Proofs.Diff.Blocks
import Golden.Proofs.Diff.Longest
import Mathlib.Data.List.Perm.Basic

/-! # The search for all runs

The search goes on while there are windows in a queue. It does not matter which of them is taken
next (`Search.Takes`): what has been found, together with the runs of the windows in the queue, is
always the same up to its order (`Search.expected`), and every window that is taken leaves less to
be done (`totalBudget`). In the end the runs are those of the whole window, in the order in which a
recursion finds them (`inOrder`).

A window is searched by going through positions of both sequences, and some positions are found by
subtraction. `longest?` is the search in which all this may fail.

* `longest?_eq`: in a window of the two sequences nothing fails, and the run is the longest one.
* `ascending_inOrder`: the recursion finds runs in ascending order.
* `Search.Takes.keeps`, `Search.Runs.keeps`: what turns of the search keep, and what they use up.
* `runs_collect`: to take the window at the top of a stack is one way to search.
* `flatMap_pairs_joined`, `isChain_joined`: joining runs keeps the pairs of positions, and leaves no
  adjacent runs.
* `blocks_inOrder`: the search in any order, and the blocks of two sequences. -/

namespace Golden.Diff

variable {α : Type} [DecidableEq α] {a b : List α} {w : Window}

/-! ### The search of a window, step by step -/

/-- A difference, if it is not negative. -/
def minus? (m n : Nat) : Option Nat := if n ≤ m then some (m - n) else none

theorem minus?_of_le {m n : Nat} (h : n ≤ m) : minus? m n = some (m - n) := if_pos h

/-- The better of the best run so far and a run of length `jk.2` that ends at `i` and `jk.1`. -/
def better? (i : Nat) (best : Match) (jk : Nat × Nat) : Option Match :=
  if best.len < jk.2 then do
    let x ← minus? (i + 1) jk.2
    let y ← minus? (jk.1 + 1) jk.2
    return ⟨x, y, jk.2⟩
  else return best

/-- Goes through `n` elements of the first sequence, from position `i` on. -/
def scanRows? (a b : List α) (blo bhi : Nat) :
    Nat → Nat → List (Nat × Nat) → Match → Option Match
  | 0, _, _, best => return best
  | n + 1, i, above, best => do
    let x ← a[i]?
    let js := if isPopular b x then [] else positions b x
    let row := nextRow above (js.filter fun j => blo ≤ j && j < bhi)
    let best ← row.foldlM (better? i) best
    scanRows? a b blo bhi n (i + 1) row best

/-- Extends a run in front, one element after the other. Nothing is in front of position 0. -/
def extendFront? (a b : List α) (w : Window) : Nat → Nat → Nat → Option Match
  | i + 1, j + 1, len =>
    if w.alo < i + 1 ∧ w.blo < j + 1 then do
      let x ← a[i]?
      let y ← b[j]?
      if x = y then extendFront? a b w i j (len + 1) else return ⟨i + 1, j + 1, len⟩
    else return ⟨i + 1, j + 1, len⟩
  | i, j, len => if w.alo < i ∧ w.blo < j then none else some ⟨i, j, len⟩

/-- Extends a run behind, one element after the other. -/
def extendBehind? (a b : List α) (w : Window) (m : Match) : Option Match :=
  if m.a + m.len < w.ahi ∧ m.b + m.len < w.bhi then do
    let x ← a[m.a + m.len]?
    let y ← b[m.b + m.len]?
    if x = y then extendBehind? a b w ⟨m.a, m.b, m.len + 1⟩ else return m
  else return m
termination_by w.ahi - (m.a + m.len)

/-- **The search of a window**, which fails if it comes to a position that a sequence does not have,
or to a negative difference. -/
def longest? (a b : List α) (w : Window) : Option Match := do
  let m ← scanRows? a b w.blo w.bhi (w.ahi - w.alo) w.alo [] ⟨w.alo, w.blo, 0⟩
  let m ← extendFront? a b w m.a m.b m.len
  extendBehind? a b w m

omit [DecidableEq α] in
theorem foldlM_better? {i : Nat} : ∀ (row : List (Nat × Nat)) (best : Match),
    (∀ jk ∈ row, EndsAt a b w (i + 1) jk) →
      row.foldlM (better? i) best = some (row.foldl (better i) best)
  | [], _, _ => rfl
  | jk :: row, best, hrow => by
    obtain ⟨hi, hj, -⟩ := hrow jk List.mem_cons_self
    have hjk : better? i best jk = some (better i best jk) := by
      unfold better? better
      rw [minus?_of_le hi, minus?_of_le hj]
      split_ifs <;> rfl
    rw [List.foldlM_cons, hjk, List.foldl_cons]
    exact foldlM_better? row _ fun p hp => hrow p (List.mem_cons_of_mem _ hp)

/-- **The rows of a window** are gone through to the end. -/
theorem scanRows?_eq (hw : w.Fits a b) : ∀ (n i : Nat) (above : List (Nat × Nat)) (best : Match),
    w.alo ≤ i → i + n = w.ahi → (∀ jk ∈ above, EndsAt a b w i jk) →
      scanRows? a b w.blo w.bhi n i above best =
        some (scanRows w.blo w.bhi (((index a b).take w.ahi).drop i) i above best)
  | 0, i, above, best, _, hn, _ => by
    rw [List.drop_eq_nil_of_le (by rw [List.length_take]; omega)]
    rfl
  | n + 1, i, above, best, hi, hn, habove => by
    have hlen := hw.le_length
    have hia : i < a.length := by omega
    have hindex : i < ((index a b).take w.ahi).length := by
      rw [List.length_take, index, List.length_map]
      omega
    have hjs : ((index a b).take w.ahi)[i] =
        if isPopular b a[i] then [] else positions b a[i] := by
      simp [index]
    have hequal : ∀ j ∈ ((index a b).take w.ahi)[i], a[i]? = b[j]? := fun j hj =>
      getElem?_of_mem_index (by simp [index, hia]) hj
    have hrow := endsAt_nextRow hi (by omega) hequal habove
    rw [List.drop_eq_getElem_cons hindex, scanRows?, scanRows, List.getElem?_eq_getElem hia]
    change (List.foldlM (better? i) best (nextRow above (List.filter _
      (if isPopular b a[i] then [] else positions b a[i])))).bind _ = _
    rw [← hjs, foldlM_better? _ _ hrow]
    exact scanRows?_eq hw n (i + 1) _ _ (by omega) (by omega) hrow

theorem commonLength_nil_right (xs : List α) : commonLength xs [] = 0 := by
  cases xs <;> rfl

omit [DecidableEq α] in
/-- The part of a sequence up to a position, from its end. -/
theorem reverse_between_succ {xs : List α} {lo i : Nat} (hlo : lo ≤ i) (hi : i < xs.length) :
    ((xs.take (i + 1)).drop lo).reverse = xs[i] :: ((xs.take i).drop lo).reverse := by
  rw [← List.take_append_getElem hi,
    List.drop_append_of_le_length (by rw [List.length_take]; omega), List.reverse_append]
  rfl

/-- **A run is extended in front** as far as its surroundings are equal. -/
theorem extendFront?_eq : ∀ (i j len : Nat), i ≤ a.length → j ≤ b.length →
    extendFront? a b w i j len =
      let n := commonLength ((a.take i).drop w.alo).reverse ((b.take j).drop w.blo).reverse
      some ⟨i - n, j - n, len + n⟩
  | 0, j, len, _, _ => by
    simp [extendFront?, commonLength]
  | i + 1, 0, len, _, _ => by
    simp [extendFront?, commonLength_nil_right]
  | i + 1, j + 1, len, hi, hj => by
    rw [extendFront?]
    split_ifs with hw
    · rw [reverse_between_succ (by omega) hi, reverse_between_succ (by omega) hj, commonLength,
        List.getElem?_eq_getElem hi, List.getElem?_eq_getElem hj]
      change (if a[i] = b[j] then _ else _) = _
      split_ifs with he
      · rw [extendFront?_eq i j (len + 1) (by omega) (by omega)]
        simp only [Nat.add_sub_add_right, Option.some.injEq, Match.mk.injEq, true_and]
        omega
      · rfl
    · have hempty : (a.take (i + 1)).drop w.alo = [] ∨ (b.take (j + 1)).drop w.blo = [] := by
        simp only [List.drop_eq_nil_iff, List.length_take]
        omega
      rcases hempty with h | h
      · simp [h, commonLength]
      · simp [h, commonLength_nil_right]

/-- **A run is extended behind** as far as its surroundings are equal. -/
theorem extendBehind?_eq (hw : w.Fits a b) (m : Match) : extendBehind? a b w m =
    some ⟨m.a, m.b, m.len + commonLength ((a.take w.ahi).drop (m.a + m.len))
      ((b.take w.bhi).drop (m.b + m.len))⟩ := by
  have h1 := hw.le_length
  have h2 := hw.le_length'
  fun_induction extendBehind? a b w m with
  | case1 m hm ih =>
    have ha : m.a + m.len < (a.take w.ahi).length := by rw [List.length_take]; omega
    have hb : m.b + m.len < (b.take w.bhi).length := by rw [List.length_take]; omega
    have hxa : a[m.a + m.len]? = some (a.take w.ahi)[m.a + m.len] := by
      rw [← List.getElem?_eq_getElem ha, List.getElem?_take_of_lt hm.1]
    have hxb : b[m.b + m.len]? = some (b.take w.bhi)[m.b + m.len] := by
      rw [← List.getElem?_eq_getElem hb, List.getElem?_take_of_lt hm.2]
    rw [hxa, hxb, List.drop_eq_getElem_cons ha, List.drop_eq_getElem_cons hb, commonLength]
    change (if _ = _ then _ else _) = _
    split_ifs
    · rw [ih]
      simp only [Nat.add_assoc, Nat.add_comm 1]
    · rfl
  | case2 m hm =>
    have hempty : (a.take w.ahi).drop (m.a + m.len) = [] ∨
        (b.take w.bhi).drop (m.b + m.len) = [] := by
      simp only [List.drop_eq_nil_iff, List.length_take]
      omega
    rcases hempty with h | h
    · simp [h, commonLength]
    · simp [h, commonLength_nil_right]

/-- **In a window of the two sequences nothing fails**, and the longest run is found. -/
theorem longest?_eq (hw : w.Fits a b) : longest? a b w = some (longest a b (index a b) w) := by
  have hseed := (isSeed_seed hw).toIsRun
  have hscan := scanRows?_eq hw (w.ahi - w.alo) w.alo [] ⟨w.alo, w.blo, 0⟩ le_rfl
    (Nat.add_sub_of_le hw.alo_le) (by simp)
  have h1 := hw.le_length
  have h2 := hw.le_length'
  have h3 := hseed.le_ahi
  have h4 := hseed.le_bhi
  rw [longest_eq, longest?, hscan]
  change ((extendFront? a b w (seed a b w).a (seed a b w).b (seed a b w).len).bind _) = _
  rw [extendFront?_eq _ _ _ (by omega) (by omega)]
  change extendBehind? a b w _ = _
  rw [extendBehind?_eq hw]
  unfold grow
  have hle := commonLength_le ((a.take (seed a b w).a).drop w.alo).reverse
    ((b.take (seed a b w).b).drop w.blo).reverse
  generalize seed a b w = m at *
  set n := commonLength ((a.take m.a).drop w.alo).reverse ((b.take m.b).drop w.blo).reverse
  simp only [List.length_reverse, List.length_drop, List.length_take] at hle
  -- the end of the run is where it was
  have ha : m.a - n + (m.len + n) = m.a + m.len := by omega
  have hb : m.b - n + (m.len + n) = m.b + m.len := by omega
  rw [ha, hb, Nat.add_comm m.len n]

/-! ### The recursion -/

instance (w : Window) : Decidable (w.Fits a b) :=
  decidable_of_iff (w.alo ≤ w.ahi ∧ w.ahi ≤ a.length ∧ w.blo ≤ w.bhi ∧ w.bhi ≤ b.length)
    ⟨fun ⟨h1, h2, h3, h4⟩ => ⟨h1, h2, h3, h4⟩,
      fun h => ⟨h.alo_le, h.le_length, h.blo_le, h.le_length'⟩⟩

/-- The part of a window in front of a run, in both sequences. -/
def Window.front (w : Window) (m : Match) : Window := ⟨w.alo, m.a, w.blo, m.b⟩

/-- The part of a window behind a run, in both sequences. -/
def Window.behind (w : Window) (m : Match) : Window := ⟨m.a + m.len, w.ahi, m.b + m.len, w.bhi⟩

/-- **The runs of a window by recursion**: the longest one, after the runs in front of it and before
those behind it, or none if it is empty. -/
def inOrder (a b : List α) (w : Window) : List Match :=
  let m := longest a b (index a b) w
  if _ : w.Fits a b ∧ m.len ≠ 0 then
    inOrder a b (w.front m) ++ m :: inOrder a b (w.behind m)
  else []
termination_by w.ahi - w.alo
decreasing_by
  all_goals
    obtain ⟨hw, hlen⟩ : w.Fits a b ∧ (longest a b (index a b) w).len ≠ 0 := ‹_›
    have h1 := (isRun_longest hw).alo_le
    have h2 := (isRun_longest hw).le_ahi
    simp only [Window.front, Window.behind]
    omega

theorem inOrder_eq (hw : w.Fits a b) : inOrder a b w =
    if (longest a b (index a b) w).len = 0 then []
    else inOrder a b (w.front (longest a b (index a b) w)) ++
      longest a b (index a b) w :: inOrder a b (w.behind (longest a b (index a b) w)) := by
  rw [inOrder]
  split_ifs with h h0 h0
  · exact absurd h0 h.2
  · rfl
  · rfl
  · exact absurd ⟨hw, h0⟩ h

/-- A window that is empty in one of the sequences has no runs. -/
theorem inOrder_of_empty (h : w.ahi ≤ w.alo ∨ w.bhi ≤ w.blo) : inOrder a b w = [] := by
  rw [inOrder]
  refine dif_neg fun ⟨hw, hlen⟩ => hlen ?_
  have hm := isRun_longest hw
  have h1 := hm.alo_le
  have h2 := hm.le_ahi
  have h3 := hm.blo_le
  have h4 := hm.le_bhi
  omega

theorem Window.Precedes.trans {u v w : Window} (hv : v.alo ≤ v.ahi) (hv' : v.blo ≤ v.bhi)
    (h : u.Precedes v) (h' : v.Precedes w) : u.Precedes w :=
  ⟨(h.1.trans hv).trans h'.1, (h.2.trans hv').trans h'.2⟩

/-- The windows that remain have the runs in front and behind. -/
theorem flatMap_remaining (a b : List α) (w : Window) (m : Match) :
    (remaining w m).flatMap (inOrder a b) =
      inOrder a b (w.behind m) ++ inOrder a b (w.front m) := by
  have hbehind : ¬ (m.a + m.len < w.ahi ∧ m.b + m.len < w.bhi) → inOrder a b (w.behind m) = [] :=
    fun h => inOrder_of_empty (by simp only [Window.behind]; omega)
  have hfront : ¬ (w.alo < m.a ∧ w.blo < m.b) → inOrder a b (w.front m) = [] :=
    fun h => inOrder_of_empty (by simp only [Window.front]; omega)
  unfold remaining
  split_ifs with h1 h2 h2
  · simp [Window.behind, Window.front]
  · simp [hfront h2, Window.behind]
  · simp [hbehind h1, Window.front]
  · simp [hbehind h1, hfront h2]

/-- **The recursion finds runs of its window in ascending order**, none of them empty. -/
theorem ascending_inOrder (a b : List α) (w : Window) :
    (∀ m ∈ inOrder a b w, 0 < m.len ∧ IsRun a b w m) ∧
      (inOrder a b w).Pairwise fun m n => m.area.Precedes n.area := by
  induction w using inOrder.induct a b with
  | case1 w m h ih1 ih2 =>
    obtain ⟨hw, hlen⟩ := h
    have hm : IsRun a b w m := isRun_longest hw
    have hfront : (w.front m).Inside w :=
      ⟨le_rfl, (Nat.le_add_right _ _).trans hm.le_ahi, le_rfl,
        (Nat.le_add_right _ _).trans hm.le_bhi⟩
    have hbehind : (w.behind m).Inside w :=
      ⟨hm.alo_le.trans (Nat.le_add_right _ _), le_rfl, hm.blo_le.trans (Nat.le_add_right _ _),
        le_rfl⟩
    -- what is in front of the run precedes it, and it precedes what is behind it
    have hbefore : ∀ k ∈ inOrder a b (w.front m), k.area.Precedes m.area := fun k hk =>
      ⟨(ih1.1 k hk).2.le_ahi, (ih1.1 k hk).2.le_bhi⟩
    have hafter : ∀ k ∈ inOrder a b (w.behind m), m.area.Precedes k.area := fun k hk =>
      ⟨(ih2.1 k hk).2.alo_le, (ih2.1 k hk).2.blo_le⟩
    rw [inOrder_eq hw, if_neg hlen]
    refine ⟨fun k hk => ?_, List.pairwise_append.mpr ⟨ih1.2, List.pairwise_cons.mpr
      ⟨hafter, ih2.2⟩, fun k hk l hl => ?_⟩⟩
    · rcases List.mem_append.mp hk with hk | hk
      · exact ⟨(ih1.1 k hk).1, (ih1.1 k hk).2.of_inside hfront⟩
      · rcases List.mem_cons.mp hk with rfl | hk
        · exact ⟨Nat.pos_of_ne_zero hlen, hm⟩
        · exact ⟨(ih2.1 k hk).1, (ih2.1 k hk).2.of_inside hbehind⟩
    · rcases List.mem_cons.mp hl with rfl | hl
      · exact hbefore k hk
      · exact Window.Precedes.trans (Nat.le_add_right _ _) (Nat.le_add_right _ _) (hbefore k hk)
          (hafter l hl)
  | case2 w m h =>
    rw [inOrder, dif_neg h]
    simp

/-! ### The queue -/

/-- The windows that are still to be searched, and the runs found so far. -/
structure Search where
  queue : List Window
  found : List Match

/-- **A turn of the search.** Any window may be taken from the queue. A run that is found in it
leaves the windows that remain. -/
inductive Search.Takes (a b : List α) : Search → Search → Prop
  | nothing {queue rest : List Window} {found : List Match} {w : Window} {m : Match} :
    queue.Perm (w :: rest) → longest? a b w = some m → m.len = 0 →
      Takes a b ⟨queue, found⟩ ⟨rest, found⟩
  | run {queue rest : List Window} {found : List Match} {w : Window} {m : Match} :
    queue.Perm (w :: rest) → longest? a b w = some m → m.len ≠ 0 →
      Takes a b ⟨queue, found⟩ ⟨remaining w m ++ rest, found ++ [m]⟩

/-- A number of turns, one after the other. -/
inductive Search.Runs (a b : List α) : Nat → Search → Search → Prop
  | done {s : Search} : Runs a b 0 s s
  | turn {n : Nat} {s t u : Search} : s.Takes a b t → Runs a b n t u → Runs a b (n + 1) s u

/-- How many turns a window is good for: a run that is found in it takes one element or more of each
sequence, and leaves two windows at most. -/
def Window.budget (w : Window) : Nat := 2 * min (w.ahi - w.alo) (w.bhi - w.blo) + 1

/-- How many turns a queue is good for. -/
def totalBudget : List Window → Nat
  | [] => 0
  | w :: queue => w.budget + totalBudget queue

theorem totalBudget_append (v w : List Window) :
    totalBudget (v ++ w) = totalBudget v + totalBudget w := by
  induction v with
  | nil => simp [totalBudget]
  | cons u v ih => rw [List.cons_append, totalBudget, totalBudget, ih, Nat.add_assoc]

theorem totalBudget_perm {v w : List Window} (h : v.Perm w) : totalBudget v = totalBudget w := by
  induction h with
  | nil => rfl
  | cons u _ ih => rw [totalBudget, totalBudget, ih]
  | swap u u' queue => simp only [totalBudget]; omega
  | trans _ _ ih ih' => exact ih.trans ih'

omit [DecidableEq α] in
/-- **What remains of a window** is good for fewer turns. -/
theorem totalBudget_remaining {m : Match} (hm : IsRun a b w m) (hlen : m.len ≠ 0) :
    totalBudget (remaining w m) < w.budget := by
  have h1 := hm.alo_le
  have h2 := hm.le_ahi
  have h3 := hm.blo_le
  have h4 := hm.le_bhi
  unfold remaining
  split_ifs <;> simp only [List.nil_append, List.cons_append, totalBudget, Window.budget] <;> omega

/-- The runs that a search will have found in the end, up to their order. -/
def Search.expected (a b : List α) (s : Search) : List Match :=
  s.found ++ s.queue.flatMap (inOrder a b)

/-- **What a turn keeps**, and what it uses up: the windows are windows of the two sequences, and
the runs in the end are the same. -/
theorem Search.Takes.keeps {s t : Search} (h : s.Takes a b t) (hs : ∀ w ∈ s.queue, w.Fits a b) :
    (∀ w ∈ t.queue, w.Fits a b) ∧ totalBudget t.queue < totalBudget s.queue ∧
      (t.expected a b).Perm (s.expected a b) := by
  cases h with
  | @nothing queue rest found w m hq hm h0 =>
    have hw : w.Fits a b := hs w (hq.symm.subset List.mem_cons_self)
    obtain rfl : longest a b (index a b) w = m := by simpa [longest?_eq hw] using hm
    have hempty : inOrder a b w = [] := by rw [inOrder_eq hw, if_pos h0]
    refine ⟨fun v hv => hs v (hq.symm.subset (List.mem_cons_of_mem _ hv)), ?_, ?_⟩
    · change totalBudget rest < totalBudget queue
      rw [totalBudget_perm hq, totalBudget, Window.budget]
      omega
    · have hperm := List.Perm.flatMap_right (inOrder a b) hq
      rw [List.flatMap_cons, hempty, List.nil_append] at hperm
      exact hperm.symm.append_left found
  | @run queue rest found w m hq hm hlen =>
    have hw : w.Fits a b := hs w (hq.symm.subset List.mem_cons_self)
    obtain rfl : longest a b (index a b) w = m := by simpa [longest?_eq hw] using hm
    have hrun := isRun_longest hw
    set m := longest a b (index a b) w
    refine ⟨fun v hv => ?_, ?_, ?_⟩
    · rcases List.mem_append.mp hv with hv | hv
      · exact ((remaining_apart hw hrun).1 v hv).1
      · exact hs v (hq.symm.subset (List.mem_cons_of_mem _ hv))
    · have hless := totalBudget_remaining hrun hlen
      rw [totalBudget_perm hq, totalBudget, totalBudget_append]
      omega
    · -- the run and those of the windows that remain are the runs of the window
      have hwin : inOrder a b w = inOrder a b (w.front m) ++ m :: inOrder a b (w.behind m) := by
        rw [inOrder_eq hw, if_neg hlen]
      have hperm := List.Perm.flatMap_right (inOrder a b) hq
      rw [List.flatMap_cons, hwin] at hperm
      refine List.Perm.trans ?_ (hperm.symm.append_left found)
      rw [Search.expected, List.flatMap_append, flatMap_remaining, List.perm_iff_count]
      intro x
      simp only [List.count_append, List.count_cons, List.count_nil]
      omega

/-- **What turns keep**, and how many there can be. -/
theorem Search.Runs.keeps {n : Nat} {s t : Search} (h : Runs a b n s t)
    (hs : ∀ w ∈ s.queue, w.Fits a b) :
    (∀ w ∈ t.queue, w.Fits a b) ∧ n + totalBudget t.queue ≤ totalBudget s.queue ∧
      (t.expected a b).Perm (s.expected a b) := by
  induction h with
  | done => exact ⟨hs, by omega, List.Perm.refl _⟩
  | turn hturn _ ih =>
    obtain ⟨hfits, hless, hperm⟩ := hturn.keeps hs
    obtain ⟨ih1, ih2, ih3⟩ := ih hfits
    exact ⟨ih1, by omega, ih3.trans hperm⟩

/-- **To take the window at the top of a stack** is one way to search: the loop comes to its end. -/
theorem runs_collect : ∀ (n : Nat) (stack : List Window) (found : List Match),
    (∀ w ∈ stack, w.Fits a b) → totalBudget stack ≤ n →
      ∃ k, Search.Runs a b k ⟨stack, found⟩ ⟨[], found ++ collect a b (index a b) n stack⟩
  | n, [], found, _, _ => ⟨0, by cases n <;> simpa [collect] using Search.Runs.done⟩
  | 0, w :: stack, _, _, hn => by
    rw [totalBudget, Window.budget] at hn
    omega
  | n + 1, w :: stack, found, hfits, hn => by
    have hw := hfits w List.mem_cons_self
    rw [collect]
    split_ifs with h0
    · have hturn : (⟨w :: stack, found⟩ : Search).Takes a b ⟨stack, found⟩ :=
        .nothing (List.Perm.refl _) (longest?_eq hw) h0
      obtain ⟨hfits', hless, -⟩ := hturn.keeps hfits
      obtain ⟨k, hk⟩ := runs_collect n stack found hfits'
        (Nat.lt_succ_iff.mp (hless.trans_le hn))
      exact ⟨k + 1, .turn hturn hk⟩
    · set m := longest a b (index a b) w
      have hturn : (⟨w :: stack, found⟩ : Search).Takes a b
          ⟨remaining w m ++ stack, found ++ [m]⟩ :=
        .run (List.Perm.refl _) (longest?_eq hw) h0
      obtain ⟨hfits', hless, -⟩ := hturn.keeps hfits
      obtain ⟨k, hk⟩ := runs_collect n _ (found ++ [m]) hfits'
        (Nat.lt_succ_iff.mp (hless.trans_le hn))
      rw [List.append_assoc] at hk
      exact ⟨k + 1, .turn hturn hk⟩

/-! ### In ascending order -/

theorem Match.le_antisymm {m n : Match} (h : m.le n = true) (h' : n.le m = true) : m = n := by
  rw [Match.le_iff] at h h'
  obtain ⟨a, b, l⟩ := m
  obtain ⟨a', b', l'⟩ := n
  simp only [Match.mk.injEq] at *
  omega

/-- **Runs that precede each other** are told by sorting, in whichever order they were found. -/
theorem mergeSort_eq_inOrder {found : List Match} (h : found.Perm (inOrder a b w)) :
    found.mergeSort Match.le = inOrder a b w := by
  obtain ⟨hpos, hasc⟩ := ascending_inOrder a b w
  have hsorted : (inOrder a b w).Pairwise fun m n => m.le n = true := by
    refine hasc.imp_of_mem fun {m n} hm _ hmn => ?_
    have hlen := (hpos m hm).1
    obtain ⟨h1, -⟩ := hmn
    simp only [Match.area] at h1
    rw [Match.le_iff]
    omega
  refine List.Perm.eq_of_pairwise (fun m n _ _ => Match.le_antisymm)
    (List.pairwise_mergeSort Match.le_trans Match.le_total found) hsorted ?_
  exact (List.mergeSort_perm found Match.le).trans h

/-! ### Joining -/

/-- The pairs of positions that a run covers. -/
def Match.pairs (m : Match) : List (Nat × Nat) :=
  (List.range m.len).map fun t => (m.a + t, m.b + t)

theorem Match.pairs_append {m n : Match} (ha : m.a + m.len = n.a) (hb : m.b + m.len = n.b) :
    Match.pairs ⟨m.a, m.b, m.len + n.len⟩ = m.pairs ++ n.pairs := by
  simp only [Match.pairs, List.range_add, List.map_append, List.map_map, ← ha, ← hb]
  simp [Nat.add_assoc]

theorem flatMap_pairs_joinAdjacent : ∀ (ms : List Match) (m : Match),
    (joinAdjacent m ms).flatMap Match.pairs = m.pairs ++ ms.flatMap Match.pairs
  | [], m => by simp [joinAdjacent]
  | n :: ms, m => by
    rw [joinAdjacent]
    split_ifs with h
    · rw [flatMap_pairs_joinAdjacent ms, Match.pairs_append h.1 h.2, List.flatMap_cons,
        List.append_assoc]
    · rw [List.flatMap_cons, flatMap_pairs_joinAdjacent ms, List.flatMap_cons]

/-- **Joining keeps the pairs of positions** and their order. -/
theorem flatMap_pairs_joined (ms : List Match) :
    (joined ms).flatMap Match.pairs = ms.flatMap Match.pairs := by
  cases ms with
  | nil => rfl
  | cons m ms => rw [joined, flatMap_pairs_joinAdjacent, List.flatMap_cons]

/-- A run does not end where another begins, in one sequence or the other. -/
def Match.Parted (m n : Match) : Prop := ¬ (m.a + m.len = n.a ∧ m.b + m.len = n.b)

theorem isChain_joinAdjacent : ∀ (ms : List Match) (m : Match),
    (joinAdjacent m ms).IsChain Match.Parted
  | [], m => by simp [joinAdjacent]
  | n :: ms, m => by
    rw [joinAdjacent]
    split_ifs with h
    · exact isChain_joinAdjacent ms _
    · refine List.IsChain.cons (isChain_joinAdjacent ms n) fun k hk => ?_
      obtain ⟨l, ns, hns, -⟩ := joinAdjacent_eq_cons ms n
      rw [hns, List.head?_cons, Option.mem_some_iff] at hk
      subst hk
      exact h

/-- **Joining leaves no adjacent runs.** -/
theorem isChain_joined (ms : List Match) : (joined ms).IsChain Match.Parted := by
  cases ms with
  | nil => simp [joined]
  | cons m ms => exact isChain_joinAdjacent ms m

/-! ### The blocks -/

/-- The search for the runs of two sequences, before its first turn. -/
def Search.start (a b : List α) : Search := ⟨[Window.whole a b], []⟩

/-- **The blocks of two sequences.** They are the runs that a recursion finds in order: the longest
run of a window, after the runs in front of it and before those behind it. To search window after
window gives these runs in whichever order the windows are taken, nothing fails on the way, and
there are `2 * min a.length b.length + 1` turns at most. Joining then keeps the pairs of positions
and leaves no adjacent runs, and one empty run follows at the end of both sequences. -/
theorem blocks_inOrder (a b : List α) :
    (∀ w : Window, w.Fits a b → inOrder a b w =
      if (longest a b (index a b) w).len = 0 then []
      else inOrder a b (w.front (longest a b (index a b) w)) ++
        longest a b (index a b) w :: inOrder a b (w.behind (longest a b (index a b) w))) ∧
    (∀ n s, Search.Runs a b n (Search.start a b) s →
      n ≤ 2 * min a.length b.length + 1 ∧
      (∀ w ∈ s.queue, w.Fits a b ∧ longest? a b w = some (longest a b (index a b) w)) ∧
      (s.queue = [] → s.found.mergeSort Match.le = inOrder a b (Window.whole a b))) ∧
    (∃ n, Search.Runs a b n (Search.start a b)
      ⟨[], collect a b (index a b) (enough a b) [Window.whole a b]⟩) ∧
    ∃ ms, blocks a b = ms ++ [⟨a.length, b.length, 0⟩] ∧
      ms = joined (inOrder a b (Window.whole a b)) ∧
      ms.flatMap Match.pairs = (inOrder a b (Window.whole a b)).flatMap Match.pairs ∧
      ms.IsChain Match.Parted ∧ ∀ m ∈ ms, 0 < m.len := by
  have hstart : ∀ w ∈ (Search.start a b).queue, w.Fits a b := by
    simpa [Search.start] using Window.fits_whole a b
  have hbudget : totalBudget (Search.start a b).queue = enough a b := rfl
  have hsorted : ∀ n s, Search.Runs a b n (Search.start a b) s → s.queue = [] →
      s.found.mergeSort Match.le = inOrder a b (Window.whole a b) := fun n s hs hq => by
    have hperm := (hs.keeps hstart).2.2
    simp only [Search.expected, hq, Search.start, List.flatMap_nil, List.append_nil,
      List.nil_append, List.flatMap_cons] at hperm
    exact mergeSort_eq_inOrder hperm
  obtain ⟨k, hk⟩ := runs_collect (enough a b) _ [] hstart hbudget.le
  have hblocks : blocks a b =
      joined (inOrder a b (Window.whole a b)) ++ [⟨a.length, b.length, 0⟩] := by
    rw [← hsorted k _ hk rfl]
    rfl
  obtain ⟨hrun, hasc⟩ := ascending_inOrder a b (Window.whole a b)
  refine ⟨fun w hw => inOrder_eq hw, fun n s hs => ?_, ⟨k, hk⟩, _, hblocks, rfl,
    flatMap_pairs_joined _, isChain_joined _, fun m hm => ((detached_joined hrun hasc).1 m hm).1⟩
  obtain ⟨hfits, hn, -⟩ := hs.keeps hstart
  rw [hbudget, enough] at hn
  exact ⟨by omega, fun w hw => ⟨hfits w hw, longest?_eq (hfits w hw)⟩, hsorted n s hs⟩

end Golden.Diff
