import Golden.Proofs.Discovery
import Golden.Proofs.Suite.Exclusion
import Golden.Proofs.Suite.Executed

/-! # How often a unit is executed

A unit is executed as often as its name is selected. Names that are found are selected once each,
but those given by the operator and the standard ones are selected as they come, so that a name that
comes twice is executed twice.

* `Suite.countP_sought`: how often a unit is sought.
* `Suite.nodup_selectedAt`: when no name is selected twice.
* `Suite.run_once`: how often a run executes a unit. -/

namespace Golden

open scoped List

/-! ### Units that are the same -/

/-- **No two of the units are the same.** -/
def Once (us : List UnitId) : Prop := us.Pairwise fun u v => u.same v = false

theorem UnitId.same_comm (u v : UnitId) : u.same v = v.same u := by
  rw [Bool.eq_iff_iff]
  simp only [same, Path.same, Bool.and_eq_true, decide_eq_true_eq]
  exact ⟨fun h => ⟨h.1.symm, h.2.symm⟩, fun h => ⟨h.1.symm, h.2.symm⟩⟩

theorem Once.sublist {us vs : List UnitId} (h : Once vs) (hs : us <+ vs) : Once us :=
  List.Pairwise.sublist hs h

theorem Once.perm {us vs : List UnitId} (h : Once vs) (hp : us ~ vs) : Once us := by
  refine (hp.pairwise_iff fun {u v} huv => ?_).mpr h
  rw [UnitId.same_comm]
  exact huv

namespace Selection

/-- At most one of the paths is the same as a given one, if no two of them are the same. -/
theorem Distinct.countP_le (p : Path) {ps : List Path} (h : Distinct ps) : ps.countP p.same ≤ 1 := by
  induction ps with
  | nil => exact Nat.zero_le 1
  | cons q ps ih =>
    obtain ⟨hq, hps⟩ := List.pairwise_cons.mp h
    by_cases hpq : p.same q = true
    · have hnone : ps.countP p.same = 0 := by
        refine List.countP_eq_zero.mpr fun r hr hpr => ?_
        have hqr := hq r hr
        simp only [Path.same, decide_eq_true_eq, decide_eq_false_iff_not] at hpq hpr hqr
        exact hqr (hpq.symm.trans hpr)
      rw [List.countP_cons_of_pos hpq, hnone]
    · rw [List.countP_cons_of_neg hpq]
      exact ih hps

end Selection

namespace Suite

variable {σ : Type} {s : Suite σ} {p : Plan}

/-! ### What is sought -/

/-- **How often a unit is sought**: in each of its roots, every time its name comes. -/
theorem countP_sought (u : UnitId) (p : Plan) (names : List String) :
    (sought p names).countP u.same =
      names.count u.name * (candidates p u.name).countP u.root.same := by
  induction names with
  | nil => simp [sought]
  | cons name names ih =>
    have hsought : sought p (name :: names) =
        (candidates p name).map (⟨name, ·⟩) ++ sought p names := List.flatMap_cons
    have hhere : ((candidates p name).map (⟨name, ·⟩)).countP u.same =
        if name = u.name then (candidates p u.name).countP u.root.same else 0 := by
      rw [List.countP_map]
      split_ifs with hname
      · subst hname
        refine List.countP_congr fun root _ => ?_
        simp [UnitId.same]
      · refine List.countP_eq_zero.mpr fun root _ => ?_
        simp [UnitId.same, Ne.symm hname]
    rw [hsought, List.countP_append, hhere, ih, List.count_cons]
    split_ifs <;> simp_all [Nat.add_mul, Nat.add_comm]

theorem distinct_candidates {name : String} (h : Selection.Distinct p.roots) :
    Selection.Distinct (candidates p name) := by
  unfold candidates
  split_ifs
  · exact List.Pairwise.sublist (List.take_sublist _ _) h
  · exact h

theorem countP_sought_le (h : Selection.Distinct p.roots) (u : UnitId) (names : List String) :
    (sought p names).countP u.same ≤ names.count u.name := by
  rw [countP_sought]
  calc names.count u.name * (candidates p u.name).countP u.root.same
    _ ≤ names.count u.name * 1 := Nat.mul_le_mul_left _ ((distinct_candidates h).countP_le _)
    _ = names.count u.name := Nat.mul_one _

theorem countP_sought_eq (h : Selection.Distinct p.roots) {u : UnitId} {names : List String}
    (hu : u ∈ sought p names) : (sought p names).countP u.same = names.count u.name := by
  obtain ⟨name, -, hmem⟩ := List.mem_flatMap.mp hu
  obtain ⟨root, hroot, rfl⟩ := List.mem_map.mp hmem
  have hone : (candidates p name).countP root.same = 1 := by
    refine le_antisymm ((distinct_candidates h).countP_le _) ?_
    exact List.countP_pos_iff.mpr ⟨root, hroot, by simp [Path.same]⟩
  rw [countP_sought, hone, Nat.mul_one]

/-- A unit that is sought is the only one that is the same. -/
theorem eq_of_same_sought (h : Selection.Distinct p.roots) {u v : UnitId} {names : List String}
    (hu : u ∈ sought p names) (hv : v ∈ sought p names) (hs : u.same v = true) : v = u := by
  obtain ⟨name, -, hmem⟩ := List.mem_flatMap.mp hu
  obtain ⟨root, hroot, rfl⟩ := List.mem_map.mp hmem
  obtain ⟨name', -, hmem'⟩ := List.mem_flatMap.mp hv
  obtain ⟨root', hroot', rfl⟩ := List.mem_map.mp hmem'
  simp only [UnitId.same, Bool.and_eq_true, decide_eq_true_eq] at hs
  obtain ⟨rfl, hsame⟩ := hs
  rw [(distinct_candidates h).eq_of_same hroot hroot' hsame]

/-- Units of distinct names and distinct roots. -/
theorem once_sought (h : Selection.Distinct p.roots) {names : List String} (hn : names.Nodup) :
    Once (sought p names) := by
  refine List.pairwise_flatMap.mpr ⟨fun name _ => ?_, ?_⟩
  · refine List.pairwise_map.mpr ((distinct_candidates h).imp fun {q r} hqr => ?_)
    simp [UnitId.same, hqr]
  · refine List.Pairwise.imp (fun {name name'} hne u hu v hv => ?_) hn
    obtain ⟨_, -, rfl⟩ := List.mem_map.mp hu
    obtain ⟨_, -, rfl⟩ := List.mem_map.mp hv
    simp [UnitId.same, hne]

/-! ### What is selected -/

variable [FileSystem σ]

/-- **When no name is selected twice**: found names never are, so that it depends on those given by
the operator, or else on the standard ones. -/
theorem nodup_selectedAt {host : σ} {tests : List String} (h : s.selectedAt host = .ok tests) :
    tests.Nodup ↔
      (if s.names.named = [] then s.names.standard else s.names.named).Nodup := by
  by_cases hnamed : s.names.named = []
  · obtain ⟨entries, hentries, rfl⟩ := (selectedAt_unnamed hnamed).mp h
    rw [if_pos hnamed]
    have hfound := Selection.ascending_found s.config.discovery.extension s.names.standard
      s.names.excluded entries
    rw [List.nodup_append]
    refine ⟨And.left, fun hstandard => ⟨hstandard, hfound.imp ne_of_lt, fun a ha b hb hab => ?_⟩⟩
    exact ((Selection.mem_found hentries).mp hb).2.1 (hab ▸ ha)
  · rw [selectedAt_named hnamed] at h
    rw [if_neg hnamed, Except.ok.inj h]

/-! ### Whole runs -/

variable {ω : Type} [Sink ω] {w : World σ ω} {result : SuiteResult}

/-- **How often a unit is executed**: not more often than its name is selected, and exactly as often
if the run is not interrupted and sources neither appear nor disappear. So if no name is selected
twice, no unit is executed twice, and the lists of the result have no unit in common. -/
theorem run_once (h : (s.run w).1 = .ok result) : ∃ tests, s.selectedAt w.host = .ok tests ∧
    (∀ u : UnitId, (s.ran w).countP u.same ≤ tests.count u.name) ∧
    (result.interrupted = false → s.Steady w →
      ∀ u ∈ s.ran w, (s.ran w).countP u.same = tests.count u.name) ∧
    (tests.Nodup ↔ (if s.names.named = [] then s.names.standard else s.names.named).Nodup) ∧
    (tests.Nodup → Once (s.ran w) ∧ Once (result.good ++ result.bad ++ result.skipped)) := by
  obtain ⟨tests, htests, hran⟩ := sublist_ran h
  have hroots := s.distinct_rootsAt w.host
  have hordered := s.ordered_perm tests
  have hstations (names : List String) : s.stations w.host names =
      sought ⟨names, s.rootsAt w.host, s.oneOnly, s.names.named ≠ []⟩ names := rfl
  rw [hstations] at hran
  refine ⟨tests, htests, fun u => ?_, fun hi hsteady u hu => ?_, nodup_selectedAt htests,
    fun hnodup => ?_⟩
  · rw [← hordered.count_eq]
    exact hran.countP_le.trans (countP_sought_le hroots u _)
  · obtain ⟨tests', htests', heq⟩ := ran_eq h hi hsteady
    obtain rfl := Except.ok.inj (htests.symm.trans htests')
    rw [hstations] at heq
    rw [heq] at hu ⊢
    obtain ⟨hsought, hsource⟩ := List.mem_filter.mp hu
    rw [← hordered.count_eq, ← countP_sought_eq hroots hsought, List.countP_filter]
    refine List.countP_congr fun v hv => ?_
    rw [Bool.and_eq_true, and_iff_left_iff_imp]
    intro hs
    rw [eq_of_same_sought hroots hsought hv hs]
    exact hsource
  · have honce : Once (s.ran w) := (once_sought hroots (hordered.nodup_iff.mpr hnodup)).sublist hran
    exact ⟨honce, (honce.sublist (sublist_recordsOf _)).perm (perm_units h)⟩

/-- Two names, neither of which comes twice. -/
theorem run_once_supported :
    let s := supported [] { Options.none with tests := ["test_a", "test_b.py"] }
    ∃ result, (s.run supportedWorld).1 = .ok result ∧ Once (s.ran supportedWorld) ∧
      Once (result.good ++ result.bad ++ result.skipped) := by
  intro s
  have hok : (s.run supportedWorld).1.isOk = true := by decide +kernel
  cases h : (s.run supportedWorld).1 with
  | error e =>
    rw [h] at hok
    cases hok
  | ok result =>
    obtain ⟨tests, -, -, -, hnodup, honce⟩ := run_once h
    exact ⟨result, rfl, honce (hnodup.mpr (by decide +kernel))⟩

/-- **A name that comes twice is executed twice**: as a standard test, or given by the operator, once
with the extension and once without. -/
theorem run_repeated :
    let standard := supported ["test_a", "test_a"] Options.none
    let named := supported [] { Options.none with tests := ["test_a", "test_a.py"] }
    let world : World Shelf Memory := .start ⟨[(⟨"test/test_a.py"⟩, [])]⟩ .empty
    let u : UnitId := ⟨"test_a", ⟨"test"⟩⟩
    ∀ s ∈ [standard, named], s.ran world = [u, u] ∧
      ∃ result, (s.run world).1 = .ok result ∧ result.good = [u, u] := by
  intro standard named world u
  have hran : ∀ s ∈ [standard, named], s.ran world = [u, u] := by decide +kernel
  have hgood : ∀ s ∈ [standard, named], ofKind .good (s.recordsOf (s.turns world)) = [u, u] := by
    decide +kernel
  have hok : ∀ s ∈ [standard, named], (s.run world).1.isOk = true := by decide +kernel
  intro s hs
  refine ⟨hran s hs, ?_⟩
  cases h : (s.run world).1 with
  | error e =>
    have hsok := hok s hs
    rw [h] at hsok
    cases hsok
  | ok result =>
    have hunits := units_run h .good
    rw [hgood s hs, UnitId.sort, List.mergeSort_of_pairwise (by decide +kernel)] at hunits
    exact ⟨result, rfl, hunits⟩

end Suite

end Golden
