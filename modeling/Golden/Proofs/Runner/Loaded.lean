import Golden.Proofs.Files
import Golden.Proofs.Runner.Ends

/-! # What stays loaded

A runner begins with an empty table of units and runs units one after the other (`Runner.Past`),
each of them ending in whatever way. The name of the unit is forgotten first, its loads add units to
the table, and the tests among these are unloaded at the end.

* `Runner.evolves_run`: what the loads of one run add to the table.
* `Runner.entries_run`: what is loaded after one run that is not kept from its end.
* `Past.tidy`, `Past.root`, `Past.untested`: what all runs together keep up.
* `Runner.run_loaded`: after every run no name is marked, no test is loaded, and the names are those
  from before and those that this run has loaded. -/

namespace Golden

variable {σ ω : Type}

namespace Runner

variable [Sink ω] [FileSystem σ] {r : Runner σ} {P : UnitId → World σ ω → Prop} {us : List UnitId}
  {u : UnitId} {w : World σ ω}

/-- **The past of a runner.** It began with an empty table of units, and has run the given units one
after the other, each in a world that was as `P` says. Between the runs anything may have changed
but the table. -/
inductive Past (r : Runner σ) (P : UnitId → World σ ω → Prop) :
    List UnitId → World σ ω → Prop where
  | start {w : World σ ω} : w.modules = .empty → r.Past P [] w
  | run {us : List UnitId} {u : UnitId} {w v : World σ ω} : r.Past P us w → P u w →
    v.modules = (r.run u w).2.modules → r.Past P (us ++ [u]) v

/-! ### One run -/

omit [Sink ω] [FileSystem σ] in
/-- What has been forgotten is not loaded, and nothing else is lost. -/
theorem mem_entries_ready {v : UnitId} :
    v ∈ (ready u w).modules.entries ↔ v ∈ w.modules.entries ∧ v.name ≠ u.name := by
  rw [modules_ready, ModuleTable.erase, List.mem_filter]
  simp

omit [Sink ω] [FileSystem σ] in
theorem unknown_ready (hw : w.modules.loading = []) : (ready u w).modules.Unknown u.name := by
  refine ⟨fun hn => ?_, ?_⟩
  · obtain ⟨v, hv, hvu⟩ := List.mem_map.mp hn
    exact (mem_entries_ready.mp hv).2 hvu
  · rw [modules_ready]
    change u.name ∉ w.modules.loading
    simp [hw]

omit [Sink ω] [FileSystem σ] in
theorem nodup_ready (hd : w.modules.names.Nodup) : (ready u w).modules.names.Nodup := by
  rw [modules_ready]
  exact hd.sublist (List.filter_sublist.map _)

/-- **What the loads of a run add to the table.** -/
theorem evolves_run (hw : w.modules.loading = []) :
    (ready u w).modules.Evolves (r.Loads u (ready u w)) (r.scanned u w).modules := by
  rw [settled_scanned.modules]
  exact evolves_execute (unknown_ready hw)

/-- The end of a run unloads units at most. -/
theorem modules_run (r : Runner σ) (u : UnitId) (w : World σ ω) :
    (r.run u w).2.modules = (r.scanned u w).modules ∨ (r.run u w).2.modules =
      ((r.scanned u w).modules.unloadNew (ready u w).modules.names).2 := by
  by_cases h : r.Scanned u w
  · obtain ⟨t, ht⟩ := run_of_scanned h
    exact Or.inr (by rw [ht])
  · exact Or.inl (by rw [run_of_not_scanned h])

/-- A run leaves no marks, and no name is loaded twice. -/
theorem tidy_run (hw : w.modules.loading = []) (hd : w.modules.names.Nodup) :
    (r.run u w).2.modules.loading = [] ∧ (r.run u w).2.modules.names.Nodup := by
  have h := evolves_run (r := r) (u := u) hw
  have hready := nodup_ready (u := u) hd
  have hloading : (r.scanned u w).modules.loading = [] := by
    rw [h.loading, modules_ready]
    exact hw
  rcases modules_run r u w with hm | hm
  · rw [hm]
    exact ⟨hloading, h.nodup hready⟩
  · rw [hm]
    exact ⟨hloading, (h.nodup hready).sublist (List.filter_sublist.map _)⟩

/-- Every unit that is loaded after a run was so before, or the loader finds it in the root of the
unit. -/
theorem root_run (hw : w.modules.loading = []) {v : UnitId}
    (hv : v ∈ (r.run u w).2.modules.entries) :
    v ∈ w.modules.entries ∨ r.loader.FindsIn u.root v := by
  have h := evolves_run (r := r) (u := u) hw
  have hscanned : v ∈ (r.scanned u w).modules.entries := by
    rcases modules_run r u w with hm | hm
    · exact hm ▸ hv
    · rw [hm] at hv
      exact List.mem_of_mem_filter hv
  rcases (h.entries v).mp hscanned with hv | hv
  · exact Or.inl (mem_entries_ready.mp hv).1
  · exact Or.inr hv.finds

/-- **What is loaded after a run** that is not kept from its end: what was loaded before, but not
the unit itself, and what does not look like a test and was loaded in the run. -/
theorem entries_run (hw : w.modules.loading = []) (hs : r.Scanned u w) (v : UnitId) :
    v ∈ (r.run u w).2.modules.entries ↔ v ∈ w.modules.entries ∧ v.name ≠ u.name ∨
      ModuleTable.looksLikeTest v.name = false ∧ r.Loads u (ready u w) v := by
  have h := evolves_run (r := r) (u := u) hw
  obtain ⟨t, ht⟩ := run_of_scanned hs
  rw [ht]
  change v ∈ ((r.scanned u w).modules.unloadNew _).2.entries ↔ _
  rw [ModuleTable.mem_unloadNew, h.entries, ← mem_entries_ready]
  constructor
  · rintro ⟨hv | hv, hl | hold⟩
    · exact Or.inl hv
    · exact Or.inl hv
    · exact Or.inr ⟨hl, hv⟩
    · exact absurd hold (h.fresh v hv).1
  · rintro (hv | ⟨hl, hv⟩)
    · exact ⟨Or.inl hv, Or.inr (ModuleTable.mem_names hv)⟩
    · exact ⟨Or.inr hv, Or.inl hl⟩

/-! ### Many runs -/

namespace Past

theorem tidy (h : r.Past P us w) : w.modules.loading = [] ∧ w.modules.names.Nodup := by
  induction h with
  | start hw => simp [hw, ModuleTable.empty, ModuleTable.names]
  | run _ _ hv ih =>
    rw [hv]
    exact tidy_run ih.1 ih.2

/-- Every unit that is loaded is one that the loader finds in the root of a unit that has been
run. -/
theorem root (h : r.Past P us w) {v : UnitId} (hv : v ∈ w.modules.entries) :
    ∃ u ∈ us, r.loader.FindsIn u.root v := by
  induction h with
  | start hw =>
    rw [hw] at hv
    cases hv
  | @run us u w _ hpast _ hm ih =>
    rw [hm] at hv
    rcases root_run hpast.tidy.1 hv with hv | hv
    · obtain ⟨u', hu', hfinds⟩ := ih hv
      exact ⟨u', List.mem_append_left _ hu', hfinds⟩
    · exact ⟨u, by simp, hv⟩

/-- If no search for leftovers failed, no test is loaded. -/
theorem untested (h : r.Past r.Scanned us w) :
    ∀ n ∈ w.modules.names, ModuleTable.looksLikeTest n = false := by
  induction h with
  | start hw => simp [hw, ModuleTable.empty, ModuleTable.names]
  | run hpast hs hm ih =>
    intro n hn
    rw [hm] at hn
    obtain ⟨v, hv, rfl⟩ := List.mem_map.mp hn
    rcases (entries_run hpast.tidy.1 hs v).mp hv with ⟨hv, -⟩ | ⟨hl, -⟩
    · exact ih _ (ModuleTable.mem_names hv)
    · exact hl

end Past

/-- **What stays loaded.** After every run, whatever its end, no name is marked as being loaded and
no test is loaded. The loaded names are those from before without the unit's own, and those that do
not look like tests and whose load was completed in this run: the unit itself if it ended without a
signal, and what was asked for and loaded. -/
theorem run_loaded (hpast : r.Past r.Scanned us w) (hs : r.Scanned u w) :
    (r.run u w).2.modules.loading = [] ∧
      (∀ n ∈ (r.run u w).2.modules.names, ModuleTable.looksLikeTest n = false) ∧
      ∀ n, n ∈ (r.run u w).2.modules.names ↔ n ∈ w.modules.names ∧ n ≠ u.name ∨
        ModuleTable.looksLikeTest n = false ∧
          (n = u.name ∧ (∃ output, (r.execute u (ready u w)).1 = .ok (.ok (), output)) ∨
            ∃ q, r.Requests u (ready u w) q ∧ q.name = n ∧ r.surroundings.Completes q) := by
  have hnext : r.Past r.Scanned (us ++ [u]) (r.run u w).2 := hpast.run hs rfl
  have hentries := entries_run hpast.tidy.1 hs
  refine ⟨hnext.tidy.1, hnext.untested, fun n => ?_⟩
  constructor
  · intro hn
    obtain ⟨v, hv, rfl⟩ := List.mem_map.mp hn
    rcases (hentries v).mp hv with ⟨hv, hne⟩ | ⟨hl, hv⟩
    · exact Or.inl ⟨ModuleTable.mem_names hv, hne⟩
    rcases loads_iff.mp hv with ⟨rfl, hend⟩ | ⟨q, hq, hc, rfl⟩
    · exact Or.inr ⟨hl, Or.inl ⟨rfl, hend⟩⟩
    · exact Or.inr ⟨hl, Or.inr ⟨q, hq, rfl, hc⟩⟩
  · rintro (⟨hn, hne⟩ | ⟨hl, ⟨rfl, hend⟩ | ⟨q, hq, rfl, hc⟩⟩)
    · obtain ⟨v, hv, rfl⟩ := List.mem_map.mp hn
      exact ModuleTable.mem_names ((hentries v).mpr (Or.inl ⟨hv, hne⟩))
    · exact ModuleTable.mem_names
        ((hentries u).mpr (Or.inr ⟨hl, loads_iff.mpr (Or.inl ⟨rfl, hend⟩)⟩))
    · exact ModuleTable.mem_names
        ((hentries q.unit).mpr (Or.inr ⟨hl, loads_iff.mpr (Or.inr ⟨q, hq, hc, rfl⟩)⟩))

/-! ### Two tests and tangled helpers -/

/-- Two helpers that load each other, one that loads itself, one that fails, and two tests that go
on when a load fails. The first of them interrupts the run. -/
def tangled : Registry Shelf :=
  ⟨[("bad", fun _ => .require "left" (.raise (.failure "bad"))),
    ("left", fun _ => .require "right" .done), ("right", fun _ => .require "left" .done),
    ("self", fun _ => .require "self" .done),
    ("test_a", fun _ => .load "bad" fun _ => .raise .interrupt),
    ("test_b", fun _ => .load "test_a" fun _ => .require "self" .done)]⟩

/-- A runner of these tests. -/
def tangledRunner : Runner Shelf := ⟨tangled.loader, default, none⟩

/-- The world after the run of the first test. -/
def tangledWorld : World Shelf Memory :=
  (tangledRunner.run ⟨"test_a", ⟨"t"⟩⟩ (.start .empty Memory.empty)).2

/-- What stays loaded after the run of the second test. -/
theorem run_loaded_tangled :
    (tangledRunner.run ⟨"test_b", ⟨"t"⟩⟩ tangledWorld).2.modules.loading = [] ∧
      (∀ n ∈ (tangledRunner.run ⟨"test_b", ⟨"t"⟩⟩ tangledWorld).2.modules.names,
        ModuleTable.looksLikeTest n = false) ∧
      ∀ n, n ∈ (tangledRunner.run ⟨"test_b", ⟨"t"⟩⟩ tangledWorld).2.modules.names ↔
        n ∈ tangledWorld.modules.names ∧ n ≠ "test_b" ∨
        ModuleTable.looksLikeTest n = false ∧
          (n = "test_b" ∧ (∃ output, (tangledRunner.execute ⟨"test_b", ⟨"t"⟩⟩
              (ready ⟨"test_b", ⟨"t"⟩⟩ tangledWorld)).1 = .ok (.ok (), output)) ∨
            ∃ q, tangledRunner.Requests ⟨"test_b", ⟨"t"⟩⟩
              (ready ⟨"test_b", ⟨"t"⟩⟩ tangledWorld) q ∧ q.name = n ∧
              tangledRunner.surroundings.Completes q) := by
  have hscanned (u : UnitId) (w : World Shelf Memory) : tangledRunner.Scanned u w :=
    fun _ => (tangledRunner.scan_spec _).2.2 Memory.reliable
  have hstart : tangledRunner.Past tangledRunner.Scanned [] (World.start .empty Memory.empty) :=
    .start rfl
  have hpast : tangledRunner.Past tangledRunner.Scanned [⟨"test_a", ⟨"t"⟩⟩] tangledWorld := by
    unfold tangledWorld
    exact hstart.run (hscanned _ _) rfl
  exact run_loaded hpast (hscanned _ _)

example : tangledWorld.modules.names = ["left", "right"] ∧
    (tangledRunner.run ⟨"test_b", ⟨"t"⟩⟩ tangledWorld).2.modules.names =
      ["left", "right", "self"] := by
  decide +kernel

end Runner

end Golden
