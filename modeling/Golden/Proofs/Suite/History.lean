import Golden.Proofs.Suite.Results

/-! # What a run of a suite did

The history of a run tells, in order, where a test was sought and what its outcome was, if its
source was there (`Suite.history`). A run that is not interrupted seeks every selected test in each
of its roots, once, and keeps the outcome of each that it found.

* `Suite.runIn_history`, `Suite.runTests_history`: the records of the loops are those of their
  history, which leaves out no root and no test.
* `Suite.outcome_of_history`: the outcomes of a history are those of the runner.
* `Suite.run_complete`: no result is lost, and none is made up. -/

namespace Golden

/-- A search for a test in a root, and the outcome if its source was there. -/
abbrev Sighting := UnitId × Option Outcome

/-- The units that have run, with their outcomes. -/
def executed (history : List Sighting) : List (UnitId × Outcome) :=
  history.filterMap fun e => e.2.map (e.1, ·)

namespace Suite

variable {σ ω : Type} [Sink ω] [FileSystem σ]

/-! ### Histories -/

/-- The history of the search for a test through the given roots, and the world in which it ends. -/
def historyIn (s : Suite σ) (name : String) : List Path → World σ ω → List Sighting × World σ ω
  | [], w => ([], w)
  | root :: roots, w =>
    let u : UnitId := ⟨name, root⟩
    if w.interrupt then ([], w)
    else if FileSystem.has w.host (s.source u) then
      let run := s.runner.run u (s.announced name w)
      match run.1 with
      | .ok o =>
        let (history, v) := s.historyIn name roots run.2
        ((u, some o) :: history, v)
      | .error _ => ([], run.2)
    else
      let (history, v) := s.historyIn name roots w
      ((u, none) :: history, v)

/-- The history of the given tests. -/
def historyOf (s : Suite σ) (p : Plan) : Nat → List String → World σ ω → List Sighting
  | _, [], _ => []
  | index, name :: names, w =>
    let (history, v) := s.historyIn name (candidates p name)
      (advance (.running index) w : Except RunError Unit × World σ ω).2
    history ++ s.historyOf p (index + 1) names
      (remark p name (history.any (·.2.isSome)) v).2

/-- **The history of a run.** -/
def history (s : Suite σ) (w : World σ ω) : List Sighting :=
  let planned := s.plan (s.opening w).2
  match planned.1 with
  | .ok p => s.historyOf p 0 p.tests planned.2
  | .error _ => []

attribute [local simp] historyIn

/-! ### The loop over roots -/

section Roots
variable {s : Suite σ} {name : String} {root : Path} {roots : List Path} {w : World σ ω}

theorem historyIn_missing (h : w.interrupt = false)
    (hs : FileSystem.has w.host (s.source ⟨name, root⟩) = false) :
    s.historyIn name (root :: roots) w =
      ((⟨name, root⟩, none) :: (s.historyIn name roots w).1, (s.historyIn name roots w).2) := by
  rw [historyIn, h, hs]
  rfl

theorem historyIn_ran (h : w.interrupt = false)
    (hs : FileSystem.has w.host (s.source ⟨name, root⟩) = true) {o : Outcome}
    (ho : (s.runner.run ⟨name, root⟩ (s.announced name w)).1 = .ok o) :
    s.historyIn name (root :: roots) w =
      let rest := s.historyIn name roots (s.runner.run ⟨name, root⟩ (s.announced name w)).2
      ((⟨name, root⟩, some o) :: rest.1, rest.2) := by
  rw [historyIn, h, hs]
  dsimp only
  rw [ho]
  rfl

/-- **The loop over roots** adds to the records what is in its history, and leaves out no root, if
it is not interrupted. -/
theorem runIn_history :
    ∀ {roots : List Path} {records : List (UnitId × Outcome)} {found : Bool} {w : World σ ω}
      {r : List (UnitId × Outcome) × Visit},
      (s.runIn name roots records found w).1 = .ok r → r.2.interrupted = false →
      r = (records ++ executed (s.historyIn name roots w).1,
          ⟨found || (s.historyIn name roots w).1.any (·.2.isSome), false⟩) ∧
        (s.runIn name roots records found w).2 = (s.historyIn name roots w).2 ∧
        (s.historyIn name roots w).1.map Prod.fst = roots.map (⟨name, ·⟩)
  | [], records, found, w, r, hr, _ => by
    cases hr
    simp [historyIn, executed, runIn]
  | root :: roots, records, found, w, r, hr, hi => by
    cases hstop : w.interrupt with
    | true =>
      rw [s.runIn_stopped hstop] at hr
      cases hr
      cases hi
    | false =>
      cases hs : FileSystem.has w.host (s.source ⟨name, root⟩) with
      | false =>
        rw [s.runIn_missing hstop hs] at hr ⊢
        obtain ⟨h1, h2, h3⟩ := runIn_history hr hi
        rw [historyIn_missing hstop hs]
        refine ⟨?_, h2, ?_⟩
        · rw [h1]
          simp [executed]
        · rw [List.map_cons, h3, List.map_cons]
      | true =>
        obtain ⟨ha, ⟨o, ho⟩ | ⟨-, rfl⟩⟩ := s.runIn_present_ok hstop hs hr
        · rw [s.runIn_ran hstop hs ha ho] at hr ⊢
          obtain ⟨h1, h2, h3⟩ := runIn_history hr hi
          rw [historyIn_ran hstop hs ho]
          refine ⟨?_, h2, ?_⟩
          · rw [h1]
            simp [executed]
          · rw [List.map_cons, h3, List.map_cons]
        · cases hi

/-- The outcomes of a history are those of the runner. -/
theorem outcome_of_historyIn : ∀ {roots : List Path} {w : World σ ω},
    ∀ e ∈ executed (s.historyIn name roots w).1,
      ∃ v : World σ ω, (s.runner.run e.1 v).1 = .ok e.2
  | [], _, e, he => by cases he
  | root :: roots, w, e, he => by
    cases hstop : w.interrupt with
    | true =>
      rw [historyIn, hstop] at he
      cases he
    | false =>
      cases hs : FileSystem.has w.host (s.source ⟨name, root⟩) with
      | false =>
        rw [historyIn_missing hstop hs] at he
        exact outcome_of_historyIn e he
      | true =>
        cases ho : (s.runner.run ⟨name, root⟩ (s.announced name w)).1 with
        | error _ =>
          rw [historyIn, hstop, hs] at he
          dsimp only at he
          rw [ho] at he
          cases he
        | ok o =>
          rw [historyIn_ran hstop hs ho] at he
          rcases List.mem_cons.mp he with rfl | he
          · exact ⟨_, ho⟩
          · exact outcome_of_historyIn e he

end Roots

/-! ### The loop over tests -/

variable {s : Suite σ} {p : Plan}

/-- **The loop over tests** adds to the records what is in its history, and leaves out no test. -/
theorem runTests_history :
    ∀ {names : List String} {index : Nat} {records : List (UnitId × Outcome)} {w : World σ ω}
      {tally : Tally}, (s.runTests p index names records w).1 = .ok tally →
      tally.interrupted = false →
      tally.records = records ++ executed (s.historyOf p index names w) ∧
        (s.historyOf p index names w).map Prod.fst = sought p names
  | [], index, records, w, tally, h, _ => by
    cases h
    simp [historyOf, executed, sought]
  | name :: names, index, records, w, tally, h, hi => by
    rw [runTests_cons] at h
    obtain ⟨_, -, h⟩ := Run.bind_eq_ok.mp h
    obtain ⟨r, hr, h⟩ := Run.bind_eq_ok.mp h
    cases hvisit : r.2.interrupted with
    | true =>
      rw [hvisit] at h
      cases h
      cases hi
    | false =>
      obtain ⟨h1, h2, h3⟩ := runIn_history hr hvisit
      rw [hvisit, if_neg (by simp)] at h
      obtain ⟨_, -, h⟩ := Run.bind_eq_ok.mp h
      obtain ⟨h4, h5⟩ := runTests_history h hi
      rw [h1, h2, Bool.false_or] at h4 h5
      rw [historyOf]
      refine ⟨?_, ?_⟩
      · rw [h4, executed, executed, executed, List.filterMap_append, List.append_assoc]
      · rw [List.map_append, h3, h5, sought, sought, List.flatMap_cons]

theorem outcome_of_historyOf : ∀ {names : List String} {index : Nat} {w : World σ ω},
    ∀ e ∈ executed (s.historyOf p index names w),
      ∃ v : World σ ω, (s.runner.run e.1 v).1 = .ok e.2
  | [], _, _, e, he => by cases he
  | name :: names, index, w, e, he => by
    rw [historyOf, executed, List.filterMap_append, List.mem_append] at he
    rcases he with he | he
    · exact outcome_of_historyIn e he
    · exact outcome_of_historyOf e he

/-! ### Whole runs -/

/-- The units of the given tests: each test in every root, or in the first one only. -/
def stations (s : Suite σ) (host : σ) (tests : List String) : List UnitId :=
  tests.flatMap fun name =>
    (if s.oneOnly.contains name then (s.rootsAt host).take 1 else s.rootsAt host).map (⟨name, ·⟩)

/-- Sources neither appear nor disappear during a run: wherever a test is sought, its source is
there if it was there at the beginning. -/
def Steady (s : Suite σ) (w : World σ ω) : Prop :=
  ∀ e ∈ s.history w, e.2.isSome = FileSystem.has w.host (s.source e.1)

/-- **The outcomes of a history are those of the runner.** -/
theorem outcome_of_history {s : Suite σ} {w : World σ ω} {e : UnitId × Outcome}
    (he : e ∈ executed (s.history w)) : ∃ v : World σ ω, (s.runner.run e.1 v).1 = .ok e.2 := by
  unfold history at he
  dsimp only at he
  cases hplan : (s.plan (s.opening w).2).1 with
  | error _ =>
    rw [hplan] at he
    cases he
  | ok p =>
    rw [hplan] at he
    exact outcome_of_historyOf e he

open scoped List

/-- The units that have run are those of the history whose source was there. -/
theorem map_executed (present : UnitId → Bool) :
    ∀ {history : List Sighting}, (∀ e ∈ history, e.2.isSome = present e.1) →
      (executed history).map Prod.fst = (history.map Prod.fst).filter present
  | [], _ => rfl
  | (u, none) :: history, h => by
    have hu : present u = false := (h _ List.mem_cons_self).symm
    have ih := map_executed present fun e he => h e (List.mem_cons_of_mem _ he)
    rw [List.map_cons, List.filter_cons_of_neg (by simp [hu]), ← ih]
    rfl
  | (u, some o) :: history, h => by
    have hu : present u = true := (h _ List.mem_cons_self).symm
    have ih := map_executed present fun e he => h e (List.mem_cons_of_mem _ he)
    rw [List.map_cons, List.filter_cons_of_pos hu, ← ih]
    rfl

theorem stations_perm (s : Suite σ) (host : σ) {tests tests' : List String} (h : tests ~ tests') :
    s.stations host tests ~ s.stations host tests' :=
  h.flatMap_right _

/-- The history of a run is that of its loop over tests, if it gets there. -/
theorem history_of_planned {s : Suite σ} {p : Plan} {w : World σ ω}
    (hplan : (s.plan (s.opening w).2).1 = .ok p) :
    s.history w = s.historyOf p 0 p.tests (s.plan (s.opening w).2).2 := by
  unfold history
  dsimp only
  rw [hplan]

/-- The plan of a run that returns a result, and its tally. -/
theorem run_tally {s : Suite σ} {w : World σ ω} {result : SuiteResult}
    (h : (s.run w).1 = .ok result) (hi : result.interrupted = false) :
    ∃ p tests tally, s.selectedAt w.host = .ok tests ∧ result = resultOf p tally ∧
      tally.records = executed (s.history w) ∧
      (s.history w).map Prod.fst = s.stations w.host (s.ordered tests) := by
  obtain ⟨p, tally, hopening, hplan, hrun, rfl⟩ := s.run_eq_ok h
  obtain ⟨hrecords, hunits⟩ := runTests_history hrun hi
  rw [← history_of_planned hplan] at hrecords hunits
  obtain ⟨tests, htests, rfl⟩ := s.planned_eq_ok ((s.plan_opening w).1.symm.trans hplan)
  exact ⟨_, tests, tally, htests, rfl, hrecords, hunits⟩

/-- **No result is lost, and none is made up.** Each list of the result holds the units whose
outcome belongs to it, ascending, and the outcomes are those of the runner. The exit code tells
whether one of them was bad. Every selected test was sought once in each of its roots, and if
sources neither appear nor disappear, the units are those that have one. -/
theorem run_complete {s : Suite σ} {w : World σ ω} {result : SuiteResult}
    (h : (s.run w).1 = .ok result) (hi : result.interrupted = false) :
    (∀ k, result.units k ~ ofKind k (executed (s.history w)) ∧
      UnitId.Ascending (result.units k)) ∧
    (∀ e ∈ executed (s.history w), ∃ v : World σ ω, (s.runner.run e.1 v).1 = .ok e.2) ∧
    (result.exitCode = 1 ↔ ∃ e ∈ executed (s.history w), e.2.kind = .bad) ∧
    ∃ tests, s.selectedAt w.host = .ok tests ∧
      (s.history w).map Prod.fst ~ s.stations w.host tests ∧
      (s.Steady w → result.good ++ result.bad ++ result.skipped ~
        (s.stations w.host tests).filter fun u => FileSystem.has w.host (s.source u)) := by
  obtain ⟨p, tests, tally, htests, rfl, hrecords, hunits⟩ := run_tally h hi
  have hkinds (k : Section) : (resultOf p tally).units k ~ ofKind k (executed (s.history w)) := by
    rw [units_resultOf, ← hrecords]
    exact UnitId.sort_perm _
  have hstations := s.stations_perm w.host (s.ordered_perm tests)
  rw [← hunits] at hstations
  refine ⟨fun k => ⟨hkinds k, ?_⟩, fun _ => outcome_of_history, ?_, tests, htests, hstations,
    fun hsteady => ?_⟩
  · rw [units_resultOf]
    exact UnitId.ascending_sort _
  · rw [SuiteResult.exitCode_eq_one, ← ofKind_ne_nil]
    have hbad : (resultOf p tally).bad ~ ofKind .bad (executed (s.history w)) := hkinds .bad
    exact not_congr ⟨fun h => (h ▸ hbad).nil_eq.symm, fun h => (h ▸ hbad).eq_nil⟩
  · calc _
      _ ~ ofKind .good _ ++ ofKind .bad _ ++ ofKind .skipped _ :=
        ((hkinds .good).append (hkinds .bad)).append (hkinds .skipped)
      _ ~ (executed (s.history w)).map Prod.fst := ofKind_perm _
      _ = ((s.history w).map Prod.fst).filter fun u => FileSystem.has w.host (s.source u) :=
        map_executed _ hsteady
      _ ~ _ := hstations.filter _

/-- In the small suite, every test that is there is in the result, and nothing else. -/
theorem run_complete_sample :
    ((∀ k, sampleResult.units k ~ ofKind k (executed (sample.history sampleWorld)) ∧
      UnitId.Ascending (sampleResult.units k)) ∧
    (∀ e ∈ executed (sample.history sampleWorld),
      ∃ v : World Shelf Memory, (sample.runner.run e.1 v).1 = .ok e.2) ∧
    (sampleResult.exitCode = 1 ↔ ∃ e ∈ executed (sample.history sampleWorld), e.2.kind = .bad) ∧
    ∃ tests, sample.selectedAt sampleWorld.host = .ok tests ∧
      (sample.history sampleWorld).map Prod.fst ~ sample.stations sampleWorld.host tests ∧
      (sample.Steady sampleWorld →
        sampleResult.good ++ sampleResult.bad ++ sampleResult.skipped ~
          (sample.stations sampleWorld.host tests).filter fun u =>
            FileSystem.has sampleWorld.host (sample.source u))) ∧
    sample.Steady sampleWorld := by
  have h : (sample.run sampleWorld).1 = .ok sampleResult := by decide +kernel
  refine ⟨run_complete h rfl, ?_⟩
  unfold Steady
  decide +kernel

end Suite

end Golden
