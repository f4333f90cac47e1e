import Golden.Proofs.Discovery
import Golden.Proofs.Suite.Turns

/-! # Names that are left out

Names are left out of a run in two ways. Those that the operator gives for exclusion leave the
standard list and join the excluded ones. Those that the configuration excludes are only left out
of what is found in the roots.

* `Suite.run_exclude`: given names are left out, and nothing else changes.
* `Suite.run_excluded`: a configured name is left out unless it is a standard one. -/

namespace Golden.Suite

variable {σ ω : Type} [FileSystem σ] {s : Suite σ}

/-! ### Selected names -/

/-- What is selected when no test is named: the standard tests and those found. -/
theorem select_unnamed (h : s.names.named = []) (roots : List Path) (w : World σ ω) :
    (s.select roots w).1 = (((Selection.entriesOf w.host roots).map fun entries =>
      s.names.standard ++ Selection.insertNames (Selection.testsAmong
        s.config.discovery.extension s.names.standard s.names.excluded entries) []).mapError
          .fileSystem) := by
  rw [select, if_neg (by simp [h]), Run.mapError_apply, ← Selection.allTests_fst]

/-- Members of a plan are selected. -/
theorem mem_select_of_planned {w : World σ ω} {p : Plan} (h : s.planned w.host = .ok p) :
    ∃ tests, (s.select (s.rootsAt w.host) w).1 = .ok tests ∧ ∀ n, n ∈ p.tests ↔ n ∈ tests := by
  obtain ⟨tests, htests, hperm⟩ := s.perm_of_planned h
  obtain ⟨t, ht⟩ := s.select_apply w
  refine ⟨tests, ?_, fun n => hperm.mem_iff⟩
  rw [ht, htests]
  rfl

omit [FileSystem σ] in
theorem name_mem_of_mem_sought {p : Plan} {names : List String} {u : UnitId}
    (h : u ∈ sought p names) : u.name ∈ names := by
  obtain ⟨name, hname, hu⟩ := List.mem_flatMap.mp h
  obtain ⟨root, -, rfl⟩ := List.mem_map.mp hu
  exact hname

section Runs
variable [Sink ω] {w : World σ ω} {P : String → Prop}
  (hselect : ∀ tests, (s.select (s.rootsAt w.host) w).1 = .ok tests → ∀ n ∈ tests, P n)
include hselect

/-- What holds of all selected names holds of those that are executed. -/
theorem forall_turns : ∀ t ∈ s.turns w, P t.unit.name := by
  intro t ht
  obtain ⟨p, hplan, hsuffix⟩ := suffix_of_turns ht
  obtain ⟨tests, htests, hmem⟩ := mem_select_of_planned hplan
  have hname := name_mem_of_mem_sought (hsuffix.subset List.mem_cons_self)
  exact hselect tests htests _ ((hmem _).mp hname)

/-- What holds of all selected names holds of those in the result. -/
theorem forall_units {result : SuiteResult} (h : (s.run w).1 = .ok result) :
    ∀ k, ∀ u ∈ result.units k, P u.name := by
  intro k u hu
  obtain ⟨t, ht, rfl⟩ := mem_units h hu
  exact forall_turns hselect t ht

end Runs

/-! ### A small suite -/

/-- Three tests are there, and the configuration excludes one of them. -/
def supported (standard : List String) (options : Options) : Suite Shelf where
  options
  config := ⟨⟨[⟨"test"⟩], "py", standard, ["test_support"]⟩, defaultPlatform⟩
  loader := Registry.loader
    ⟨[("test_a", fun _ => .done), ("test_b", fun _ => .done), ("test_support", fun _ => .done)]⟩
  detector := none
  entropy := 0

/-- The world in which the three tests are. -/
def supportedWorld : World Shelf Memory :=
  .start ⟨[(⟨"test/test_a.py"⟩, []), (⟨"test/test_b.py"⟩, []), (⟨"test/test_support.py"⟩, [])]⟩
    .empty

/-- The choice to leave out the tests of the given names. -/
def without (names : List String) : Options :=
  { Options.none with exclude := true, tests := names }

/-! ### Given names -/

section Given

omit [FileSystem σ] in
/-- The names given by the operator, without extensions. -/
def given (s : Suite σ) : List String :=
  s.options.tests.map (Selection.stripExtension s.config.discovery.extension)

omit [FileSystem σ] in
/-- The suite when the operator gives no names. -/
def nameless (s : Suite σ) : Suite σ := { s with options := { s.options with tests := [] } }

omit [FileSystem σ] in
/-- The suite when the names are not given for exclusion. -/
def including (s : Suite σ) : Suite σ := { s with options := { s.options with exclude := false } }

omit [FileSystem σ] in
theorem names_of_exclude (h : s.options.exclude = true) :
    s.names = ⟨[], s.config.discovery.standard.filter (· ∉ s.given),
      s.given ++ s.config.discovery.excluded⟩ := by
  have hstandard : s.config.discovery.standard.filter (fun n => !s.given.contains n) =
      s.config.discovery.standard.filter (· ∉ s.given) :=
    List.filter_congr fun n _ => by simp
  rw [names, if_pos h, ← hstandard]
  rfl

omit [FileSystem σ] in
theorem names_nameless :
    s.nameless.names = ⟨[], s.config.discovery.standard, s.config.discovery.excluded⟩ := by
  unfold names nameless
  split_ifs
  · simp [Selection.applyExclusions]
  · rfl

/-- **Selection without the given names**: they are left out, and nothing else changes. -/
theorem select_exclude (h : s.options.exclude = true) (roots : List Path) (w : World σ ω) :
    (s.select roots w).1 = (s.nameless.select roots w).1.map (List.filter (· ∉ s.given)) := by
  have hnames := names_of_exclude h
  have hnameless := names_nameless (s := s)
  rw [select_unnamed (by rw [hnames]), select_unnamed (by rw [hnameless]), hnames, hnameless]
  have hextension : s.nameless.config.discovery.extension = s.config.discovery.extension := rfl
  rw [hextension]
  cases Selection.entriesOf w.host roots with
  | error e => rfl
  | ok entries =>
    refine congrArg Except.ok ?_
    rw [List.filter_append, ← Selection.filter_found]

section Including
variable [Sink ω]

theorem runIn_including (name : String) : ∀ roots : List Path,
    (s.runIn name roots : _ → _ → Run σ ω RunError _) = s.including.runIn name roots
  | [] => rfl
  | root :: roots => by
    funext records found
    unfold runIn
    rw [runIn_including name roots]
    rfl

theorem runTests_including (p : Plan) :
    ∀ (names : List String) (index : Nat) (records : List (UnitId × Outcome)),
      (s.runTests p index names records : Run σ ω RunError Tally) =
        s.including.runTests p index names records
  | [], _, _ => rfl
  | name :: names, index, records => by
    rw [runTests_cons, runTests_cons]
    simp only [runIn_including (s := s), runTests_including p names]

/-- **No names for exclusion are no exclusion at all.** -/
theorem run_including (hnone : s.options.tests = []) :
    (s.run : Run σ ω RunError SuiteResult) = s.including.run := by
  have hnames : s.names = s.including.names := by
    unfold names including
    split_ifs <;> simp [hnone, Selection.applyExclusions]
  have hplan : (s.plan : Run σ ω RunError Plan) = s.including.plan := by
    unfold plan select
    rw [hnames]
    rfl
  rw [run_eq, run_eq, hplan]
  simp only [runTests_including (s := s)]
  rfl

end Including

/-- **Exclusion leaves out exactly the given names**: the others are selected as if no name was
given, none of the given ones is executed or gets into the result, and if there are none, the run is
the same as without exclusion. -/
theorem run_exclude [Sink ω] (h : s.options.exclude = true) :
    (∀ roots (w : World σ ω), (s.select roots w).1 =
      (s.nameless.select roots w).1.map (List.filter (· ∉ s.given))) ∧
    (∀ w : World σ ω, (∀ t ∈ s.turns w, t.unit.name ∉ s.given) ∧
      ∀ result, (s.run w).1 = .ok result → ∀ k, ∀ u ∈ result.units k, u.name ∉ s.given) ∧
    (s.options.tests = [] → (s.run : Run σ ω RunError SuiteResult) = s.including.run) := by
  refine ⟨select_exclude h, fun w => ?_, run_including⟩
  have hselect : ∀ tests, (s.select (s.rootsAt w.host) w).1 = .ok tests →
      ∀ n ∈ tests, n ∉ s.given := by
    intro tests htests n hn
    rw [select_exclude h] at htests
    cases hall : (s.nameless.select (s.rootsAt w.host) w).1 with
    | error e =>
      rw [hall] at htests
      cases htests
    | ok all =>
      rw [hall] at htests
      obtain rfl := Except.ok.inj htests
      exact of_decide_eq_true (List.mem_filter.mp hn).2
  exact ⟨forall_turns hselect, fun _ => forall_units hselect⟩

/-- A standard test is left out, and it is not found again. -/
theorem run_exclude_supported :
    ((supported ["test_a"] (without ["test_a.py"])).select [⟨"test"⟩] supportedWorld).1 =
      .ok ["test_b"] ∧
    (∀ t ∈ (supported ["test_a"] (without ["test_a.py"])).turns supportedWorld,
      t.unit.name ∉ ["test_a"]) ∧
    ((supported ["test_a"] (without [])).run : Run Shelf Memory RunError SuiteResult) =
      (supported ["test_a"] Options.none).run := by
  obtain ⟨hselect, hruns, -⟩ :=
    run_exclude (s := supported ["test_a"] (without ["test_a.py"])) (ω := Memory) rfl
  have hnone := (run_exclude (s := supported ["test_a"] (without [])) (ω := Memory) rfl).2.2 rfl
  refine ⟨?_, (hruns supportedWorld).1, hnone⟩
  rw [hselect]
  decide +kernel

end Given

/-! ### Configured names -/

section Configured

omit [FileSystem σ] in
/-- Configured names are always among the excluded ones. -/
theorem mem_names_excluded {name : String} (h : name ∈ s.config.discovery.excluded) :
    name ∈ s.names.excluded := by
  unfold names
  split_ifs
  · exact List.mem_append_right _ h
  · exact h

/-- **A configured name is left out of what is found**, so that it is selected only as a standard
test. -/
theorem mem_select_excluded (h : s.names.named = []) {name : String}
    (hname : name ∈ s.config.discovery.excluded) {roots : List Path} {w : World σ ω}
    {tests : List String} (htests : (s.select roots w).1 = .ok tests) :
    name ∈ tests ↔ name ∈ s.names.standard := by
  rw [select_unnamed h] at htests
  cases hentries : Selection.entriesOf w.host roots with
  | error e =>
    rw [hentries] at htests
    cases htests
  | ok entries =>
    rw [hentries] at htests
    obtain rfl := Except.ok.inj htests
    rw [List.mem_append, Selection.mem_insertNames, Selection.mem_testsAmong]
    simp [mem_names_excluded hname]

/-- **Configured names are left out of a run in which no test is named**, unless they are standard
ones: only then are they selected, executed, or in the result. -/
theorem run_excluded [Sink ω] (h : s.names.named = []) {name : String}
    (hname : name ∈ s.config.discovery.excluded) :
    (∀ roots (w : World σ ω) tests, (s.select roots w).1 = .ok tests →
      (name ∈ tests ↔ name ∈ s.names.standard)) ∧
    ∀ w : World σ ω, (∀ t ∈ s.turns w, t.unit.name = name → name ∈ s.names.standard) ∧
      ∀ result, (s.run w).1 = .ok result →
        ∀ k, ∀ u ∈ result.units k, u.name = name → name ∈ s.names.standard := by
  refine ⟨fun _ _ _ => mem_select_excluded h hname, fun w => ?_⟩
  have hselect : ∀ tests, (s.select (s.rootsAt w.host) w).1 = .ok tests →
      ∀ n ∈ tests, n = name → name ∈ s.names.standard := by
    rintro tests htests n hn rfl
    exact (mem_select_excluded h hname htests).mp hn
  exact ⟨forall_turns hselect, fun _ => forall_units hselect⟩

/-- A test that is excluded and not a standard one is left out. -/
theorem run_excluded_supported :
    "test_support" ∈ (supported ["test_a"] Options.none).config.discovery.excluded ∧
    ∀ t ∈ (supported ["test_a"] Options.none).turns supportedWorld,
      t.unit.name ≠ "test_support" := by
  have hname : "test_support" ∈ (supported ["test_a"] Options.none).config.discovery.excluded := by
    decide
  obtain ⟨-, hruns⟩ := run_excluded (s := supported ["test_a"] Options.none) (ω := Memory) rfl hname
  refine ⟨hname, fun t ht heq => ?_⟩
  exact absurd ((hruns supportedWorld).1 t ht heq) (by decide)

/-- **A standard test runs although it is excluded**, also if no test is named. -/
theorem run_support :
    let s := supported ["test_support"] Options.none
    let w : World Shelf Memory := .start ⟨[(⟨"test/test_support.py"⟩, [])]⟩ .empty
    s.names.named = [] ∧ "test_support" ∈ s.config.discovery.excluded ∧
      (s.select [⟨"test"⟩] w).1 = .ok ["test_support"] ∧
      (s.run w).1 = .ok ⟨[⟨"test_support", ⟨"test"⟩⟩], [], [], false, false⟩ := by
  decide +kernel

end Configured

end Golden.Suite
