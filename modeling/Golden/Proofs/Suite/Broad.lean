import Golden.Proofs.Discovery
import Golden.Proofs.Files
import Golden.Proofs.Suite.Executed

/-! # Broad runs and narrow ones

A broad run searches all directories of the search path, and a narrow one only the first. A broad
run may select more tests, namely those found in other roots; but what it executes in the first root
is what a narrow run executes.

* `Selection.rootsAmong_narrow`: a narrow search leads to the first root of a broad one.
* `Suite.filter_selected`: what is selected of the tests that are in the first root.
* `Suite.filter_ran`: what a run executes in the first root.
* `Suite.run_broad`: a broad run, as far as it takes place in the first root. -/

namespace Golden

/-! ### Roots -/

namespace Selection

theorem rootsAmong_found (isDirectory : Path → Bool) (broad : Bool) : ∀ ps found : List Path,
    found <+: rootsAmong isDirectory broad found ps
  | [], found => List.prefix_refl found
  | p :: ps, found => by
    have hfound : found <+: if found.any (·.same p) then found else found ++ [p] := by
      split_ifs
      · exact List.prefix_refl found
      · exact List.prefix_append _ _
    rw [rootsAmong]
    cases isDirectory p with
    | false => exact rootsAmong_found isDirectory broad ps found
    | true =>
      cases broad with
      | false => exact hfound
      | true => exact hfound.trans (rootsAmong_found isDirectory true ps _)

/-- **A narrow search leads to the first root of a broad one**, if there is any. -/
theorem rootsAmong_narrow (isDirectory : Path → Bool) : ∀ ps : List Path,
    rootsAmong isDirectory false [] ps = (rootsAmong isDirectory true [] ps).take 1
  | [] => rfl
  | p :: ps => by
    rw [rootsAmong, rootsAmong]
    cases isDirectory p with
    | false => exact rootsAmong_narrow isDirectory ps
    | true =>
      obtain ⟨rest, hrest⟩ := rootsAmong_found isDirectory true ps [p]
      change [p] = (rootsAmong isDirectory true [p] ps).take 1
      rw [← hrest]
      rfl

theorem mem_rootsAmong {isDirectory : Path → Bool} {broad : Bool} {root : Path} :
    ∀ {ps found : List Path}, root ∈ rootsAmong isDirectory broad found ps → root ∈ found ∨ root ∈ ps
  | [], _, h => .inl h
  | p :: ps, found, h => by
    have hfound : root ∈ (if found.any (·.same p) then found else found ++ [p]) →
        root ∈ found ∨ root ∈ p :: ps := by
      split_ifs
      · exact .inl
      · intro h
        rcases List.mem_append.mp h with h | h
        · exact .inl h
        · exact .inr (List.mem_singleton.mp h ▸ List.mem_cons_self)
    rw [rootsAmong] at h
    cases hp : isDirectory p with
    | false =>
      rw [hp] at h
      exact (mem_rootsAmong h).imp_right (List.mem_cons_of_mem _)
    | true =>
      rw [hp] at h
      cases broad with
      | false => exact hfound h
      | true => exact (mem_rootsAmong h).elim hfound fun h => .inr (List.mem_cons_of_mem _ h)

theorem rootsAmong_congr {isDirectory isDirectory' : Path → Bool} {broad : Bool} :
    ∀ {ps found : List Path}, (∀ p ∈ ps, isDirectory p = isDirectory' p) →
      rootsAmong isDirectory broad found ps = rootsAmong isDirectory' broad found ps
  | [], _, _ => rfl
  | p :: ps, found, h => by
    obtain ⟨hp, hps⟩ := List.forall_mem_cons.mp h
    rw [rootsAmong, rootsAmong, hp]
    simp only [rootsAmong_congr hps]

variable {σ : Type} [FileSystem σ]

/-- **An entry is found where it is there**, if it is found anywhere. -/
theorem mem_entries_of_has {IsEntry : String → Prop} {host host' : σ} {roots roots' : List Path}
    {entries entries' : List String} {root : Path} {e : String}
    (hlist : FileSystem.Listed IsEntry host) (hlist' : FileSystem.Listed IsEntry host')
    (h : entriesOf host roots = .ok entries) (h' : entriesOf host' roots' = .ok entries')
    (hroot : root ∈ roots') (he : e ∈ entries)
    (hhas : FileSystem.has host' (root.join e) = true) : e ∈ entries' := by
  obtain ⟨first, -, names, hnames, hmem⟩ := (mem_entriesOf h).mp he
  obtain ⟨hentry, -⟩ := (hlist first names hnames e).mp hmem
  obtain ⟨names', hnames'⟩ := list_of_entriesOf h' hroot
  have hmem' := (hlist' root names' hnames' e).mpr ⟨hentry, hhas⟩
  exact (mem_entriesOf h').mpr ⟨root, hroot, names', hnames', hmem'⟩

end Selection

namespace Suite

variable {σ : Type} [FileSystem σ] {s : Suite σ} {host host' : σ} {tests tests' : List String}
  {first : Path} {rest : List Path}

/-! ### Two ways to search -/

/-- The suite when it searches all directories. -/
def broad (s : Suite σ) : Suite σ := { s with options := { s.options with broad := true } }

/-- The suite when it searches the first directory only. -/
def narrow (s : Suite σ) : Suite σ := { s with options := { s.options with broad := false } }

/-- The same directories of the search path are there, and the same sources in them. -/
def SameSources (s : Suite σ) (host host' : σ) : Prop :=
  ∀ root ∈ s.config.discovery.searchPath,
    FileSystem.isDirectory host root = FileSystem.isDirectory host' root ∧
    ∀ name, FileSystem.has host (s.source ⟨name, root⟩) = FileSystem.has host' (s.source ⟨name, root⟩)

theorem rootsAt_narrow (h : s.SameSources host host') :
    s.narrow.rootsAt host' = (s.broad.rootsAt host).take 1 := by
  have hdirectories : s.narrow.rootsAt host' = Selection.rootsAmong (FileSystem.isDirectory host)
      false [] s.config.discovery.searchPath :=
    Selection.rootsAmong_congr fun p hp => ((h p hp).1).symm
  rw [hdirectories, Selection.rootsAmong_narrow]
  rfl

theorem mem_searchPath {root : Path} (h : root ∈ s.rootsAt host) :
    root ∈ s.config.discovery.searchPath :=
  (Selection.mem_rootsAmong h).resolve_left List.not_mem_nil

/-- **What is selected of the tests in the first root** is the same in a narrow run as in a broad
one. -/
theorem filter_selected {IsEntry : String → Prop} (hlist : FileSystem.Listed IsEntry host)
    (hlist' : FileSystem.Listed IsEntry host') (hsame : s.SameSources host host')
    (hroots : s.broad.rootsAt host = first :: rest)
    (h : s.broad.selectedAt host = .ok tests) (h' : s.narrow.selectedAt host' = .ok tests') :
    tests.filter (fun n => FileSystem.has host (s.source ⟨n, first⟩)) =
      tests'.filter fun n => FileSystem.has host (s.source ⟨n, first⟩) := by
  have hfirst : first ∈ s.broad.rootsAt host := hroots ▸ List.mem_cons_self
  have hfirst' : first ∈ s.narrow.rootsAt host' := by
    rw [rootsAt_narrow hsame, hroots]
    exact List.mem_cons_self
  have hsources := (hsame first (mem_searchPath (s := s.broad) hfirst)).2
  by_cases hnamed : s.names.named = []
  · obtain ⟨entries, hentries, rfl⟩ := (selectedAt_unnamed (s := s.broad) hnamed).mp h
    obtain ⟨entries', hentries', rfl⟩ := (selectedAt_unnamed (s := s.narrow) hnamed).mp h'
    rw [List.filter_append, List.filter_append]
    refine congrArg (_ ++ ·) (Selection.eq_of_ascending
      ((Selection.ascending_found ..).filter _) ((Selection.ascending_found ..).filter _)
      fun n => ?_)
    simp only [List.mem_filter, Selection.mem_insertNames, Selection.mem_testsAmong,
      List.not_mem_nil, or_false]
    refine and_congr_left fun hhas => and_congr_left fun _ => ?_
    constructor
    · rintro ⟨e, he, hn⟩
      refine ⟨e, Selection.mem_entries_of_has hlist hlist' hentries hentries' hfirst' he ?_, hn⟩
      rw [(Selection.testName?_eq_some.mp hn).2]
      exact (hsources n).symm.trans hhas
    · rintro ⟨e, he, hn⟩
      refine ⟨e, Selection.mem_entries_of_has hlist' hlist hentries' hentries hfirst he ?_, hn⟩
      rw [(Selection.testName?_eq_some.mp hn).2]
      exact hhas
  · rw [selectedAt_named (s := s.broad) hnamed] at h
    rw [selectedAt_named (s := s.narrow) hnamed] at h'
    rw [← Except.ok.inj h, ← Except.ok.inj h']
    rfl

/-! ### What is executed in the first root -/

theorem root_of_mem_stations {u : UnitId} {names : List String}
    (h : u ∈ s.stations host names) : u.root ∈ s.rootsAt host ∧
      (u.name ∈ s.oneOnly → (s.rootsAt host).head? = some u.root) := by
  obtain ⟨name, -, hmem⟩ := List.mem_flatMap.mp h
  obtain ⟨root, hroot, rfl⟩ := List.mem_map.mp hmem
  split_ifs at hroot with hone
  · refine ⟨List.mem_of_mem_take hroot, fun _ => ?_⟩
    cases hroots : s.rootsAt host with
    | nil =>
      rw [hroots] at hroot
      cases hroot
    | cons first rest =>
      rw [hroots] at hroot
      rw [List.mem_singleton.mp hroot]
      rfl
  · exact ⟨hroot, fun h => absurd (List.contains_iff_mem.mpr h) hone⟩

/-- **In the first root, every test is sought once.** -/
theorem filter_stations (hroots : s.rootsAt host = first :: rest) (names : List String) :
    (s.stations host names).filter (fun u => (s.rootsAt host).head? = some u.root) =
      names.map (⟨·, first⟩) := by
  have hdistinct := s.distinct_rootsAt host
  rw [hroots] at hdistinct
  have hothers : ∀ root ∈ rest, first ≠ root := fun root hroot heq => by
    have hsame := (List.pairwise_cons.mp hdistinct).1 root hroot
    simp [heq, Path.same] at hsame
  have hhere (name : String) : ((if s.oneOnly.contains name then (s.rootsAt host).take 1
      else s.rootsAt host).map (⟨name, ·⟩)).filter
        (fun u : UnitId => (s.rootsAt host).head? = some u.root) = [⟨name, first⟩] := by
    have hnone : (rest.map (⟨name, ·⟩)).filter (fun u : UnitId => some first = some u.root) = [] := by
      refine List.filter_eq_nil_iff.mpr fun u hu => ?_
      obtain ⟨root, hroot, rfl⟩ := List.mem_map.mp hu
      simpa using hothers root hroot
    rw [hroots]
    split_ifs
    · simp
    · simpa using hnone
  rw [stations, List.filter_flatMap]
  simp only [hhere]
  exact List.map_eq_flatMap.symm

/-- Of the tests that are sought, those run in the first root that have a source there. -/
theorem filter_present (hroots : s.rootsAt host = first :: rest) (names : List String) :
    ((s.stations host names).filter fun u => FileSystem.has host (s.source u)).filter
        (fun u => (s.rootsAt host).head? = some u.root) =
      (names.filter fun n => FileSystem.has host (s.source ⟨n, first⟩)).map (⟨·, first⟩) := by
  rw [List.filter_comm, filter_stations hroots, List.filter_map]
  rfl

variable {ω τ : Type} [Sink ω] [Sink τ] {w : World σ ω} {w' : World σ τ}
  {result result' : SuiteResult}

/-- A unit that is executed is in one of the roots, and in the first one if it is to run once. -/
theorem root_of_mem_ran (h : (s.run w).1 = .ok result) (hi : result.interrupted = false)
    (hsteady : s.Steady w) {u : UnitId} (hu : u ∈ s.ran w) : u.root ∈ s.rootsAt w.host ∧
      (u.name ∈ s.oneOnly → (s.rootsAt w.host).head? = some u.root) := by
  obtain ⟨tests, -, hran⟩ := ran_eq h hi hsteady
  rw [hran] at hu
  exact root_of_mem_stations (List.mem_of_mem_filter hu)

/-- **What is executed in the first root** are the selected tests that have a source there. -/
theorem filter_ran (hroots : s.rootsAt w.host = first :: rest) (h : (s.run w).1 = .ok result)
    (hi : result.interrupted = false) (hsteady : s.Steady w) :
    ∃ tests, s.selectedAt w.host = .ok tests ∧
      ((s.ran w).filter fun u => (s.rootsAt w.host).head? = some u.root).Perm
        ((tests.filter fun n => FileSystem.has w.host (s.source ⟨n, first⟩)).map (⟨·, first⟩)) := by
  obtain ⟨tests, htests, hran⟩ := ran_eq h hi hsteady
  refine ⟨tests, htests, ?_⟩
  rw [hran, filter_present hroots]
  exact ((s.ordered_perm tests).filter _).map _

/-- A narrow run executes units in the first root only. -/
theorem filter_ran_narrow (hroots : s.narrow.rootsAt w.host = [first])
    (h : (s.narrow.run w).1 = .ok result) (hi : result.interrupted = false)
    (hsteady : s.narrow.Steady w) :
    ((s.narrow.ran w).filter fun u => (s.narrow.rootsAt w.host).head? = some u.root) =
      s.narrow.ran w := by
  refine List.filter_eq_self.mpr fun u hu => ?_
  have hroot := (root_of_mem_ran h hi hsteady hu).1
  rw [hroots, List.mem_singleton] at hroot
  simp [hroots, hroot]

/-- **A broad run does in the first root what a narrow run does**, if directories list what is in
them, and if sources neither appear nor disappear. Tests that are to run once run in no other
root. -/
theorem run_broad {IsEntry : String → Prop} (hlist : FileSystem.Listed IsEntry w.host)
    (hlist' : FileSystem.Listed IsEntry w'.host) (hsame : s.SameSources w.host w'.host)
    (hsteady : s.broad.Steady w) (hsteady' : s.narrow.Steady w')
    (h : (s.broad.run w).1 = .ok result) (hi : result.interrupted = false)
    (h' : (s.narrow.run w').1 = .ok result') (hi' : result'.interrupted = false) :
    ((s.broad.ran w).filter fun u => (s.broad.rootsAt w.host).head? = some u.root).Perm
      (s.narrow.ran w') ∧
    ∀ u ∈ s.broad.ran w, u.name ∈ s.oneOnly → (s.broad.rootsAt w.host).head? = some u.root := by
  have hnarrow : s.narrow.rootsAt w'.host = (s.broad.rootsAt w.host).take 1 := rootsAt_narrow hsame
  refine ⟨?_, fun u hu => (root_of_mem_ran h hi hsteady hu).2⟩
  cases hroots : s.broad.rootsAt w.host with
  | nil =>
    have hran : s.broad.ran w = [] := List.eq_nil_iff_forall_not_mem.mpr fun u hu =>
      List.not_mem_nil (hroots ▸ (root_of_mem_ran h hi hsteady hu).1)
    have hran' : s.narrow.ran w' = [] := List.eq_nil_iff_forall_not_mem.mpr fun u hu => by
      have hroot := (root_of_mem_ran h' hi' hsteady' hu).1
      rw [hnarrow, hroots] at hroot
      exact List.not_mem_nil hroot
    rw [hran, hran']
    exact .refl _
  | cons first rest =>
    rw [hroots] at hnarrow
    have hfirst : first ∈ s.config.discovery.searchPath :=
      mem_searchPath (s := s.broad) (hroots ▸ List.mem_cons_self)
    obtain ⟨tests, htests, hran⟩ := filter_ran hroots h hi hsteady
    obtain ⟨tests', htests', hran'⟩ := filter_ran hnarrow h' hi' hsteady'
    have hsources (n : String) : FileSystem.has w'.host (s.narrow.source ⟨n, first⟩) =
        FileSystem.has w.host (s.broad.source ⟨n, first⟩) := ((hsame first hfirst).2 n).symm
    have hselected := congrArg (List.map (⟨·, first⟩ : String → UnitId))
      (filter_selected hlist hlist' hsame hroots htests htests')
    rw [filter_ran_narrow hnarrow h' hi' hsteady'] at hran'
    simp only [hsources] at hran'
    rw [← hroots]
    exact hran.trans (.trans (.of_eq hselected) hran'.symm)

/-! ### Two roots -/

/-- A suite of two tests, the first of which is to run in one root only. -/
def spread : Suite Shelf where
  options := { Options.none with oneOnly := ["test_a.py"] }
  config := ⟨⟨[⟨"t"⟩, ⟨"u"⟩], "py", [], []⟩, defaultPlatform⟩
  loader := Registry.loader
    ⟨[("test_a", fun _ => .done), ("test_b", fun _ => .raise (.failure "no"))]⟩
  detector := none
  entropy := 0

/-- The world in which the first test is in two roots, and the other one in the second root. -/
def spreadWorld : World Shelf Memory :=
  .start ⟨[(⟨"t/test_a.py"⟩, []), (⟨"u/test_a.py"⟩, []), (⟨"u/test_b.py"⟩, [])]⟩ .empty

/-- A broad run finds a test that a narrow one does not. -/
theorem run_broad_spread :
    ((spread.broad.ran spreadWorld).filter fun u =>
      (spread.broad.rootsAt spreadWorld.host).head? = some u.root).Perm
        (spread.narrow.ran spreadWorld) ∧
    (∀ u ∈ spread.broad.ran spreadWorld, u.name ∈ spread.oneOnly →
      (spread.broad.rootsAt spreadWorld.host).head? = some u.root) ∧
    spread.broad.ran spreadWorld = [⟨"test_a", ⟨"t"⟩⟩, ⟨"test_b", ⟨"u"⟩⟩] := by
  have hlist := Shelf.listed spreadWorld.host
  have hsame : spread.SameSources spreadWorld.host spreadWorld.host := fun _ _ => ⟨rfl, fun _ => rfl⟩
  have hsteady : spread.broad.Steady spreadWorld := by
    unfold Steady
    decide +kernel
  have hsteady' : spread.narrow.Steady spreadWorld := by
    unfold Steady
    decide +kernel
  have h : (spread.broad.run spreadWorld).1 =
      .ok ⟨[⟨"test_a", ⟨"t"⟩⟩], [⟨"test_b", ⟨"u"⟩⟩], [], false, true⟩ := by
    decide +kernel
  have h' : (spread.narrow.run spreadWorld).1 =
      .ok ⟨[⟨"test_a", ⟨"t"⟩⟩], [], [], false, false⟩ := by
    decide +kernel
  obtain ⟨hran, hone⟩ := run_broad hlist hlist hsame hsteady hsteady' h rfl h' rfl
  exact ⟨hran, hone, by decide +kernel⟩

end Suite

end Golden
