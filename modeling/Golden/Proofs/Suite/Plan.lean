import Golden.Proofs.Action
import Golden.Shuffle
import Golden.Suite
import Mathlib.Data.List.Pairwise
import Mathlib.Data.List.Perm.Basic
import Mathlib.Tactic.Common

/-! # The plan of a run

What is to be run depends on the suite and on what lies around the run, and nothing is changed when
it is found out, except that traces are left.

* `Shuffle.shuffle_perm`: a shuffle is a permutation.
* `Suite.plan_apply`: the plan is `Suite.planned`.
* `Suite.distinct_rootsAt`: no two roots are the same. -/

namespace Golden

/-! ### Shuffles -/

namespace Shuffle

open scoped List

variable {α : Type}

/-- Putting an item somewhere amounts to appending it. -/
theorem place_perm (done : List α) (x : α) (i : Nat) : place done x i ~ done ++ [x] := by
  unfold place
  cases h : done[i]? with
  | none => exact List.Perm.refl _
  | some y =>
    obtain ⟨hi, rfl⟩ := List.getElem?_eq_some_iff.mp h
    calc done.set i x ++ [done[i]]
      _ ~ done[i] :: done.set i x := List.perm_append_singleton _ _
      _ ~ done[i] :: x :: done.eraseIdx i := (List.set_perm_cons_eraseIdx hi x).cons _
      _ ~ x :: done[i] :: done.eraseIdx i := List.Perm.swap _ _ _
      _ ~ x :: done := (List.getElem_cons_eraseIdx_perm hi).cons x
      _ ~ done ++ [x] := (List.perm_append_singleton x done).symm

theorem placeAll_perm : ∀ (xs done : List α) (p : Places), placeAll done xs p ~ done ++ xs
  | [], done, p => by simp [placeAll]
  | x :: xs, done, p => by
    have h := placeAll_perm xs (place done x p.next.1) p.next.2
    have h' := (place_perm done x p.next.1).append_right xs
    rw [List.append_assoc, List.singleton_append] at h'
    exact h.trans h'

/-- **A shuffle is a permutation**, whatever its seed. -/
theorem shuffle_perm (items : List α) (seed : UInt64) : shuffle items seed ~ items := by
  unfold shuffle
  split_ifs
  · exact List.Perm.refl items
  · exact placeAll_perm items [] _

end Shuffle

variable {σ ω ε : Type} [FileSystem σ]

namespace Selection

/-! ### Tests -/

/-- The tests in the roots that are not standard, ascending, added to those already found. -/
def discovered (host : σ) (extension : String) (standard excluded : List String) :
    List String → List Path → Except FileSystemError (List String)
  | found, [] => .ok found
  | found, root :: roots =>
    match FileSystem.list host root with
    | .error e => .error e
    | .ok entries =>
      discovered host extension standard excluded
        (insertNames (insertNames (testsAmong extension standard excluded entries) []) found) roots

theorem discoverAll_apply (extension : String) (standard excluded : List String) :
    ∀ (roots : List Path) (found : List String) (w : World σ ω),
      ∃ t, discoverAll extension standard excluded found roots w =
        (discovered w.host extension standard excluded found roots, { w with trail := t })
  | [], found, w => ⟨w.trail, rfl⟩
  | root :: roots, found, w => by
    rw [discoverAll, discover, Run.bind_apply, Run.host_bind, Run.bind_apply, Run.ofResult_apply,
      discovered]
    cases FileSystem.list w.host root with
    | error e => exact ⟨w.trail, rfl⟩
    | ok entries => exact discoverAll_apply extension standard excluded roots _ _

/-! ### Roots -/

theorem roots_apply (searchPath : List Path) (broad : Bool) (w : World σ ω) :
    ∃ t, (roots searchPath broad : Run σ ω ε (List Path)) w =
      (.ok (rootsAmong (FileSystem.isDirectory w.host) broad [] searchPath),
        { w with trail := t }) := by
  obtain ⟨t, ht⟩ := Run.forM_note (ε := ε) Event.skippingRoot
    (passedOver (FileSystem.isDirectory w.host) broad searchPath) w
  refine ⟨t, ?_⟩
  rw [roots, Run.host_bind, Run.bind_apply, ht]
  rfl

omit [FileSystem σ] in
/-- No two of the paths are the same. -/
def Distinct (ps : List Path) : Prop := ps.Pairwise fun p q => p.same q = false

omit [FileSystem σ] in
/-- Among paths of which no two are the same, only a path itself is the same. -/
theorem Distinct.eq_of_same {ps : List Path} (h : Distinct ps) {p q : Path} (hp : p ∈ ps)
    (hq : q ∈ ps) (hs : p.same q = true) : p = q := by
  have : Std.Symm fun p q : Path => p.same q = false := by
    refine ⟨fun p q hpq => ?_⟩
    rw [Path.same, decide_eq_false_iff_not] at hpq ⊢
    exact Ne.symm hpq
  by_contra hne
  have hsame := List.Pairwise.forall h hp hq hne
  rw [hs] at hsame
  cases hsame

omit [FileSystem σ] in
theorem distinct_rootsAmong (isDirectory : Path → Bool) (broad : Bool) :
    ∀ (ps found : List Path), Distinct found →
      Distinct (rootsAmong isDirectory broad found ps)
  | [], found, h => h
  | p :: ps, found, h => by
    have hfound : Distinct (if found.any (·.same p) then found else found ++ [p]) := by
      split_ifs with hp
      · exact h
      · refine List.pairwise_append.mpr ⟨h, List.pairwise_singleton _ _, fun a ha b hb => ?_⟩
        rw [List.mem_singleton.mp hb]
        rw [List.any_eq_true, not_exists] at hp
        simpa [ha] using hp a
    rw [rootsAmong]
    cases isDirectory p with
    | false => exact distinct_rootsAmong isDirectory broad ps found h
    | true =>
      cases broad with
      | false => exact hfound
      | true => exact distinct_rootsAmong isDirectory true ps _ hfound

end Selection

namespace Suite

variable (s : Suite σ)

/-- The roots that are searched. -/
def rootsAt (host : σ) : List Path :=
  Selection.rootsAmong (FileSystem.isDirectory host) s.options.broad []
    s.config.discovery.searchPath

theorem distinct_rootsAt (host : σ) : Selection.Distinct (s.rootsAt host) :=
  Selection.distinct_rootsAmong _ _ _ [] List.Pairwise.nil

/-- The tests that are selected, in their own order: those named, or the standard ones and those
found. -/
def selectedAt (host : σ) : Except FileSystemError (List String) :=
  if s.names.named ≠ [] then .ok s.names.named
  else
    (Selection.discovered host s.config.discovery.extension s.names.standard s.names.excluded []
      (s.rootsAt host)).map (s.names.standard ++ ·)

/-- The order in which the tests run. -/
def ordered (tests : List String) : List String :=
  if s.options.randomize then
    Shuffle.shuffle tests (UInt64.ofNat (s.options.seed.getD s.entropy))
  else tests

omit [FileSystem σ] in
theorem ordered_perm (tests : List String) : (s.ordered tests).Perm tests := by
  unfold ordered
  split_ifs
  · exact Shuffle.shuffle_perm _ _
  · exact List.Perm.refl _

/-- The tests that run in the first root only. -/
def oneOnly : List String :=
  s.options.oneOnly.map (Selection.stripExtension s.config.discovery.extension)

/-- The units that are sought: every test in each of its roots. -/
def sought (p : Plan) (names : List String) : List UnitId :=
  names.flatMap fun name => (candidates p name).map (⟨name, ·⟩)

omit [FileSystem σ] in
theorem sought_eq_nil {p : Plan} {names : List String} :
    sought p names = [] ↔ names = [] ∨ p.roots = [] := by
  have hcandidates (name : String) : candidates p name = [] ↔ p.roots = [] := by
    unfold candidates
    split_ifs <;> simp
  rw [sought, List.flatMap_eq_nil_iff]
  simp only [List.map_eq_nil_iff, hcandidates]
  constructor
  · intro h
    cases names with
    | nil => exact Or.inl rfl
    | cons name names => exact Or.inr (h name List.mem_cons_self)
  · rintro (rfl | h)
    · simp
    · exact fun _ _ => h

/-- **The plan**, in view of what lies around the run. -/
def planned (host : σ) : Except RunError Plan :=
  match s.selectedAt host with
  | .error e => .error (.fileSystem e)
  | .ok tests => .ok
    { tests := s.ordered tests, roots := s.rootsAt host, oneOnly := s.oneOnly,
      explicit := s.names.named ≠ [] }

theorem planned_eq_ok {host : σ} {p : Plan} (h : s.planned host = .ok p) :
    ∃ tests, s.selectedAt host = .ok tests ∧ p =
      { tests := s.ordered tests, roots := s.rootsAt host, oneOnly := s.oneOnly,
        explicit := s.names.named ≠ [] } := by
  unfold planned at h
  cases htests : s.selectedAt host with
  | error e =>
    rw [htests] at h
    cases h
  | ok tests =>
    rw [htests] at h
    exact ⟨tests, rfl, (Except.ok.inj h).symm⟩

/-- The tests of a plan are those that are selected. -/
theorem perm_of_planned {host : σ} {p : Plan} (h : s.planned host = .ok p) :
    ∃ tests, s.selectedAt host = .ok tests ∧ p.tests.Perm tests := by
  obtain ⟨tests, htests, rfl⟩ := s.planned_eq_ok h
  exact ⟨tests, htests, s.ordered_perm tests⟩

theorem select_apply (w : World σ ω) :
    ∃ t, (s.select (s.rootsAt w.host) : Run σ ω RunError _) w =
      ((s.selectedAt w.host).mapError .fileSystem, { w with trail := t }) := by
  unfold select selectedAt
  split_ifs
  · exact ⟨w.trail, rfl⟩
  · obtain ⟨t, ht⟩ := Selection.discoverAll_apply s.config.discovery.extension s.names.standard
      s.names.excluded (s.rootsAt w.host) [] w
    refine ⟨t, ?_⟩
    rw [Selection.allTests, Run.mapError_apply, Run.bind_apply, ht]
    cases Selection.discovered w.host s.config.discovery.extension s.names.standard
      s.names.excluded [] (s.rootsAt w.host) <;> rfl

omit [FileSystem σ] in
theorem order_apply (tests : List String) (w : World σ ω) :
    ∃ t, (s.order tests : Run σ ω RunError _) w =
      (.ok (s.ordered tests), { w with trail := t }) := by
  unfold order ordered
  split_ifs
  · exact ⟨_, rfl⟩
  · exact ⟨w.trail, rfl⟩

theorem plan_apply (w : World σ ω) :
    ∃ t, s.plan w = (s.planned w.host, { w with trail := t }) := by
  obtain ⟨t, ht⟩ := Selection.roots_apply (ε := RunError) s.config.discovery.searchPath
    s.options.broad w
  have hroots : ((Selection.roots s.config.discovery.searchPath s.options.broad :
      Run σ ω RunError _) w).1 = .ok (s.rootsAt w.host) := congrArg Prod.fst ht
  rw [plan, Run.bind_ok hroots, ht]
  have hrest (t₀ : List Trace) :
      ∃ t, (s.select (s.rootsAt w.host) >>= fun tests => s.order tests >>= fun tests =>
        pure ({ tests, roots := s.rootsAt w.host, oneOnly := s.oneOnly,
                explicit := s.names.named ≠ [] } : Plan) : Run σ ω RunError Plan)
          { w with trail := t₀ } = (s.planned w.host, { w with trail := t }) := by
    obtain ⟨t, hselect⟩ := s.select_apply { w with trail := t₀ }
    rw [Run.bind_apply, hselect, planned]
    dsimp only
    cases s.selectedAt w.host with
    | error e => exact ⟨t, rfl⟩
    | ok tests =>
      obtain ⟨t', horder⟩ := s.order_apply tests { w with trail := t }
      refine ⟨t', ?_⟩
      dsimp only [Except.mapError]
      rw [Run.bind_apply, horder]
      rfl
  dsimp only
  split_ifs
  · rw [Run.note_bind]
    exact hrest _
  · exact hrest _

end Suite

end Golden
