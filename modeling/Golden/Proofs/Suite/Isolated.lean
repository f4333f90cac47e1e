import Golden.Proofs.Runner.Isolation
import Golden.Proofs.Suite.Results

/-! # Suites of units that do not disturb each other

If the runner is isolating and the sink is reliable, what the loops of a run do is told by the world
they begin in: they go to their end if every unit that is there goes to its own end in that world
(`Suite.Goes`), and the records are the outcomes that the units have there (`Suite.yield`).

* `Suite.goes_of_runTests`, `Suite.runTests_of_goes`: the loop over tests. -/

namespace Golden.Suite

variable {σ ω : Type} [Sink ω] [FileSystem σ] {s : Suite σ} {E : σ → σ → Prop}
  {w₀ w : World σ ω}

/-- The unit has an outcome, if its source is there. -/
def Goes (s : Suite σ) (w : World σ ω) (u : UnitId) : Prop :=
  FileSystem.has w.host (s.source u) = true → ∃ o, (s.runner.run u w).1 = .ok o

/-- The units that are there, with the outcomes that they have in the given world. -/
def yield (s : Suite σ) (w : World σ ω) (us : List UnitId) : List (UnitId × Outcome) :=
  us.filterMap fun u =>
    if FileSystem.has w.host (s.source u) then (s.runner.run u w).1.toOption.map (u, ·) else none

section Yield
variable {u : UnitId} {us : List UnitId}

theorem yield_missing (h : FileSystem.has w.host (s.source u) = false) :
    s.yield w (u :: us) = s.yield w us := by
  simp [yield, h]

theorem yield_ran (h : FileSystem.has w.host (s.source u) = true) {o : Outcome}
    (ho : (s.runner.run u w).1 = .ok o) : s.yield w (u :: us) = (u, o) :: s.yield w us := by
  simp [yield, h, ho, Except.toOption]

theorem yield_append (us vs : List UnitId) : s.yield w (us ++ vs) = s.yield w us ++ s.yield w vs :=
  List.filterMap_append

theorem mem_of_mem_yield {e : UnitId × Outcome} (h : e ∈ s.yield w us) : e.1 ∈ us := by
  obtain ⟨u, hu, he⟩ := List.mem_filterMap.mp h
  split_ifs at he
  obtain ⟨o, -, rfl⟩ := Option.map_eq_some_iff.mp he
  exact hu

end Yield

/-! ### The loop over roots -/

section Roots
variable {name : String} {root : Path}

omit [FileSystem σ] in
theorem undisturbed_announced (hw : w₀.Undisturbed E w) : w₀.Undisturbed E (s.announced name w) :=
  hw.told ((s.shows_announce name).told w)

/-- A unit has the outcome in the loop that it has in the world at the beginning. -/
theorem run_announced (hi : s.runner.Isolating E) (hr : Sink.Reliable ω) (h₀ : w₀.AtRest)
    (hw : w₀.Undisturbed E w) {u : UnitId} {o : Outcome} :
    (s.runner.run u (s.announced name w)).1 = .ok o ↔ (s.runner.run u w₀).1 = .ok o := by
  have ha : w₀.Undisturbed E (s.announced name w) := undisturbed_announced hw
  exact ⟨Runner.run_agree hi hr hr ha.atRest h₀ (hi.files.equivalence.symm ha.files),
    Runner.run_agree hi hr hr h₀ ha.atRest ha.files⟩

theorem goes_of_runIn (hi : s.runner.Isolating E) (hr : Sink.Reliable ω) (h₀ : w₀.AtRest)
    (hgo : w₀.interrupt = false) :
    ∀ {roots : List Path} {records : List (UnitId × Outcome)} {found : Bool} {w : World σ ω}
      {r : List (UnitId × Outcome) × Visit}, w₀.Undisturbed E w →
      (s.runIn name roots records found w).1 = .ok r → ∀ root ∈ roots, s.Goes w₀ ⟨name, root⟩
  | [], _, _, _, _, _, _ => fun _ h => absurd h List.not_mem_nil
  | root :: roots, records, found, w, r, hw, h => by
    have hstop := hw.interrupt.trans hgo
    have hsource := hi.files.has hw.files (s.source ⟨name, root⟩)
    cases hs : FileSystem.has w.host (s.source ⟨name, root⟩) with
    | false =>
      rw [s.runIn_missing hstop hs] at h
      refine List.forall_mem_cons.mpr ⟨fun hs₀ => ?_, goes_of_runIn hi hr h₀ hgo hw h⟩
      rw [hsource, hs] at hs₀
      cases hs₀
    | true =>
      obtain ⟨ha, ⟨o, ho⟩ | ⟨hint, -⟩⟩ := s.runIn_present_ok hstop hs h
      · rw [s.runIn_ran hstop hs ha ho] at h
        have hnext := Runner.undisturbed_run hi (undisturbed_announced hw) ho
        exact List.forall_mem_cons.mpr
          ⟨fun _ => ⟨o, (run_announced hi hr h₀ hw).mp ho⟩, goes_of_runIn hi hr h₀ hgo hnext h⟩
      · exact absurd hint
          (Runner.run_ne_interrupted_of_calm hi hr (undisturbed_announced hw).atRest)

/-- **The loop over roots** of an isolating runner. -/
theorem runIn_of_goes (hi : s.runner.Isolating E) (hr : Sink.Reliable ω) (h₀ : w₀.AtRest)
    (hgo : w₀.interrupt = false) :
    ∀ {roots : List Path} (records : List (UnitId × Outcome)) (found : Bool) {w : World σ ω},
      w₀.Undisturbed E w → (∀ root ∈ roots, s.Goes w₀ ⟨name, root⟩) →
      (∃ found', (s.runIn name roots records found w).1 =
        .ok (records ++ s.yield w₀ (roots.map (⟨name, ·⟩)), ⟨found', false⟩)) ∧
      w₀.Undisturbed E (s.runIn name roots records found w).2
  | [], records, found, w, hw, _ => ⟨⟨found, by simp [yield]; rfl⟩, hw⟩
  | root :: roots, records, found, w, hw, hg => by
    have hstop := hw.interrupt.trans hgo
    have hsource := hi.files.has hw.files (s.source ⟨name, root⟩)
    obtain ⟨hroot, hroots⟩ := List.forall_mem_cons.mp hg
    cases hs : FileSystem.has w.host (s.source ⟨name, root⟩) with
    | false =>
      rw [s.runIn_missing hstop hs, List.map_cons, yield_missing (hsource.trans hs)]
      exact runIn_of_goes hi hr h₀ hgo records found hw hroots
    | true =>
      obtain ⟨o, ho₀⟩ := hroot (hsource.trans hs)
      have ha : (s.announce name w).1 = .ok () := (s.shows_announce name).sure hr w
      have ho : (s.runner.run ⟨name, root⟩ (s.announced name w)).1 = .ok o :=
        (run_announced hi hr h₀ hw).mpr ho₀
      have hnext := Runner.undisturbed_run hi (undisturbed_announced hw) ho
      have ih := runIn_of_goes hi hr h₀ hgo (records ++ [(⟨name, root⟩, o)]) true hnext hroots
      rw [s.runIn_ran hstop hs ha ho, List.map_cons, yield_ran (hsource.trans hs) ho₀]
      rwa [List.append_assoc, List.singleton_append] at ih

end Roots

/-! ### The loop over tests -/

variable {p : Plan}

theorem goes_of_runTests (hi : s.runner.Isolating E) (hr : Sink.Reliable ω) (h₀ : w₀.AtRest)
    (hgo : w₀.interrupt = false) :
    ∀ {names : List String} {index : Nat} {records : List (UnitId × Outcome)} {w : World σ ω}
      {tally : Tally}, w₀.Undisturbed E w → (s.runTests p index names records w).1 = .ok tally →
      ∀ u ∈ sought p names, s.Goes w₀ u
  | [], _, _, _, _, _, _ => fun _ h => absurd h List.not_mem_nil
  | name :: names, index, records, w, tally, hw, h => by
    rw [runTests_cons] at h
    obtain ⟨_, -, h⟩ := Run.bind_eq_ok.mp h
    obtain ⟨r, hrun, h⟩ := Run.bind_eq_ok.mp h
    have hadvance := hw.told ((shows_advance (.running index)).told w)
    have hroots := goes_of_runIn hi hr h₀ hgo hadvance hrun
    obtain ⟨⟨found, hrun'⟩, hin⟩ :=
      runIn_of_goes hi hr h₀ hgo records false hadvance hroots
    obtain rfl := Except.ok.inj (hrun.symm.trans hrun')
    rw [if_neg (by simp)] at h
    obtain ⟨_, -, h⟩ := Run.bind_eq_ok.mp h
    have hnext := hin.told ((shows_remark p name found).told _)
    rw [sought, List.flatMap_cons, List.forall_mem_append, List.forall_mem_map]
    exact ⟨hroots, goes_of_runTests hi hr h₀ hgo hnext h⟩

/-- **The loop over tests** of an isolating runner. -/
theorem runTests_of_goes (hi : s.runner.Isolating E) (hr : Sink.Reliable ω) (h₀ : w₀.AtRest)
    (hgo : w₀.interrupt = false) :
    ∀ {names : List String} (index : Nat) (records : List (UnitId × Outcome)) {w : World σ ω},
      w₀.Undisturbed E w → (∀ u ∈ sought p names, s.Goes w₀ u) →
      (s.runTests p index names records w).1 =
        .ok ⟨records ++ s.yield w₀ (sought p names), false⟩ ∧
      w₀.Undisturbed E (s.runTests p index names records w).2
  | [], _, records, w, hw, _ => ⟨by simp [sought, yield]; rfl, hw⟩
  | name :: names, index, records, w, hw, hg => by
    rw [sought, List.flatMap_cons, List.forall_mem_append, List.forall_mem_map] at hg
    obtain ⟨hroots, hnames⟩ := hg
    have hadvance := hw.told ((shows_advance (.running index)).told w)
    obtain ⟨⟨found, hrun⟩, hin⟩ :=
      runIn_of_goes hi hr h₀ hgo records false hadvance hroots
    have hnext := hin.told ((shows_remark p name found).told _)
    have ih := runTests_of_goes hi hr h₀ hgo (index + 1)
      (records ++ s.yield w₀ ((candidates p name).map (⟨name, ·⟩))) hnext hnames
    rw [runTests_cons, Run.bind_ok ((shows_advance _).sure hr w), Run.bind_ok hrun,
      if_neg (by simp), Run.bind_ok ((shows_remark p name found).sure hr _)]
    rw [List.append_assoc] at ih
    rwa [sought, List.flatMap_cons, yield_append]

end Golden.Suite
