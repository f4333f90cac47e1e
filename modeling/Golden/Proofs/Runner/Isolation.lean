import Golden.Proofs.Files
import Golden.Proofs.Runner.Ends

/-! # Units do not disturb each other

A runner is isolating if the units that it may load cannot reach beyond their run: they are closed
and calm tests, no expected output is written, and the detector leaves the files alone
(`Runner.Isolating`). Then every run begins at rest, with no unit loaded, and ends at rest.

* `Runner.atRest_run`: nothing that a unit loads survives its run.
* `Runner.run_agree`: the outcome of a unit does not depend on what ran before. -/

namespace Golden

variable {σ ω τ : Type}

/-- No unit is loaded or being loaded, and no capture is active. -/
structure World.AtRest (w : World σ ω) : Prop where
  entries : w.modules.entries = []
  loading : w.modules.loading = []
  isOpen : w.Open

theorem World.AtRest.matched {w : World σ ω} {w' : World σ τ} (h : w.AtRest) (h' : w'.AtRest) :
    w.Matched w' :=
  ⟨⟨h.entries.trans h'.entries.symm, h.loading.trans h'.loading.symm⟩, h.isOpen, h'.isOpen⟩

/-- Telling the operator something does not disturb the rest. -/
theorem World.AtRest.told {w v : World σ ω} (hw : w.AtRest) (h : w.Told v) : v.AtRest :=
  ⟨h.modules ▸ hw.entries, h.modules ▸ hw.loading, h.isOpen hw.isOpen⟩

theorem World.atRest_start (host : σ) (sink : ω) : (World.start host sink).AtRest :=
  ⟨rfl, rfl, rfl⟩

/-- The world is at rest, and the files and the wish to stop are as in the world `w₀`. -/
structure World.Undisturbed (E : σ → σ → Prop) (w₀ w : World σ ω) : Prop where
  atRest : w.AtRest
  files : E w₀.host w.host
  interrupt : w.interrupt = w₀.interrupt

theorem World.Undisturbed.told {E : σ → σ → Prop} {w₀ w v : World σ ω} (hw : w₀.Undisturbed E w)
    (h : w.Told v) : w₀.Undisturbed E v :=
  ⟨hw.atRest.told h, h.host ▸ hw.files, h.interrupt.trans hw.interrupt⟩

/-- **An isolating runner** keeps its units from reaching beyond their run. The relation says which
states hold the same files. -/
structure Runner.Isolating [FileSystem σ] (r : Runner σ) (E : σ → σ → Prop) : Prop where
  compares : r.settings.generate = false
  closed : r.loader.Closed
  calm : r.loader.Calm
  tests : r.loader.TestsOnly
  files : FileSystem.Congruence E
  spares : ∀ d, r.detector = some d → d.Spares E

namespace Runner

variable {r : Runner σ} {u : UnitId} {w : World σ ω}

theorem ready_atRest (hw : w.AtRest) : (ready u w).AtRest ∧ (ready u w).host = w.host ∧
    (ready u w).interrupt = w.interrupt := by
  obtain ⟨t, ht⟩ := ready_eq u w
  rw [ht]
  refine ⟨⟨?_, hw.loading, hw.isOpen⟩, rfl, rfl⟩
  change List.filter _ w.modules.entries = []
  rw [hw.entries]
  rfl

/-! ### What a unit leaves alone -/

section Execution
variable [Sink ω] {x : Except Signal Unit × Option Bytes}

theorem execute_interrupt (hp : r.loader.Units Behaviour.Patient) :
    (r.execute u w).2.interrupt = w.interrupt := by
  let I (v : World σ ω) : Prop := v.interrupt = w.interrupt
  have hI : Run.Silent I := ⟨fun _ _ h => h, fun _ _ h => h, fun _ _ h => h⟩
  have hload : Run.Keeps I (r.surroundings.loadAndRun u) :=
    Surroundings.keeps_loadAndRun hI (fun _ _ h => h) (fun _ _ _ _ h => h)
      (fun _ hP => absurd True.intro hP) (fun _ _ h => h) hp u
  exact keeps_execute hI hload w rfl

/-- Begun at rest, a unit leaves no marks, and only tests are loaded. -/
theorem execute_tidy (ht : r.loader.TestsOnly) (hw : w.AtRest) :
    (r.execute u w).2.modules.loading = [] ∧
      ∀ v ∈ (r.execute u w).2.modules.entries, ModuleTable.looksLikeTest v.name = true := by
  have hunknown : w.modules.Unknown u.name := by
    rw [ModuleTable.Unknown, ModuleTable.names, hw.entries, hw.loading]
    simp
  have h := evolves_execute (r := r) hunknown
  refine ⟨h.loading.trans hw.loading, fun v hv => ?_⟩
  rcases (h.entries v).mp hv with hv | hv
  · rw [hw.entries] at hv
    cases hv
  · obtain ⟨-, host, t, hfound⟩ := hv.finds
    exact ht v host t hfound

theorem execute_ne_interrupt (hc : r.loader.Avoids .interrupt) (hw : w.Open)
    (hx : (r.execute u w).1 = .ok x) : x.1 ≠ .error .interrupt := by
  rw [(execute_spec hw hx).1]
  exact Surroundings.loadAndRun_ne_error (s := r.surroundings) hc (by simp) u _

end Execution

/-! ### Runs -/

variable [Sink ω] [Sink τ] [FileSystem σ] {E : σ → σ → Prop} {w' : World σ τ}

/-- **Nothing that a unit loads survives its run.** -/
theorem atRest_run (hi : r.Isolating E) (hw : w.AtRest) {o : Outcome}
    (h : (r.run u w).1 = .ok o) : (r.run u w).2.AtRest := by
  obtain ⟨⟨x, hx, -⟩, hopen, -, -, hmodules⟩ := run_spec hi.compares hw.isOpen h
  obtain ⟨hready, -, -⟩ := ready_atRest (u := u) hw
  obtain ⟨hloading, htests⟩ := execute_tidy (u := u) hi.tests hready
  have hnames : (ready u w).modules.names = [] := by rw [ModuleTable.names, hready.entries]; rfl
  refine ⟨?_, ?_, hopen⟩
  · rw [hmodules, hnames]
    refine List.filter_eq_nil_iff.mpr fun v hv => ?_
    simp [ModuleTable.isNewTest, htests v hv]
  · rw [hmodules]
    exact hloading

/-- The files are the same after the run of a unit as before, and so is the wish to stop. -/
theorem run_spares (hi : r.Isolating E) (hw : w.AtRest) {o : Outcome}
    (h : (r.run u w).1 = .ok o) :
    E w.host (r.run u w).2.host ∧ (r.run u w).2.interrupt = w.interrupt := by
  obtain ⟨⟨x, hx, -⟩, -, hhost, hinterrupt, -⟩ := run_spec hi.compares hw.isOpen h
  obtain ⟨hready, h1, h2⟩ := ready_atRest (u := u) hw
  rw [execute_host hi.closed, h1] at hhost
  rw [execute_interrupt hi.calm.patient, h2] at hinterrupt
  refine ⟨?_, hinterrupt⟩
  rw [hhost]
  exact searched_spared hi.files.equivalence.refl hi.spares _

/-- **A world at rest stays undisturbed** by the run of a unit. -/
theorem undisturbed_run (hi : r.Isolating E) {w₀ : World σ ω} (hw : w₀.Undisturbed E w)
    {o : Outcome} (h : (r.run u w).1 = .ok o) : w₀.Undisturbed E (r.run u w).2 := by
  obtain ⟨hfiles, hinterrupt⟩ := run_spares hi hw.atRest h
  exact ⟨atRest_run hi hw.atRest h, hi.files.equivalence.trans hw.files hfiles,
    hinterrupt.trans hw.interrupt⟩

/-- A calm unit does not interrupt the run. -/
theorem run_ne_interrupted_of_calm (hi : r.Isolating E) (hr : Sink.Reliable ω) (hw : w.AtRest) :
    (r.run u w).1 ≠ .error .interrupted := by
  obtain ⟨hready, -, -⟩ := ready_atRest (u := u) hw
  obtain ⟨x, hx⟩ := execute_sure (r := r) (u := u) hr hready.isOpen
  obtain ⟨-, -, hsure⟩ := classify_spec hi.compares hx
  refine run_ne_interrupted ?_
  rw [hsure hr]
  exact finding_ne_interrupted (execute_ne_interrupt hi.calm.avoids hready.isOpen hx)

/-- **The outcome of a unit does not depend on what ran before.** -/
theorem run_agree (hi : r.Isolating E) (hr : Sink.Reliable ω) (hr' : Sink.Reliable τ)
    (hw : w.AtRest) (hw' : w'.AtRest) (hfiles : E w.host w'.host) {o : Outcome}
    (h : (r.run u w).1 = .ok o) : (r.run u w').1 = .ok o := by
  obtain ⟨⟨x, hx, ho⟩, -⟩ := run_spec hi.compares hw.isOpen h
  obtain ⟨hready, h1, -⟩ := ready_atRest (u := u) hw
  obtain ⟨hready', h1', -⟩ := ready_atRest (u := u) hw'
  obtain ⟨x', hx'⟩ := execute_sure (r := r) (u := u) hr' hready'.isOpen
  obtain ⟨rfl, -⟩ := execute_agree rfl hi.closed (Or.inr ⟨hr, hr'⟩) (hready.matched hready') hx hx'
  refine run_of_finding hi.compares hr' hx' ?_
  rw [execute_host hi.closed, h1] at ho
  rw [execute_host hi.closed, h1', ← ho]
  exact finding_congr (hi.files.read hfiles _).symm x

end Runner

end Golden
