import Golden.Proofs.Runner.Steps

/-! # Outcomes of units

What the outcome of a unit depends on. In worlds where the same units are loaded
(`World.Matched`), a closed unit ends in the same way and with the same output
(`Runner.execute_agree`). What becomes of that depends on the expected output only
(`Runner.finding`).

* `Runner.classify_spec`: the outcome of a unit, put together from how it ended and what was
  expected.
* `Runner.run_spec`: a run that returns an outcome, and the world that it leaves. -/

namespace Golden

variable {σ ρ ω τ : Type}

/-- Open worlds in which the same units are loaded and being loaded. -/
structure World.Matched (w : World σ ω) (w' : World ρ τ) : Prop where
  modules : w.modules.Alike w'.modules
  left : w.Open
  right : w'.Open

namespace Runner

variable [Sink ω] [Sink τ] {r r' : Runner σ} {u : UnitId} {w : World σ ω} {w' : World σ τ}

/-! ### Execution -/

/-- The world in which a unit is loaded. -/
def started (r : Runner σ) (u : UnitId) (w : World σ ω) : World σ ω :=
  if r.settings.verbose = 0 then begun u w else w

/-- The load of a unit by a runner. -/
def loaded (r : Runner σ) (u : UnitId) (w : World σ ω) : Except Signal Unit × World σ ω :=
  r.surroundings.loadAndRun u (r.started u w)

/-- **How a unit ended, and its output**, if it could be run at all. -/
theorem execute_spec (hw : w.Open) {x : Except Signal Unit × Option Bytes}
    (h : (r.execute u w).1 = .ok x) :
    x = ((r.loaded u w).1, if r.settings.verbose = 0 then
      some ((r.loaded u w).2.stream.captured.getD []) else none) ∧
    (r.execute u w).2 = { (r.loaded u w).2 with
      stream := .ofSink (r.loaded u w).2.stream.sink } := by
  unfold loaded started
  by_cases hv : r.settings.verbose = 0
  · rw [if_pos hv, if_pos hv]
    cases hf : (Sink.flush w.stream.sink).1 with
    | error reason =>
      rw [execute_refused r u hv hw hf] at h
      cases h
    | ok _ =>
      rw [execute_captured r u hv hw hf] at h ⊢
      exact ⟨(Except.ok.inj h).symm, rfl⟩
  · rw [if_neg hv, if_neg hv]
    rw [execute_free r u hv] at h ⊢
    refine ⟨(Except.ok.inj h).symm, ?_⟩
    have hopen : (r.surroundings.loadAndRun u w).2.Open :=
      (Surroundings.isCapturing_loadAndRun u w).trans hw
    rw [← hopen.stream_eq]

theorem open_execute (hw : w.Open) {x : Except Signal Unit × Option Bytes}
    (h : (r.execute u w).1 = .ok x) : (r.execute u w).2.Open := by
  rw [(execute_spec hw h).2]
  rfl

theorem execute_sure (hr : Sink.Reliable ω) (hw : w.Open) : ∃ x, (r.execute u w).1 = .ok x := by
  by_cases hv : r.settings.verbose = 0
  · rw [execute_captured r u hv hw (hr.flush _)]
    exact ⟨_, rfl⟩
  · rw [execute_free r u hv]
    exact ⟨_, rfl⟩

/-- **An invariant that is kept by the load of a unit** is kept by its execution. -/
theorem keeps_execute {I : World σ ω → Prop} (hI : Run.Silent I)
    (hload : Run.Keeps I (r.surroundings.loadAndRun u)) :
    Run.Keeps I (r.execute u : Run σ ω RunError _) := by
  have hrun : Run.Keeps I (r.loadAndRun u : Run σ ω Signal Unit) := by
    unfold loadAndRun
    split_ifs
    · exact Run.Keeps.bind (fun w hw => hI.stream w _ hw) fun _ => hload
    · exact hload
  unfold execute
  split_ifs
  · refine Run.Keeps.bind (Behaviour.keeps_beginCapture hI) fun _ => ?_
    refine Run.Keeps.bind (fun w hw => hrun w hw) fun _ => ?_
    exact Run.Keeps.bind (fun w hw => hI.stream w _ hw) fun _ => Run.keeps_pure _
  · exact Run.Keeps.bind (fun w hw => hrun w hw) fun _ => Run.keeps_pure _

/-- A closed unit leaves alone what lies around the run. -/
theorem execute_host (hl : r.loader.Closed) : (r.execute u w).2.host = w.host := by
  let I (v : World σ ω) : Prop := v.host = w.host
  have hI : Run.Silent I := ⟨fun _ _ h => h, fun _ _ h => h, fun _ _ h => h⟩
  have hload : Run.Keeps I (r.surroundings.loadAndRun u) := by
    refine Surroundings.keeps_loadAndRun hI (fun _ _ h => h) (fun _ _ hP => absurd True.intro hP)
      (fun _ _ _ h => h) (fun v w hw => ?_) hl.units u
    exact (hl.keeps _ _).trans hw
  exact keeps_execute hI hload w rfl

/-- **A closed unit ends in the same way** in worlds where the same units are loaded, and with the
same output. The sinks do not matter if the output is captured. -/
theorem execute_agree (hs : r.surroundings = r'.surroundings) (hl : r.loader.Closed)
    (hfirm : r.settings.verbose = 0 ∨ Sink.Reliable ω ∧ Sink.Reliable τ) (hw : w.Matched w')
    {x x' : Except Signal Unit × Option Bytes} (hx : (r.execute u w).1 = .ok x)
    (hx' : (r'.execute u w').1 = .ok x') :
    x = x' ∧ (r.execute u w).2.Matched (r'.execute u w').2 := by
  have hverbose : r.settings.verbose = r'.settings.verbose := congrArg Surroundings.verbose hs
  have halike : (r.started u w).Alike (r'.started u w') := by
    unfold started
    rw [← hverbose]
    split_ifs with hv
    · exact ⟨hw.modules, rfl, Or.inl rfl⟩
    · have hcaptured : w.stream.captured = w'.stream.captured := by
        rw [hw.left.stream_eq, hw.right.stream_eq]
        rfl
      exact ⟨hw.modules, hcaptured, Or.inr (hfirm.resolve_left hv)⟩
  obtain ⟨h1, h2⟩ := Surroundings.agree_loadAndRun (s := r.surroundings) hl u _ _ halike
  obtain ⟨hx1, hx2⟩ := execute_spec hw.left hx
  obtain ⟨hx1', hx2'⟩ := execute_spec hw.right hx'
  unfold loaded at hx1 hx2 hx1' hx2'
  rw [← hs, ← hverbose] at hx1'
  rw [← hs] at hx2'
  rw [hx1, hx2, hx1', hx2', h1, h2.stream.captured]
  exact ⟨rfl, h2.modules, rfl, rfl⟩

/-! ### Comparison -/

/-- What comes of a comparison. -/
def verdict (output golden : Bytes) : Outcome :=
  if output = golden then .passed else .failed "produced unexpected output"

/-- The comparison with the output that is expected. -/
def judge (r : Runner σ) (u : UnitId) (output golden : Bytes) : Run σ ω RunError Outcome := do
  if output = golden then
    return .passed
  let painter := r.settings.painter
  say (painter.paint .failure ("test " ++ u.name ++ " produced unexpected output:"))
  flush
  sayText (Diff.report painter (Utf8.decodeLossy golden) (Utf8.decodeLossy output))
  flush
  return .failed "produced unexpected output"

theorem shows_judge (r : Runner σ) (u : UnitId) (output golden : Bytes) :
    Shows (r.judge u output golden : Run σ ω RunError Outcome) (.ok (verdict output golden)) := by
  unfold judge verdict
  split_ifs
  · exact .pure _
  · refine (shows_say _).bind (shows_flush.bind ?_)
    exact (shows_sayText _).bind (shows_flush.bind (.pure _))

variable [FileSystem σ]

theorem compare_apply (output : Bytes) : r.compare u output w =
    match expected w.host u with
    | .error e => (.error (.fileSystem e), w)
    | .ok golden => r.judge u output golden w := by
  rw [compare, Run.host_bind, Run.bind_apply, Run.mapError_apply, Run.ofResult_apply]
  cases expected w.host u <;> rfl

/-- **What a run of a unit finds**, in view of how the unit ended and of what is expected. -/
def finding (u : UnitId) (host : σ) : Except Signal Unit × Option Bytes → Except RunError Outcome
  | (.error signal, _) => signal.outcome
  | (.ok (), none) => .ok .passed
  | (.ok (), some output) =>
    match expected host u with
    | .error e => .error (.fileSystem e)
    | .ok golden => .ok (verdict output golden)

/-- What is found depends on one file. -/
theorem finding_congr {host host' : σ}
    (h : FileSystem.read host u.goldenPath = FileSystem.read host' u.goldenPath)
    (x : Except Signal Unit × Option Bytes) : finding u host x = finding u host' x := by
  unfold finding expected
  rw [h]

/-- **The outcome of a unit** is what its run finds, unless the sink refuses. -/
theorem classify_spec (hgen : r.settings.generate = false)
    {x : Except Signal Unit × Option Bytes} (hx : (r.execute u w).1 = .ok x) :
    (r.execute u w).2.Told (r.classify u w).2 ∧
      ((r.classify u w).1 = finding u (r.execute u w).2.host x ∨
        ∃ reason, (r.classify u w).1 = .error (.io reason)) ∧
      (Sink.Reliable ω → (r.classify u w).1 = finding u (r.execute u w).2.host x) := by
  rw [classify_apply, hx]
  rcases x with ⟨signal | _, output⟩
  · exact (shows_report r u signal).spec _
  · cases output with
    | none => exact (Shows.pure _).spec _
    | some output =>
      have hsettle :
          (r.settle u (some output) : Run σ ω RunError Outcome) = r.compare u output := by
        rw [settle, hgen]
        rfl
      dsimp only
      rw [hsettle, compare_apply]
      unfold finding
      cases expected (r.execute u w).2.host u with
      | error e => exact ⟨.refl _, Or.inl rfl, fun _ => rfl⟩
      | ok golden => exact (shows_judge r u output golden).spec _

theorem finding_ne_interrupted {host : σ} {x : Except Signal Unit × Option Bytes}
    (h : x.1 ≠ .error .interrupt) : finding u host x ≠ .error .interrupted := by
  rcases x with ⟨signal | _, _ | output⟩
  · cases signal <;> simp_all [finding, Signal.outcome]
  · cases signal <;> simp_all [finding, Signal.outcome]
  · simp [finding]
  · unfold finding
    cases expected host u <;> simp

/-! ### Whole runs -/

/-- A run finds an outcome only for a unit that could be run. -/
theorem execute_of_classify {o : Outcome} (h : (r.classify u w).1 = .ok o) :
    ∃ x, (r.execute u w).1 = .ok x := by
  rw [classify_apply] at h
  cases hx : (r.execute u w).1 with
  | error e =>
    rw [hx] at h
    cases h
  | ok x => exact ⟨x, rfl⟩

omit [Sink ω] [FileSystem σ] in
theorem open_ready (hw : w.Open) : (ready u w).Open := by
  obtain ⟨t, ht⟩ := ready_eq u w
  rw [ht]
  exact hw

/-- What a run changes: the detector changes what lies around it, and the load of the unit the rest,
except that new tests are unloaded. -/
def After (r : Runner σ) (u : UnitId) (w v : World σ ω) : Prop :=
  v.Open ∧ v.host = r.searched (r.execute u (ready u w)).2.host ∧
    v.interrupt = (r.execute u (ready u w)).2.interrupt ∧
    v.modules = ((r.execute u (ready u w)).2.modules.unloadNew (ready u w).modules.names).2

/-- **A run that returns an outcome**: what it finds, and the world that it leaves. -/
theorem run_spec (hgen : r.settings.generate = false) (hw : w.Open) {o : Outcome}
    (h : (r.run u w).1 = .ok o) :
    (∃ x, (r.execute u (ready u w)).1 = .ok x ∧
      finding u (r.execute u (ready u w)).2.host x = .ok o) ∧
    r.After u w (r.run u w).2 := by
  obtain ⟨hclass, hscan⟩ := run_eq_ok.mp h
  obtain ⟨x, hx⟩ := execute_of_classify hclass
  obtain ⟨htold, hresult, -⟩ := classify_spec hgen hx
  refine ⟨⟨x, hx, ?_⟩, ?_⟩
  · rcases hresult with hf | ⟨reason, he⟩
    · exact hf.symm.trans hclass
    · rw [hclass] at he
      cases he
  · obtain ⟨t, ht⟩ := run_snd h
    obtain ⟨htold', -⟩ := r.scan_spec (r.classify u (ready u w)).2
    have hopen := htold.isOpen (open_execute (open_ready hw) hx)
    rw [ht]
    refine ⟨htold'.isOpen hopen, ?_, ?_, ?_⟩
    · exact htold'.host.trans (congrArg r.searched htold.host)
    · exact htold'.interrupt.trans htold.interrupt
    · exact congrArg (fun m => (ModuleTable.unloadNew m _).2) (htold'.modules.trans htold.modules)

/-- With a reliable sink, a run returns the outcome that it finds. -/
theorem run_of_finding (hgen : r.settings.generate = false) (hr : Sink.Reliable ω)
    {x : Except Signal Unit × Option Bytes} (hx : (r.execute u (ready u w)).1 = .ok x)
    {o : Outcome} (ho : finding u (r.execute u (ready u w)).2.host x = .ok o) :
    (r.run u w).1 = .ok o := by
  obtain ⟨-, -, hsure⟩ := classify_spec hgen hx
  exact run_eq_ok.mpr ⟨(hsure hr).trans ho, (r.scan_spec _).2.2 hr⟩

end Runner

end Golden
