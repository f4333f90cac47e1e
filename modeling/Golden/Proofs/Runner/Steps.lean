import Golden.Proofs.Files
import Golden.Proofs.Runner.Shows

/-! # The run of a unit, step by step

A run of a unit forgets what was loaded under its name, captures its output, finds its outcome,
looks for leftovers and unloads what is new.

* `Runner.execute_captured`, `Runner.execute_free`: the unit is loaded in one of two worlds.
* `Runner.scan_spec`: a search for leftovers changes only what the detector changes.
* `Runner.run_eq_ok`, `Runner.run_snd`: a run that goes well, put together from its parts. -/

namespace Golden

variable {σ ω ε : Type}

/-! ### Forgetting -/

theorem ModuleTable.erase_of_not_contains {t : ModuleTable} {name : String}
    (h : t.contains name = false) : t.erase name = t := by
  have : ∀ u ∈ t.entries, u.name ≠ name := by
    intro u hu hn
    have hmem : name ∈ t.names := List.mem_map.mpr ⟨u, hu, hn⟩
    rw [ModuleTable.contains, List.contains_eq_mem] at h
    exact absurd hmem (by simpa using h)
  have hfilter : t.entries.filter (fun u => decide (u.name ≠ name)) = t.entries :=
    List.filter_eq_self.mpr fun u hu => by simpa using this u hu
  rw [ModuleTable.erase, hfilter]

/-- Whether a unit was loaded or not, it is not loaded when it has been forgotten. -/
theorem Run.forget_apply (name : String) (w : World σ ω) :
    ∃ t, (Run.forget name : Run σ ω ε Unit) w =
      (.ok (), { w with modules := w.modules.erase name, trail := t }) := by
  unfold Run.forget
  rw [Run.modules_bind]
  cases h : w.modules.contains name with
  | true => exact ⟨_, rfl⟩
  | false =>
    rw [ModuleTable.erase_of_not_contains h]
    exact ⟨w.trail, rfl⟩

namespace Runner

variable [Sink ω] (r : Runner σ) (u : UnitId) {w : World σ ω}

/-! ### Execution -/

/-- The world in which a unit is loaded when its output is captured. -/
def begun (u : UnitId) (w : World σ ω) : World σ ω :=
  { w with
    stream := ⟨(Sink.flush w.stream.sink).2, some (utf8 u.baseline)⟩
    trail := w.trail ++ [.event .captureStarted] }

/-- A capture begins if the sink can be flushed. -/
theorem beginCapture_of_open (hw : w.Open) :
    Run.beginCapture w = match (Sink.flush w.stream.sink).1 with
      | .ok () => (.ok (), { w with
          stream := ⟨(Sink.flush w.stream.sink).2, some []⟩
          trail := w.trail ++ [.event .captureStarted] })
      | .error reason =>
        (.error (.flush reason), { w with stream := .ofSink (Sink.flush w.stream.sink).2 }) := by
  unfold Run.beginCapture
  rw [Run.bind_apply, Stream.begin_free hw.captured]
  rcases Sink.flush w.stream.sink with ⟨_ | _, _⟩ <;> rfl

/-- A run that is not verbose does not begin if the sink cannot be flushed. -/
theorem execute_refused (hv : r.settings.verbose = 0) (hw : w.Open) {reason : String}
    (hf : (Sink.flush w.stream.sink).1 = .error reason) :
    (r.execute u w).1 = .error (.capture (.flush reason)) := by
  rw [execute, if_pos hv, Run.bind_apply, Run.mapError_apply, beginCapture_of_open hw, hf]
  rfl

/-- **Output is captured** if the run is not verbose. It begins with the name of the unit. -/
theorem execute_captured (hv : r.settings.verbose = 0) (hw : w.Open)
    (hf : (Sink.flush w.stream.sink).1 = .ok ()) :
    r.execute u w = (.ok ((r.surroundings.loadAndRun u (begun u w)).1,
        some ((r.surroundings.loadAndRun u (begun u w)).2.stream.captured.getD [])),
      { (r.surroundings.loadAndRun u (begun u w)).2 with
        stream := (r.surroundings.loadAndRun u (begun u w)).2.stream.finish.2 }) := by
  have hload : ∀ v : World σ ω, v.stream.captured = some [] → r.loadAndRun u v =
      r.surroundings.loadAndRun u
        { v with stream := ⟨v.stream.sink, some (utf8 u.baseline)⟩ } := by
    intro v hv'
    have hwrite : v.stream.write (utf8 u.baseline) =
        (.ok (), ⟨v.stream.sink, some (utf8 u.baseline)⟩) := by
      unfold Stream.write
      rw [hv']
      rfl
    rw [loadAndRun, if_pos hv, Run.bind_apply, Run.mapError_apply, Run.write_apply, hwrite]
    rfl
  rw [execute, if_pos hv, Run.bind_apply, Run.mapError_apply, beginCapture_of_open hw, hf]
  change (Run.observe (r.loadAndRun u) >>= _) _ = _
  rw [Run.observe_bind, hload _ rfl]
  rfl

/-- The output of a verbose run is not captured. -/
theorem execute_free (hv : r.settings.verbose ≠ 0) : r.execute u w =
    (.ok ((r.surroundings.loadAndRun u w).1, none), (r.surroundings.loadAndRun u w).2) := by
  have hload : r.loadAndRun u w = r.surroundings.loadAndRun u w := by
    rw [loadAndRun, if_neg hv]
  rw [execute, if_neg hv, Run.observe_bind, hload]
  rfl

/-! ### Outcomes -/

variable [FileSystem σ]

theorem classify_apply : r.classify u w = match (r.execute u w).1 with
    | .ok (.ok (), output) => r.settle u output (r.execute u w).2
    | .ok (.error signal, _) => r.report u signal (r.execute u w).2
    | .error e => (.error e, (r.execute u w).2) := by
  rw [classify, Run.bind_apply]
  rcases (r.execute u w).1 with e | ⟨e | _, output⟩ <;> rfl

/-! ### Leftovers -/

/-- What lies around the run after a search for leftovers. -/
def searched (host : σ) : σ :=
  match r.detector with
  | none => host
  | some d => (d.detect host).2

omit [Sink ω] [FileSystem σ] in
/-- The search leads to a state that is equivalent in every way which the detector spares. -/
theorem searched_spared {r : Runner σ} {E : σ → σ → Prop} (hE : ∀ s, E s s)
    (h : ∀ d, r.detector = some d → d.Spares E) (host : σ) : E host (r.searched host) := by
  unfold searched
  cases hd : r.detector with
  | none => exact hE host
  | some d => exact h d hd host

omit [FileSystem σ] in
/-- **A search for leftovers** tells the operator something, and otherwise changes what the detector
changes. -/
theorem scan_spec (w : World σ ω) :
    World.Told { w with host := r.searched w.host } (r.scan w).2 ∧
      ((r.scan w).1 = .ok () ∨ ∃ reason, (r.scan w).1 = .error (.io reason)) ∧
      (Sink.Reliable ω → (r.scan w).1 = .ok ()) := by
  unfold scan searched
  cases hd : r.detector with
  | none => exact ⟨.refl w, Or.inl rfl, fun _ => rfl⟩
  | some d =>
    simp only [Run.update_bind]
    refine Shows.spec ?_ _
    split_ifs
    · exact (shows_notes _ _).bind ((shows_say _).bind (shows_leftovers _))
    · exact (shows_notes _ _).bind (Shows.pure _)
    · exact (shows_say _).bind (shows_leftovers _)
    · exact Shows.pure _

/-! ### Whole runs -/

omit [Sink ω] [FileSystem σ] in
/-- What was loaded under the name of a unit is forgotten before its run. -/
def ready (u : UnitId) (w : World σ ω) : World σ ω :=
  ((Run.forget u.name : Run σ ω RunError Unit) w).2

omit [Sink ω] [FileSystem σ] in
theorem ready_eq (w : World σ ω) :
    ∃ t, ready u w = { w with modules := w.modules.erase u.name, trail := t } := by
  obtain ⟨t, ht⟩ := Run.forget_apply (ε := RunError) u.name w
  exact ⟨t, congrArg Prod.snd ht⟩

omit [Sink ω] [FileSystem σ] in
theorem modules_ready (w : World σ ω) : (ready u w).modules = w.modules.erase u.name := by
  obtain ⟨t, ht⟩ := ready_eq u w
  rw [ht]

omit [Sink ω] [FileSystem σ] in
theorem stream_ready (w : World σ ω) : (ready u w).stream = w.stream := by
  obtain ⟨t, ht⟩ := ready_eq u w
  rw [ht]

omit [Sink ω] [FileSystem σ] in
theorem host_ready (w : World σ ω) : (ready u w).host = w.host := by
  obtain ⟨t, ht⟩ := ready_eq u w
  rw [ht]

omit [Sink ω] [FileSystem σ] in
/-- The end of a run: tests that are new are unloaded, and the outcome is noted. -/
def conclude (u : UnitId) (before : List String) (outcome : Except RunError Outcome) :
    Run σ ω RunError Outcome := do
  let unloaded ← Run.update fun w =>
    let (names, modules) := w.modules.unloadNew before
    (names, { w with modules })
  if unloaded ≠ [] then
    Run.note (.unloaded unloaded)
  if let .ok o := outcome then
    Run.note (.finished u.name o)
  Run.ofResult outcome

omit [Sink ω] [FileSystem σ] in
theorem conclude_apply (before : List String) (outcome : Except RunError Outcome)
    (w : World σ ω) : ∃ t, conclude u before outcome w =
      (outcome, { w with modules := (w.modules.unloadNew before).2, trail := t }) := by
  unfold conclude
  rw [Run.update_bind]
  split_ifs <;> cases outcome <;> exact ⟨_, rfl⟩

section Whole
variable {r u} {w : World σ ω}

theorem run_apply : r.run u w =
    match (r.classify u (ready u w)).1 with
    | .error .interrupted =>
      conclude u (ready u w).modules.names (.error .interrupted) (r.classify u (ready u w)).2
    | outcome =>
      (r.scan >>= fun _ => conclude u (ready u w).modules.names outcome)
        (r.classify u (ready u w)).2 := by
  have hforget : ((Run.forget u.name : Run σ ω RunError Unit) w).1 = .ok () := by
    obtain ⟨t, ht⟩ := Run.forget_apply (ε := RunError) u.name w
    exact congrArg Prod.fst ht
  have hrun : r.run u w = (Run.update (fun w => (w.modules.names, w)) >>= _) (ready u w) :=
    Run.bind_ok hforget _
  rw [hrun, Run.update_bind, Run.observe_bind]
  rcases (r.classify u (ready u w)).1 with (_ | _ | _ | _ | _) | o <;> rfl

/-- Only an interruption keeps a run from looking for leftovers. -/
theorem run_of_ne (h : (r.classify u (ready u w)).1 ≠ .error .interrupted) :
    r.run u w = (r.scan >>= fun _ => conclude u (ready u w).modules.names
      (r.classify u (ready u w)).1) (r.classify u (ready u w)).2 := by
  rw [run_apply]
  split
  · exact absurd ‹_› h
  · rfl

/-- **A run of a unit returns an outcome** if one is found, and the search for leftovers goes
well. -/
theorem run_eq_ok {o : Outcome} : (r.run u w).1 = .ok o ↔
    (r.classify u (ready u w)).1 = .ok o ∧
      (r.scan (r.classify u (ready u w)).2).1 = .ok () := by
  by_cases h : (r.classify u (ready u w)).1 = .error .interrupted
  · obtain ⟨t, ht⟩ := conclude_apply u (ready u w).modules.names (.error .interrupted)
      (r.classify u (ready u w)).2
    rw [run_apply, h]
    dsimp only
    rw [ht]
    simp
  · rw [run_of_ne h, Run.bind_eq_ok]
    constructor
    · rintro ⟨_, hscan, ho⟩
      obtain ⟨t, ht⟩ := conclude_apply u (ready u w).modules.names (r.classify u (ready u w)).1
        (r.scan (r.classify u (ready u w)).2).2
      rw [ht] at ho
      exact ⟨ho, hscan⟩
    · rintro ⟨ho, hscan⟩
      obtain ⟨t, ht⟩ := conclude_apply u (ready u w).modules.names (r.classify u (ready u w)).1
        (r.scan (r.classify u (ready u w)).2).2
      exact ⟨(), hscan, by rw [ht]; exact ho⟩

/-- The world after a run that returns an outcome. -/
theorem run_snd {o : Outcome} (h : (r.run u w).1 = .ok o) :
    ∃ t, (r.run u w).2 = { (r.scan (r.classify u (ready u w)).2).2 with
      modules := ((r.scan (r.classify u (ready u w)).2).2.modules.unloadNew
        (ready u w).modules.names).2
      trail := t } := by
  obtain ⟨ho, hscan⟩ := run_eq_ok.mp h
  obtain ⟨t, ht⟩ := conclude_apply u (ready u w).modules.names (r.classify u (ready u w)).1
    (r.scan (r.classify u (ready u w)).2).2
  have hne : (r.classify u (ready u w)).1 ≠ .error .interrupted := by simp [ho]
  rw [run_of_ne hne, Run.bind_ok hscan, ht]
  exact ⟨t, rfl⟩

/-- A run is interrupted only if its unit is. -/
theorem run_ne_interrupted (h : (r.classify u (ready u w)).1 ≠ .error .interrupted) :
    (r.run u w).1 ≠ .error .interrupted := by
  rw [run_of_ne h]
  refine Run.bind_ne_error ?_ fun _ _ => ?_
  · rcases (r.scan_spec (r.classify u (ready u w)).2).2.1 with hs | ⟨reason, hs⟩ <;> simp [hs]
  · obtain ⟨t, ht⟩ := conclude_apply u (ready u w).modules.names (r.classify u (ready u w)).1
      (r.scan (r.classify u (ready u w)).2).2
    rw [ht]
    exact h

end Whole

end Runner

end Golden
