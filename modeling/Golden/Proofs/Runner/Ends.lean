import Golden.Proofs.Runner.Outcomes
import Golden.Proofs.Unit.Requests

/-! # Every end of a run

The run of a unit returns an outcome, or is interrupted, or fails: because the output cannot be
captured, because a file or the sink refuses. Here is what holds at every end.

* `Runner.execute_cases`: a unit is loaded in one of two worlds (`Runner.Enters`), or its output
  cannot be captured, and then it is not loaded.
* `Runner.evolves_execute`: the units whose loads are completed are added to the table
  (`Runner.Loads`).
* `Runner.Tolerant.classify`: what the search for an outcome leaves as it is.
* `Runner.settled_classify`: the outcome of a unit is found without a change to the table of units.
* `Runner.run_of_scanned`, `Runner.run_of_not_scanned`: the world after a run, in view of the search
  for leftovers.
* `Runner.isCapturing_run`: a capture is active after a run exactly if one was before. -/

namespace Golden

variable {σ ω : Type}

/-! ### Worlds -/

/-- **Worlds that differ in the files, and in what is for the operator**, at most. -/
def World.Settled (w v : World σ ω) : Prop := ∃ host, World.Told { w with host } v

namespace World.Settled

variable {w v : World σ ω}

theorem refl (w : World σ ω) : w.Settled w := ⟨w.host, .refl w⟩

theorem told {x : World σ ω} (h : w.Settled v) (h' : v.Told x) : w.Settled x := by
  obtain ⟨host, h⟩ := h
  exact ⟨host, h.trans h'⟩

theorem withHost (h : w.Settled v) (host : σ) : w.Settled { v with host } := by
  obtain ⟨_, stream, phase, trail, leaked, hs, rfl⟩ := h
  exact ⟨host, stream, phase, trail, leaked, hs, rfl⟩

theorem modules (h : w.Settled v) : v.modules = w.modules := by
  obtain ⟨_, h⟩ := h
  exact h.modules

theorem isCapturing (h : w.Settled v) : v.stream.isCapturing = w.stream.isCapturing := by
  obtain ⟨_, _, _, _, _, hs, rfl⟩ := h
  exact hs

end World.Settled

namespace Runner

variable [Sink ω] {r : Runner σ} {u : UnitId} {w v : World σ ω}

/-! ### Execution -/

/-- **The load of a unit begins in the world** `v`: in the present one if the run is verbose, and
otherwise in one where a capture has begun and holds the name of the unit. -/
inductive Enters (r : Runner σ) (u : UnitId) (w : World σ ω) : World σ ω → Prop where
  | free : r.settings.verbose ≠ 0 → r.Enters u w w
  | captured : r.settings.verbose = 0 → w.Open → (Sink.flush w.stream.sink).1 = .ok () →
    r.Enters u w (begun u w)

theorem Enters.modules (h : r.Enters u w v) : v.modules = w.modules := by
  cases h <;> rfl

/-- There is one world at most in which the load begins. -/
theorem Enters.unique {v' : World σ ω} (h : r.Enters u w v) (h' : r.Enters u w v') : v = v' := by
  cases h with
  | free hv =>
    cases h' with
    | free _ => rfl
    | captured hv' _ _ => exact absurd hv' hv
  | captured hv _ _ =>
    cases h' with
    | free hv' => exact absurd hv hv'
    | captured _ _ _ => rfl

/-- What has been loaded stays when the capture ends. -/
theorem Enters.execute (h : r.Enters u w v) :
    (∃ output, (r.execute u w).1 = .ok ((r.surroundings.loadAndRun u v).1, output)) ∧
      ∃ stream, (r.execute u w).2 = { (r.surroundings.loadAndRun u v).2 with stream } ∧
        stream.isCapturing = w.stream.isCapturing := by
  cases h with
  | free hv =>
    rw [execute_free r u hv]
    exact ⟨⟨_, rfl⟩, _, rfl, Surroundings.isCapturing_loadAndRun u w⟩
  | captured hv hw hf =>
    rw [execute_captured r u hv hw hf]
    exact ⟨⟨_, rfl⟩, _, rfl, hw.symm⟩

/-- A capture begins only if there is none, and the sink has passed on what it took. -/
theorem open_of_begin {stream : Stream ω} (h : stream.begin.1 = .ok ()) :
    stream.isCapturing = false ∧ (Sink.flush stream.sink).1 = .ok () := by
  obtain ⟨hfree, -⟩ := stream.isCapturing_begin.1 h
  refine ⟨hfree, ?_⟩
  rw [Stream.begin_free (by simpa [Stream.isCapturing] using hfree)] at h
  rcases hf : Sink.flush stream.sink with ⟨_ | _, _⟩
  · rw [hf] at h
    cases h
  · rfl

/-- **A unit is loaded, or its output cannot be captured.** -/
theorem execute_cases (r : Runner σ) (u : UnitId) (w : World σ ω) :
    (∃ v, r.Enters u w v) ∨ r.settings.verbose = 0 ∧ ∃ e, w.stream.begin.1 = .error e ∧
      r.execute u w = (.error (.capture e), { w with stream := w.stream.begin.2 }) := by
  by_cases hv : r.settings.verbose = 0
  · cases hb : w.stream.begin.1 with
    | ok _ =>
      obtain ⟨hw, hf⟩ := open_of_begin hb
      exact Or.inl ⟨_, .captured hv hw hf⟩
    | error e =>
      have hbegin : Run.beginCapture w = (.error e, { w with stream := w.stream.begin.2 }) := by
        rw [Run.beginCapture, Run.bind_error hb]
      refine Or.inr ⟨hv, e, rfl, ?_⟩
      rw [execute, if_pos hv, Run.bind_apply, Run.mapError_apply, hbegin]
      rfl
  · exact Or.inl ⟨w, .free hv⟩

/-- Output is returned only if it was captured. -/
theorem captured_of_output {result : Except Signal Unit} {output : Bytes}
    (h : (r.execute u w).1 = .ok (result, some output)) :
    r.settings.verbose = 0 ∧ w.Open ∧ (Sink.flush w.stream.sink).1 = .ok () := by
  rcases execute_cases r u w with ⟨v, hv⟩ | ⟨-, e, -, he⟩
  · cases hv with
    | free hverbose =>
      rw [execute_free r u hverbose] at h
      cases h
    | captured hverbose hopen hflush => exact ⟨hverbose, hopen, hflush⟩
  · rw [he] at h
    cases h

/-! ### Loads -/

/-- A request for a unit, made while the unit `u` is loaded and run. -/
def Requests (r : Runner σ) (u : UnitId) (w : World σ ω) (q : Request σ ω) : Prop :=
  ∃ x, r.Enters u w x ∧ r.surroundings.Requests u x q

/-- **The load of the unit** `v` **is completed** while the unit `u` is loaded and run. -/
def Loads (r : Runner σ) (u : UnitId) (w : World σ ω) (v : UnitId) : Prop :=
  ∃ x, r.Enters u w x ∧ r.surroundings.Loads u x v

/-- The unit itself is loaded if it ends without a signal, others if they are asked for. -/
theorem loads_iff {v : UnitId} : r.Loads u w v ↔
    v = u ∧ (∃ output, (r.execute u w).1 = .ok (.ok (), output)) ∨
      ∃ q, r.Requests u w q ∧ r.surroundings.Completes q ∧ q.unit = v := by
  constructor
  · rintro ⟨x, hx, ⟨rfl, hok⟩ | ⟨q, hq, hc, hv⟩⟩
    · obtain ⟨⟨output, hend⟩, -⟩ := hx.execute
      exact Or.inl ⟨rfl, output, hok ▸ hend⟩
    · exact Or.inr ⟨q, ⟨x, hx, hq⟩, hc, hv⟩
  · rintro (⟨rfl, output, hend⟩ | ⟨q, ⟨x, hx, hq⟩, hc, hv⟩)
    · rcases execute_cases r v w with ⟨x, hx⟩ | ⟨-, e, -, he⟩
      · obtain ⟨⟨output', hend'⟩, -⟩ := hx.execute
        rw [hend'] at hend
        exact ⟨x, hx, Or.inl ⟨rfl, congrArg Prod.fst (Except.ok.inj hend)⟩⟩
      · rw [he] at hend
        cases hend
    · exact ⟨x, hx, Or.inr ⟨q, hq, hc, hv⟩⟩

theorem Loads.finds {v : UnitId} (h : r.Loads u w v) : r.loader.FindsIn u.root v := by
  obtain ⟨x, -, hx⟩ := h
  exact hx.finds

/-- **What the table of units gains** while a unit is loaded and run. -/
theorem evolves_execute (hu : w.modules.Unknown u.name) :
    w.modules.Evolves (r.Loads u w) (r.execute u w).2.modules := by
  rcases execute_cases r u w with ⟨v, hv⟩ | ⟨-, e, -, he⟩
  · obtain ⟨-, stream, hend, -⟩ := hv.execute
    have hload := Surroundings.evolves_loadAndRun (s := r.surroundings) (hv.modules ▸ hu)
    rw [hend, ← hv.modules]
    refine hload.congr fun x => ⟨?_, fun hx => ⟨v, hv, hx⟩⟩
    rintro ⟨v', hv', hx⟩
    exact hv'.unique hv ▸ hx
  · rw [he]
    refine .refl fun v => ?_
    rintro ⟨x, hx, -⟩
    obtain ⟨⟨_, hok⟩, -⟩ := hx.execute
    rw [he] at hok
    cases hok

/-! ### Captures -/

theorem isCapturing_execute :
    (r.execute u w).2.stream.isCapturing = w.stream.isCapturing := by
  rcases execute_cases r u w with ⟨v, hv⟩ | ⟨-, e, hb, he⟩
  · obtain ⟨-, stream, hend, hstream⟩ := hv.execute
    rw [hend]
    exact hstream
  · rw [he]
    exact w.stream.isCapturing_begin.2 (by simp [hb])

/-! ### Outcomes -/

/-- **An invariant that a runner keeps while it finds an outcome.** It allows for other files, for
output, and for events on the trail. -/
structure Tolerant (I : World σ ω → Prop) : Prop where
  host : ∀ w host, I w → I { w with host }
  write : ∀ w bs, I w → I { w with stream := (w.stream.write bs).2 }
  flush : ∀ w, I w → I { w with stream := w.stream.flush.2 }
  note : ∀ w e, I w → I { w with trail := w.trail ++ [.event e] }

theorem tolerant_settled (w : World σ ω) : Tolerant w.Settled where
  host _ host h := h.withHost host
  write v bs h := h.told ⟨_, v.phase, v.trail, v.leaked, v.stream.isCapturing_write bs, rfl⟩
  flush v h := h.told ⟨_, v.phase, v.trail, v.leaked, v.stream.isCapturing_flush, rfl⟩
  note v _ h := h.told ⟨v.stream, v.phase, _, v.leaked, rfl, rfl⟩

section Tolerant
variable {I : World σ ω → Prop} (hI : Tolerant I)
include hI

theorem Tolerant.spoken : Spoken fun {α} (x : Run σ ω RunError α) => Run.Keeps I x where
  pure := Run.keeps_pure
  bind := Run.Keeps.bind
  sayText text v hv := by
    rw [sayText, Run.mapError_apply, Run.write_apply]
    exact hI.write v _ hv
  flush v hv := by
    rw [Runner.flush, Run.mapError_apply, Run.flush_apply]
    exact hI.flush v hv

theorem keeps_sayText (text : String) : Run.Keeps I (sayText text : Run σ ω RunError Unit) :=
  hI.spoken.sayText text

theorem keeps_say (line : String) : Run.Keeps I (say line : Run σ ω RunError Unit) :=
  hI.spoken.say line

theorem keeps_flush : Run.Keeps I (flush : Run σ ω RunError Unit) := hI.spoken.flush

theorem keeps_report (signal : Signal) :
    Run.Keeps I (r.report u signal : Run σ ω RunError Outcome) :=
  hI.spoken.report (fun _ hv => hv) r u signal

theorem keeps_judge (output golden : Bytes) :
    Run.Keeps I (r.judge u output golden : Run σ ω RunError Outcome) := by
  unfold judge
  split_ifs
  · exact Run.keeps_pure _
  · exact (keeps_say hI _).bind fun _ => (keeps_flush hI).bind fun _ =>
      (keeps_sayText hI _).bind fun _ => (keeps_flush hI).bind fun _ => Run.keeps_pure _

variable [FileSystem σ]

theorem keeps_generate (output : Bytes) :
    Run.Keeps I (generate u output : Run σ ω RunError Outcome) :=
  hI.spoken.generate (fun _ hv => hv) <|
    writeGolden_of (fun hx hy => hx.bind fun _ => hy) (fun _ v hv => hI.host v _ hv)
      (fun _ v hv => hI.note v _ hv) u output

/-- **What holds when a unit has come to its end** holds when its outcome has been found. -/
theorem Tolerant.classify (hend : I (r.execute u w).2) : I (r.classify u w).2 := by
  rw [classify_apply]
  rcases (r.execute u w).1 with e | ⟨signal | _, _ | output⟩
  · exact hend
  · exact keeps_report hI signal _ hend
  · exact keeps_report hI signal _ hend
  · exact hend
  · dsimp only [settle]
    split_ifs
    · exact keeps_generate hI output _ hend
    · rw [compare_apply]
      cases expected (r.execute u w).2.host u with
      | error e => exact hend
      | ok golden => exact keeps_judge hI output golden _ hend

end Tolerant

variable [FileSystem σ]

/-- **The outcome of a unit is found** without a change to the table of units. -/
theorem settled_classify (r : Runner σ) (u : UnitId) (w : World σ ω) :
    (r.execute u w).2.Settled (r.classify u w).2 :=
  (tolerant_settled _).classify (.refl _)

/-! ### Leftovers -/

/-- The search for leftovers goes well, or there is none because the run is interrupted. -/
def Scanned (r : Runner σ) (u : UnitId) (w : World σ ω) : Prop :=
  (r.classify u (ready u w)).1 ≠ .error .interrupted →
    (r.scan (r.classify u (ready u w)).2).1 = .ok ()

/-- The world after the search for leftovers. -/
def scanned (r : Runner σ) (u : UnitId) (w : World σ ω) : World σ ω :=
  match (r.classify u (ready u w)).1 with
  | .error .interrupted => (r.classify u (ready u w)).2
  | _ => (r.scan (r.classify u (ready u w)).2).2

theorem scanned_of_interrupted (h : (r.classify u (ready u w)).1 = .error .interrupted) :
    r.scanned u w = (r.classify u (ready u w)).2 := by
  rw [scanned, h]

theorem scanned_of_ne (h : (r.classify u (ready u w)).1 ≠ .error .interrupted) :
    r.scanned u w = (r.scan (r.classify u (ready u w)).2).2 := by
  unfold scanned
  split
  · exact absurd ‹_› h
  · rfl

theorem settled_scanned : (r.execute u (ready u w)).2.Settled (r.scanned u w) := by
  have hclass := settled_classify r u (ready u w)
  by_cases h : (r.classify u (ready u w)).1 = .error .interrupted
  · rw [scanned_of_interrupted h]
    exact hclass
  · rw [scanned_of_ne h]
    obtain ⟨hscan, -⟩ := r.scan_spec (r.classify u (ready u w)).2
    exact (hclass.withHost _).told hscan

/-! ### Whole runs -/

/-- **A run that is not kept from its end**: new tests are unloaded, and the outcome is returned. -/
theorem run_of_scanned (h : r.Scanned u w) : ∃ t, r.run u w = ((r.classify u (ready u w)).1,
    { r.scanned u w with
      modules := ((r.scanned u w).modules.unloadNew (ready u w).modules.names).2
      trail := t }) := by
  by_cases hi : (r.classify u (ready u w)).1 = .error .interrupted
  · rw [scanned_of_interrupted hi, run_apply, hi]
    exact conclude_apply u (ready u w).modules.names _ _
  · rw [scanned_of_ne hi, run_of_ne hi, Run.bind_ok (h hi)]
    exact conclude_apply u (ready u w).modules.names _ _

/-- **A run whose search for leftovers fails** ends there. -/
theorem run_of_not_scanned (h : ¬ r.Scanned u w) : (r.run u w).2 = r.scanned u w := by
  obtain ⟨hi, hscan⟩ := Classical.not_imp.mp h
  rw [scanned_of_ne hi, run_of_ne hi]
  cases he : (r.scan (r.classify u (ready u w)).2).1 with
  | error e => rw [Run.bind_error he]
  | ok _ => exact absurd he hscan

/-- The end of a run leaves the stream alone. -/
theorem stream_run (r : Runner σ) (u : UnitId) (w : World σ ω) :
    (r.run u w).2.stream = (r.scanned u w).stream := by
  by_cases h : r.Scanned u w
  · obtain ⟨t, ht⟩ := run_of_scanned h
    rw [ht]
  · rw [run_of_not_scanned h]

/-- **A capture is active after a run** exactly if one was before. -/
theorem isCapturing_run (r : Runner σ) (u : UnitId) (w : World σ ω) :
    (r.run u w).2.stream.isCapturing = w.stream.isCapturing := by
  rw [stream_run, settled_scanned.isCapturing, isCapturing_execute, stream_ready]

end Runner

end Golden
