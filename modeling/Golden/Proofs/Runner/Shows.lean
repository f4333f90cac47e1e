import Golden.Proofs.Unit.Alike
import Golden.Runner

/-! # What a runner shows

What a runner has to say goes to the stream. An action that only shows something (`Runner.Shows`)
changes at most what is for the operator (`World.Told`): the stream, the trail, the phase, and the
items left behind. It goes well unless the sink refuses.

* `Runner.shows_report`: the report of a signal shows something and has the result that belongs to
  the signal (`Signal.outcome`).
* `Runner.Spoken.report`, `Runner.Spoken.generate`, `Runner.writeGolden_of`: what holds of actions
  if it holds of their parts. -/

namespace Golden

variable {σ ω α β : Type}

/-- The outcome of a unit that ends with the signal. There is none if it is interrupted. -/
def Signal.outcome : Signal → Except RunError Outcome
  | .loadFailure reason | .skip reason => .ok (.skipped reason)
  | .interrupt => .error .interrupted
  | .failure reason => .ok (.failed reason)
  | .fault kind value _ => .ok (.crashed kind value)

/-! ### Worlds -/

namespace World

/-- No capture is active, so that output goes to the sink. -/
def Open (w : World σ ω) : Prop := w.stream.isCapturing = false

theorem Open.stream_eq {w : World σ ω} (h : w.Open) : w.stream = .ofSink w.stream.sink := by
  rcases w with ⟨_, ⟨sink, _ | kept⟩, _⟩
  · rfl
  · cases h

theorem Open.captured {w : World σ ω} (h : w.Open) : w.stream.captured = none := by
  rw [h.stream_eq]
  rfl

/-- **Worlds that differ in what is for the operator** at most. A capture goes on. -/
def Told (w v : World σ ω) : Prop :=
  ∃ stream phase trail leaked, stream.isCapturing = w.stream.isCapturing ∧
    v = { w with stream, phase, trail, leaked }

namespace Told

variable {w v x : World σ ω}

theorem refl (w : World σ ω) : w.Told w :=
  ⟨w.stream, w.phase, w.trail, w.leaked, rfl, rfl⟩

theorem trans (h : w.Told v) (h' : v.Told x) : w.Told x := by
  obtain ⟨_, _, _, _, h, rfl⟩ := h
  obtain ⟨stream, phase, trail, leaked, h', rfl⟩ := h'
  exact ⟨stream, phase, trail, leaked, h'.trans h, rfl⟩

theorem isOpen (h : w.Told v) (hw : w.Open) : v.Open := by
  obtain ⟨_, _, _, _, h, rfl⟩ := h
  exact h.trans hw

theorem host (h : w.Told v) : v.host = w.host := by
  obtain ⟨_, _, _, _, -, rfl⟩ := h
  rfl

theorem modules (h : w.Told v) : v.modules = w.modules := by
  obtain ⟨_, _, _, _, -, rfl⟩ := h
  rfl

theorem interrupt (h : w.Told v) : v.interrupt = w.interrupt := by
  obtain ⟨_, _, _, _, -, rfl⟩ := h
  rfl

end Told

end World

namespace Sink.Reliable

variable [Sink ω] (h : Sink.Reliable ω) (s : Stream ω)
include h

theorem stream_write (bs : Bytes) : (s.write bs).1 = .ok () := by
  rcases s with ⟨sink, _ | kept⟩
  · exact h.write sink bs
  · rfl

theorem stream_flush : s.flush.1 = .ok () := by
  rcases s with ⟨sink, _ | kept⟩
  · exact h.flush sink
  · rfl

end Sink.Reliable

/-! ### Actions -/

namespace Runner

variable [Sink ω]

/-- **An action that only shows something**: its result is `f`, unless the sink refuses. -/
structure Shows (x : Run σ ω RunError α) (f : Except RunError α) : Prop where
  result : ∀ w : World σ ω, (x w).1 = f ∨ ∃ reason, (x w).1 = .error (.io reason)
  told : ∀ w : World σ ω, w.Told (x w).2
  sure : Sink.Reliable ω → ∀ w : World σ ω, (x w).1 = f

namespace Shows

variable {a : α} {x : Run σ ω RunError α} {f : Except RunError α}

/-- If it returns anything, then that. -/
theorem eq_of_ok (h : Shows x f) {w : World σ ω} (ha : (x w).1 = .ok a) : f = .ok a := by
  rcases h.result w with hf | ⟨reason, he⟩
  · exact hf.symm.trans ha
  · rw [ha] at he
    cases he

/-- The parts of the statement in a given world. -/
theorem spec (h : Shows x f) (w : World σ ω) : w.Told (x w).2 ∧
    ((x w).1 = f ∨ ∃ reason, (x w).1 = .error (.io reason)) ∧
    (Sink.Reliable ω → (x w).1 = f) :=
  ⟨h.told w, h.result w, fun hr => h.sure hr w⟩

/-- An action that does not use the sink. -/
theorem of_result (h : ∀ w : World σ ω, (x w).1 = f ∧ w.Told (x w).2) : Shows x f where
  result w := Or.inl (h w).1
  told w := (h w).2
  sure _ w := (h w).1

theorem pure (a : α) : Shows (pure a : Run σ ω RunError α) (.ok a) :=
  of_result fun w => ⟨rfl, .refl w⟩

theorem throw (e : RunError) : Shows (throw e : Run σ ω RunError α) (.error e) :=
  of_result fun w => ⟨rfl, .refl w⟩

theorem bind {g : α → Run σ ω RunError β} {f : Except RunError β} (hx : Shows x (.ok a))
    (hg : Shows (g a) f) : Shows (x >>= g) f := by
  refine ⟨fun w => ?_, fun w => ?_, fun hr w => ?_⟩
  · rcases hx.result w with h | ⟨reason, h⟩
    · rw [Run.bind_ok h]
      exact hg.result _
    · rw [Run.bind_error h]
      exact Or.inr ⟨reason, rfl⟩
  · rcases hx.result w with h | ⟨reason, h⟩
    · rw [Run.bind_ok h]
      exact (hx.told w).trans (hg.told _)
    · rw [Run.bind_error h]
      exact hx.told w
  · rw [Run.bind_ok (hx.sure hr w)]
    exact hg.sure hr _

end Shows

/-! ### Traces -/

theorem shows_leave (t : Trace) : Shows (Run.leave t : Run σ ω RunError Unit) (.ok ()) :=
  .of_result fun w => ⟨rfl, w.stream, w.phase, w.trail ++ [t], w.leaked, rfl, rfl⟩

theorem shows_notes (f : α → Event) (xs : List α) :
    Shows (xs.forM fun x => Run.note (f x) : Run σ ω RunError PUnit) (.ok ⟨⟩) :=
  .of_result fun w => by
    obtain ⟨t, ht⟩ := Run.forM_note (ε := RunError) f xs w
    rw [ht]
    exact ⟨rfl, w.stream, w.phase, t, w.leaked, rfl, rfl⟩

/-- Leftovers are kept in mind. -/
theorem shows_leftovers (found : List String) : Shows (σ := σ) (ω := ω)
    (Run.update fun w => ((), { w with leaked := w.leaked ++ found })) (.ok ()) :=
  .of_result fun w => ⟨rfl, w.stream, w.phase, w.trail, w.leaked ++ found, rfl, rfl⟩

/-! ### Lines -/

theorem shows_sayText (text : String) : Shows (sayText text : Run σ ω RunError Unit) (.ok ()) where
  result w := by
    rw [sayText, Run.mapError_apply, Run.write_apply]
    cases (w.stream.write (utf8 text)).1 with
    | ok _ => exact Or.inl rfl
    | error reason => exact Or.inr ⟨reason, rfl⟩
  told w := ⟨_, _, _, _, w.stream.isCapturing_write (utf8 text), rfl⟩
  sure hr w := by
    rw [sayText, Run.mapError_apply, Run.write_apply, hr.stream_write]
    rfl

theorem shows_say (line : String) : Shows (say line : Run σ ω RunError Unit) (.ok ()) :=
  shows_sayText (line ++ "\n")

theorem shows_flush : Shows (flush : Run σ ω RunError Unit) (.ok ()) where
  result w := by
    rw [flush, Run.mapError_apply, Run.flush_apply]
    cases w.stream.flush.1 with
    | ok _ => exact Or.inl rfl
    | error reason => exact Or.inr ⟨reason, rfl⟩
  told w := ⟨_, _, _, _, w.stream.isCapturing_flush, rfl⟩
  sure hr w := by
    rw [flush, Run.mapError_apply, Run.flush_apply, hr.stream_flush]
    rfl

/-! ### Reports -/

/-- **The report of a signal** has the result that belongs to the signal. -/
theorem shows_report (r : Runner σ) (u : UnitId) (signal : Signal) :
    Shows (r.report u signal : Run σ ω RunError Outcome) signal.outcome := by
  have hskip (reason : String) : Shows (r.report u (.skip reason) : Run σ ω RunError Outcome)
      (.ok (.skipped reason)) := by
    unfold report
    cases r.settings.quiet
    · exact (shows_say _).bind (shows_flush.bind (.pure _))
    · exact .pure _
  cases signal with
  | loadFailure reason => exact hskip reason
  | skip reason => exact hskip reason
  | interrupt => exact .throw _
  | failure reason => exact (shows_say _).bind (shows_flush.bind (.pure _))
  | fault kind value trace =>
    refine (shows_say _).bind ?_
    split_ifs
    · cases trace with
      | none => exact shows_flush.bind (.pure _)
      | some trace => exact (shows_sayText _).bind (shows_flush.bind (.pure _))
    · exact shows_flush.bind (.pure _)

/-! ### Properties of actions -/

/-- **A property that sequences have if their parts do**, and that what a runner says has. -/
structure Spoken (Q : ∀ {α : Type}, Run σ ω RunError α → Prop) : Prop where
  pure : ∀ {α : Type} (a : α), Q (pure a : Run σ ω RunError α)
  bind : ∀ {α β : Type} {x : Run σ ω RunError α} {f : α → Run σ ω RunError β},
    Q x → (∀ a, Q (f a)) → Q (x >>= f)
  sayText : ∀ text, Q (sayText text : Run σ ω RunError Unit)
  flush : Q (flush : Run σ ω RunError Unit)

namespace Spoken

variable {Q : ∀ {α : Type}, Run σ ω RunError α → Prop} (hQ : Spoken Q)
include hQ

theorem say (line : String) : Q (say line : Run σ ω RunError Unit) := hQ.sayText (line ++ "\n")

/-- The report of a signal is said, unless it is an interruption. -/
theorem report (hinterrupted : Q (throw .interrupted : Run σ ω RunError Outcome)) (r : Runner σ)
    (u : UnitId) (signal : Signal) : Q (r.report u signal : Run σ ω RunError Outcome) := by
  have hended (o : Outcome) : Q (Runner.flush >>= fun _ => Pure.pure o : Run σ ω RunError Outcome) :=
    hQ.bind hQ.flush fun _ => hQ.pure _
  have hskip (reason : String) : Q (r.report u (.skip reason) : Run σ ω RunError Outcome) := by
    unfold Runner.report
    cases r.settings.quiet
    · exact hQ.bind (hQ.say _) fun _ => hended _
    · exact hQ.pure _
  cases signal with
  | loadFailure reason => exact hskip reason
  | skip reason => exact hskip reason
  | interrupt => exact hinterrupted
  | failure reason => exact hQ.bind (hQ.say _) fun _ => hended _
  | fault kind value trace =>
    refine hQ.bind (hQ.say _) fun _ => ?_
    split_ifs
    · cases trace with
      | none => exact hended _
      | some trace => exact hQ.bind (hQ.sayText _) fun _ => hended _
    · exact hended _

/-- An output that takes the place of what is expected is written, if it must be. -/
theorem generate [FileSystem σ] (hhost : Q (Run.host : Run σ ω RunError σ)) {u : UnitId}
    {output : Bytes} (hwrite : Q (writeGolden u output : Run σ ω RunError Unit)) :
    Q (generate u output : Run σ ω RunError Outcome) := by
  have hwritten : Q (writeGolden u output >>= fun _ => Pure.pure .passed :
      Run σ ω RunError Outcome) := hQ.bind hwrite fun _ => hQ.pure _
  unfold Runner.generate
  split_ifs
  · refine hQ.bind hhost fun host => ?_
    split_ifs
    · exact hQ.bind (hQ.say _) fun _ => hwritten
    · exact hQ.pure _
  · exact hwritten

end Spoken

omit [Sink ω] in
/-- An output is written by changes to the files, with a note at the end. -/
theorem writeGolden_of [FileSystem σ] {Q : Run σ ω RunError Unit → Prop}
    (hbind : ∀ {x y : Run σ ω RunError Unit}, Q x → Q y → Q (x >>= fun _ => y))
    (hchange : ∀ f, Q (Run.mapError .fileSystem (writeGolden.changeHost f)))
    (hnote : ∀ e, Q (Run.note e)) (u : UnitId) (output : Bytes) : Q (writeGolden u output) := by
  unfold writeGolden
  cases u.goldenPath.parent? with
  | none => exact hbind (hchange _) (hnote _)
  | some directory => exact hbind (hchange _) (hbind (hchange _) (hnote _))

end Runner

end Golden
