import Golden.Proofs.Unit.Alike

/-! # Runs side by side

Two worlds are paired if they are the same except for what their streams have taken, and that is
related. Units cannot tell which of the two worlds they are in: they may look at everything, but
what was written before they began is out of their reach, and so is a capture that is not theirs.

* `Run.Mute`: an action that has nothing to do with the stream.
* `Stream.Paired`, `World.Paired`: streams and worlds side by side. What they have taken is related
  by a relation that is kept when both take the same (`Stream.Extends`).
* `World.Paired.respected`: units cannot tell paired worlds apart.
* `Surroundings.paired_loadAndRun`: the load of a test goes the same way in paired worlds. -/

namespace Golden

variable {σ ε ε' α β : Type}

/-! ### Mute actions -/

/-- **A mute action** neither reads nor changes the stream. -/
def Run.Mute (x : Run σ Memory ε α) : Prop :=
  ∀ (w : World σ Memory) stream, x { w with stream } = ((x w).1, { (x w).2 with stream })

namespace Run.Mute

theorem pure (a : α) : Mute (pure a : Run σ Memory ε α) := fun _ _ => rfl

theorem ofResult (r : Except ε α) : Mute (Run.ofResult r : Run σ Memory ε α) := fun _ _ => rfl

theorem leave (t : Trace) : Mute (Run.leave t : Run σ Memory ε Unit) := fun _ _ => rfl

theorem note (e : Event) : Mute (Run.note e : Run σ Memory ε Unit) := leave _

theorem host : Mute (Run.host : Run σ Memory ε σ) := fun _ _ => rfl

theorem setHost (host : σ) : Mute (Run.setHost host : Run σ Memory ε Unit) := fun _ _ => rfl

theorem changeModules (f : ModuleTable → ModuleTable) :
    Mute (Run.changeModules f : Run σ Memory ε Unit) := fun _ _ => rfl

theorem mapError (f : ε → ε') {x : Run σ Memory ε α} (hx : Mute x) :
    Mute (Run.mapError f x) := by
  intro w stream
  rw [mapError_apply, mapError_apply, hx]

theorem bind {x : Run σ Memory ε α} {f : α → Run σ Memory ε β} (hx : Mute x)
    (hf : ∀ a, Mute (f a)) : Mute (x >>= f) := by
  intro w stream
  rw [bind_apply, bind_apply, hx]
  cases (x w).1 with
  | error e => rfl
  | ok a => exact hf a (x w).2 stream

theorem forM {f : α → Run σ Memory ε PUnit} (hf : ∀ a, Mute (f a)) :
    ∀ xs : List α, Mute (xs.forM f)
  | [] => pure _
  | x :: xs => (hf x).bind fun _ => forM hf xs

end Run.Mute

/-! ### Streams -/

/-- What a stream has taken: what a capture has kept, if one is active, or else what the sink has. -/
def Stream.taken (s : Stream Memory) : Bytes := s.captured.getD s.sink.contents

/-- A relation between outputs that is kept when both go on in the same way. -/
def Stream.Extends (R : Bytes → Bytes → Prop) : Prop :=
  ∀ x x', R x x' → ∀ bs, R (x ++ bs) (x' ++ bs)

/-- **Streams side by side**: what they have taken is related. With `foreign`, a capture is active
that no unit can end. Otherwise units may capture, and then the same is kept in both. -/
inductive Stream.Paired (R : Bytes → Bytes → Prop) : Bool → Stream Memory → Stream Memory → Prop
  where
  | own {x x' : Bytes} (captured : Option Bytes) : R x x' →
    Paired R false ⟨⟨x⟩, captured⟩ ⟨⟨x'⟩, captured⟩
  | foreign {x x' : Bytes} (sink sink' : Memory) : R x x' →
    Paired R true ⟨sink, some x⟩ ⟨sink', some x'⟩

namespace Stream.Paired

variable {R : Bytes → Bytes → Prop} {foreign : Bool} {s s' : Stream Memory}

theorem isCapturing (h : s.Paired R foreign s') : s'.isCapturing = s.isCapturing := by
  cases h <;> rfl

theorem write (hR : Extends R) (h : s.Paired R foreign s') (bs : Bytes) :
    (s.write bs).1 = (s'.write bs).1 ∧ (s.write bs).2.Paired R foreign (s'.write bs).2 := by
  cases h with
  | own captured hx =>
    cases captured with
    | none => exact ⟨rfl, .own none (hR _ _ hx bs)⟩
    | some kept => exact ⟨rfl, .own (some (kept ++ bs)) hx⟩
  | foreign sink sink' hx => exact ⟨rfl, .foreign sink sink' (hR _ _ hx bs)⟩

/-- Unless a unit captures, different octets may be written. -/
theorem write_abreast (h : s.Paired R foreign s') (hs : s.isCapturing = foreign) {bs bs' : Bytes}
    (hR : ∀ x x', R x x' → R (x ++ bs) (x' ++ bs')) :
    (s.write bs).1 = (s'.write bs').1 ∧ (s.write bs).2.Paired R foreign (s'.write bs').2 := by
  cases h with
  | own captured hx =>
    cases captured with
    | none => exact ⟨rfl, .own none (hR _ _ hx)⟩
    | some kept => cases hs
  | foreign sink sink' hx => exact ⟨rfl, .foreign sink sink' (hR _ _ hx)⟩

theorem flush (h : s.Paired R foreign s') :
    s.flush.1 = s'.flush.1 ∧ s.flush.2.Paired R foreign s'.flush.2 := by
  cases h with
  | own captured hx => cases captured <;> exact ⟨rfl, .own _ hx⟩
  | foreign sink sink' hx => exact ⟨rfl, .foreign sink sink' hx⟩

/-- A capture that begins is the only one. -/
theorem begin (h : s.Paired R foreign s') :
    s.begin.1 = s'.begin.1 ∧ s.begin.2.Paired R foreign s'.begin.2 ∧
      (s.begin.1 = .ok () → foreign = false) := by
  cases h with
  | own captured hx =>
    cases captured with
    | none => exact ⟨rfl, .own _ hx, fun _ => rfl⟩
    | some kept => exact ⟨rfl, .own _ hx, fun _ => rfl⟩
  | foreign sink sink' hx => exact ⟨rfl, .foreign sink sink' hx, by simp [Stream.begin]⟩

theorem finish (h : s.Paired R foreign s') (hown : foreign = false) :
    s.finish.1 = s'.finish.1 ∧ s.finish.2.Paired R foreign s'.finish.2 := by
  cases h with
  | own captured hx => exact ⟨rfl, .own none hx⟩
  | foreign _ _ _ => cases hown

/-- Unless a unit captures, what has been taken is related. -/
theorem taken (h : s.Paired R foreign s') (hs : s.isCapturing = foreign) : R s.taken s'.taken := by
  cases h with
  | own captured hx =>
    cases captured with
    | none => exact hx
    | some kept => cases hs
  | foreign sink sink' hx => exact hx

theorem refl (h : R s.taken s.taken) : s.Paired R s.isCapturing s := by
  rcases s with ⟨⟨x⟩, _ | kept⟩
  · exact .own none h
  · exact .foreign _ _ h

/-- If all outputs are related, it only matters whether a capture is active. -/
theorem of_isCapturing (hR : ∀ x x', R x x') (h : s.isCapturing = foreign)
    (h' : s'.isCapturing = foreign) : s.Paired R foreign s' := by
  rcases s with ⟨sink, _ | kept⟩ <;> rcases s' with ⟨sink', _ | kept'⟩ <;> subst h <;> cases h'
  · exact .own none (hR _ _)
  · exact .foreign sink sink' (hR _ _)

end Stream.Paired

/-! ### Worlds -/

/-- **Worlds side by side**: they differ in their streams at most, and these are paired. -/
def World.Paired (R : Bytes → Bytes → Prop) (foreign : Bool) (w w' : World σ Memory) : Prop :=
  ∃ stream, w.stream.Paired R foreign stream ∧ w' = { w with stream }

section Agreement
variable {R : Bytes → Bytes → Prop} {foreign : Bool}

theorem Run.Mute.agree {x : Run σ Memory ε α} (hx : Mute x) :
    Run.Agree (World.Paired R foreign) x x := by
  rintro w w' ⟨stream, h, rfl⟩
  have hsame : (x w).2.stream = w.stream := congrArg (fun r => r.2.stream) (hx w w.stream)
  rw [← hsame] at h
  rw [hx w stream]
  exact ⟨rfl, stream, h, rfl⟩

/-! ### Units -/

variable (hR : Stream.Extends R)
include hR

theorem Run.paired_write (bs : Bytes) :
    Run.Agree (World.Paired (σ := σ) R foreign) (Run.write bs) (Run.write bs) := by
  rintro w w' ⟨stream, h, rfl⟩
  obtain ⟨h1, h2⟩ := h.write hR bs
  exact ⟨h1, _, h2, rfl⟩

omit hR in
theorem Run.paired_flush :
    Run.Agree (World.Paired (σ := σ) R foreign) Run.flush Run.flush := by
  rintro w w' ⟨stream, h, rfl⟩
  obtain ⟨h1, h2⟩ := h.flush
  exact ⟨h1, _, h2, rfl⟩

omit hR in
theorem Run.paired_finishCapture (hown : foreign = false) :
    Run.Agree (World.Paired (σ := σ) R foreign)
      (Run.finishCapture : Run σ Memory ε Bytes) Run.finishCapture := by
  rintro w w' ⟨_, h, rfl⟩
  obtain ⟨h1, h2⟩ := h.finish hown
  exact ⟨congrArg Except.ok h1, _, h2, rfl⟩

/-- **Units cannot tell paired worlds apart.** -/
theorem World.Paired.respected :
    World.Respected (World.Paired (σ := σ) R foreign) (fun _ => True) (foreign = false) where
  write := Run.paired_write hR
  flush := Run.paired_flush
  isCapturing := by
    rintro w w' ⟨_, h, rfl⟩
    exact h.isCapturing.symm
  begin := by
    rintro w w' ⟨_, h, rfl⟩
    exact ⟨h.begin.1, _, h.begin.2.1, rfl⟩
  begun := by
    rintro w w' ⟨_, h, rfl⟩
    exact h.begin.2.2
  finishCapture := Run.paired_finishCapture
  leave t := (Run.Mute.leave t).agree
  interrupt := by
    rintro w w' ⟨stream, h, rfl⟩
    exact ⟨stream, h, rfl⟩
  look := by
    rintro next - w w' ⟨_, -, rfl⟩
    rfl
  change host _ _ := (Run.Mute.setHost host).agree
  modules := by
    rintro w w' ⟨_, -, rfl⟩
    exact ⟨rfl, rfl⟩
  changeModules f _ := (Run.Mute.changeModules f).agree

namespace Surroundings

variable (s : Surroundings σ)

omit hR in
theorem mute_find (u : UnitId) : Run.Mute (s.find u) := fun _ _ => rfl

/-- **The load of a test goes the same way** in paired worlds. -/
theorem paired_loadAndRun (u : UnitId) :
    Run.Agree (World.Paired R foreign) (s.loadAndRun u) (s.loadAndRun u) :=
  (World.Paired.respected hR).loadAndRun (fun _ _ _ _ _ => Behaviour.Every.trivial _)
    (fun u => (s.mute_find u).agree) u

end Surroundings
end Agreement

end Golden
