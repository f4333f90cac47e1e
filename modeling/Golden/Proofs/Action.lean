import Golden.World
import Mathlib.Tactic.Common

/-! # Actions on worlds

An action is a function of the world it begins in. The first part says what the basic actions do as
such functions, and opens the sequence of two actions (`Run.bind_ok`, `Run.bind_eq_ok`).

* `Run.Keeps I x`: the action `x` keeps the invariant `I`, whether it fails or not.
* `Run.Agree R x y`: begun in worlds that `R` relates, `x` and `y` have the same result and end in
  worlds that `R` relates. Sequences agree if their parts do (`Run.bind_agree`). -/

namespace Golden.Run

variable {σ ω τ ε ε' α β : Type}

/-! ### Basic actions -/

@[simp] theorem pure_apply (a : α) (w : World σ ω) : (pure a : Run σ ω ε α) w = (.ok a, w) := rfl

@[simp] theorem mapError_apply (f : ε → ε') (x : Run σ ω ε α) (w : World σ ω) :
    mapError f x w = ((x w).1.mapError f, (x w).2) := rfl

@[simp] theorem ofResult_apply (r : Except ε α) (w : World σ ω) :
    (ofResult r : Run σ ω ε α) w = (r, w) := rfl

@[simp] theorem note_apply (e : Event) (w : World σ ω) :
    (note e : Run σ ω ε Unit) w = (.ok (), { w with trail := w.trail ++ [.event e] }) := rfl

@[simp] theorem changeModules_apply (f : ModuleTable → ModuleTable) (w : World σ ω) :
    (changeModules f : Run σ ω ε Unit) w = (.ok (), { w with modules := f w.modules }) := rfl

@[simp] theorem write_apply [Sink ω] (bs : Bytes) (w : World σ ω) :
    write bs w = ((w.stream.write bs).1, { w with stream := (w.stream.write bs).2 }) := rfl

@[simp] theorem flush_apply [Sink ω] (w : World σ ω) :
    flush w = (w.stream.flush.1, { w with stream := w.stream.flush.2 }) := rfl

/-! ### Sequences -/

theorem bind_apply (x : Run σ ω ε α) (f : α → Run σ ω ε β) (w : World σ ω) :
    (x >>= f) w = match (x w).1 with
      | .ok a => f a (x w).2
      | .error e => (.error e, (x w).2) := by
  change ExceptT.bindCont f (x w).1 (x w).2 = _
  cases (x w).1 <;> rfl

theorem bind_ok {x : Run σ ω ε α} {w : World σ ω} {a : α} (h : (x w).1 = .ok a)
    (f : α → Run σ ω ε β) : (x >>= f) w = f a (x w).2 := by
  rw [bind_apply, h]

theorem bind_error {x : Run σ ω ε α} {w : World σ ω} {e : ε} (h : (x w).1 = .error e)
    (f : α → Run σ ω ε β) : (x >>= f) w = (.error e, (x w).2) := by
  rw [bind_apply, h]

/-- A sequence succeeds if both parts do. -/
theorem bind_eq_ok {x : Run σ ω ε α} {f : α → Run σ ω ε β} {w : World σ ω} {b : β} :
    ((x >>= f) w).1 = .ok b ↔ ∃ a, (x w).1 = .ok a ∧ (f a (x w).2).1 = .ok b := by
  rw [bind_apply]
  cases (x w).1 <;> simp

/-- An action that cannot fail goes before another. -/
@[simp] theorem update_bind (f : World σ ω → α × World σ ω) (g : α → Run σ ω ε β)
    (w : World σ ω) : (update f >>= g) w = g (f w).1 (f w).2 :=
  bind_ok rfl g

@[simp] theorem observe_bind (x : Run σ ω ε α) (g : Except ε α → Run σ ω ε' β) (w : World σ ω) :
    (observe x >>= g) w = g (x w).1 (x w).2 :=
  bind_ok rfl g

@[simp] theorem note_bind (e : Event) (g : Unit → Run σ ω ε β) (w : World σ ω) :
    (note e >>= g) w = g () { w with trail := w.trail ++ [.event e] } :=
  bind_ok rfl g

@[simp] theorem host_bind (g : σ → Run σ ω ε β) (w : World σ ω) :
    (host >>= g) w = g w.host w :=
  bind_ok rfl g

@[simp] theorem modules_bind (g : ModuleTable → Run σ ω ε β) (w : World σ ω) :
    (modules >>= g) w = g w.modules w :=
  bind_ok rfl g

@[simp] theorem pure_bind_apply (a : α) (g : α → Run σ ω ε β) (w : World σ ω) :
    (pure a >>= g) w = g a w :=
  bind_ok rfl g

/-- Notes about items change the trail only. -/
theorem forM_note (f : α → Event) (xs : List α) (w : World σ ω) :
    ∃ t, (xs.forM (fun x => note (f x)) : Run σ ω ε PUnit) w =
      (.ok ⟨⟩, { w with trail := t }) := by
  induction xs generalizing w with
  | nil => exact ⟨w.trail, rfl⟩
  | cons x xs ih =>
    obtain ⟨t, ht⟩ := ih { w with trail := w.trail ++ [.event (f x)] }
    refine ⟨t, ?_⟩
    change (note (f x) >>= fun _ => xs.forM (fun x => note (f x)) : Run σ ω ε PUnit) w = _
    rw [note_bind]
    exact ht

/-- What holds of both ends of a sequence holds of its end. -/
theorem bind_snd {P : World σ ω → Prop} {x : Run σ ω ε α} {f : α → Run σ ω ε β} {w : World σ ω}
    (hx : P (x w).2) (hf : ∀ a, (x w).1 = .ok a → P (f a (x w).2).2) : P ((x >>= f) w).2 := by
  rw [bind_apply]
  cases h : (x w).1 with
  | error e => exact hx
  | ok a => exact hf a h

/-- A failure of a sequence is one of its parts. -/
theorem bind_ne_error {x : Run σ ω ε α} {f : α → Run σ ω ε β} {w : World σ ω} {e : ε}
    (hx : (x w).1 ≠ .error e) (hf : ∀ a, (x w).1 = .ok a → (f a (x w).2).1 ≠ .error e) :
    ((x >>= f) w).1 ≠ .error e := by
  rw [bind_apply]
  cases h : (x w).1 with
  | error e' =>
    rw [h] at hx
    simpa using hx
  | ok a => exact hf a h

/-! ### Invariants -/

/-- The action keeps an invariant of worlds. -/
def Keeps (I : World σ ω → Prop) (x : Run σ ω ε α) : Prop := ∀ w, I w → I (x w).2

theorem Keeps.bind {I : World σ ω → Prop} {x : Run σ ω ε α} {f : α → Run σ ω ε β}
    (hx : Keeps I x) (hf : ∀ a, Keeps I (f a)) : Keeps I (x >>= f) := by
  intro w hw
  have h := hx w hw
  rw [bind_apply]
  cases (x w).1 with
  | error e => exact h
  | ok a => exact hf a _ h

theorem keeps_pure {I : World σ ω → Prop} (a : α) : Keeps I (pure a : Run σ ω ε α) :=
  fun _ h => h

/-! ### Agreement -/

/-- Begun in related worlds, two actions have the same result and end in related worlds. -/
def Agree (R : World σ ω → World σ τ → Prop) (x : Run σ ω ε α) (y : Run σ τ ε α) : Prop :=
  ∀ w w', R w w' → (x w).1 = (y w').1 ∧ R (x w).2 (y w').2

/-- Sequences agree in two given worlds if their parts do. -/
theorem bind_agree {R : World σ ω → World σ τ → Prop} {x : Run σ ω ε α} {y : Run σ τ ε α}
    {f : α → Run σ ω ε β} {g : α → Run σ τ ε β} {w : World σ ω} {w' : World σ τ}
    (hxy : (x w).1 = (y w').1 ∧ R (x w).2 (y w').2)
    (hfg : ∀ a, (x w).1 = .ok a →
      (f a (x w).2).1 = (g a (y w').2).1 ∧ R (f a (x w).2).2 (g a (y w').2).2) :
    ((x >>= f) w).1 = ((y >>= g) w').1 ∧ R ((x >>= f) w).2 ((y >>= g) w').2 := by
  obtain ⟨h1, h2⟩ := hxy
  rw [bind_apply, bind_apply, ← h1]
  cases h : (x w).1 with
  | error e => exact ⟨rfl, h2⟩
  | ok a => exact hfg a h

/-- Sequences agree if their parts do. -/
theorem Agree.bind {R : World σ ω → World σ τ → Prop} {x : Run σ ω ε α} {y : Run σ τ ε α}
    {f : α → Run σ ω ε β} {g : α → Run σ τ ε β} (hx : Agree R x y)
    (hf : ∀ a, Agree R (f a) (g a)) : Agree R (x >>= f) (y >>= g) :=
  fun w w' h => bind_agree (hx w w' h) fun a _ => hf a _ _ (hx w w' h).2

theorem Agree.mapError {R : World σ ω → World σ τ → Prop} {x : Run σ ω ε α} {y : Run σ τ ε α}
    (f : ε → ε') (hx : Agree R x y) : Agree R (mapError f x) (mapError f y) := by
  intro w w' h
  obtain ⟨h1, h2⟩ := hx w w' h
  rw [mapError_apply, mapError_apply, h1]
  exact ⟨rfl, h2⟩

/-- What is observed of actions that agree is the same. -/
theorem Agree.observe {R : World σ ω → World σ τ → Prop} {x : Run σ ω ε α} {y : Run σ τ ε α}
    (hx : Agree R x y) : Agree R (observe x : Run σ ω ε' _) (observe y : Run σ τ ε' _) := by
  intro w w' h
  obtain ⟨h1, h2⟩ := hx w w' h
  exact ⟨congrArg Except.ok h1, h2⟩

end Golden.Run
