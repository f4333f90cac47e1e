import Golden.Behaviour
import Golden.Proofs.Action
import Golden.Registry

/-! # What behaviours do

What a behaviour never does, whatever it learns on the way. `Behaviour.Every` says something of a
behaviour and of all that may come of it, so that a kind is given by what it rules out.

* `Behaviour.Closed`: it sees and changes nothing but what its context shows it.
* `Behaviour.Patient`: it never asks the run to stop.
* `Behaviour.Avoids s`: it never raises the signal `s`, unless a unit that it loads does.

A loader is of a kind if all units that it finds are, and the loader of a registry is if all
registered units are (`Registry.closed_loader`, `Registry.calm_loader`).

What a behaviour does first, and what it does next in view of that, are equations between actions in
a given world; the same for the search for a unit, the time while it is loading, and its import. -/

namespace Golden

variable {σ : Type}

/-! ### Kinds -/

namespace Behaviour

/-- Something holds of a behaviour and of all that may come of it. -/
def Every (P : Behaviour σ → Prop) : Behaviour σ → Prop
  | done => P done
  | offer entry => P (offer entry) ∧ entry.Every P
  | raise signal => P (raise signal)
  | write bs next => P (write bs next) ∧ ∀ r, (next r).Every P
  | flush next => P (flush next) ∧ ∀ r, (next r).Every P
  | load name next => P (load name next) ∧ ∀ r, (next r).Every P
  | beginCapture next => P (beginCapture next) ∧ ∀ r, (next r).Every P
  | finishCapture next => P (finishCapture next) ∧ ∀ bs, (next bs).Every P
  | look next => P (look next) ∧ ∀ host, (next host).Every P
  | change host next => P (change host next) ∧ next.Every P
  | interrupt next => P (interrupt next) ∧ next.Every P
  | note event next => P (note event next) ∧ next.Every P
  | complain bs next => P (complain bs next) ∧ next.Every P

/-- It looks at what lies around the run, or changes it. -/
def TouchesHost : Behaviour σ → Prop
  | look _ | change .. => True
  | _ => False

/-- It asks the run to stop. -/
def AsksToStop : Behaviour σ → Prop
  | interrupt _ => True
  | _ => False

/-- **A closed behaviour** sees and changes nothing but what its context shows it: the stream, and
other units of its root. -/
def Closed (b : Behaviour σ) : Prop := b.Every fun b => ¬ b.TouchesHost

/-- A patient behaviour never asks the run to stop. -/
def Patient (b : Behaviour σ) : Prop := b.Every fun b => ¬ b.AsksToStop

/-- A behaviour avoids a signal if it does not raise it, except when a unit that it loads does. -/
def Avoids (s : Signal) : Behaviour σ → Prop
  | done => True
  | offer entry => entry.Avoids s
  | raise signal => signal ≠ s
  | write _ next => ∀ r, (next r).Avoids s
  | flush next => ∀ r, (next r).Avoids s
  | load _ next => ∀ r, r ≠ some s → (next r).Avoids s
  | beginCapture next => ∀ r, (next r).Avoids s
  | finishCapture next => ∀ bs, (next bs).Avoids s
  | look next => ∀ host, (next host).Avoids s
  | change _ next => next.Avoids s
  | interrupt next => next.Avoids s
  | note _ next => next.Avoids s
  | complain _ next => next.Avoids s

end Behaviour

namespace Loader

/-- What holds of the behaviour of every unit that a loader finds. -/
def Units (l : Loader σ) (P : Behaviour σ → Prop) : Prop :=
  ∀ u host t, (l.load u host).1 = .ok t → ∀ c, P (t c)

/-- **A closed loader** finds the same closed units at all times, and changes nothing. -/
structure Closed (l : Loader σ) : Prop where
  steady : ∀ u host host', (l.load u host).1 = (l.load u host').1
  keeps : ∀ u host, (l.load u host).2 = host
  units : l.Units Behaviour.Closed

/-- No unit raises the signal, and no search for a unit ends with it. -/
structure Avoids (l : Loader σ) (s : Signal) : Prop where
  search : ∀ u host, (l.load u host).1 ≠ .error s
  units : l.Units (Behaviour.Avoids s)

/-- **A calm loader**: nothing interrupts the run or asks it to stop. -/
structure Calm (l : Loader σ) : Prop where
  patient : l.Units Behaviour.Patient
  avoids : l.Avoids .interrupt

/-- Only names that look like those of tests lead to units. -/
def TestsOnly (l : Loader σ) : Prop :=
  ∀ u host t, (l.load u host).1 = .ok t → ModuleTable.looksLikeTest u.name = true

end Loader

/-! ### Registries -/

namespace Registry

variable {r : Registry σ} {P : Behaviour σ → Prop}

theorem mem_of_find {u : UnitId} {t : TestUnit σ} (h : r.find u = .ok t) :
    (u.name, t) ∈ r.units := by
  unfold find at h
  cases hl : r.units.lookup u.name with
  | none =>
    rw [hl] at h
    cases h
  | some t' =>
    rw [hl] at h
    obtain rfl := Except.ok.inj h
    obtain ⟨us, vs, hunits, -⟩ := List.lookup_eq_some_iff.mp hl
    rw [hunits]
    exact List.mem_append_right _ List.mem_cons_self

/-- What holds of the registered units holds of those that the loader finds. -/
theorem units_loader (h : ∀ e ∈ r.units, ∀ c, P (e.2 c)) : r.loader.Units P :=
  fun _ _ _ ht => h _ (mem_of_find ht)

theorem closed_loader (h : ∀ e ∈ r.units, ∀ c, (e.2 c).Closed) : r.loader.Closed where
  steady _ _ _ := rfl
  keeps _ _ := rfl
  units := units_loader h

theorem calm_loader (hp : ∀ e ∈ r.units, ∀ c, (e.2 c).Patient)
    (ha : ∀ e ∈ r.units, ∀ c, (e.2 c).Avoids .interrupt) : r.loader.Calm where
  patient := units_loader hp
  avoids := by
    refine ⟨fun u _ h => ?_, units_loader ha⟩
    change r.find u = _ at h
    unfold find at h
    split at h <;> cases h

/-- The units of a registry are tests if their names look like it. -/
theorem testsOnly_loader (h : ∀ n ∈ r.names, ModuleTable.looksLikeTest n = true) :
    r.loader.TestsOnly :=
  fun _ _ _ ht => h _ (List.mem_map_of_mem (mem_of_find ht))

end Registry

variable {ω : Type} [Sink ω]

namespace Behaviour

/-! ### Behaviours, step by step -/

section Steps
variable (importer : String → Run σ ω Signal Unit) (held : Bool) (w : World σ ω)

omit [Sink ω] in
/-- Giving up a capture does not fail. -/
theorem release_fst : (release held w : Except Signal Unit × World σ ω).1 = .ok () := by
  unfold release
  cases held
  · rfl
  · change ((Run.update (fun w => (w.stream.isCapturing, w)) >>= _) w).1 = _
    rw [Run.update_bind]
    cases w.stream.isCapturing <;> rfl

theorem perform_done : (done.perform importer held : Run σ ω Signal _) w =
    (.ok none, (release held w).2) :=
  Run.bind_ok (release_fst held w) _

theorem perform_offer (entry : Behaviour σ) : (offer entry).perform importer held w =
    (.ok (some entry), (release held w).2) :=
  Run.bind_ok (release_fst held w) _

theorem perform_raise (signal : Signal) : (raise signal).perform importer held w =
    (.error signal, (release held w).2) :=
  Run.bind_ok (release_fst held w) _

theorem perform_write (bs : Bytes) (next : Option String → Behaviour σ) :
    (write bs next).perform importer held w =
      (next (failure? (Run.write bs w).1)).perform importer held (Run.write bs w).2 := rfl

theorem perform_flush (next : Option String → Behaviour σ) :
    (flush next).perform importer held w =
      (next (failure? (Run.flush w).1)).perform importer held (Run.flush w).2 := rfl

theorem perform_load (name : String) (next : Option Signal → Behaviour σ) :
    (load name next).perform importer held w =
      (next (failure? (importer name w).1)).perform importer held (importer name w).2 := rfl

theorem perform_beginCapture (next : Option CaptureError → Behaviour σ) :
    (beginCapture next).perform importer held w =
      (next (failure? (Run.beginCapture w).1)).perform importer
        (held || (failure? (Run.beginCapture w).1).isNone) (Run.beginCapture w).2 := rfl

theorem perform_finishCapture (next : Bytes → Behaviour σ) :
    (finishCapture next).perform importer held w =
      if held then (next (w.stream.captured.getD [])).perform importer false
        { w with stream := w.stream.finish.2 }
      else (next []).perform importer false w := by
  cases held <;> rfl

theorem perform_look (next : σ → Behaviour σ) :
    (look next).perform importer held w = (next w.host).perform importer held w := rfl

theorem perform_change (host : σ) (next : Behaviour σ) :
    (change host next).perform importer held w =
      next.perform importer held { w with host } := rfl

theorem perform_interrupt (next : Behaviour σ) :
    (interrupt next).perform importer held w =
      next.perform importer held { w with interrupt := true } := rfl

theorem perform_note (event : Event) (next : Behaviour σ) :
    (note event next).perform importer held w =
      next.perform importer held { w with trail := w.trail ++ [.event event] } := rfl

theorem perform_complain (bs : Bytes) (next : Behaviour σ) :
    (complain bs next).perform importer held w =
      next.perform importer held { w with trail := w.trail ++ [.errors bs] } := rfl

end Steps

end Behaviour

namespace Surroundings

/-! ### Loads -/

section Steps
variable (s : Surroundings σ)

omit [Sink ω] in
@[simp] theorem find_apply (u : UnitId) (w : World σ ω) : s.find u w =
    ((s.loader.load u w.host).1, { w with host := (s.loader.load u w.host).2 }) := rfl

omit [Sink ω] in
theorem whileLoading_apply {α : Type} (u : UnitId) (act : Run σ ω Signal α) (w : World σ ω) :
    whileLoading u act w =
      let v := { w with modules := w.modules.beginLoading u }
      ((act v).1, { (act v).2 with
        modules := (act v).2.modules.finishLoading u (act v).1.isOk }) := rfl

/-- A unit that is loaded or being loaded is not loaded again. -/
theorem importing_of_known {depth : Nat} {u : UnitId} {name : String} {w : World σ ω}
    (h : (w.modules.contains name || w.modules.isLoading name) = true) :
    s.importing depth u name w = (.ok (), w) := by
  cases depth <;> rw [importing, Run.modules_bind, if_pos h] <;> rfl

theorem importing_zero {u : UnitId} {name : String} {w : World σ ω}
    (h : ¬ (w.modules.contains name || w.modules.isLoading name) = true) :
    s.importing 0 u name w =
      (.error (.fault "import error" ("imports nest too deep at " ++ name) none), w) := by
  rw [importing, Run.modules_bind, if_neg h]
  rfl

theorem importing_succ {depth : Nat} {u : UnitId} {name : String} {w : World σ ω}
    (h : ¬ (w.modules.contains name || w.modules.isLoading name) = true) :
    s.importing (depth + 1) u name w = (s.find ⟨name, u.root⟩ >>= fun found =>
      whileLoading ⟨name, u.root⟩ ((found (s.context ⟨name, u.root⟩)).perform
        (s.importing depth ⟨name, u.root⟩) false) >>= fun _ =>
      Run.note (.imported u.name name) >>= fun _ =>
      Run.changeModules (·.insert ⟨name, u.root⟩)) w := by
  rw [importing, Run.modules_bind, if_neg h]

/-- What a unit does when it is run as a test: it loads, and runs the entry point that it offers. -/
def whole (u : UnitId) (t : TestUnit σ) : Run σ ω Signal Unit :=
  (t (s.context u)).perform (s.importing s.loader.nesting u) false >>= fun
    | none => pure ()
    | some entry => entry.perform (s.importing s.loader.nesting u) false >>= fun _ => pure ()

theorem loadAndRun_eq (u : UnitId) : (s.loadAndRun u : Run σ ω Signal Unit) =
    s.find u >>= fun found => whileLoading u (s.whole u found) >>= fun _ =>
      Run.changeModules (·.insert u) := rfl

end Steps

end Surroundings

end Golden
