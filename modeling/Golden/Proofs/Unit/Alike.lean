import Golden.Proofs.Unit.Frame

/-! # What units cannot tell apart

A relation between worlds is respected by units if whatever they ask for has the same answer in
related worlds, and leaves related worlds behind.

* `World.Respected`: what this takes, for each thing that a unit may ask for.
* `World.Respected.perform`: a behaviour then goes the same way in related worlds.
* `World.Respected.loadAndRun`: so does the load of a test.

Two worlds are alike if the same units are loaded and being loaded in them, and the same output is
kept in them. They may differ in all else: in what lies around the run, in what the sinks have
taken, in what was left behind. But their streams must be firm: a sink that refuses could be
noticed, unless a capture keeps the output away from it.

* `World.Alike.respected`: closed units cannot tell worlds apart that are alike.
* `Surroundings.agree_loadAndRun`: the load of a test by a closed loader goes the same way there. -/

namespace Golden

variable {σ ρ ω τ : Type} [Sink ω] [Sink τ]

/-- A kind of sink is reliable if no sink of the kind refuses. -/
structure Sink.Reliable (ω : Type) [Sink ω] : Prop where
  write : ∀ (sink : ω) bs, (Sink.write sink bs).1 = .ok ()
  flush : ∀ sink : ω, (Sink.flush sink).1 = .ok ()

theorem Memory.reliable : Sink.Reliable Memory := ⟨fun _ _ => rfl, fun _ => rfl⟩

/-- Nothing has been written yet. -/
def Memory.empty : Memory := ⟨[]⟩

/-! ### Streams -/

/-- Streams that keep the same output, and that do not let a sink be noticed. -/
structure Stream.Alike (s : Stream ω) (s' : Stream τ) : Prop where
  captured : s.captured = s'.captured
  firm : s.isCapturing = true ∨ Sink.Reliable ω ∧ Sink.Reliable τ

namespace Stream.Alike

variable {s : Stream ω} {s' : Stream τ}

theorem isCapturing (h : s.Alike s') : s.isCapturing = s'.isCapturing := by
  rw [Stream.isCapturing, Stream.isCapturing, h.captured]

/-- Without a capture, the sinks are reliable. -/
theorem reliable (h : s.Alike s') (hs : s.captured = none) :
    Sink.Reliable ω ∧ Sink.Reliable τ :=
  h.firm.resolve_left (by simp [Stream.isCapturing, hs])

theorem write (h : s.Alike s') (bs : Bytes) :
    (s.write bs).1 = (s'.write bs).1 ∧ (s.write bs).2.Alike (s'.write bs).2 := by
  have hc := h.captured
  unfold Stream.write
  rw [← hc]
  cases hs : s.captured with
  | some kept => exact ⟨rfl, rfl, Or.inl rfl⟩
  | none =>
    obtain ⟨hr, hr'⟩ := h.reliable hs
    exact ⟨(hr.write _ _).trans (hr'.write _ _).symm, rfl, Or.inr ⟨hr, hr'⟩⟩

theorem flush (h : s.Alike s') : s.flush.1 = s'.flush.1 ∧ s.flush.2.Alike s'.flush.2 := by
  have hc := h.captured
  unfold Stream.flush
  rw [← hc]
  cases hs : s.captured with
  | some kept => exact ⟨rfl, h⟩
  | none =>
    obtain ⟨hr, hr'⟩ := h.reliable hs
    exact ⟨(hr.flush _).trans (hr'.flush _).symm, rfl, Or.inr ⟨hr, hr'⟩⟩

/-- A capture that begins shows that the sinks are reliable. -/
theorem begin (h : s.Alike s') : s.begin.1 = s'.begin.1 ∧ s.begin.2.Alike s'.begin.2 ∧
    (s.begin.1 = .ok () → Sink.Reliable ω ∧ Sink.Reliable τ) := by
  have hc := h.captured
  unfold Stream.begin
  rw [← hc]
  cases hs : s.captured with
  | some kept => exact ⟨rfl, h, by simp⟩
  | none =>
    obtain ⟨hr, hr'⟩ := h.reliable hs
    have h1 := hr.flush s.sink
    have h2 := hr'.flush s'.sink
    generalize Sink.flush s.sink = x at h1 ⊢
    generalize Sink.flush s'.sink = x' at h2 ⊢
    rcases x with ⟨_, sink⟩
    rcases x' with ⟨_, sink'⟩
    cases h1
    cases h2
    exact ⟨rfl, ⟨rfl, Or.inl rfl⟩, fun _ => ⟨hr, hr'⟩⟩

theorem finish (h : s.Alike s') (hr : Sink.Reliable ω ∧ Sink.Reliable τ) :
    s.finish.1 = s'.finish.1 ∧ s.finish.2.Alike s'.finish.2 :=
  ⟨congrArg (Option.getD · []) h.captured, rfl, Or.inr hr⟩

end Stream.Alike

/-! ### Tables of units -/

/-- Tables in which the same units are loaded and being loaded. -/
structure ModuleTable.Alike (t t' : ModuleTable) : Prop where
  entries : t.entries = t'.entries
  loading : t.loading = t'.loading

namespace ModuleTable.Alike

variable {t t' : ModuleTable}

theorem names (h : t.Alike t') : t.names = t'.names := congrArg (List.map UnitId.name) h.entries

/-- A name is known in one of them if it is known in the other. -/
theorem known (h : t.Alike t') (name : String) :
    (t.contains name || t.isLoading name) = (t'.contains name || t'.isLoading name) := by
  unfold ModuleTable.contains ModuleTable.isLoading
  rw [h.names, h.loading]

theorem beginLoading (h : t.Alike t') (u : UnitId) :
    (t.beginLoading u).Alike (t'.beginLoading u) := by
  refine ⟨h.entries, ?_⟩
  unfold ModuleTable.beginLoading ModuleTable.isLoading
  rw [h.loading]

theorem finishLoading (h : t.Alike t') (u : UnitId) (ok : Bool) :
    (t.finishLoading u ok).Alike (t'.finishLoading u ok) :=
  ⟨h.entries, congrArg (List.filter _) h.loading⟩

theorem insert (h : t.Alike t') (u : UnitId) : (t.insert u).Alike (t'.insert u) :=
  ⟨congrArg (insertEntry u) h.entries, h.loading⟩

theorem erase (h : t.Alike t') (name : String) : (t.erase name).Alike (t'.erase name) :=
  ⟨congrArg (List.filter _) h.entries, h.loading⟩

theorem unloadNew (h : t.Alike t') (before : List String) :
    (t.unloadNew before).2.Alike (t'.unloadNew before).2 :=
  ⟨congrArg (List.filter _) h.entries, h.loading⟩

end ModuleTable.Alike

/-! ### Relations that units respect -/

/-- **A relation between worlds that units respect**, if their behaviours are made of parts in `P`.
They end no capture but their own, so that the end of one matters only if one of theirs may begin,
which makes it `free`. -/
structure World.Respected (R : World σ ω → World σ τ → Prop) (P : Behaviour σ → Prop)
    (free : Prop) : Prop where
  write : ∀ bs, Run.Agree R (Run.write bs) (Run.write bs)
  flush : Run.Agree R Run.flush Run.flush
  isCapturing : ∀ w w', R w w' → w.stream.isCapturing = w'.stream.isCapturing
  begin : ∀ w w', R w w' → w.stream.begin.1 = w'.stream.begin.1 ∧
    R { w with stream := w.stream.begin.2 } { w' with stream := w'.stream.begin.2 }
  begun : ∀ w w', R w w' → w.stream.begin.1 = .ok () → free
  finishCapture : free → Run.Agree (ε := Signal) R Run.finishCapture Run.finishCapture
  leave : ∀ t, Run.Agree (ε := Signal) R (Run.leave t) (Run.leave t)
  interrupt : ∀ w w', R w w' → R { w with interrupt := true } { w' with interrupt := true }
  look : ∀ next, P (.look next) → ∀ w w', R w w' → w.host = w'.host
  change : ∀ host next, P (.change host next) →
    Run.Agree (ε := Signal) R (Run.setHost host) (Run.setHost host)
  modules : ∀ w w', R w w' → w.modules.Alike w'.modules
  changeModules : ∀ f : ModuleTable → ModuleTable, (∀ t t', t.Alike t' → (f t).Alike (f t')) →
    Run.Agree (ε := Signal) R (Run.changeModules f) (Run.changeModules f)

namespace World.Respected

open Behaviour Surroundings

variable {R : World σ ω → World σ τ → Prop} {P : Behaviour σ → Prop} {free : Prop}
  (hR : Respected R P free)
include hR

/-- A capture begins in both worlds or in neither. If it does, one may. -/
theorem beginCapture {w : World σ ω} {w' : World σ τ} (h : R w w') :
    (Run.beginCapture w).1 = (Run.beginCapture w').1 ∧
      R (Run.beginCapture w).2 (Run.beginCapture w').2 ∧
      ((Run.beginCapture w).1 = .ok () → free) := by
  obtain ⟨h1, h2⟩ := hR.begin w w' h
  have h3 := hR.begun w w' h
  unfold Run.beginCapture
  rw [Run.bind_apply, Run.bind_apply, ← h1]
  cases hb : w.stream.begin.1 with
  | error e => exact ⟨rfl, h2, by simp⟩
  | ok _ => exact ⟨rfl, (hR.leave _ _ _ h2).2, fun _ => h3 hb⟩

theorem release {held : Bool} (hheld : held = true → free) :
    Run.Agree R (Behaviour.release held) (Behaviour.release held) := by
  intro w w' h
  cases held with
  | false => exact ⟨rfl, h⟩
  | true =>
    change ((Run.update (fun w => (w.stream.isCapturing, w)) >>= _) w).1 =
        ((Run.update (fun w => (w.stream.isCapturing, w)) >>= _) w').1 ∧
      R ((Run.update (fun w => (w.stream.isCapturing, w)) >>= _) w).2
        ((Run.update (fun w => (w.stream.isCapturing, w)) >>= _) w').2
    rw [Run.update_bind, Run.update_bind, ← hR.isCapturing w w' h]
    cases w.stream.isCapturing with
    | false => exact ⟨rfl, h⟩
    | true => exact ((hR.finishCapture (hheld rfl)).bind fun _ => hR.leave _) w w' h

section Perform
variable {imp : String → Run σ ω Signal Unit} {imp' : String → Run σ τ Signal Unit}

/-- **A behaviour goes the same way** in related worlds, if the units that it loads do. -/
theorem perform (himp : ∀ name, Run.Agree R (imp name) (imp' name)) :
    ∀ {b : Behaviour σ}, b.Every P → ∀ held : Bool, (held = true → free) →
      Run.Agree R (b.perform imp held) (b.perform imp' held)
  | .done, _, held, hheld, w, w', h => by
    rw [perform_done, perform_done]
    exact ⟨rfl, (hR.release hheld w w' h).2⟩
  | .offer _, _, held, hheld, w, w', h => by
    rw [perform_offer, perform_offer]
    exact ⟨rfl, (hR.release hheld w w' h).2⟩
  | .raise _, _, held, hheld, w, w', h => by
    rw [perform_raise, perform_raise]
    exact ⟨rfl, (hR.release hheld w w' h).2⟩
  | .write bs _, hb, held, hheld, w, w', h => by
    obtain ⟨h1, h2⟩ := hR.write bs w w' h
    rw [perform_write, perform_write, h1]
    exact perform himp (hb.2 _) held hheld _ _ h2
  | .flush _, hb, held, hheld, w, w', h => by
    obtain ⟨h1, h2⟩ := hR.flush w w' h
    rw [perform_flush, perform_flush, h1]
    exact perform himp (hb.2 _) held hheld _ _ h2
  | .load name _, hb, held, hheld, w, w', h => by
    obtain ⟨h1, h2⟩ := himp name w w' h
    rw [perform_load, perform_load, h1]
    exact perform himp (hb.2 _) held hheld _ _ h2
  | .beginCapture _, hb, held, hheld, w, w', h => by
    obtain ⟨h1, h2, h3⟩ := hR.beginCapture h
    rw [perform_beginCapture, perform_beginCapture, ← h1]
    refine perform himp (hb.2 _) _ (fun hh => ?_) _ _ h2
    -- a capture is held because it was held before, or because it has just begun
    cases hbegun : (Run.beginCapture w).1 with
    | ok _ => exact h3 hbegun
    | error _ => exact hheld (by simpa [hbegun, failure?] using hh)
  | .finishCapture _, hb, held, hheld, w, w', h => by
    rw [perform_finishCapture, perform_finishCapture]
    cases held with
    | true =>
      obtain ⟨h1, h2⟩ := hR.finishCapture (hheld rfl) w w' h
      have hkept : w.stream.captured.getD [] = w'.stream.captured.getD [] := Except.ok.inj h1
      rw [if_pos rfl, if_pos rfl, hkept]
      exact perform himp (hb.2 _) false (by simp) _ _ h2
    | false =>
      rw [if_neg (by simp), if_neg (by simp)]
      exact perform himp (hb.2 _) false (by simp) _ _ h
  | .look _, hb, held, hheld, w, w', h => by
    rw [perform_look, perform_look, hR.look _ hb.1 w w' h]
    exact perform himp (hb.2 _) held hheld _ _ h
  | .change _ _, hb, held, hheld, w, w', h => by
    rw [perform_change, perform_change]
    exact perform himp hb.2 held hheld _ _ (hR.change _ _ hb.1 w w' h).2
  | .interrupt _, hb, held, hheld, w, w', h => by
    rw [perform_interrupt, perform_interrupt]
    exact perform himp hb.2 held hheld _ _ (hR.interrupt w w' h)
  | .note _ _, hb, held, hheld, w, w', h => by
    rw [perform_note, perform_note]
    exact perform himp hb.2 held hheld _ _ (hR.leave _ w w' h).2
  | .complain _ _, hb, held, hheld, w, w', h => by
    rw [perform_complain, perform_complain]
    exact perform himp hb.2 held hheld _ _ (hR.leave _ w w' h).2

end Perform

theorem whileLoading {α : Type} {u : UnitId} {x : Run σ ω Signal α} {x' : Run σ τ Signal α}
    (hx : Run.Agree R x x') :
    Run.Agree R (Surroundings.whileLoading u x) (Surroundings.whileLoading u x') := by
  refine (hR.changeModules _ fun _ _ ht => ht.beginLoading u).bind fun _ => ?_
  refine hx.observe.bind fun r => ?_
  exact (hR.changeModules _ fun _ _ ht => ht.finishLoading u _).bind fun _ _ _ h => ⟨rfl, h⟩

variable {s : Surroundings σ} (hunits : s.loader.Units (Behaviour.Every P))
  (hfind : ∀ u, Run.Agree R (s.find u) (s.find u))
include hunits hfind

/-- Units import each other in the same way in related worlds. -/
theorem importing : ∀ (depth : Nat) (u : UnitId) (name : String),
    Run.Agree R (s.importing depth u name) (s.importing depth u name)
  | depth, u, name, w, w', h => by
    have hsame := (hR.modules w w' h).known name
    by_cases hknown : (w.modules.contains name || w.modules.isLoading name) = true
    · rw [importing_of_known s hknown, importing_of_known s (hsame ▸ hknown)]
      exact ⟨rfl, h⟩
    have hknown' := hknown
    rw [hsame] at hknown'
    cases depth with
    | zero =>
      rw [importing_zero s hknown, importing_zero s hknown']
      exact ⟨rfl, h⟩
    | succ depth =>
      rw [importing_succ s hknown, importing_succ s hknown']
      have hfound := hfind ⟨name, u.root⟩ w w' h
      refine Run.bind_agree hfound fun t ht => ?_
      have hact := hR.perform (importing depth ⟨name, u.root⟩)
        (hunits _ _ t ht (s.context ⟨name, u.root⟩)) false (by simp)
      refine ((hR.whileLoading hact).bind fun _ => ?_) _ _ hfound.2
      exact (hR.leave _).bind fun _ => hR.changeModules _ fun _ _ ht => ht.insert _

/-- **The load of a test goes the same way** in related worlds. -/
theorem loadAndRun (u : UnitId) : Run.Agree R (s.loadAndRun u) (s.loadAndRun u) := by
  intro w w' h
  have himp := hR.importing hunits hfind s.loader.nesting u
  have hfound := hfind u w w' h
  rw [loadAndRun_eq, loadAndRun_eq]
  refine Run.bind_agree hfound fun t ht => ?_
  have hload := hunits _ _ t ht (s.context u)
  have hwhole : Run.Agree R (s.whole u t) (s.whole u t) := by
    intro v v' hv
    have hloaded := hR.perform himp hload false (by simp) v v' hv
    refine Run.bind_agree hloaded fun entry he => ?_
    cases entry with
    | none => exact ⟨rfl, hloaded.2⟩
    | some entry =>
      have hentry := hR.perform himp (hload.of_perform he) false (by simp)
      exact (hentry.bind fun _ _ _ h => ⟨rfl, h⟩) _ _ hloaded.2
  exact ((hR.whileLoading hwhole).bind fun _ =>
    hR.changeModules _ fun _ _ ht => ht.insert u) _ _ hfound.2

end World.Respected

/-! ### Worlds -/

/-- **Worlds that a closed unit cannot tell apart.** -/
structure World.Alike (w : World σ ω) (w' : World ρ τ) : Prop where
  modules : w.modules.Alike w'.modules
  stream : w.stream.Alike w'.stream

namespace World.Alike

variable {w : World σ ω} {w' : World ρ τ}

theorem withModules (h : w.Alike w') {t t' : ModuleTable} (ht : t.Alike t') :
    World.Alike { w with modules := t } { w' with modules := t' } :=
  ⟨ht, h.stream⟩

theorem withStream (h : w.Alike w') {s : Stream ω} {s' : Stream τ} (hs : s.Alike s') :
    World.Alike { w with stream := s } { w' with stream := s' } :=
  ⟨h.modules, hs⟩

/-- What is left on the trail does not matter. -/
theorem withTrail (h : w.Alike w') (t t' : List Trace) :
    World.Alike { w with trail := t } { w' with trail := t' } :=
  ⟨h.modules, h.stream⟩

end World.Alike

open World (Alike Respected)

/-- **Closed units cannot tell worlds apart that are alike.** -/
theorem World.Alike.respected : Respected (Alike (σ := σ) (ρ := σ) (ω := ω) (τ := τ))
    (fun b => ¬ b.TouchesHost) (Sink.Reliable ω ∧ Sink.Reliable τ) where
  write bs _ _ h := ⟨(h.stream.write bs).1, h.withStream (h.stream.write bs).2⟩
  flush _ _ h := ⟨h.stream.flush.1, h.withStream h.stream.flush.2⟩
  isCapturing _ _ h := h.stream.isCapturing
  begin _ _ h := ⟨h.stream.begin.1, h.withStream h.stream.begin.2.1⟩
  begun _ _ h := h.stream.begin.2.2
  finishCapture hr _ _ h :=
    ⟨congrArg Except.ok (h.stream.finish hr).1, h.withStream (h.stream.finish hr).2⟩
  leave _ _ _ h := ⟨rfl, h.withTrail _ _⟩
  interrupt _ _ h := ⟨h.modules, h.stream⟩
  look _ hlook := absurd True.intro hlook
  change _ _ hchange := absurd True.intro hchange
  modules _ _ h := h.modules
  changeModules _ hf _ _ h := ⟨rfl, h.withModules (hf _ _ h.modules)⟩

/-! ### Loads -/

namespace Surroundings

variable {s : Surroundings σ} (hl : s.loader.Closed)
include hl

omit [Sink ω] [Sink τ] in
/-- The search for a unit by a closed loader changes nothing, and does not depend on the world. -/
theorem find_closed (u : UnitId) (w : World σ ω) (w' : World σ τ) :
    (s.find u w).1 = (s.find u w').1 ∧ (s.find u w).2 = w ∧ (s.find u w').2 = w' := by
  rw [find_apply, find_apply, hl.keeps, hl.keeps]
  exact ⟨hl.steady u _ _, rfl, rfl⟩

theorem agree_find (u : UnitId) : Run.Agree (Alike (σ := σ) (ρ := σ) (ω := ω) (τ := τ))
    (s.find u) (s.find u) := by
  intro w w' hw
  obtain ⟨h1, h2, h3⟩ := find_closed hl u w w'
  rw [h2, h3]
  exact ⟨h1, hw⟩

/-- **The load of a test goes the same way** in worlds that are alike. -/
theorem agree_loadAndRun (u : UnitId) :
    Run.Agree (Alike (σ := σ) (ρ := σ) (ω := ω) (τ := τ)) (s.loadAndRun u)
      (s.loadAndRun u) :=
  Alike.respected.loadAndRun hl.units (agree_find hl) u

end Surroundings

end Golden
