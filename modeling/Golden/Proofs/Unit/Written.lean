import Golden.Proofs.Unit.Stages

/-! # What units write

What a unit writes while it is loaded and run is told by following what it does, step by step, into
the units that it loads (`Behaviour.written`, `Surroundings.written`), whoever receives it. If a
capture is active that the unit does not hold, all of it is kept, and nothing else.

* `Stage.written_next`: what a behaviour writes is what its next step writes, and then the rest.
* `Stage.stream_next`: what a step does to the stream while somebody else holds a capture.
* `Surroundings.keeps_importing_written`, `Surroundings.keeps_loadAndRun_written`: a capture keeps
  what is written during a load. -/

namespace Golden

variable {σ ω : Type} [Sink ω]

/-! ### Definitions -/

/-- **What a behaviour writes**, in order. What the units write that it loads is told by `heard`. -/
def Behaviour.written (importer : String → Run σ ω Signal Unit)
    (heard : String → World σ ω → Bytes) : Behaviour σ → Bool → World σ ω → Bytes
  | done, _, _ | offer _, _, _ | raise _, _, _ => []
  | write bs next, held, w =>
    bs ++ (next (failure? (Run.write bs w).1)).written importer heard held (Run.write bs w).2
  | flush next, held, w =>
    (next (failure? (Run.flush w).1)).written importer heard held (Run.flush w).2
  | load name next, held, w =>
    heard name w ++
      (next (failure? (importer name w).1)).written importer heard held (importer name w).2
  | beginCapture next, held, w =>
    (next (failure? (Run.beginCapture w).1)).written importer heard
      (held || (failure? (Run.beginCapture w).1).isNone) (Run.beginCapture w).2
  | finishCapture next, held, w =>
    if held then
      (next (w.stream.captured.getD [])).written importer heard false
        { w with stream := w.stream.finish.2 }
    else (next []).written importer heard false w
  | look next, held, w => (next w.host).written importer heard held w
  | change host next, held, w => next.written importer heard held { w with host }
  | interrupt next, held, w => next.written importer heard held { w with interrupt := true }
  | note event next, held, w =>
    next.written importer heard held { w with trail := w.trail ++ [.event event] }
  | complain bs next, held, w =>
    next.written importer heard held { w with trail := w.trail ++ [.errors bs] }

namespace Surroundings

/-- What is written while a unit is loaded for another one. -/
def writtenFor (s : Surroundings σ) : Nat → UnitId → String → World σ ω → Bytes
  | 0, _, _, _ => []
  | depth + 1, importer, name, w =>
    if w.modules.contains name || w.modules.isLoading name then []
    else
      let unit : UnitId := ⟨name, importer.root⟩
      match (s.find unit w).1 with
      | .error _ => []
      | .ok found =>
        (found (s.context unit)).written (s.importing depth unit) (s.writtenFor depth unit) false
          { (s.find unit w).2 with modules := (s.find unit w).2.modules.beginLoading unit }

/-- What a unit writes that is run as a test, up to the end of its entry point. -/
def writtenWhole (s : Surroundings σ) (u : UnitId) (t : TestUnit σ) (w : World σ ω) : Bytes :=
  let importer := s.importing s.loader.nesting u
  let heard := s.writtenFor s.loader.nesting u
  let loaded := (t (s.context u)).perform importer false w
  (t (s.context u)).written importer heard false w ++
    match loaded.1 with
    | .ok (some entry) => entry.written importer heard false loaded.2
    | _ => []

/-- **What is written while a unit is loaded and run as a test.** -/
def written (s : Surroundings σ) (u : UnitId) (w : World σ ω) : Bytes :=
  match (s.find u w).1 with
  | .error _ => []
  | .ok found =>
    s.writtenWhole u found
      { (s.find u w).2 with modules := (s.find u w).2.modules.beginLoading u }

end Surroundings

/-! ### Captures -/

omit [Sink ω] in
/-- **A capture keeps what an action writes**, after what it has kept before. -/
def Run.KeepsWritten {ε α : Type} (x : Run σ ω ε α) (heard : World σ ω → Bytes) : Prop :=
  ∀ w kept, w.stream.captured = some kept →
    (x w).2.stream.captured = some (kept ++ heard w)

namespace Stage

variable {importer : String → Run σ ω Signal Unit} {heard : String → World σ ω → Bytes}
  {st st' : Stage σ ω} {kept : Bytes}

/-- What is yet to be written. -/
def written (importer : String → Run σ ω Signal Unit) (heard : String → World σ ω → Bytes)
    (st : Stage σ ω) : Bytes :=
  st.rest.written importer heard st.held st.world

omit [Sink ω] in
/-- What the next step writes. -/
def uttered (heard : String → World σ ω → Bytes) : Stage σ ω → Bytes
  | ⟨.write bs _, _, _⟩ => bs
  | ⟨.load name _, _, w⟩ => heard name w
  | _ => []

theorem written_end (h : st.next? importer = none) : st.written importer heard = [] := by
  obtain ⟨b, held, w⟩ := st
  cases b with
  | done => rfl
  | offer _ => rfl
  | raise _ => rfl
  | finishCapture next => cases held <;> cases h
  | _ => cases h

/-- What a behaviour writes is what its next step writes, and then the rest. -/
theorem written_next (h : st.next? importer = some st') :
    st.written importer heard = st.uttered heard ++ st'.written importer heard := by
  obtain ⟨b, held, w⟩ := st
  cases b with
  | done => cases h
  | offer _ => cases h
  | raise _ => cases h
  | finishCapture next => cases held <;> (cases h; rfl)
  | _ => cases h; rfl

/-- **What a step does to the stream** while a capture is active that the behaviour does not hold:
it adds what it writes, unless it asks for a unit. -/
theorem stream_next (heard : String → World σ ω → Bytes) (h : st.next? importer = some st')
    (hheld : st.held = false) {k : ω} (hw : st.world.stream = ⟨k, some kept⟩) : st'.held = false ∧
      ((∃ name, st.uttered heard = heard name st.world ∧ st'.world = (importer name st.world).2) ∨
        st'.world.stream = ⟨k, some (kept ++ st.uttered heard)⟩) := by
  obtain ⟨b, held, w⟩ := st
  obtain rfl : held = false := hheld
  obtain hw : w.stream = ⟨k, some kept⟩ := hw
  -- only writes and loads add something
  have hsame : w.stream = ⟨k, some (kept ++ [])⟩ := by rw [List.append_nil, hw]
  cases b with
  | done => cases h
  | offer _ => cases h
  | raise _ => cases h
  | write bs next =>
    cases h
    refine ⟨rfl, .inr ?_⟩
    rw [Run.write_apply, hw]
    rfl
  | flush next =>
    cases h
    refine ⟨rfl, .inr ?_⟩
    rw [Run.flush_apply, hsame]
    rfl
  | load name next =>
    cases h
    exact ⟨rfl, .inl ⟨name, rfl, rfl⟩⟩
  | beginCapture next =>
    cases h
    obtain ⟨hresult, hbegun⟩ := Behaviour.beginCapture_apply w
    rw [Stream.begin_captured (by rw [hw])] at hresult hbegun
    refine ⟨?_, .inr (hbegun.trans hsame)⟩
    rw [hresult]
    rfl
  | finishCapture next =>
    cases h
    exact ⟨rfl, .inr hsame⟩
  | _ =>
    cases h
    exact ⟨rfl, .inr hsame⟩

/-- **A step adds to a capture what it writes**, if the behaviour does not hold the capture. -/
theorem captured_next (himp : ∀ name, Run.KeepsWritten (importer name) (heard name))
    (h : st.next? importer = some st') (hheld : st.held = false)
    (hw : st.world.stream.captured = some kept) :
    st'.held = false ∧ st'.world.stream.captured = some (kept ++ st.uttered heard) := by
  have hstream : st.world.stream = ⟨st.world.stream.sink, some kept⟩ := by rw [← hw]
  obtain ⟨hheld', ⟨name, hutters, hworld⟩ | hstream'⟩ := stream_next heard h hheld hstream
  · rw [hutters, hworld]
    exact ⟨hheld', himp name _ kept hw⟩
  · exact ⟨hheld', congrArg Stream.captured hstream'⟩

/-- **A capture keeps what a behaviour writes** that does not hold it. -/
theorem captured_result (himp : ∀ name, Run.KeepsWritten (importer name) (heard name))
    (st : Stage σ ω) (hheld : st.held = false) {kept : Bytes}
    (hw : st.world.stream.captured = some kept) :
    (st.result importer).2.stream.captured = some (kept ++ st.written importer heard) := by
  induction st using induction importer generalizing kept with
  | ended st h =>
    rw [result_end h, hheld, written_end h, List.append_nil]
    exact hw
  | step st st' h ih =>
    obtain ⟨hheld', hw'⟩ := captured_next himp h hheld hw
    rw [result_next h, ih hheld' hw', written_next h, List.append_assoc]

end Stage

namespace Surroundings

variable (s : Surroundings σ)

/-! ### Loads -/

theorem writtenFor_of_known {depth : Nat} {u : UnitId} {name : String} {w : World σ ω}
    (h : (w.modules.contains name || w.modules.isLoading name) = true) :
    s.writtenFor depth u name w = [] := by
  cases depth with
  | zero => rfl
  | succ depth => rw [writtenFor, if_pos h]

/-- A capture keeps what is written while a unit is loaded for another one. -/
theorem keeps_importing_written : ∀ (depth : Nat) (u : UnitId) (name : String),
    Run.KeepsWritten (s.importing depth u name : Run σ ω Signal Unit) (s.writtenFor depth u name)
  | depth, u, name, w, kept, hw => by
    by_cases h : (w.modules.contains name || w.modules.isLoading name) = true
    · rw [importing_of_known s h, s.writtenFor_of_known h, List.append_nil]
      exact hw
    cases depth with
    | zero =>
      rw [importing_zero s h, writtenFor, List.append_nil]
      exact hw
    | succ depth =>
      rw [importing_succ s h, writtenFor, if_neg h, Run.bind_apply]
      cases hfind : (s.find ⟨name, u.root⟩ w).1 with
      | error e =>
        simp only [hfind, List.append_nil]
        exact hw
      | ok found =>
        simp only [hfind]
        have hload := Stage.captured_result
          (keeps_importing_written depth ⟨name, u.root⟩)
          ⟨found (s.context ⟨name, u.root⟩), false,
            { (s.find ⟨name, u.root⟩ w).2 with
              modules := (s.find ⟨name, u.root⟩ w).2.modules.beginLoading ⟨name, u.root⟩ }⟩
          rfl hw
        exact Run.bind_snd (P := fun v => v.stream.captured = some _) hload fun _ _ => hload

/-- A capture keeps what a unit writes that is run as a test. -/
theorem keeps_whole_written (u : UnitId) (t : TestUnit σ) :
    Run.KeepsWritten (s.whole u t : Run σ ω Signal Unit) (s.writtenWhole u t) := by
  intro w kept hw
  have himp := s.keeps_importing_written (ω := ω) s.loader.nesting u
  have hload := Stage.captured_result himp ⟨t (s.context u), false, w⟩ rfl hw
  rw [whole, writtenWhole, Run.bind_apply]
  cases ((t (s.context u)).perform (s.importing s.loader.nesting u) false w).1 with
  | error e =>
    rw [List.append_nil]
    exact hload
  | ok entry =>
    cases entry with
    | none =>
      rw [List.append_nil]
      exact hload
    | some entry =>
      have hentry := Stage.captured_result himp ⟨entry, false, _⟩ rfl hload
      dsimp only
      rw [← List.append_assoc]
      exact Run.bind_snd (P := fun v => v.stream.captured = some _) hentry fun _ _ => hentry

/-- **A capture keeps what is written while a unit is loaded and run.** -/
theorem keeps_loadAndRun_written (u : UnitId) :
    Run.KeepsWritten (s.loadAndRun u : Run σ ω Signal Unit) (s.written u) := by
  intro w kept hw
  rw [loadAndRun_eq, written, Run.bind_apply]
  cases (s.find u w).1 with
  | error e =>
    rw [List.append_nil]
    exact hw
  | ok found =>
    dsimp only
    have hwhole := s.keeps_whole_written u found
      { (s.find u w).2 with modules := (s.find u w).2.modules.beginLoading u } kept hw
    exact Run.bind_snd (P := fun v => v.stream.captured = some _) hwhole fun _ _ => hwhole

end Surroundings

end Golden
