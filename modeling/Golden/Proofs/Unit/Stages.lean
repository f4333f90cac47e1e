import Golden.Proofs.Unit.Frame
import Golden.Proofs.Unit.Table

/-! # Behaviours under way

A behaviour is done step by step. A stage is what it has yet to do and the world in which it does
that; an importer says what the units do that it loads.

* `Stage.result_next`: a step does not change what comes of a behaviour at last.
* `Stage.induction`: what holds at every end, and at a stage if it holds at the next one, holds at
  all stages.
* `Stage.Asks`: the names that a behaviour asks for, and the worlds in which it does.
* `Stage.evolves_result`, `Stage.Asks.grows`: the table of units changes only by what is asked
  for.
* `Stage.maintains_result`, `Loader.Maintains.keeps_loadAndRun`: a unit may look at what lies around
  the run, and put something else there. If all that it puts there has a property, given that what
  it has seen has it (`Behaviour.Maintains`), then neither loads nor runs lose the property. -/

namespace Golden

variable {σ ω : Type}

/-- A behaviour under way: what it has yet to do, whether it holds a capture, and the world. -/
structure Stage (σ ω : Type) where
  rest : Behaviour σ
  held : Bool
  world : World σ ω

namespace Stage

open Behaviour (failure?)

variable [Sink ω] {importer : String → Run σ ω Signal Unit} {st st' : Stage σ ω}
  {name : String} {w : World σ ω}

/-! ### Steps -/

/-- The next stage, unless the behaviour has come to its end. -/
def next? (importer : String → Run σ ω Signal Unit) : Stage σ ω → Option (Stage σ ω)
  | ⟨.done, _, _⟩ | ⟨.offer _, _, _⟩ | ⟨.raise _, _, _⟩ => none
  | ⟨.write bs next, held, w⟩ =>
    some ⟨next (failure? (Run.write bs w).1), held, (Run.write bs w).2⟩
  | ⟨.flush next, held, w⟩ => some ⟨next (failure? (Run.flush w).1), held, (Run.flush w).2⟩
  | ⟨.load name next, held, w⟩ =>
    some ⟨next (failure? (importer name w).1), held, (importer name w).2⟩
  | ⟨.beginCapture next, held, w⟩ =>
    some ⟨next (failure? (Run.beginCapture w).1),
      held || (failure? (Run.beginCapture w).1).isNone, (Run.beginCapture w).2⟩
  | ⟨.finishCapture next, true, w⟩ =>
    some ⟨next (w.stream.captured.getD []), false, { w with stream := w.stream.finish.2 }⟩
  | ⟨.finishCapture next, false, w⟩ => some ⟨next [], false, w⟩
  | ⟨.look next, held, w⟩ => some ⟨next w.host, held, w⟩
  | ⟨.change host next, held, w⟩ => some ⟨next, held, { w with host }⟩
  | ⟨.interrupt next, held, w⟩ => some ⟨next, held, { w with interrupt := true }⟩
  | ⟨.note event next, held, w⟩ =>
    some ⟨next, held, { w with trail := w.trail ++ [.event event] }⟩
  | ⟨.complain bs next, held, w⟩ =>
    some ⟨next, held, { w with trail := w.trail ++ [.errors bs] }⟩

/-- What comes of the behaviour. -/
def result (importer : String → Run σ ω Signal Unit) (st : Stage σ ω) :
    Except Signal (Option (Behaviour σ)) × World σ ω :=
  st.rest.perform importer st.held st.world

/-- **A step does not change what comes of a behaviour.** -/
theorem result_next (h : st.next? importer = some st') :
    st.result importer = st'.result importer := by
  obtain ⟨b, held, w⟩ := st
  cases b with
  | done => cases h
  | offer _ => cases h
  | raise _ => cases h
  | finishCapture next => cases held <;> (cases h; rfl)
  | _ => cases h; rfl

/-- At its end a behaviour gives its capture up. -/
theorem result_end (h : st.next? importer = none) :
    (st.result importer).2 = (Behaviour.release st.held st.world).2 := by
  obtain ⟨b, held, w⟩ := st
  cases b with
  | done => rw [result, Behaviour.perform_done]
  | offer _ => rw [result, Behaviour.perform_offer]
  | raise _ => rw [result, Behaviour.perform_raise]
  | finishCapture next => cases held <;> cases h
  | _ => cases h

/-- **Induction on what is yet to be done.** -/
theorem induction {P : Stage σ ω → Prop} (importer : String → Run σ ω Signal Unit)
    (ended : ∀ st, st.next? importer = none → P st)
    (step : ∀ st st', st.next? importer = some st' → P st' → P st) (st : Stage σ ω) : P st := by
  obtain ⟨b, held, w⟩ := st
  induction b generalizing held w with
  | done => exact ended _ rfl
  | offer _ => exact ended _ rfl
  | raise _ => exact ended _ rfl
  | finishCapture next ih => cases held <;> exact step _ _ rfl (ih _ _ _)
  | write _ _ ih | flush _ ih | load _ _ ih | beginCapture _ ih | look _ ih =>
    exact step _ _ rfl (ih _ _ _)
  | change _ _ ih | interrupt _ ih | note _ _ ih | complain _ _ ih => exact step _ _ rfl (ih _ _)

/-! ### Tables of units -/

omit [Sink ω] in
theorem silent_modules (t : ModuleTable) :
    Run.Silent fun w : World σ ω => w.modules = t :=
  ⟨fun _ _ h => h, fun _ _ h => h, fun _ _ h => h⟩

omit [Sink ω] in
theorem modules_release (held : Bool) (w : World σ ω) :
    (Behaviour.release held w : Except Signal Unit × World σ ω).2.modules = w.modules :=
  Behaviour.keeps_release (silent_modules _) held w rfl

theorem modules_beginCapture (w : World σ ω) : (Run.beginCapture w).2.modules = w.modules :=
  Behaviour.keeps_beginCapture (silent_modules _) w rfl

/-- **What a step does to the table of units**: something only if the behaviour asks for a unit. -/
theorem next_cases (h : st.next? importer = some st') :
    (∃ name next, st.rest = .load name next ∧ st'.world = (importer name st.world).2) ∨
      (∀ name next, st.rest ≠ .load name next) ∧ st'.world.modules = st.world.modules := by
  obtain ⟨b, held, w⟩ := st
  cases b with
  | load name next =>
    cases h
    exact Or.inl ⟨name, next, rfl, rfl⟩
  | done => cases h
  | offer _ => cases h
  | raise _ => cases h
  | beginCapture next =>
    cases h
    exact Or.inr ⟨by simp, modules_beginCapture w⟩
  | finishCapture next => cases held <;> (cases h; exact Or.inr ⟨by simp, rfl⟩)
  | _ =>
    cases h
    exact Or.inr ⟨by simp, rfl⟩

/-! ### Units asked for -/

/-- **The behaviour asks for a name** in a world, now or later. -/
inductive Asks (importer : String → Run σ ω Signal Unit) :
    Stage σ ω → String → World σ ω → Prop where
  | now {next : Option Signal → Behaviour σ} {held : Bool} {name : String} {w : World σ ω} :
    Asks importer ⟨.load name next, held, w⟩ name w
  | later {st st' : Stage σ ω} {name : String} {w : World σ ω} :
    st.next? importer = some st' → Asks importer st' name w → Asks importer st name w

theorem not_asks (h : st.next? importer = none) : ¬ st.Asks importer name w := by
  intro ha
  cases ha with
  | now => cases h
  | later hn _ =>
    rw [h] at hn
    cases hn

theorem asks_iff (h : st.next? importer = some st') : st.Asks importer name w ↔
    (∃ next, st.rest = .load name next ∧ w = st.world) ∨ st'.Asks importer name w := by
  constructor
  · intro ha
    cases ha with
    | @now next => exact Or.inl ⟨next, rfl, rfl⟩
    | later hn ha =>
      rw [h] at hn
      cases hn
      exact Or.inr ha
  · rintro (⟨next, hrest, rfl⟩ | ha)
    · obtain ⟨b, held, w⟩ := st
      cases hrest
      exact .now
    · exact .later h ha

/-- **The table of units changes by what is asked for**, and by nothing else. -/
theorem evolves_result {S : String → World σ ω → UnitId → Prop}
    (himp : ∀ name (w : World σ ω), w.modules.Evolves (S name w) (importer name w).2.modules)
    (st : Stage σ ω) :
    st.world.modules.Evolves (fun u => ∃ name w, st.Asks importer name w ∧ S name w u)
      (st.result importer).2.modules := by
  induction st using induction importer with
  | ended st h =>
    rw [result_end h, modules_release]
    refine .refl fun u => ?_
    rintro ⟨name, w, ha, -⟩
    exact not_asks h ha
  | step st st' h ih =>
    rw [result_next h]
    rcases next_cases h with ⟨name, next, hrest, hworld⟩ | ⟨hrest, hmodules⟩
    · have hload := himp name st.world
      rw [← hworld] at hload
      refine (hload.trans ih).congr fun u => ⟨?_, ?_⟩
      · rintro ⟨n, v, ha, hu⟩
        rcases (asks_iff h).mp ha with ⟨_, hn, rfl⟩ | ha
        · cases hrest.symm.trans hn
          exact Or.inl hu
        · exact Or.inr ⟨n, v, ha, hu⟩
      · rintro (hu | ⟨n, v, ha, hu⟩)
        · exact ⟨name, st.world, (asks_iff h).mpr (Or.inl ⟨next, hrest, rfl⟩), hu⟩
        · exact ⟨n, v, (asks_iff h).mpr (Or.inr ha), hu⟩
    · rw [← hmodules]
      refine ih.congr fun u => ⟨?_, ?_⟩
      · rintro ⟨n, v, ha, hu⟩
        rcases (asks_iff h).mp ha with ⟨next, hn, -⟩ | ha
        · exact absurd hn (hrest n next)
        · exact ⟨n, v, ha, hu⟩
      · rintro ⟨n, v, ha, hu⟩
        exact ⟨n, v, (asks_iff h).mpr (Or.inr ha), hu⟩

/-- When a name is asked for, the table has grown by the units asked for before. -/
theorem Asks.grows {P : UnitId → Prop}
    (himp : ∀ name (w : World σ ω), w.modules.Grows P (importer name w).2.modules)
    (h : st.Asks importer name w) : st.world.modules.Grows P w.modules := by
  induction h with
  | now => exact .of_entries_eq rfl
  | later hn _ ih =>
    refine ModuleTable.Grows.trans ?_ ih
    rcases next_cases hn with ⟨name, next, -, hworld⟩ | ⟨-, hmodules⟩
    · rw [hworld]
      exact himp name _
    · rw [hmodules]
      exact .of_entries_eq rfl

end Stage

/-! ### What units maintain -/

section Maintained
variable {P : σ → Prop}

/-- **A behaviour maintains a property** of what lies around the run. -/
def Behaviour.Maintains (P : σ → Prop) : Behaviour σ → Prop
  | done | raise _ => True
  | offer entry => entry.Maintains P
  | write _ next => ∀ r, (next r).Maintains P
  | flush next => ∀ r, (next r).Maintains P
  | load _ next => ∀ r, (next r).Maintains P
  | beginCapture next => ∀ r, (next r).Maintains P
  | finishCapture next => ∀ bs, (next bs).Maintains P
  | look next => ∀ host, P host → (next host).Maintains P
  | change host next => P host ∧ next.Maintains P
  | interrupt next => next.Maintains P
  | note _ next => next.Maintains P
  | complain _ next => next.Maintains P

/-- **A loader maintains a property** of what lies around the run: the search for a unit does not
lose it, nor do the units that are found. -/
structure Loader.Maintains (l : Loader σ) (P : σ → Prop) : Prop where
  search : ∀ u host, P host → P (l.load u host).2
  units : l.Units (Behaviour.Maintains P)

/-- The property holds of what lies around the run. -/
def World.Has (P : σ → Prop) (w : World σ ω) : Prop := P w.host

theorem World.silent_has : Run.Silent (World.Has (ω := ω) P) :=
  ⟨fun _ _ h => h, fun _ _ h => h, fun _ _ h => h⟩

variable [Sink ω]

namespace Stage

variable {importer : String → Run σ ω Signal Unit} {st st' : Stage σ ω}

/-- **No step loses what the behaviour maintains.** -/
theorem maintains_next (himp : ∀ name, Run.Keeps (World.Has P) (importer name))
    (h : st.next? importer = some st') (hb : st.rest.Maintains P) (hw : st.world.Has P) :
    st'.rest.Maintains P ∧ st'.world.Has P := by
  obtain ⟨b, held, w⟩ := st
  cases b with
  | done => cases h
  | offer _ => cases h
  | raise _ => cases h
  | load name next =>
    cases h
    exact ⟨hb _, himp name w hw⟩
  | beginCapture next =>
    cases h
    exact ⟨hb _, Behaviour.keeps_beginCapture World.silent_has w hw⟩
  | finishCapture next => cases held <;> (cases h; exact ⟨hb _, hw⟩)
  | look next =>
    cases h
    exact ⟨hb _ hw, hw⟩
  | change host next =>
    cases h
    exact ⟨hb.2, hb.1⟩
  | interrupt _ | note _ _ | complain _ _ =>
    cases h
    exact ⟨hb, hw⟩
  | _ =>
    cases h
    exact ⟨hb _, hw⟩

/-- **A behaviour keeps what it maintains**, and so does the entry point that it offers. -/
theorem maintains_result (himp : ∀ name, Run.Keeps (World.Has P) (importer name))
    (st : Stage σ ω) (hb : st.rest.Maintains P) (hw : st.world.Has P) :
    (st.result importer).2.Has P ∧
      ∀ entry, (st.result importer).1 = .ok (some entry) → entry.Maintains P := by
  induction st using induction importer with
  | ended st h =>
    refine ⟨?_, fun entry he => ?_⟩
    · rw [result_end h]
      exact Behaviour.keeps_release World.silent_has _ _ hw
    · obtain ⟨b, held, w⟩ := st
      cases b with
      | done => simp [result, Behaviour.perform_done] at he
      | raise _ => simp [result, Behaviour.perform_raise] at he
      | offer _ =>
        rw [result, Behaviour.perform_offer] at he
        cases he
        exact hb
      | finishCapture next => cases held <;> cases h
      | _ => cases h
  | step st st' h ih =>
    obtain ⟨hb', hw'⟩ := maintains_next himp h hb hw
    rw [result_next h]
    exact ih hb' hw'

end Stage

/-- **The load of a test keeps what the units maintain.** -/
theorem Loader.Maintains.keeps_loadAndRun {s : Surroundings σ} (hl : s.loader.Maintains P)
    (u : UnitId) : Run.Keeps (World.Has P) (s.loadAndRun u : Run σ ω Signal Unit) :=
  Surroundings.keeps_loadAndRun_of_perform (I := fun _ : Unit => World.Has P)
    (fun _ _ _ h => h) (fun _ _ _ h => h) (fun _ u w hw => hl.search u w.host hw) hl.units
    (fun _ himp k b hb w hw => (Stage.maintains_result (himp k) ⟨b, false, w⟩ hb hw).1)
    (fun _ himp k b hb w hw => (Stage.maintains_result (himp k) ⟨b, false, w⟩ hb hw).2) u ()

end Maintained

end Golden
