import Golden.Proofs.Unit.Requests
import Golden.Proofs.Unit.Written

/-! # A test, moment by moment

While a test is loaded and run, units wait for the units that they load. A course is the innermost
of the units under way, at its stage, with those that wait for it (`Course`). It goes on step by
step (`Course.next`), without calling itself, until the test is over (`Moment`). Loads may be
limited in how deep they nest, or not.

* `Surroundings.after_eq_ended`: limited as the loader says, the steps come to an end, which is the
  one that the load of the test leads to.
* `Course.next_cases`, `Course.ask_cases`, `Course.conclude_cases`: what a step can lead to.
* `Moment.move_next`: what a step does to the table of units.
* `Surroundings.orderly_after`: the table is in order at every moment.
* `Surroundings.captured_after`: a capture keeps what was written up to a moment, step by step. -/

namespace Golden

variable {σ ω : Type}

/-! ### Courses -/

/-- A unit that waits for the load of another one. It learns how that ended, and goes on. -/
structure Waiting (σ : Type) where
  unit : UnitId
  next : Option Signal → Behaviour σ
  held : Bool

/-- **A test under way**: the innermost unit at its stage, the units that wait, innermost first, and
whether the outermost one has come to its entry point. -/
structure Course (σ ω : Type) where
  unit : UnitId
  stage : Stage σ ω
  waiting : List (Waiting σ)
  entered : Bool

/-- A moment of a test, or its end. -/
inductive Moment (σ ω : Type) where
  | underWay (c : Course σ ω)
  | ended (result : Except Signal Unit) (world : World σ ω)

namespace Course

/-- All units under way, innermost first. -/
def units (c : Course σ ω) : List UnitId := c.unit :: c.waiting.map Waiting.unit

/-- The innermost unit learns how a load has ended, and goes on. -/
def resume (c : Course σ ω) (next : Option Signal → Behaviour σ) (failure : Option Signal)
    (w : World σ ω) : Course σ ω :=
  { c with stage := ⟨next failure, c.stage.held, w⟩ }

/-- The innermost unit asks for another one. It goes on at once if that is loaded or being loaded,
or is not found, or would be nested too deep. Otherwise it waits. -/
def ask (s : Surroundings σ) (limit : Option Nat) (c : Course σ ω) (name : String)
    (next : Option Signal → Behaviour σ) : Course σ ω :=
  let w := c.stage.world
  let v : UnitId := ⟨name, c.unit.root⟩
  if w.modules.contains name || w.modules.isLoading name then c.resume next none w
  else if ∀ n ∈ limit, c.waiting.length < n then
    match (s.loader.load v w.host).1 with
    | .error e => c.resume next (some e) { w with host := (s.loader.load v w.host).2 }
    | .ok t => { c with
        unit := v
        stage := s.opening v t w
        waiting := ⟨c.unit, next, c.stage.held⟩ :: c.waiting }
  else
    c.resume next
      (some (.fault "import error" ("imports nest too deep at " ++ name) none)) w

/-- The innermost unit has come to its end. The next one goes on, or the test has an entry point to
run, or it is over. -/
def conclude (c : Course σ ω) (w : World σ ω) : Except Signal (Option (Behaviour σ)) → Moment σ ω
  | .error e =>
    let w := { w with modules := w.modules.endLoading c.unit false }
    match c.waiting with
    | f :: fs => .underWay { c with
        unit := f.unit
        stage := ⟨f.next (some e), f.held, w⟩
        waiting := fs }
    | [] => .ended (.error e) w
  | .ok entry =>
    let v := { w with modules := w.modules.endLoading c.unit true }
    match c.waiting, entry with
    | f :: fs, _ => .underWay { c with
        unit := f.unit
        stage := ⟨f.next none, f.held,
          { v with trail := v.trail ++ [.event (.imported f.unit.name c.unit.name)] }⟩
        waiting := fs }
    | [], none => .ended (.ok ()) v
    | [], some entry =>
      if c.entered then .ended (.ok ()) v
      else .underWay { c with stage := ⟨entry, false, w⟩, entered := true }

variable [Sink ω]

/-- **The next moment.** -/
def next (s : Surroundings σ) (limit : Option Nat) (c : Course σ ω) : Moment σ ω :=
  match c.stage.rest with
  | .load name next => .underWay (c.ask s limit name next)
  | _ =>
    -- no unit is asked for, so that it does not matter what would come of it
    let importer (_ : String) : Run σ ω Signal Unit := pure ()
    match c.stage.next? importer with
    | some stage => .underWay { c with stage }
    | none => c.conclude (c.stage.result importer).2 (c.stage.result importer).1

end Course

namespace Moment

/-- The units under way, innermost first. -/
def units : Moment σ ω → List UnitId
  | underWay c => c.units
  | ended _ _ => []

/-- The world at the moment. -/
def world : Moment σ ω → World σ ω
  | underWay c => c.stage.world
  | ended _ w => w

/-- The next moment, if there is one. -/
def next [Sink ω] (s : Surroundings σ) (limit : Option Nat) : Moment σ ω → Moment σ ω
  | underWay c => c.next s limit
  | ended result w => ended result w

/-- What the innermost unit writes in the step that begins at the moment. -/
def writes : Moment σ ω → Bytes
  | underWay c => c.stage.uttered fun _ _ => []
  | ended _ _ => []

end Moment

namespace Surroundings

/-- The first moment of a test. If the unit is not found, the test is over. -/
def begin (s : Surroundings σ) (u : UnitId) (w : World σ ω) : Moment σ ω :=
  match (s.loader.load u w.host).1 with
  | .error e => .ended (.error e) { w with host := (s.loader.load u w.host).2 }
  | .ok t => .underWay ⟨u, s.opening u t w, [], false⟩

/-- **The moment of a test after so many steps.** -/
def after [Sink ω] (s : Surroundings σ) (limit : Option Nat) (u : UnitId) (w : World σ ω) :
    Nat → Moment σ ω
  | 0 => s.begin u w
  | n + 1 => (s.after limit u w n).next s limit

end Surroundings

variable [Sink ω] {s : Surroundings σ} {limit : Option Nat}

/-! ### Steps -/

namespace Stage

variable {importer importer' : String → Run σ ω Signal Unit} {st : Stage σ ω}

/-- Only a behaviour that asks for a unit depends on what comes of that. -/
theorem next?_congr (h : ∀ name next, st.rest ≠ .load name next) :
    st.next? importer = st.next? importer' := by
  obtain ⟨b, held, w⟩ := st
  cases b with
  | load name next => exact absurd rfl (h name next)
  | finishCapture next => cases held <;> rfl
  | _ => rfl

theorem result_congr (h : st.next? importer = none) :
    st.result importer = st.result importer' := by
  obtain ⟨b, held, w⟩ := st
  cases b with
  | done | offer _ | raise _ => rfl
  | finishCapture next => cases held <;> cases h
  | _ => cases h

end Stage

namespace Course

variable {c : Course σ ω} {importer : String → Run σ ω Signal Unit}

/-- **The innermost unit asks for another one, or takes a step, or has come to its end.** What an
importer gives matters in the first case only. -/
theorem next_cases (s : Surroundings σ) (limit : Option Nat) (c : Course σ ω)
    (importer : String → Run σ ω Signal Unit) :
    (∃ name next, c.stage.rest = .load name next ∧
      c.next s limit = .underWay (c.ask s limit name next)) ∨
    (∃ stage, (∀ name next, c.stage.rest ≠ .load name next) ∧
      c.stage.next? importer = some stage ∧ c.next s limit = .underWay { c with stage }) ∨
    (c.stage.next? importer = none ∧ c.next s limit =
      c.conclude (c.stage.result importer).2 (c.stage.result importer).1) := by
  by_cases hload : ∃ name next, c.stage.rest = .load name next
  · obtain ⟨name, next, hrest⟩ := hload
    refine Or.inl ⟨name, next, hrest, ?_⟩
    rw [Course.next, hrest]
  have hrest (name : String) (next : Option Signal → Behaviour σ) :
      c.stage.rest ≠ .load name next := fun h => hload ⟨name, next, h⟩
  have hsame : c.stage.next? importer = c.stage.next? fun _ => pure () := Stage.next?_congr hrest
  have hnext : c.next s limit = match c.stage.next? importer with
      | some stage => .underWay { c with stage }
      | none => c.conclude (c.stage.result importer).2 (c.stage.result importer).1 := by
    rw [Course.next]
    split
    · exact absurd ‹_› (hrest _ _)
    · dsimp only
      rw [← hsame]
      cases hn : c.stage.next? importer with
      | some stage => rfl
      | none => rw [Stage.result_congr hn]
  cases hn : c.stage.next? importer with
  | some stage =>
    rw [hn] at hnext
    exact Or.inr (Or.inl ⟨stage, hrest, rfl, hnext⟩)
  | none =>
    rw [hn] at hnext
    exact Or.inr (Or.inr ⟨rfl, hnext⟩)

theorem next_of_load {name : String} {next : Option Signal → Behaviour σ}
    (h : c.stage.rest = .load name next) :
    c.next s limit = .underWay (c.ask s limit name next) := by
  rw [Course.next, h]

theorem next_of_end (h : c.stage.next? importer = none) : c.next s limit =
    c.conclude (c.stage.result importer).2 (c.stage.result importer).1 := by
  rcases c.next_cases s limit importer with
    ⟨name, next, hrest, -⟩ | ⟨_, -, hn, -⟩ | ⟨-, hnext⟩
  · obtain ⟨u, ⟨b, held, w⟩, waiting, entered⟩ := c
    cases hrest
    cases h
  · cases h.symm.trans hn
  · exact hnext

/-! ### Requests and ends -/

section Cases
omit [Sink ω]

variable {name : String} {next : Option Signal → Behaviour σ}

theorem ask_of_known
    (h : (c.stage.world.modules.contains name || c.stage.world.modules.isLoading name) = true) :
    c.ask s limit name next = c.resume next none c.stage.world :=
  if_pos h

section Unknown
variable (h : c.stage.world.modules.Unknown name)
include h

theorem ask_of_refused (hlimit : ¬ ∀ n ∈ limit, c.waiting.length < n) :
    c.ask s limit name next = c.resume next
      (some (.fault "import error" ("imports nest too deep at " ++ name) none)) c.stage.world := by
  rw [ask, if_neg (ModuleTable.unknown_iff.mp h), if_neg hlimit]

variable (hlimit : ∀ n ∈ limit, c.waiting.length < n)
include hlimit

theorem ask_of_error {e : Signal}
    (he : (s.loader.load ⟨name, c.unit.root⟩ c.stage.world.host).1 = .error e) :
    c.ask s limit name next = c.resume next (some e) { c.stage.world with
      host := (s.loader.load ⟨name, c.unit.root⟩ c.stage.world.host).2 } := by
  rw [ask, if_neg (ModuleTable.unknown_iff.mp h), if_pos hlimit, he]

theorem ask_of_found {t : TestUnit σ}
    (ht : (s.loader.load ⟨name, c.unit.root⟩ c.stage.world.host).1 = .ok t) :
    c.ask s limit name next = { c with
      unit := ⟨name, c.unit.root⟩
      stage := s.opening ⟨name, c.unit.root⟩ t c.stage.world
      waiting := ⟨c.unit, next, c.stage.held⟩ :: c.waiting } := by
  rw [ask, if_neg (ModuleTable.unknown_iff.mp h), if_pos hlimit, ht]

end Unknown

/-- **What a request can lead to**: the unit goes on at once, or the load of another one begins. -/
theorem ask_cases (s : Surroundings σ) (limit : Option Nat) (c : Course σ ω) (name : String)
    (next : Option Signal → Behaviour σ) :
    (∃ failure w, c.ask s limit name next = c.resume next failure w ∧
      w.modules = c.stage.world.modules ∧ w.stream = c.stage.world.stream) ∨
    ∃ t, c.stage.world.modules.Unknown name ∧
      (s.loader.load ⟨name, c.unit.root⟩ c.stage.world.host).1 = .ok t ∧
      c.ask s limit name next = { c with
        unit := ⟨name, c.unit.root⟩
        stage := s.opening ⟨name, c.unit.root⟩ t c.stage.world
        waiting := ⟨c.unit, next, c.stage.held⟩ :: c.waiting } := by
  by_cases h : c.stage.world.modules.Unknown name
  · by_cases hlimit : ∀ n ∈ limit, c.waiting.length < n
    · cases ht : (s.loader.load ⟨name, c.unit.root⟩ c.stage.world.host).1 with
      | error e => exact Or.inl ⟨_, _, ask_of_error h hlimit ht, rfl, rfl⟩
      | ok t => exact Or.inr ⟨t, h, rfl, ask_of_found h hlimit ht⟩
    · exact Or.inl ⟨_, _, ask_of_refused h hlimit, rfl, rfl⟩
  · exact Or.inl ⟨_, _, ask_of_known (not_not.mp (mt ModuleTable.unknown_iff.mpr h)), rfl, rfl⟩

/-- **What the end of a unit can lead to**: the next one goes on, or the test is over, or has an
entry point to run. -/
theorem conclude_cases (c : Course σ ω) (w : World σ ω)
    (result : Except Signal (Option (Behaviour σ))) :
    (∃ f fs failure v ok, c.waiting = f :: fs ∧
      c.conclude w result = .underWay { c with
        unit := f.unit
        stage := ⟨f.next failure, f.held, v⟩
        waiting := fs } ∧
      v.modules = w.modules.endLoading c.unit ok ∧ v.stream = w.stream) ∨
    (∃ end? v ok, c.waiting = [] ∧ c.conclude w result = .ended end? v ∧
      v.modules = w.modules.endLoading c.unit ok ∧ v.stream = w.stream) ∨
    ∃ entry, c.waiting = [] ∧
      c.conclude w result = .underWay { c with stage := ⟨entry, false, w⟩, entered := true } := by
  obtain ⟨u, st, waiting, entered⟩ := c
  rcases result with e | entry
  · rcases waiting with _ | ⟨f, fs⟩
    · exact Or.inr (Or.inl ⟨_, _, false, rfl, rfl, rfl, rfl⟩)
    · exact Or.inl ⟨f, fs, _, _, false, rfl, rfl, rfl, rfl⟩
  · rcases waiting with _ | ⟨f, fs⟩
    · cases entry with
      | none => exact Or.inr (Or.inl ⟨_, _, true, rfl, rfl, rfl, rfl⟩)
      | some entry =>
        cases entered
        · exact Or.inr (Or.inr ⟨entry, rfl, rfl⟩)
        · exact Or.inr (Or.inl ⟨_, _, true, rfl, rfl, rfl, rfl⟩)
    · exact Or.inl ⟨f, fs, _, _, true, rfl, rfl, rfl, rfl⟩

end Cases

/-! ### Tables of units -/

open ModuleTable (Move)

omit [Sink ω] in
/-- **What a request does to the table**: nothing, unless it leads to a load. -/
theorem move_ask (c : Course σ ω) (name : String) (next : Option Signal → Behaviour σ) :
    Move c.units c.stage.world.modules (c.ask s limit name next).units
      (c.ask s limit name next).stage.world.modules := by
  rcases c.ask_cases s limit name next with ⟨failure, w, hask, hmodules, -⟩ | ⟨t, hnew, -, hask⟩
  · rw [hask, ← hmodules]
    exact .stay
  · rw [hask]
    exact .began hnew

omit [Sink ω] in
/-- **What the end of a unit does to the table**: its load ends, unless it is a test that has an
entry point to run. -/
theorem move_conclude (c : Course σ ω) (w : World σ ω)
    (result : Except Signal (Option (Behaviour σ))) :
    Move c.units w.modules (c.conclude w result).units (c.conclude w result).world.modules := by
  obtain ⟨u, st, waiting, entered⟩ := c
  rcases conclude_cases ⟨u, st, waiting, entered⟩ w result with
    ⟨f, fs, _, v, ok, rfl, hend, hmodules, -⟩ | ⟨_, v, ok, rfl, hend, hmodules, -⟩ |
      ⟨entry, -, hend⟩ <;> rw [hend]
  · exact hmodules ▸ .ended ok
  · exact hmodules ▸ .ended ok
  · exact .stay

end Course

namespace Moment

open ModuleTable (Move)

/-- **What a step does to the table of units.** -/
theorem move_next (s : Surroundings σ) (limit : Option Nat) (m : Moment σ ω) :
    Move m.units m.world.modules (m.next s limit).units (m.next s limit).world.modules := by
  cases m with
  | ended result w => exact .stay
  | underWay c =>
    change Move c.units c.stage.world.modules (c.next s limit).units (c.next s limit).world.modules
    rcases c.next_cases s limit fun _ => pure () with
      ⟨name, next, -, hnext⟩ | ⟨st, hrest, hn, hnext⟩ | ⟨hn, hnext⟩ <;> rw [hnext]
    · exact c.move_ask name next
    · rcases Stage.next_cases hn with ⟨name, next, h, -⟩ | ⟨-, hmodules⟩
      · exact absurd h (hrest name next)
      · change Move c.units _ c.units st.world.modules
        rw [hmodules]
        exact .stay
    · have hmodules : (c.stage.result fun _ => pure ()).2.modules = c.stage.world.modules := by
        rw [Stage.result_end hn, Stage.modules_release]
      rw [← hmodules]
      exact c.move_conclude _ _

end Moment

namespace Surroundings

variable {u v : UnitId} {w : World σ ω}

/-- **At every moment of a test the table is in order.** -/
theorem orderly_after (hw : w.modules.loading = []) (hu : u.name ∉ w.modules.names) (n : Nat) :
    w.modules.Orderly (s.after limit u w n).units (s.after limit u w n).world.modules := by
  induction n with
  | zero =>
    have hstart := ModuleTable.Orderly.start hw
    change w.modules.Orderly (s.begin u w).units (s.begin u w).world.modules
    unfold begin
    split
    · exact hstart
    · exact hstart.begins ⟨hu, by simp [hw]⟩
  | succ n ih => exact ih.move (Moment.move_next s limit _)

/-- A unit is under way only if the loader finds it. -/
theorem finds_next {m : Moment σ ω} (h : ∀ v ∈ m.units, s.loader.Finds v) :
    ∀ v ∈ (m.next s limit).units, s.loader.Finds v := by
  cases m with
  | ended result w => exact h
  | underWay c =>
    obtain ⟨u, st, waiting, entered⟩ := c
    have hwaiting : ∀ v ∈ waiting.map Waiting.unit, s.loader.Finds v :=
      fun v hv => h v (List.mem_cons_of_mem _ hv)
    change ∀ v ∈ (Course.next s limit ⟨u, st, waiting, entered⟩).units, _
    rcases Course.next_cases s limit ⟨u, st, waiting, entered⟩ fun _ => pure () with
      ⟨name, next, -, hnext⟩ | ⟨st', -, -, hnext⟩ | ⟨-, hnext⟩ <;> rw [hnext]
    · rcases Course.ask_cases s limit ⟨u, st, waiting, entered⟩ name next with
        ⟨_, _, hask, -, -⟩ | ⟨t, -, ht, hask⟩ <;> rw [hask]
      · exact h
      · exact List.forall_mem_cons.mpr ⟨⟨_, t, ht⟩, h⟩
    · exact h
    · rcases Course.conclude_cases ⟨u, st, waiting, entered⟩ (st.result fun _ => pure ()).2
          (st.result fun _ => pure ()).1 with
        ⟨f, fs, _, _, _, rfl, hend, -, -⟩ | ⟨_, _, _, -, hend, -, -⟩ |
          ⟨entry, -, hend⟩ <;> rw [hend]
      · exact hwaiting
      · exact fun v hv => nomatch hv
      · exact h

theorem finds_after (n : Nat) : ∀ v ∈ (s.after limit u w n).units, s.loader.Finds v := by
  induction n with
  | zero =>
    change ∀ v ∈ (s.begin u w).units, _
    unfold begin
    split
    · exact fun v hv => nomatch hv
    · exact List.forall_mem_cons.mpr ⟨⟨_, _, ‹_›⟩, fun v hv => nomatch hv⟩
  | succ n ih => exact finds_next ih

end Surroundings

/-! ### The end -/

namespace Course

open Relation

/-- The test comes from one course to another. -/
def Reaches (s : Surroundings σ) (limit : Option Nat) : Course σ ω → Course σ ω → Prop :=
  ReflTransGen fun c c' => c.next s limit = .underWay c'

variable {u : UnitId} {waiting : List (Waiting σ)} {entered : Bool}

/-- **The innermost unit comes to its end**, if it learns of every import what an importer gives. -/
theorem reaches_end {importer : String → Run σ ω Signal Unit}
    (himp : ∀ name next held w, Reaches s limit ⟨u, ⟨.load name next, held, w⟩, waiting, entered⟩
      ⟨u, ⟨next (Behaviour.failure? (importer name w).1), held, (importer name w).2⟩,
        waiting, entered⟩)
    (st : Stage σ ω) : ∃ st', Reaches s limit ⟨u, st, waiting, entered⟩ ⟨u, st', waiting, entered⟩ ∧
      st'.next? importer = none ∧ st'.result importer = st.result importer := by
  induction st using Stage.induction importer with
  | ended st h => exact ⟨st, .refl, h, rfl⟩
  | step st st' h ih =>
    obtain ⟨last, hreaches, hlast, hresult⟩ := ih
    refine ⟨last, ?_, hlast, hresult.trans (Stage.result_next h).symm⟩
    rcases next_cases s limit ⟨u, st, waiting, entered⟩ importer with
      ⟨name, next, hrest, -⟩ | ⟨_, -, hn, hnext⟩ | ⟨hn, -⟩
    · obtain ⟨b, held, w⟩ := st
      cases hrest
      cases h
      exact (himp name next held w).trans hreaches
    · cases h.symm.trans hn
      exact .head hnext hreaches
    · cases h.symm.trans hn

end Course

namespace Surroundings

open Behaviour (failure?)

variable {u : UnitId} {name : String} {w : World σ ω}

/-- What an import gives, in view of what comes of the unit that it loads. -/
theorem importing_opening {depth : Nat} {t : TestUnit σ} (hu : w.modules.Unknown name)
    (ht : (s.loader.load ⟨name, u.root⟩ w.host).1 = .ok t) :
    s.importing (depth + 1) u name w =
      match (s.opening ⟨name, u.root⟩ t w).result (s.importing depth ⟨name, u.root⟩) with
      | (.error e, v) =>
        (.error e, { v with modules := v.modules.endLoading ⟨name, u.root⟩ false })
      | (.ok _, v) => (.ok (), { v with
          modules := v.modules.endLoading ⟨name, u.root⟩ true
          trail := v.trail ++ [.event (.imported u.name name)] }) := by
  have hresult : (t (s.context ⟨name, u.root⟩)).perform (s.importing depth ⟨name, u.root⟩) false
      (s.opening ⟨name, u.root⟩ t w).world =
        (s.opening ⟨name, u.root⟩ t w).result (s.importing depth ⟨name, u.root⟩) := rfl
  rw [opening] at hresult
  rw [importing_found hu ht, Run.bind_apply, whileLoading_apply]
  dsimp only at hresult ⊢
  rw [hresult, opening]
  rcases Stage.result _ _ with ⟨_ | _, v⟩
  · rfl
  · rfl

/-- **A unit learns of every import what it gives**, where as many loads may nest as the limit and
the units that wait allow for. -/
theorem reaches_importing {n : Nat} : ∀ (depth : Nat) (u : UnitId) (name : String)
    (next : Option Signal → Behaviour σ) (held : Bool) (w : World σ ω)
    (waiting : List (Waiting σ)) (entered : Bool), waiting.length + depth = n →
    Course.Reaches s (some n) ⟨u, ⟨.load name next, held, w⟩, waiting, entered⟩
      ⟨u, ⟨next (failure? (s.importing depth u name w).1), held, (s.importing depth u name w).2⟩,
        waiting, entered⟩
  | depth, u, name, next, held, w, waiting, entered, hdepth => by
    set c : Course σ ω := ⟨u, ⟨.load name next, held, w⟩, waiting, entered⟩ with hc
    have hask : c.next s (some n) = .underWay (c.ask s (some n) name next) :=
      Course.next_of_load rfl
    -- if the unit goes on at once, one step is enough
    have hsingle {c' : Course σ ω} (h : c.ask s (some n) name next = c') :
        Course.Reaches s (some n) c c' := .single (hask.trans (congrArg Moment.underWay h))
    by_cases h : (w.modules.contains name || w.modules.isLoading name) = true
    · rw [importing_of_known s h]
      exact hsingle (Course.ask_of_known h)
    have hnew : c.stage.world.modules.Unknown name := ModuleTable.unknown_iff.mpr h
    cases depth with
    | zero =>
      rw [importing_zero s h]
      exact hsingle (Course.ask_of_refused hnew (by simp [hc, ← hdepth]))
    | succ depth =>
      have hlimit : ∀ m ∈ some n, c.waiting.length < m := by
        simp [hc]
        omega
      cases ht : (s.loader.load ⟨name, u.root⟩ w.host).1 with
      | error e =>
        rw [importing_succ s h, Run.bind_error ht]
        exact hsingle (Course.ask_of_error hnew hlimit ht)
      | ok t =>
        have hdepth' : ((⟨u, next, held⟩ : Waiting σ) :: waiting).length + depth = n := by
          rw [List.length_cons]
          omega
        -- the unit waits, the other one comes to its end, and the unit goes on
        have hnested (name' : String) (next' : Option Signal → Behaviour σ) (held' : Bool)
            (w' : World σ ω) := reaches_importing depth ⟨name, u.root⟩ name' next' held' w'
          (⟨u, next, held⟩ :: waiting) entered hdepth'
        obtain ⟨last, hreaches, hlast, hresult⟩ :=
          Course.reaches_end hnested (s.opening ⟨name, u.root⟩ t w)
        refine (hsingle (Course.ask_of_found hnew hlimit ht)).trans (hreaches.tail ?_)
        rw [importing_opening hnew ht, ← hresult, Course.next_of_end hlast]
        rcases last.result (s.importing depth ⟨name, u.root⟩) with ⟨_ | _, v⟩
        · rfl
        · rfl

/-- What the load of a test gives, in view of what the test comes to. -/
theorem loadAndRun_opening {t : TestUnit σ} (ht : (s.loader.load u w.host).1 = .ok t) :
    s.loadAndRun u w = match s.whole u t (s.opening u t w).world with
      | (.error e, v) => (.error e, { v with modules := v.modules.endLoading u false })
      | (.ok _, v) => (.ok (), { v with modules := v.modules.endLoading u true }) := by
  have hload : s.loadAndRun u w = (whileLoading u (s.whole u t) >>= fun _ =>
      Run.changeModules (·.insert u)) { w with host := (s.loader.load u w.host).2 } := by
    rw [loadAndRun_eq]
    exact Run.bind_ok ht _
  rw [hload, Run.bind_apply, whileLoading_apply, opening]
  dsimp only
  rcases s.whole u t _ with ⟨_ | _, v⟩ <;> rfl

theorem exists_after_of_reaches {c c' : Course σ ω} (h : c.Reaches s limit c')
    (hc : ∃ n, s.after limit u w n = .underWay c) : ∃ n, s.after limit u w n = .underWay c' := by
  induction h with
  | refl => exact hc
  | tail _ hnext ih =>
    obtain ⟨n, hn⟩ := ih
    refine ⟨n + 1, ?_⟩
    rw [after, hn]
    exact hnext

theorem after_of_end {n : Nat} {c : Course σ ω} {importer : String → Run σ ω Signal Unit}
    (hn : s.after limit u w n = .underWay c) (h : c.stage.next? importer = none) :
    s.after limit u w (n + 1) =
      c.conclude (c.stage.result importer).2 (c.stage.result importer).1 := by
  rw [after, hn]
  exact Course.next_of_end h

/-- **The steps come to an end**, which is the one that the load of the test leads to. -/
theorem after_eq_ended (s : Surroundings σ) (u : UnitId) (w : World σ ω) :
    ∃ n, s.after (some s.loader.nesting) u w n =
      .ended (s.loadAndRun u w).1 (s.loadAndRun u w).2 := by
  cases ht : (s.loader.load u w.host).1 with
  | error e =>
    refine ⟨0, ?_⟩
    rw [after, begin, ht, loadAndRun_eq, Run.bind_error ht]
    rfl
  | ok t =>
    have hbegin : ∃ n, s.after (some s.loader.nesting) u w n =
        .underWay ⟨u, s.opening u t w, [], false⟩ := ⟨0, by rw [after, begin, ht]⟩
    have himp (entered : Bool) (name : String) (next : Option Signal → Behaviour σ) (held : Bool)
        (v : World σ ω) := reaches_importing (s := s) s.loader.nesting u name next held v [] entered
      (Nat.zero_add _)
    obtain ⟨last, hreaches, hlast, hresult⟩ := Course.reaches_end (himp false) (s.opening u t w)
    obtain ⟨n, hn⟩ := exists_after_of_reaches hreaches hbegin
    have hnext := after_of_end hn hlast
    rw [loadAndRun_opening ht, whole_opening, ← hresult]
    rcases hend : last.result (s.importing s.loader.nesting u) with ⟨_ | _ | entry, v⟩ <;>
      rw [hend] at hnext
    · exact ⟨n + 1, hnext⟩
    · exact ⟨n + 1, hnext⟩
    · obtain ⟨last', hreaches', hlast', hresult'⟩ :=
        Course.reaches_end (himp true) ⟨entry, false, v⟩
      obtain ⟨m, hm⟩ := exists_after_of_reaches hreaches' ⟨n + 1, hnext⟩
      refine ⟨m + 1, (after_of_end hm hlast').trans ?_⟩
      dsimp only
      rw [← hresult']
      rcases last'.result (s.importing s.loader.nesting u) with ⟨_ | _ | _, x⟩ <;> rfl

end Surroundings

/-! ### Output -/

namespace Moment

/-- No unit under way holds a capture. -/
def Unheld : Moment σ ω → Prop
  | underWay c => c.stage.held = false ∧ ∀ f ∈ c.waiting, f.held = false
  | ended _ _ => True

/-- **A step adds to a capture what the innermost unit writes.** -/
theorem captured_next {m : Moment σ ω} {kept : Bytes} (hm : m.Unheld)
    (hkept : m.world.stream.captured = some kept) : (m.next s limit).Unheld ∧
      (m.next s limit).world.stream.captured = some (kept ++ m.writes) := by
  cases m with
  | ended result w => exact ⟨hm, hkept.trans (by rw [writes, List.append_nil])⟩
  | underWay c =>
    obtain ⟨u, st, waiting, entered⟩ := c
    obtain ⟨hheld, hwaiting⟩ : st.held = false ∧ ∀ f ∈ waiting, f.held = false := hm
    have hkept : st.world.stream.captured = some kept := hkept
    change (Course.next s limit ⟨u, st, waiting, entered⟩).Unheld ∧
      (Course.next s limit ⟨u, st, waiting, entered⟩).world.stream.captured =
        some (kept ++ st.uttered fun _ _ => [])
    rcases Course.next_cases s limit ⟨u, st, waiting, entered⟩ fun _ => pure () with
      ⟨name, next, hrest, hnext⟩ | ⟨st', -, hn, hnext⟩ | ⟨hn, hnext⟩ <;> rw [hnext]
    · have hutters : st.uttered (fun _ _ => []) = [] := by
        obtain ⟨b, held, w⟩ := st
        obtain rfl : b = .load name next := hrest
        rfl
      rw [hutters, List.append_nil]
      rcases Course.ask_cases s limit ⟨u, st, waiting, entered⟩ name next with
        ⟨_, _, hask, -, hstream⟩ | ⟨t, -, -, hask⟩ <;> rw [hask]
      · exact ⟨⟨hheld, hwaiting⟩, (congrArg Stream.captured hstream).trans hkept⟩
      · exact ⟨⟨rfl, List.forall_mem_cons.mpr ⟨hheld, hwaiting⟩⟩, hkept⟩
    · have himp (name : String) : Run.KeepsWritten (σ := σ) (ω := ω)
          (pure () : Run σ ω Signal Unit) fun _ => [] :=
        fun w kept hw => hw.trans (by rw [List.append_nil])
      obtain ⟨hheld', hkept'⟩ := Stage.captured_next himp hn hheld hkept
      exact ⟨⟨hheld', hwaiting⟩, hkept'⟩
    · have hworld : (st.result fun _ => pure ()).2 = st.world := by
        rw [Stage.result_end hn, hheld]
        rfl
      have hutters : st.uttered (fun _ _ => []) = [] := by
        obtain ⟨b, held, w⟩ := st
        cases b with
        | write _ _ => cases hn
        | _ => rfl
      rw [hworld, hutters, List.append_nil]
      rcases Course.conclude_cases ⟨u, st, waiting, entered⟩ st.world
          (st.result fun _ => pure ()).1 with
        ⟨f, fs, _, _, _, rfl, hend, -, hstream⟩ | ⟨_, _, _, -, hend, -, hstream⟩ |
          ⟨entry, -, hend⟩ <;> rw [hend]
      · obtain ⟨hf, hfs⟩ := List.forall_mem_cons.mp hwaiting
        exact ⟨⟨hf, hfs⟩, (congrArg Stream.captured hstream).trans hkept⟩
      · exact ⟨True.intro, (congrArg Stream.captured hstream).trans hkept⟩
      · exact ⟨⟨rfl, hwaiting⟩, hkept⟩

end Moment

/-- **A capture keeps what was written up to a moment**, step by step. -/
theorem Surroundings.captured_after (s : Surroundings σ) (limit : Option Nat) {u : UnitId}
    {w : World σ ω} {kept : Bytes} (hw : w.stream.captured = some kept) (n : Nat) :
    (s.after limit u w n).Unheld ∧ (s.after limit u w n).world.stream.captured =
      some (kept ++ (List.range n).flatMap fun i => (s.after limit u w i).writes) := by
  induction n with
  | zero =>
    rw [List.range_zero, List.flatMap_nil, List.append_nil, after, begin]
    split
    · exact ⟨True.intro, hw⟩
    · exact ⟨⟨rfl, fun _ hf => nomatch hf⟩, hw⟩
  | succ n ih =>
    rw [List.range_succ, List.flatMap_append, ← List.append_assoc, List.flatMap_singleton]
    exact Moment.captured_next ih.1 ih.2

end Golden
