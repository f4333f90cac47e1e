import Golden.Resource
import Golden.World

/-! # What test units do

A unit is told its surroundings (`Context`) and answers with a behaviour: a finite tree of the
things it does, each followed by what it does next, depending on how that went. Units may load other
units from their own root. A unit that is loaded already, or is being loaded, is not loaded again,
so that units may well load each other in a circle (`importing`). -/

namespace Golden

/-- What a unit is told about the run. -/
structure Context where
  verbose : Nat
  resources : Resources
  unit : UnitId
  deriving DecidableEq, Inhabited

/-- What a unit does. -/
inductive Behaviour (σ : Type) where
  /-- It has come to its end. -/
  | done
  /-- It has come to its end and has an entry point, for when it is run as a test. -/
  | offer (entry : Behaviour σ)
  /-- It stops. -/
  | raise (signal : Signal)
  /-- It writes, and learns whether that failed. -/
  | write (bs : Bytes) (next : Option String → Behaviour σ)
  /-- It flushes the stream, and learns whether that failed. -/
  | flush (next : Option String → Behaviour σ)
  /-- It loads another unit, and learns with which signal that ended. -/
  | load (name : String) (next : Option Signal → Behaviour σ)
  /-- It begins a capture, which lasts until its own end at most. -/
  | beginCapture (next : Option CaptureError → Behaviour σ)
  /-- It ends its capture, and gets what was kept. -/
  | finishCapture (next : Bytes → Behaviour σ)
  /-- It looks at what lies around the run. -/
  | look (next : σ → Behaviour σ)
  /-- It changes what lies around the run. -/
  | change (host : σ) (next : Behaviour σ)
  /-- It asks the run to stop. -/
  | interrupt (next : Behaviour σ)
  /-- It leaves an event on the trail. -/
  | note (event : Event) (next : Behaviour σ)
  /-- It writes to standard error. -/
  | complain (bs : Bytes) (next : Behaviour σ)

instance {σ : Type} : Inhabited (Behaviour σ) := ⟨.done⟩

/-- A unit that is ready to run. -/
abbrev TestUnit (σ : Type) := Context → Behaviour σ

/-- Finds units. Imports that nest deeper than `nesting` are refused. -/
structure Loader (σ : Type) where
  load : UnitId → σ → Except Signal (TestUnit σ) × σ
  nesting : Nat

namespace Behaviour

variable {σ ω : Type}

/-- Writes, and stops if that fails. -/
def writeOrRaise (bs : Bytes) (next : Behaviour σ) : Behaviour σ :=
  .write bs fun
    | none => next
    | some reason => .raise (.ofIoError reason)

/-- Writes a line, and stops if that fails. -/
def print (line : String) (next : Behaviour σ) : Behaviour σ :=
  writeOrRaise (utf8 (line ++ "\n")) next

/-- Loads another unit, and stops if that fails. -/
def require (name : String) (next : Behaviour σ) : Behaviour σ :=
  .load name fun
    | none => next
    | some signal => .raise signal

/-- Goes on if the check succeeds. -/
def check (result : Except Signal Unit) (next : Behaviour σ) : Behaviour σ :=
  match result with
  | .ok () => next
  | .error signal => .raise signal

/-- The failure of an action, if there was one. -/
def failure? {ε α : Type} : Except ε α → Option ε
  | .ok _ => none
  | .error e => some e

/-- Gives up the capture that a unit holds. -/
def release (held : Bool) : Run σ ω Signal Unit := if held then Run.releaseCapture else pure ()

/-- Does what a unit does, until its end, and returns the entry point that it offers. The units that
it loads are left to `importer`. A capture that it holds at its end is given up. -/
def perform [Sink ω] (importer : String → Run σ ω Signal Unit) :
    Behaviour σ → Bool → Run σ ω Signal (Option (Behaviour σ))
  | done, held => do
    release held
    return none
  | offer entry, held => do
    release held
    return some entry
  | raise signal, held => do
    release held
    throw signal
  | write bs next, held => do
    let r ← Run.observe (Run.write bs)
    (next (failure? r)).perform importer held
  | flush next, held => do
    let r ← Run.observe Run.flush
    (next (failure? r)).perform importer held
  | load name next, held => do
    let r ← Run.observe (importer name)
    (next (failure? r)).perform importer held
  | beginCapture next, held => do
    let r ← Run.observe Run.beginCapture
    (next (failure? r)).perform importer (held || (failure? r).isNone)
  | finishCapture next, held => do
    let bs ← if held then Run.finishCapture else pure []
    (next bs).perform importer false
  | look next, held => do
    let host ← Run.host
    (next host).perform importer held
  | change host next, held => do
    Run.setHost host
    next.perform importer held
  | interrupt next, held => do
    Run.update fun w => ((), { w with interrupt := true })
    next.perform importer held
  | note event next, held => do
    Run.note event
    next.perform importer held
  | complain bs next, held => do
    Run.leave (.errors bs)
    next.perform importer held

end Behaviour

/-! ### Loading -/

/-- What a unit under way may ask for. -/
structure Surroundings (σ : Type) where
  loader : Loader σ
  verbose : Nat
  resources : Resources

namespace Surroundings

variable {σ ω : Type}

/-- What the unit is told. -/
def context (s : Surroundings σ) (unit : UnitId) : Context := ⟨s.verbose, s.resources, unit⟩

/-- Asks the loader for a unit. -/
def find (s : Surroundings σ) (unit : UnitId) : Run σ ω Signal (TestUnit σ) := fun w =>
  let (r, host) := s.loader.load unit w.host
  (r, { w with host })

/-- Marks the unit as being loaded while the action lasts. -/
def whileLoading {α : Type} (unit : UnitId) (act : Run σ ω Signal α) : Run σ ω Signal α := do
  Run.changeModules (·.beginLoading unit)
  let r ← Run.observe act
  Run.changeModules (·.finishLoading unit r.isOk)
  Run.ofResult r

/-- Loads a unit for another one, from the root of the latter, unless it is loaded or being loaded.
At most `depth` loads may nest in each other. -/
def importing [Sink ω] (s : Surroundings σ) : Nat → UnitId → String → Run σ ω Signal Unit
  | 0, _, name => do
    let t ← Run.modules
    if t.contains name || t.isLoading name then return
    throw (.fault "import error" ("imports nest too deep at " ++ name) none)
  | depth + 1, importer, name => do
    let t ← Run.modules
    if t.contains name || t.isLoading name then return
    let unit : UnitId := ⟨name, importer.root⟩
    let found ← s.find unit
    let _ ← whileLoading unit ((found (s.context unit)).perform (s.importing depth unit) false)
    Run.note (.imported importer.name name)
    Run.changeModules (·.insert unit)

/-- Loads a unit in order to run it as a test, runs the entry point if it offers one, and notes that
it is loaded. -/
def loadAndRun [Sink ω] (s : Surroundings σ) (unit : UnitId) : Run σ ω Signal Unit := do
  let found ← s.find unit
  let importer := s.importing s.loader.nesting unit
  whileLoading unit do
    match ← (found (s.context unit)).perform importer false with
    | none => pure ()
    | some entry => let _ ← entry.perform importer false
  Run.changeModules (·.insert unit)

end Surroundings

end Golden
