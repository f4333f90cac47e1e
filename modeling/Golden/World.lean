import Golden.Event
import Golden.ModuleTable
import Golden.Stream

/-! # The world of a run

All that a run can see and change is one value, the world. A `Run` is an action on it that returns a
value or fails; what it did to the world before it failed stays done. -/

namespace Golden

/-- What a run leaves behind for the operator besides its output: an event, or a text for standard
error. -/
inductive Trace where
  | event (e : Event)
  | errors (bs : Bytes)
  /-- The run of a suite has gone on to another phase. Units do not leave this. -/
  | phase (old new : Phase)
  deriving Inhabited

namespace Trace

/-- The event of a trace, if it is one. -/
def event? : Trace → Option Event
  | event e => some e
  | errors _ => none
  | phase old new => some (.phase old new)

/-- The change of phase that a trace is left by, if it is one. -/
def change? : Trace → Option (Phase × Phase)
  | phase old new => some (old, new)
  | event _ | errors _ => none

end Trace

/-- The state of a run: what lies around it (`host`), the output stream, the table of loaded units,
whether the operator has asked to stop, what was left behind, the phase, and the trail of events. -/
structure World (σ ω : Type) where
  host : σ
  stream : Stream ω
  modules : ModuleTable
  interrupt : Bool
  leaked : List String
  phase : Phase
  trail : List Trace

/-- The world in which a run begins. -/
def World.start {σ ω : Type} (host : σ) (sink : ω) : World σ ω :=
  { host, stream := .ofSink sink, modules := .empty, interrupt := false, leaked := [],
    phase := .parsingOptions, trail := [] }

/-- The events so far. -/
def World.log {σ ω : Type} (w : World σ ω) : List Event := w.trail.filterMap Trace.event?

/-- The changes of phase so far. -/
def World.changes {σ ω : Type} (w : World σ ω) : List (Phase × Phase) :=
  w.trail.filterMap Trace.change?

/-- An action on the world that may fail. -/
abbrev Run (σ ω ε α : Type) := ExceptT ε (StateM (World σ ω)) α

namespace Run

variable {σ ω ε ε' α : Type}

/-- An action that reads and changes the world and does not fail. -/
def update (f : World σ ω → α × World σ ω) : Run σ ω ε α := ExceptT.lift f

/-- Runs an action to its end, and returns the value or the failure. -/
def observe (x : Run σ ω ε α) : Run σ ω ε' (Except ε α) := ExceptT.lift x.run

/-- Renames the failures of an action. -/
def mapError (f : ε → ε') (x : Run σ ω ε α) : Run σ ω ε' α := ExceptT.adapt f x

/-- Takes a result as an action. -/
def ofResult (r : Except ε α) : Run σ ω ε α := ExceptT.mk (pure r)

/-- Leaves a trace. -/
def leave (t : Trace) : Run σ ω ε Unit := update fun w => ((), { w with trail := w.trail ++ [t] })

/-- Leaves an event on the trail. -/
def note (e : Event) : Run σ ω ε Unit := leave (.event e)

/-- Replaces what lies around the run. -/
def setHost (host : σ) : Run σ ω ε Unit := update fun w => ((), { w with host })

/-- Changes the table of loaded units. -/
def changeModules (f : ModuleTable → ModuleTable) : Run σ ω ε Unit :=
  update fun w => ((), { w with modules := f w.modules })

/-- Writes octets to the stream. -/
def write [Sink ω] (bs : Bytes) : Run σ ω String Unit := fun w =>
  let (r, stream) := w.stream.write bs
  (r, { w with stream })

/-- Flushes the stream. -/
def flush [Sink ω] : Run σ ω String Unit := fun w =>
  let (r, stream) := w.stream.flush
  (r, { w with stream })

/-- Begins a capture. -/
def beginCapture [Sink ω] : Run σ ω CaptureError Unit := do
  fun w =>
    let (r, stream) := w.stream.begin
    (r, { w with stream })
  note .captureStarted

/-- Ends the capture, and returns what it kept. -/
def finishCapture : Run σ ω ε Bytes := update fun w =>
  let (bs, stream) := w.stream.finish
  (bs, { w with stream })

/-- Gives a capture up. What it kept is lost. -/
def releaseCapture : Run σ ω ε Unit := do
  let capturing ← update fun w => (w.stream.isCapturing, w)
  if capturing then
    let _ ← finishCapture
    note .captureReleased

/-- The state around the run. -/
def host : Run σ ω ε σ := update fun w => (w.host, w)

/-- The table of loaded units. -/
def modules : Run σ ω ε ModuleTable := update fun w => (w.modules, w)

/-- Forgets a loaded unit, if it is one. -/
def forget (name : String) : Run σ ω ε Unit := do
  let table ← modules
  if table.contains name then
    changeModules (·.erase name)
    note (.forgot name)

end Run

end Golden
