import Golden.Behaviour
import Golden.ConfigError
import Golden.Diff.Report
import Golden.LeakDetector

/-! # Runs of a unit

A runner runs units one after the other. The output of a unit is captured and compared with what is
expected, or takes its place (`settle`), unless the run is verbose. Whatever becomes of a unit is
its outcome. Errors are only what keeps the whole run from going on: an interruption, and files or
streams that refuse (`RunError`). -/

namespace Golden

/-- What stops a whole run. -/
inductive RunError where
  | configuration (cause : ConfigError)
  | fileSystem (cause : FileSystemError)
  | capture (cause : CaptureError)
  | interrupted
  | io (reason : String)
  deriving DecidableEq, Inhabited

/-- The text of an error. -/
def RunError.message : RunError → String
  | configuration cause => cause.message
  | fileSystem cause => cause.message
  | capture cause => cause.message
  | interrupted => "interrupted by operator"
  | io reason => "i/o error: " ++ reason

/-- What is set for all runs of a runner. -/
structure Settings where
  verbose : Nat
  quiet : Bool
  generate : Bool
  resources : Resources
  painter : Painter
  deriving DecidableEq, Inhabited

/-- Runs units. -/
structure Runner (σ : Type) where
  loader : Loader σ
  settings : Settings
  detector : Option (LeakDetector σ)

namespace Runner

variable {σ ω : Type}

/-! ### Output of the runner -/

/-- Writes a line for the operator. -/
def say [Sink ω] (line : String) : Run σ ω RunError Unit :=
  Run.mapError .io (Run.write (utf8 (line ++ "\n")))

/-- Writes a text for the operator. -/
def sayText [Sink ω] (text : String) : Run σ ω RunError Unit :=
  Run.mapError .io (Run.write (utf8 text))

/-- Passes on what was written for the operator. -/
def flush [Sink ω] : Run σ ω RunError Unit := Run.mapError .io Run.flush

/-- The trace of a crash, indented, with a line feed at its end. -/
def indentedTrace (trace : String) : String :=
  let text := Text.indentFour trace
  if text.toList.getLast? = some '\n' then text else text ++ "\n"

/-! ### Running -/

/-- What the units under way may ask for. -/
def surroundings (r : Runner σ) : Surroundings σ :=
  ⟨r.loader, r.settings.verbose, r.settings.resources⟩

/-- Loads and runs a unit. Captured output begins with the name of the unit. -/
def loadAndRun [Sink ω] (r : Runner σ) (unit : UnitId) : Run σ ω Signal Unit := do
  if r.settings.verbose = 0 then
    Run.mapError .ofIoError (Run.write (utf8 unit.baseline))
  r.surroundings.loadAndRun unit

/-- Runs a unit. Returns how it ended, and its output if that was captured. -/
def execute [Sink ω] (r : Runner σ) (unit : UnitId) :
    Run σ ω RunError (Except Signal Unit × Option Bytes) := do
  if r.settings.verbose = 0 then
    Run.mapError .capture Run.beginCapture
    let result ← Run.observe (r.loadAndRun unit)
    let output ← Run.finishCapture
    return (result, some output)
  else
    let result ← Run.observe (r.loadAndRun unit)
    return (result, none)

/-- Writes the expected output of a unit. -/
def writeGolden [FileSystem σ] (unit : UnitId) (output : Bytes) : Run σ ω RunError Unit := do
  if let some directory := unit.goldenPath.parent? then
    Run.mapError .fileSystem (changeHost fun s => FileSystem.makeDirectories s directory)
  Run.mapError .fileSystem (changeHost fun s => FileSystem.write s unit.goldenPath output)
  Run.note (.wroteGolden unit.goldenPath)
where
  /-- Changes what lies around the run. -/
  changeHost (f : σ → Except FileSystemError Unit × σ) : Run σ ω FileSystemError Unit := fun w =>
    let (r, host) := f w.host
    (r, { w with host })

/-- Lets the output of a unit be what is expected from now on. Output that is expected anyhow needs
no file. -/
def generate [FileSystem σ] [Sink ω] (unit : UnitId) (output : Bytes) :
    Run σ ω RunError Outcome := do
  if output = utf8 unit.baseline then
    let host ← Run.host
    if FileSystem.has host unit.goldenPath then
      say ("output file " ++ unit.goldenPath.spelling ++
        " is no longer needed; consider removing it")
      writeGolden unit output
      return .passed
    else
      return .passed
  else
    writeGolden unit output
    return .passed

/-- The expected output of a unit. -/
def expected [FileSystem σ] (host : σ) (unit : UnitId) : Except FileSystemError Bytes :=
  match FileSystem.read host unit.goldenPath with
  | .error (.notFound _) => .ok (utf8 unit.baseline)
  | r => r

/-- Compares the output of a unit with what is expected. -/
def compare [FileSystem σ] [Sink ω] (r : Runner σ) (unit : UnitId) (output : Bytes) :
    Run σ ω RunError Outcome := do
  let host ← Run.host
  let golden ← Run.mapError .fileSystem (Run.ofResult (expected host unit))
  if output = golden then
    return .passed
  let painter := r.settings.painter
  say (painter.paint .failure ("test " ++ unit.name ++ " produced unexpected output:"))
  flush
  sayText (Diff.report painter (Utf8.decodeLossy golden) (Utf8.decodeLossy output))
  flush
  return .failed "produced unexpected output"

/-- The outcome of a unit that ended without a signal. -/
def settle [FileSystem σ] [Sink ω] (r : Runner σ) (unit : UnitId) :
    Option Bytes → Run σ ω RunError Outcome
  | none => return .passed
  | some output => if r.settings.generate then generate unit output else r.compare unit output

/-- The outcome of a unit that ended with a signal. -/
def report [Sink ω] (r : Runner σ) (unit : UnitId) : Signal → Run σ ω RunError Outcome
  | .loadFailure reason | .skip reason => do
    if !r.settings.quiet then
      say (unit.name ++ " skipped -- " ++ reason)
      flush
    return .skipped reason
  | .interrupt => throw .interrupted
  | .failure reason => do
    say (r.settings.painter.paint .failure ("test " ++ unit.name ++ " failed -- " ++ reason))
    flush
    return .failed reason
  | .fault kind value trace => do
    say (r.settings.painter.paint .failure
      ("test " ++ unit.name ++ " crashed -- " ++ kind ++ ": " ++ value))
    if r.settings.verbose ≠ 0 then
      if let some trace := trace then
        sayText (indentedTrace trace)
    flush
    return .crashed kind value

/-- Runs a unit and finds its outcome. -/
def classify [FileSystem σ] [Sink ω] (r : Runner σ) (unit : UnitId) : Run σ ω RunError Outcome := do
  match ← r.execute unit with
  | (.ok (), output) => r.settle unit output
  | (.error signal, _) => r.report unit signal

/-- Reports what was left behind. -/
def scan [Sink ω] (r : Runner σ) : Run σ ω RunError Unit := do
  if let some detector := r.detector then
    let found ← Run.update fun w =>
      let (found, host) := detector.detect w.host
      (found, { w with host })
    if detector.announces then
      found.forM fun item => Run.note (.leaked item)
    if found ≠ [] then
      say (r.settings.painter.paint .notice
        ("Warning: test created " ++ toString found.length ++ " uncollectable object(s)."))
      Run.update fun w => ((), { w with leaked := w.leaked ++ found })

/-- Runs a unit. What was loaded under its name before is forgotten, and the tests that it loads do
not stay loaded. Leftovers are looked for unless the run was interrupted. -/
def run [FileSystem σ] [Sink ω] (r : Runner σ) (unit : UnitId) : Run σ ω RunError Outcome := do
  Run.forget unit.name
  let before ← Run.update fun w => (w.modules.names, w)
  let outcome ← Run.observe (r.classify unit)
  unless outcome matches .error .interrupted do r.scan
  let unloaded ← Run.update fun w =>
    let (names, modules) := w.modules.unloadNew before
    (names, { w with modules })
  if unloaded ≠ [] then
    Run.note (.unloaded unloaded)
  if let .ok o := outcome then
    Run.note (.finished unit.name o)
  Run.ofResult outcome

end Runner

end Golden
