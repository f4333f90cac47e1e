import Golden.Memo
import Golden.Runner
import Golden.Selection
import Golden.Shuffle
import Golden.Summary

/-! # Runs of a suite

A suite runs the selected tests in every root that has them (`runTests`), sorts the results, shows a
summary and saves a memo. It may be interrupted between two units. The phases of a run are left on
the trail of events. -/

namespace Golden

/-- A suite that is ready to run. -/
structure Suite (σ : Type) where
  options : Options
  config : SuiteConfig
  loader : Loader σ
  detector : Option (LeakDetector σ)
  /-- The seed of the random order if the operator has chosen none. -/
  entropy : Nat

/-- The selected tests, and where they are sought. -/
structure Plan where
  tests : List String
  roots : List Path
  oneOnly : List String
  /-- The tests were asked for by name. -/
  explicit : Bool
  deriving DecidableEq

/-- The units that have run with their outcomes, and whether the run was interrupted. -/
structure Tally where
  records : List (UnitId × Outcome)
  interrupted : Bool
  deriving DecidableEq, Inhabited

/-- The result of a tally. -/
def Tally.result (t : Tally) (severalRoots : Bool) : SuiteResult :=
  let r :=
    t.records.foldl (fun r p => SuiteResult.record r p.1 p.2) (SuiteResult.empty severalRoots)
  { r with interrupted := t.interrupted }

namespace Suite

variable {σ ω : Type}

/-- Goes on to another phase. -/
def advance {ε : Type} (next : Phase) : Run σ ω ε Unit := do
  let old ← Run.update fun w => (w.phase, { w with phase := next })
  Run.leave (.phase old next)

/-- The runner of a suite. -/
def runner (s : Suite σ) : Runner σ where
  loader := s.loader
  settings :=
    { verbose := s.options.verbose
      quiet := s.options.quiet
      generate := s.options.generate
      resources := s.options.resources
      painter := ⟨s.options.color⟩ }
  detector := if s.options.findLeaks then s.detector else none

/-! ### Selection -/

/-- The names given by the operator and by the configuration, without extensions. -/
def names (s : Suite σ) : Selection.Names :=
  let d := s.config.discovery
  let n : Selection.Names :=
    ⟨s.options.tests.map (Selection.stripExtension d.extension), d.standard, d.excluded⟩
  if s.options.exclude then Selection.applyExclusions n else n

/-- The tests to run: those named, or else all. -/
def select [FileSystem σ] (s : Suite σ) (roots : List Path) : Run σ ω RunError (List String) :=
  let n := s.names
  if n.named ≠ [] then return n.named
  else
    Run.mapError .fileSystem
      (Selection.allTests roots s.config.discovery.extension n.standard n.excluded)

/-- The order in which the tests run. -/
def order (s : Suite σ) (tests : List String) : Run σ ω RunError (List String) := do
  if s.options.randomize then
    let seed := UInt64.ofNat (s.options.seed.getD s.entropy)
    Run.note (.shuffled seed.toNat)
    return Shuffle.shuffle tests seed
  else
    return tests

/-- Finds out what is to be run. -/
def plan [FileSystem σ] (s : Suite σ) : Run σ ω RunError Plan := do
  let searchPath := s.config.discovery.searchPath
  let roots ← Selection.roots searchPath s.options.broad
  if roots = [] then
    Run.note (.noRoots searchPath)
  let tests ← s.select roots
  let tests ← s.order tests
  return {
    tests, roots
    oneOnly := s.options.oneOnly.map (Selection.stripExtension s.config.discovery.extension)
    explicit := s.names.named ≠ [] }

/-! ### Execution -/

/-- How a search for a test through the roots ended: whether it was found, and whether the run was
interrupted. -/
structure Visit where
  found : Bool
  interrupted : Bool
  deriving DecidableEq, Inhabited

/-- Runs a test in the given roots, as far as they have it. The units that ran are added to the
records. -/
def runIn [FileSystem σ] [Sink ω] (s : Suite σ) (name : String) :
    List Path → List (UnitId × Outcome) → Bool → Run σ ω RunError (List (UnitId × Outcome) × Visit)
  | [], records, found => return (records, ⟨found, false⟩)
  | root :: roots, records, found => do
    let stop ← Run.update fun w => (w.interrupt, w)
    if stop then
      return (records, ⟨found, true⟩)
    let host ← Run.host
    if FileSystem.has host (sourcePath root name s.config.discovery.extension) then
      if !s.options.quiet then
        Runner.say name
        Runner.flush
      let unit : UnitId := ⟨name, root⟩
      match ← Run.observe (s.runner.run unit) with
      | .ok outcome => s.runIn name roots (records ++ [(unit, outcome)]) true
      | .error .interrupted => return (records, ⟨true, true⟩)
      | .error e => throw e
    else
      s.runIn name roots records found

/-- The roots in which a test is sought. -/
def candidates (p : Plan) (name : String) : List Path :=
  if p.oneOnly.contains name then p.roots.take 1 else p.roots

/-- Runs tests, the first of which is at position `index`. -/
def runTests [FileSystem σ] [Sink ω] (s : Suite σ) (p : Plan) :
    Nat → List String → List (UnitId × Outcome) → Run σ ω RunError Tally
  | _, [], records => return ⟨records, false⟩
  | index, name :: names, records => do
    advance (.running index)
    let (records, visit) ← s.runIn name (candidates p name) records false
    if visit.interrupted then
      return ⟨records, true⟩
    if !visit.found then
      Run.note (.testNotFound name p.explicit)
    s.runTests p (index + 1) names records

/-! ### Reporting -/

/-- How the summary is written. -/
def manner (s : Suite σ) : Summary.Manner := ⟨s.options.verbose, s.options.quiet, ⟨s.options.color⟩⟩

/-- Saves a memo. -/
def saveMemo [FileSystem σ] (m : Memo) (path : Path) : Run σ ω RunError Unit := do
  Run.mapError .fileSystem fun w =>
    let (r, host) := FileSystem.write w.host path (utf8 m.render)
    (r, { w with host })
  Run.note (.savedMemo path)

/-- Runs a suite. -/
def run [FileSystem σ] [Sink ω] (s : Suite σ) : Run σ ω RunError SuiteResult := do
  Run.mapError .configuration (Run.ofResult s.options.validate)
  if s.options.findLeaks && s.detector.isNone then
    Runner.say "No leak detector available, disabling findleaks."
  advance .discovering
  let p ← s.plan
  let tally ← s.runTests p 0 p.tests []
  advance .reconciling
  let result := (tally.result (1 < p.roots.length)).sorted
  if result.interrupted then
    Run.note .interrupted
  advance .reporting
  Runner.sayText (Summary.text s.manner (.ofPlatform s.config.platform) result)
  Runner.flush
  if let some path := s.options.memo then
    saveMemo (.ofResult result) path
  advance .done
  return result

end Suite

end Golden
