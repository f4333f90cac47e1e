import Golden.Outcome
import Golden.UnitId

/-! # Results of a suite

The units that were run, sorted into good, bad and skipped ones. Failures and crashes are bad, and
only they make a run unsuccessful. -/

namespace Golden

/-- The result of a run. -/
structure SuiteResult where
  good : List UnitId
  bad : List UnitId
  skipped : List UnitId
  /-- The run was cut short. -/
  interrupted : Bool
  /-- There was more than one root. -/
  severalRoots : Bool
  deriving DecidableEq, Inhabited

namespace SuiteResult

/-- The result when no unit has run. -/
def empty (severalRoots : Bool) : SuiteResult := ⟨[], [], [], false, severalRoots⟩

/-- Adds the outcome of a unit. -/
def record (r : SuiteResult) (u : UnitId) : Outcome → SuiteResult
  | .passed => { r with good := r.good ++ [u] }
  | .failed _ | .crashed .. => { r with bad := r.bad ++ [u] }
  | .skipped _ => { r with skipped := r.skipped ++ [u] }

/-- Puts every list into ascending order. -/
def sorted (r : SuiteResult) : SuiteResult :=
  { r with good := UnitId.sort r.good, bad := UnitId.sort r.bad, skipped := UnitId.sort r.skipped }

/-- Whether no unit was bad. -/
def isSuccess (r : SuiteResult) : Bool := r.bad = []

/-- The exit code that tells the result. -/
def exitCode (r : SuiteResult) : Nat := if r.isSuccess then 0 else 1

end SuiteResult

end Golden
