/-! # Signals and outcomes

A unit that does not run to its end raises a signal. A run of a unit has an outcome, unless it is
interrupted. -/

namespace Golden

/-- Why a unit stopped before its end. -/
inductive Signal where
  /-- The unit could not be loaded. -/
  | loadFailure (reason : String)
  /-- The unit declined to run. -/
  | skip (reason : String)
  /-- The operator wants everything to stop. -/
  | interrupt
  /-- The unit reported a failure. -/
  | failure (reason : String)
  /-- Anything else. The trace is for verbose runs. -/
  | fault (kind value : String) (trace : Option String)
  deriving DecidableEq, Inhabited

namespace Signal

/-- A failed input or output operation, as a signal. -/
def ofIoError (reason : String) : Signal := .fault "I/O error" reason none

/-- The text of a signal. -/
def message : Signal → String
  | loadFailure reason => "load failure: " ++ reason
  | skip reason => "skip: " ++ reason
  | interrupt => "interrupt"
  | failure reason => "failure: " ++ reason
  | fault kind value _ => kind ++ ": " ++ value

end Signal

/-- How the run of a unit ended. -/
inductive Outcome where
  | passed
  | failed (reason : String)
  | crashed (kind value : String)
  | skipped (reason : String)
  deriving DecidableEq, Inhabited

end Golden
