/-! # Phases of a run

A run of a suite goes through six phases, one of them once for every test. It only moves forward
(`Phase.precedes`). -/

namespace Golden

/-- A stage of a run. -/
inductive Phase where
  /-- Checking the options and preparing the lists of names. -/
  | parsingOptions
  /-- Looking for roots and tests. -/
  | discovering
  /-- Running the test at a position. -/
  | running (index : Nat)
  /-- Sorting the results. -/
  | reconciling
  /-- Writing the summary and the memo. -/
  | reporting
  | done
  deriving DecidableEq, Inhabited

namespace Phase

/-- The position of a phase among the others. -/
def rank : Phase → Nat
  | parsingOptions => 0
  | discovering => 1
  | running _ => 2
  | reconciling => 3
  | reporting => 4
  | done => 5

/-- Whether a run may go from the first phase to the second. -/
def precedes : Phase → Phase → Bool
  | running i, running j => i < j
  | p, q => p.rank < q.rank

/-- The name of a phase. -/
def name : Phase → String
  | parsingOptions => "ParsingOptions"
  | discovering => "Discovering"
  | running i => "Running(" ++ toString i ++ ")"
  | reconciling => "Reconciling"
  | reporting => "Reporting"
  | done => "Done"

end Phase

end Golden
