import Golden.Check
import Golden.Main
import Golden.Registry
import Golden.Proofs.Action
import Golden.Proofs.Captures
import Golden.Proofs.Diff.Blocks
import Golden.Proofs.Diff.Difference
import Golden.Proofs.Discovery
import Golden.Proofs.Files
import Golden.Proofs.Memo
import Golden.Proofs.Order
import Golden.Proofs.Program
import Golden.Proofs.Runner.Containment
import Golden.Proofs.Runner.Generate
import Golden.Proofs.Runner.Isolation
import Golden.Proofs.Runner.Roots
import Golden.Proofs.Suite.AnyOrder
import Golden.Proofs.Suite.Exclusion
import Golden.Proofs.Suite.History
import Golden.Proofs.Suite.Interruption
import Golden.Proofs.Suite.Presentation
import Golden.Proofs.Suite.Saved
import Golden.Proofs.Suite.Turns
import Golden.Proofs.Unit.Frame
import Golden.Proofs.Unit.Written
import Golden.Proofs.Runner.Stored
import Golden.Proofs.Runner.Kept
import Golden.Proofs.Runner.Regenerate
import Golden.Proofs.Suite.Executed
import Golden.Proofs.Suite.Once
import Golden.Proofs.Suite.Broad
import Golden.Proofs.Diff.Alignment
import Golden.Proofs.Diff.Report
import Golden.Proofs.Diff.Search
import Golden.Proofs.Suite.Phases
import Golden.Proofs.Runner.Mismatch
import Golden.Proofs.Unit.Moments
import Golden.Proofs.Runner.Nested
import Golden.Proofs.Runner.Tidied
import Golden.Proofs.Runner.Verdict
import Golden.Proofs.ArgumentLine
import Golden.Proofs.Memo.Grammar
import Golden.Proofs.NameList
import Golden.Proofs.Runner.Leftovers
import Golden.Proofs.Script
