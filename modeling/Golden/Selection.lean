import Golden.Options
import Golden.World

/-! # Selection of tests

Which roots are searched (`roots`), and which tests are found in them: those with a name that begins
like that of a test and a source file (`discover`). Names may be given with the extension of the
source file or without (`stripExtension`). Names given for exclusion leave the standard list and
join the excluded ones (`applyExclusions`). -/

namespace Golden.Selection

variable {σ ω ε : Type}

/-- What the names of tests begin with. -/
def testBeginning : String := "test_"

/-- The text in front of `tail`, if the whole ends so. -/
def withoutTail? (tail whole : List Char) : Option (List Char) :=
  if tail.isSuffixOf whole then some (whole.take (whole.length - tail.length)) else none

/-- The name without the extension and a dot in front of it at its end. -/
def stripExtension (extension name : String) : String :=
  match (withoutTail? extension.toList name.toList).bind (withoutTail? ['.']) with
  | some cs => String.ofList cs
  | none => name

/-! ### Roots -/

/-- The directories among the candidates, each of them once. If the search is not broad, the first
one only. -/
def rootsAmong (isDirectory : Path → Bool) (broad : Bool) : List Path → List Path → List Path
  | found, [] => found
  | found, p :: ps =>
    if isDirectory p then
      let found := if found.any (·.same p) then found else found ++ [p]
      if broad then rootsAmong isDirectory broad found ps else found
    else rootsAmong isDirectory broad found ps

/-- The candidates that are passed over. -/
def passedOver (isDirectory : Path → Bool) (broad : Bool) : List Path → List Path
  | [] => []
  | p :: ps =>
    if isDirectory p then if broad then passedOver isDirectory broad ps else []
    else p :: passedOver isDirectory broad ps

/-- The roots of a search path. -/
def roots [FileSystem σ] (searchPath : List Path) (broad : Bool) : Run σ ω ε (List Path) := do
  let host ← Run.host
  let isDirectory := FileSystem.isDirectory host
  (passedOver isDirectory broad searchPath).forM fun p => Run.note (.skippingRoot p)
  return rootsAmong isDirectory broad [] searchPath

/-! ### Tests -/

/-- The name of the test that an entry of a directory is the source of, if it is one. -/
def testName? (extension entry : String) : Option String :=
  if entry.startsWith testBeginning then
    (withoutTail? ('.' :: extension.toList) entry.toList).map String.ofList
  else none

/-- Puts a name into an ascending list, unless it is there. -/
def insertName (n : String) : List String → List String
  | [] => [n]
  | m :: ms => if n < m then n :: m :: ms else if n = m then m :: ms else m :: insertName n ms

/-- Puts names into an ascending list. -/
def insertNames (names found : List String) : List String :=
  names.foldl (fun ms n => insertName n ms) found

/-- The tests that the entries of a directory are the sources of, without those named otherwise. -/
def testsAmong (extension : String) (standard excluded entries : List String) : List String :=
  (entries.filterMap (testName? extension)).filter fun n =>
    !standard.contains n && !excluded.contains n

/-- The tests in a root that are not standard, ascending. -/
def discover [FileSystem σ] (root : Path) (extension : String) (standard excluded : List String) :
    Run σ ω FileSystemError (List String) := do
  let host ← Run.host
  let entries ← Run.ofResult (FileSystem.list host root)
  let found := insertNames (testsAmong extension standard excluded entries) []
  Run.note (.foundTests root found.length)
  return found

/-- The standard tests, and all others in one root. -/
def testsIn [FileSystem σ] (root : Path) (extension : String) (standard excluded : List String) :
    Run σ ω FileSystemError (List String) := do
  let found ← discover root extension standard excluded
  return standard ++ found

/-- The tests of all roots that are not standard, ascending, added to those already found. -/
def discoverAll [FileSystem σ] (extension : String) (standard excluded : List String) :
    List String → List Path → Run σ ω FileSystemError (List String)
  | found, [] => return found
  | found, root :: roots => do
    let names ← discover root extension standard excluded
    discoverAll extension standard excluded (insertNames names found) roots

/-- The standard tests, and all others in the roots. -/
def allTests [FileSystem σ] (roots : List Path) (extension : String)
    (standard excluded : List String) : Run σ ω FileSystemError (List String) := do
  let found ← discoverAll extension standard excluded [] roots
  return standard ++ found

/-! ### Names -/

/-- The lists of names that selection works with. -/
structure Names where
  named : List String
  standard : List String
  excluded : List String
  deriving DecidableEq, Inhabited

/-- Takes the named tests for excluded ones. -/
def applyExclusions (n : Names) : Names where
  named := []
  standard := n.standard.filter fun s => !n.named.contains s
  excluded := n.named ++ n.excluded

end Golden.Selection
