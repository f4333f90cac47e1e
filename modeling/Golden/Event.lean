import Golden.FileSystem
import Golden.Outcome
import Golden.Phase
import Golden.Text.Quoted

/-! # Events

A run leaves a trail of events. Each has a level, from errors down to the finest detail, a category,
and a message. -/

namespace Golden

/-- How much an event matters. -/
inductive Level where
  | error
  | warn
  | info
  | debug
  | trace
  deriving DecidableEq, Inhabited

namespace Level

/-- The position of a level: errors come first. -/
def rank : Level → Nat
  | error => 0
  | warn => 1
  | info => 2
  | debug => 3
  | trace => 4

/-- The name of a level. -/
def name : Level → String
  | error => "ERROR"
  | warn => "WARN"
  | info => "INFO"
  | debug => "DEBUG"
  | trace => "TRACE"

end Level

/-- What an event is about. -/
inductive Category where
  | capture
  | config
  | discovery
  | leaks
  | runner
  | suite
  deriving DecidableEq, Inhabited

namespace Category

/-- All categories, by name. -/
def all : List Category := [capture, config, discovery, leaks, runner, suite]

/-- The name of a category. -/
def name : Category → String
  | capture => "capture"
  | config => "config"
  | discovery => "discovery"
  | leaks => "leaks"
  | runner => "runner"
  | suite => "suite"

end Category

/-- Something worth a note. -/
inductive Event where
  /-- An argument file was replaced by its arguments. -/
  | expanded (file : Path) (count : Nat)
  /-- A configuration file is about to be read. -/
  | loadingConfiguration (file : Path)
  /-- A configuration file of no use was passed over. -/
  | ignoringConfiguration (file : Path) (reason : String)
  | captureStarted
  | captureReleased
  /-- A directory to be searched is none. -/
  | skippingRoot (root : Path)
  /-- How many tests a directory holds. -/
  | foundTests (root : Path) (count : Nat)
  | noRoots (searched : List Path)
  /-- A directory is watched for files left behind. -/
  | watching (directory : Path) (count : Nat)
  | leaked (item : String)
  /-- A unit has loaded another. -/
  | imported (importer name : String)
  /-- A unit about to run had been loaded before. -/
  | forgot (name : String)
  | unloaded (names : List String)
  | finished (name : String) (outcome : Outcome)
  /-- A file of expected output was written. -/
  | wroteGolden (path : Path)
  | launching (command : String)
  | shuffled (seed : Nat)
  /-- A test without a source file. It matters more if the test was asked for by name. -/
  | testNotFound (name : String) (asked : Bool)
  | interrupted
  | savedMemo (path : Path)
  | phase (old new : Phase)
  deriving Inhabited

namespace Event

/-- How much the event matters. -/
def level : Event → Level
  | ignoringConfiguration .. | noRoots _ | interrupted => .warn
  | testNotFound _ asked => if asked then .warn else .debug
  | shuffled _ => .info
  | phase .. => .trace
  | _ => .debug

/-- What the event is about. -/
def category : Event → Category
  | expanded .. | loadingConfiguration _ | ignoringConfiguration .. => .config
  | captureStarted | captureReleased => .capture
  | skippingRoot _ | foundTests .. | noRoots _ => .discovery
  | watching .. | leaked _ => .leaks
  | imported .. | forgot _ | unloaded _ | finished .. | wroteGolden _ | launching _ => .runner
  | shuffled _ | testNotFound .. | interrupted | savedMemo _ | phase .. => .suite

end Event

/-- An outcome with its quoted reason. -/
def Outcome.describe : Outcome → String
  | passed => "Passed"
  | failed reason => "Failed(" ++ Text.quote reason ++ ")"
  | crashed kind value =>
    "Crashed \x7b kind: " ++ Text.quote kind ++ ", value: " ++ Text.quote value ++ " \x7d"
  | skipped reason => "Skipped(" ++ Text.quote reason ++ ")"

/-- The text of an event. -/
def Event.message : Event → String
  | expanded file count =>
    "expanded " ++ file.spelling ++ " into " ++ toString count ++ " argument(s)"
  | loadingConfiguration file => "loading configuration from " ++ file.spelling
  | ignoringConfiguration file reason =>
    "ignoring configuration file " ++ file.spelling ++ ": " ++ reason
  | captureStarted => "capture started"
  | captureReleased => "capture released"
  | skippingRoot root => "skipping " ++ root.spelling ++ ": not a directory"
  | foundTests root count => "found " ++ toString count ++ " test(s) in " ++ root.spelling
  | noRoots searched =>
    "no test directory found in " ++ Text.quoteListWith Text.quotePath (searched.map Path.spelling)
  | watching directory count =>
    "watching " ++ directory.spelling ++ " (" ++ toString count ++ " existing entries)"
  | leaked item => "leaked: " ++ item
  | imported importer name => importer ++ " imported " ++ name
  | forgot name => "forgot stale load of " ++ name
  | unloaded names => "unloaded " ++ Text.quoteList names
  | finished name outcome => name ++ ": " ++ outcome.describe
  | wroteGolden path => "wrote " ++ path.spelling
  | launching command => "launching " ++ command
  | shuffled seed => "shuffled tests using seed " ++ toString seed
  | testNotFound name _ => "test " ++ name ++ " not found"
  | interrupted => "run interrupted by operator"
  | savedMemo path => "saved memo to " ++ path.spelling
  | phase old new => old.name ++ " -> " ++ new.name

end Golden
