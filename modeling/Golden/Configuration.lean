import Golden.CommandLine.Basic
import Golden.Toml.Parse
import Golden.World

/-! # Configuration files

A configuration file is a TOML document with up to three tables. What it leaves open has a default,
and the command line goes before it. Keys that are not known do not matter, values of the wrong kind
do.

The operator may name a configuration file, or ask for none to be read. Otherwise there is a usual
place for it, where it may well be missing. A file that is of no use leaves everything at its
default, and its failure is told with the result (`Loaded`). -/

namespace Golden

/-- What a configuration file sets. -/
structure Configuration where
  searchPath : Option (List String)
  extension : Option String
  standard : Option (List String)
  excluded : Option (List String)
  interpreter : Option (List String)
  scratchDirectory : Option String
  platform : Option String
  deriving DecidableEq

namespace Configuration

/-- A configuration that sets nothing. -/
def none : Configuration := ⟨.none, .none, .none, .none, .none, .none, .none⟩

/-! ### Reading -/

/-- The text of a value. -/
def text? : Toml.Value → Option String
  | .string s => some s
  | _ => .none

/-- The texts of a value. -/
def texts? : Toml.Value → Option (List String)
  | .array items => items.mapM text?
  | _ => .none

/-- The fields of a known table, which are given by key or, in an array, by position. A date has no
fields. -/
def fields? (keys : List String) : Toml.Value → Option Toml.Table
  | .table _ entries => some entries
  | .array items => some (keys.zip items)
  | .tables items => some (keys.zip (items.map (.table .header)))
  | .datetime => some []
  | _ => .none

/-- Reads a field, if it is there. There is no result if its value is of the wrong kind. -/
def field? {α : Type} (read : Toml.Value → Option α) (t : Toml.Table) (key : String) :
    Option (Option α) :=
  match t.lookup key with
  | .none => some .none
  | some v => (read v).map some

/-- Whether all numbers fit in entries whose keys are not among the known ones. -/
def othersFit (known : List String) (t : Toml.Table) : Bool :=
  t.all fun e => known.contains e.1 || e.2.numbersFit

/-- Reads a known table. It is empty if it is not there. Its other entries do not matter, but their
numbers have to fit. -/
def known? (t : Toml.Table) (name : String) (keys : List String) : Option Toml.Table := do
  let known := (← field? (fields? keys) t name).getD []
  if othersFit keys known then return known else Option.none

/-- Reads a document. -/
def ofTable? (t : Toml.Table) : Option Configuration := do
  if !othersFit ["discovery", "runner", "expectations"] t then Option.none
  let discovery ← known? t "discovery"
    ["search-path", "source-extension", "standard-tests", "excluded-tests"]
  let runner ← known? t "runner" ["interpreter", "scratch-dir"]
  let expectations ← known? t "expectations" ["platform"]
  return {
    searchPath := ← field? texts? discovery "search-path"
    extension := ← field? text? discovery "source-extension"
    standard := ← field? texts? discovery "standard-tests"
    excluded := ← field? texts? discovery "excluded-tests"
    interpreter := ← field? texts? runner "interpreter"
    scratchDirectory := ← field? text? runner "scratch-dir"
    platform := ← field? text? expectations "platform" }

/-- Reads the text of a configuration file. -/
def parse (text : String) : Option Configuration := do
  let t ← Toml.parse text
  ofTable? t

/-! ### Layers -/

/-- The settings of a suite: the command line goes first, then the file, then what is set by
default. Directories from the command line are searched in addition to the others. -/
def suiteConfig (f : Configuration) (c : CommandLine) : SuiteConfig :=
  let d := DiscoveryConfig.default
  { discovery :=
      { searchPath := c.testDirectories ++ ((f.searchPath.map (·.map Path.mk)).getD d.searchPath)
        extension := f.extension.getD d.extension
        standard := f.standard.getD d.standard
        excluded := f.excluded.getD d.excluded }
    platform := (c.platform.or f.platform).getD defaultPlatform }

/-- The command that runs scripts. Without one they are run themselves. -/
def scriptInterpreter (f : Configuration) : List String := f.interpreter.getD []

/-! ### Files -/

/-- Why a configuration file is of no use. -/
inductive Failure where
  | unreadable (reason : String)
  | malformed
  deriving DecidableEq, Inhabited

/-- The text of a failure. -/
def Failure.message : Failure → String
  | unreadable reason => "failed to read config file: " ++ reason
  | malformed => "failed to parse config file"

/-- A configuration with the file that it was sought in, what was wrong with the file, and whether
the operator named it. -/
structure Loaded where
  configuration : Configuration
  path : Option Path
  failure : Option Failure
  explicit : Bool
  deriving DecidableEq

/-- Nothing is configured. -/
def Loaded.default (path : Option Path) : Loaded := ⟨.none, path, .none, false⟩

variable {σ ω ε : Type}

/-- The configuration in a file. -/
def readFile [FileSystem σ] (host : σ) (path : Path) : Except Failure Configuration :=
  match FileSystem.read host path with
  | .error e => .error (.unreadable e.reason)
  | .ok bs =>
    match Utf8.decode? bs with
    | .none => .error (.unreadable "stream did not contain valid UTF-8")
    | some text =>
      match parse text with
      | .none => .error .malformed
      | some c => .ok c

/-- Reads a file that is there or was named. -/
def loadFrom [FileSystem σ] (path : Path) (explicit : Bool) : Run σ ω ε Loaded := do
  Run.note (.loadingConfiguration path)
  match readFile (← Run.host) path with
  | .ok c => return ⟨c, some path, .none, explicit⟩
  | .error e => return ⟨.none, some path, some e, explicit⟩

/-- Reads the file that was named, or else the one in the usual place. -/
def load [FileSystem σ] (disabled : Bool) (named usual : Option Path) : Run σ ω ε Loaded := do
  if disabled then return .default .none
  match named, usual with
  | some path, _ => loadFrom path true
  | .none, some path =>
    if FileSystem.has (← Run.host) path then loadFrom path false else return .default (some path)
  | .none, .none => return .default .none

end Configuration

end Golden
