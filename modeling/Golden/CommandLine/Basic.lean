import Golden.Event
import Golden.Options

/-! # The command line

What the words of a command line choose. Switches are either flags, which stand alone, or settings,
which take a value. All other words name tests. -/

namespace Golden

/-- When reports are colored. -/
inductive ColorChoice where
  | auto
  | always
  | never
  deriving DecidableEq, Inhabited

/-- The word for a choice of color. -/
def ColorChoice.name : ColorChoice → String
  | auto => "auto"
  | always => "always"
  | never => "never"

/-- What a command line chooses. -/
structure CommandLine where
  /-- How often output was asked for. -/
  verbose : Nat
  quiet : Bool
  generate : Bool
  exclude : Bool
  randomize : Bool
  seed : Option Nat
  findLeaks : Bool
  /-- Requests for resources. -/
  requests : List String
  broad : Bool
  memo : Option Path
  oneOnly : List String
  testDirectories : List Path
  platform : Option String
  configFile : Option Path
  noConfig : Bool
  color : ColorChoice
  /-- Categories of events that are shown in detail. -/
  enabled : List Category
  /-- Categories of events that are not shown. -/
  disabled : List Category
  tests : List String
  deriving DecidableEq

namespace CommandLine

/-- What a command line without words chooses. -/
def none : CommandLine where
  verbose := 0
  quiet := false
  generate := false
  exclude := false
  randomize := false
  seed := .none
  findLeaks := false
  requests := []
  broad := false
  memo := .none
  oneOnly := []
  testDirectories := []
  platform := .none
  configFile := .none
  noConfig := false
  color := .auto
  enabled := []
  disabled := []
  tests := []

/-- The options of the run that a command line asks for. Being quiet goes before being verbose, and
a seed means a random order. -/
def options (c : CommandLine) (color : Bool) : Except ConfigError Options := do
  let resources ← Resources.none.useAll c.requests
  return {
    verbose := if c.quiet then 0 else c.verbose
    quiet := c.quiet
    generate := c.generate
    exclude := c.exclude
    randomize := c.randomize || c.seed.isSome
    seed := c.seed
    findLeaks := c.findLeaks
    resources
    broad := c.broad
    memo := c.memo
    oneOnly := c.oneOnly
    tests := c.tests
    color }

end CommandLine

/-- A switch that stands alone. -/
inductive Flag where
  | help
  | version
  | verbose
  | quiet
  | generate
  | exclude
  | randomize
  | findLeaks
  | broad
  | noConfig
  deriving DecidableEq, Inhabited

/-- A switch that takes a value. -/
inductive Setting where
  | seed
  | request
  | memo
  | oneOnly
  | testDirectory
  | platform
  | configFile
  | color
  | enable
  | disable
  deriving DecidableEq, Inhabited

/-- A switch. -/
inductive Switch where
  | flag (f : Flag)
  | setting (s : Setting)
  deriving DecidableEq, Inhabited

namespace Switch

/-- The switches by their long names. -/
def longNames : List (String × Switch) :=
  [("help", .flag .help), ("version", .flag .version), ("verbose", .flag .verbose),
   ("quiet", .flag .quiet), ("generate", .flag .generate), ("exclude", .flag .exclude),
   ("random", .flag .randomize), ("randomize", .flag .randomize), ("findleaks", .flag .findLeaks),
   ("all", .flag .broad), ("broad", .flag .broad), ("no-config", .flag .noConfig),
   ("seed", .setting .seed), ("use", .setting .request), ("memo", .setting .memo),
   ("oneonly", .setting .oneOnly), ("testdir", .setting .testDirectory),
   ("platform", .setting .platform), ("config", .setting .configFile), ("color", .setting .color),
   ("debug", .setting .enable), ("log-enable", .setting .enable),
   ("disable-event", .setting .disable), ("log-disable", .setting .disable)]

/-- The switches by their short names. -/
def shortNames : List (Char × Switch) :=
  [('h', .flag .help), ('v', .flag .verbose), ('q', .flag .quiet), ('g', .flag .generate),
   ('x', .flag .exclude), ('r', .flag .randomize), ('l', .flag .findLeaks), ('a', .flag .broad),
   ('u', .setting .request), ('m', .setting .memo)]

/-- The switch of a long name. -/
def ofLong? (name : List Char) : Option Switch := longNames.lookup (String.ofList name)

/-- The switch of a short name. -/
def ofShort? (c : Char) : Option Switch := shortNames.lookup c

end Switch

end Golden
