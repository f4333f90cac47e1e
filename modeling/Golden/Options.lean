import Golden.Resource

/-! # Options and settings

What the operator chooses for one run (`Options`), and what is set for all runs of a suite
(`SuiteConfig`). -/

namespace Golden

/-- Where tests are sought, and which names are special. -/
structure DiscoveryConfig where
  /-- Directories that may hold tests. -/
  searchPath : List Path
  /-- What the names of source files end in, after a dot. -/
  extension : String
  /-- Tests that come first. -/
  standard : List String
  /-- Names that are not tests though they look like it. -/
  excluded : List String
  deriving DecidableEq

/-- What is set when nothing is configured. -/
def DiscoveryConfig.default : DiscoveryConfig where
  searchPath := [⟨"test"⟩]
  extension := "py"
  standard :=
    ["test_grammar", "test_opcodes", "test_operations", "test_builtin", "test_exceptions",
      "test_types"]
  excluded :=
    ["test_support", "test_b1", "test_b2", "test_future1", "test_future2", "test_future3"]

/-- Settings of a suite. -/
structure SuiteConfig where
  discovery : DiscoveryConfig
  platform : String
  deriving DecidableEq

/-- The platform that runs are assumed to take place on. -/
def defaultPlatform : String := "linux"

/-- What is set when nothing is configured. -/
def SuiteConfig.default : SuiteConfig := ⟨.default, defaultPlatform⟩

/-- Choices for one run. -/
structure Options where
  /-- How much is shown. Output is captured and compared only at zero. -/
  verbose : Nat
  /-- Only failures are reported. -/
  quiet : Bool
  /-- Expected output is written, not compared. -/
  generate : Bool
  /-- The named tests are left out, not run. -/
  exclude : Bool
  /-- The tests run in random order. -/
  randomize : Bool
  /-- Where the random order comes from. -/
  seed : Option Nat
  /-- What tests leave behind is reported. -/
  findLeaks : Bool
  resources : Resources
  /-- All directories with tests are searched, not only the first. -/
  broad : Bool
  /-- Where the result is saved. -/
  memo : Option Path
  /-- Tests that run in the first directory only. -/
  oneOnly : List String
  /-- Tests asked for by name. -/
  tests : List String
  /-- Reports are colored. -/
  color : Bool
  deriving DecidableEq

namespace Options

/-- No choice at all. -/
def none : Options where
  verbose := 0
  quiet := false
  generate := false
  exclude := false
  randomize := false
  seed := .none
  findLeaks := false
  resources := .none
  broad := false
  memo := .none
  oneOnly := []
  tests := []
  color := false

/-- Whether the output of tests is captured and compared. -/
def captures (o : Options) : Bool := o.verbose = 0

/-- Refuses choices that do not go together. -/
def validate (o : Options) : Except ConfigError Unit :=
  if o.generate && !o.captures then .error .generateVerbose else .ok ()

end Options

end Golden
