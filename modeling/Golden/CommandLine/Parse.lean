import Golden.CommandLine.Basic

/-! # Reading a command line

The words are read from the left. A long switch begins with two hyphens, and its value follows an
equals sign or is the next word. Short switches may be clustered behind one hyphen, and the value of
one may follow it at once. After a word of two hyphens all words name tests. A value that is a word
of its own does not begin with a hyphen, unless it is a request for resources or nothing but a
hyphen.

A value that is a word of its own is not looked at before the next word has been recognised. This
decides which of two mistakes is told.

The operator is told how the command line is used, and what was wrong with it. -/

namespace Golden.CommandLine

/-- Why a command line is not obeyed. -/
inductive Refusal where
  /-- A switch that does not exist. -/
  | unknownSwitch
  /-- A value that is missing or not one of those allowed. -/
  | badValue
  /-- A value that is not a number. -/
  | badNumber
  /-- A switch that was given before. -/
  | repeated
  /-- A value for a flag. -/
  | unexpectedValue
  /-- The operator wants help. -/
  | help
  /-- The operator wants to know the version. -/
  | version
  deriving DecidableEq, Inhabited

/-- A command line that has been read in part: what it chooses, the settings and flags that may not
come again, and a setting whose value is awaited or was the last word. -/
structure Reading where
  choice : CommandLine
  flags : List Flag
  settings : List Setting
  pending : Option (Setting × Option String)

/-- The beginning. -/
def Reading.start : Reading := ⟨.none, [], [], .none⟩

/-! ### Values -/

/-- The number that a value stands for, if it fits into 64 bits. -/
def number? (v : String) : Option Nat :=
  let digits := match v.toList with
    | '+' :: ds => ds
    | ds => ds
  if digits = [] ∨ digits.any fun c => !c.isDigit then .none
  else
    let n := digits.foldl (fun n c => n * 10 + (c.toNat - '0'.toNat)) 0
    if n < UInt64.size then some n else .none

/-- A value as a path, which may not be empty. -/
def path? (v : String) : Option Path := if v = "" then .none else some ⟨v⟩

/-- The choice of color that a value stands for. -/
def color? (v : String) : Option ColorChoice :=
  [ColorChoice.auto, .always, .never].find? fun c => c.name = v

/-- The category that a value stands for. -/
def category? (v : String) : Option Category := Category.all.find? fun c => c.name = v

/-- Whether a setting may be given more than once. -/
def mayRepeat : Setting → Bool
  | .request | .oneOnly | .testDirectory | .enable | .disable => true
  | _ => false

/-- The value, or a refusal if there is none. -/
def orRefuse {α : Type} (r : Refusal) : Option α → Except Refusal α
  | some a => .ok a
  | .none => .error r

/-- Obeys a setting. -/
def set (c : CommandLine) (v : String) : Setting → Except Refusal CommandLine
  | .seed => do
    let n ← orRefuse .badNumber (number? v)
    return { c with seed := some n }
  | .request => return { c with requests := c.requests ++ [v] }
  | .memo => do
    let p ← orRefuse .badValue (path? v)
    return { c with memo := some p }
  | .oneOnly =>
    return { c with oneOnly := c.oneOnly ++ (v.toList.splitOn ',').map String.ofList }
  | .testDirectory => do
    let p ← orRefuse .badValue (path? v)
    return { c with testDirectories := c.testDirectories ++ [p] }
  | .platform => return { c with platform := some v }
  | .configFile => do
    let p ← orRefuse .badValue (path? v)
    return { c with configFile := some p }
  | .color => do
    let k ← orRefuse .badValue (color? v)
    return { c with color := k }
  | .enable => do
    let k ← orRefuse .badValue (category? v)
    return { c with enabled := c.enabled ++ [k] }
  | .disable => do
    let k ← orRefuse .badValue (category? v)
    return { c with disabled := c.disabled ++ [k] }

/-- How often output may be asked for at most. -/
def greatestVerbosity : Nat := 255

/-- Obeys a flag. -/
def raise (c : CommandLine) : Flag → CommandLine
  | .help | .version => c
  | .verbose => { c with verbose := min greatestVerbosity (c.verbose + 1) }
  | .quiet => { c with quiet := true }
  | .generate => { c with generate := true }
  | .exclude => { c with exclude := true }
  | .randomize => { c with randomize := true }
  | .findLeaks => { c with findLeaks := true }
  | .broad => { c with broad := true }
  | .noConfig => { c with noConfig := true }

/-! ### Words -/

namespace Reading

/-- Takes a value for a setting. -/
def store (p : Reading) (s : Setting) (v : String) : Except Refusal Reading :=
  if !mayRepeat s && p.settings.contains s then .error .repeated
  else do
    let choice ← set p.choice v s
    return { p with choice, settings := s :: p.settings }

/-- Looks at the value of the setting that came last. -/
def resolve (p : Reading) : Except Refusal Reading :=
  match p.pending with
  | .none => .ok p
  | some (_, .none) => .error .badValue
  | some (s, some v) => { p with pending := .none }.store s v

/-- Takes a flag. -/
def takeFlag (p : Reading) (f : Flag) : Except Refusal Reading := do
  let p ← p.resolve
  match f with
  | .help => throw .help
  | .version => throw .version
  | .verbose => return { p with choice := raise p.choice f }
  | _ =>
    if p.flags.contains f then throw .repeated
    return { p with choice := raise p.choice f, flags := f :: p.flags }

/-- Takes a setting with its value. -/
def takeSetting (p : Reading) (s : Setting) (v : String) : Except Refusal Reading := do
  let p ← p.resolve
  p.store s v

/-- Takes a setting whose value is to follow. -/
def await (p : Reading) (s : Setting) : Except Refusal Reading := do
  let p ← p.resolve
  return { p with pending := some (s, .none) }

/-- Takes the name of a test. -/
def takeTest (p : Reading) (name : String) : Except Refusal Reading := do
  let p ← p.resolve
  return { p with choice := { p.choice with tests := p.choice.tests ++ [name] } }

/-- Takes a long switch, without its hyphens. -/
def takeLong (p : Reading) (word : List Char) : Except Refusal Reading :=
  let name := word.takeWhile (· ≠ '=')
  match Switch.ofLong? name, word.dropWhile (· ≠ '=') with
  | .none, _ => .error .unknownSwitch
  | some (.flag f), [] => p.takeFlag f
  | some (.flag _), _ :: _ => .error .unexpectedValue
  | some (.setting s), [] => p.await s
  | some (.setting s), _ :: v => p.takeSetting s (String.ofList v)

/-- Takes a cluster of short switches, without its hyphen. -/
def takeShort (p : Reading) : List Char → Except Refusal Reading
  | [] => .ok p
  | c :: rest =>
    match Switch.ofShort? c with
    | .none => .error .unknownSwitch
    | some (.flag f) => do
      let p ← p.takeFlag f
      p.takeShort rest
    | some (.setting s) =>
      match rest with
      | [] => p.await s
      | '=' :: v => p.takeSetting s (String.ofList v)
      | v => p.takeSetting s (String.ofList v)

/-- The setting whose value is awaited. -/
def awaited (p : Reading) : Option Setting :=
  match p.pending with
  | some (s, .none) => some s
  | _ => .none

/-- Takes a word that is not a switch. -/
def takePlain (p : Reading) (word : String) : Except Refusal Reading :=
  match p.awaited with
  | some s => .ok { p with pending := some (s, some word) }
  | .none => p.takeTest word

/-- Takes all words. -/
def takeAll (p : Reading) : List String → Except Refusal Reading
  | [] => p.resolve
  | word :: words =>
    if p.awaited = some .request then do
      let p ← p.takePlain word
      p.takeAll words
    else
      match word.toList with
      | ['-', '-'] => do
        let p ← words.foldlM takeTest p
        p.resolve
      | '-' :: '-' :: long => do
        let p ← p.takeLong long
        p.takeAll words
      | '-' :: c :: short => do
        let p ← p.takeShort (c :: short)
        p.takeAll words
      | _ => do
        let p ← p.takePlain word
        p.takeAll words

end Reading

/-- Reads the words of a command line. -/
def parse (words : List String) : Except Refusal CommandLine := do
  let p ← Reading.start.takeAll words
  return p.choice

/-! ### Help -/

/-- The name of the program. -/
def programName : String := "regrtest"

/-- The version of the program. -/
def programVersion : String := "0.1.0"

/-- How the program is used, on one line. -/
def usage : String := "Usage: " ++ programName ++ " [OPTIONS] [TEST]..."

/-- The switches with what they do. -/
def switchHelp : List (String × String) :=
  [("-h, --help", "Display usage information"),
   ("    --version", "Display version"),
   ("-v, --verbose", "Run tests in verbose mode, with output to stdout; repeat for more detail"),
   ("-q, --quiet", "Don't print the skipped-test list, and print nothing for passing tests"),
   ("-g, --generate", "Write the output file for each test instead of comparing against it"),
   ("-x, --exclude", "Run every discovered test except the ones named"),
   ("-r, --random", "Run the selected tests in random order"),
   ("    --seed <SEED>", "Seed for the random order; implies --random"),
   ("-l, --findleaks", "Look for files or objects left behind by each test"),
   ("-u, --use <RESOURCES>",
    "Enable optional resources (comma-separated; \x60all\x60 enables every one, " ++
      "\x60-name\x60 removes one)"),
   ("-a, --all", "Search for tests in nested test directories as well"),
   ("-m, --memo <FILE>", "Save the good/bad/skipped lists to FILE when done"),
   ("    --oneonly <NAMES>", "Restrict a broad run to the named tests (comma-separated)"),
   ("    --testdir <DIR>", "Directory to search for tests; may be repeated"),
   ("    --platform <NAME>", "Platform whose expected-skip table is used"),
   ("    --config <FILE>", "Path to a configuration file"),
   ("    --no-config", "Don't load any configuration file"),
   ("    --color <WHEN>", "When to use color in reports"),
   ("    --debug <EVENT>", "Enable debug logging for classes of tracing events"),
   ("    --disable-event <EVENT>", "Disable logging for classes of tracing events")]

/-- All that is told about the command line. -/
def help : String :=
  "Run regression tests and compare their output to golden files\n\n" ++ usage ++
    "\n\nOptions:\n" ++
    String.join (switchHelp.map fun s => "  " ++ s.1 ++ "\n          " ++ s.2 ++ "\n")

/-- The text of a refusal. -/
def Refusal.message : Refusal → String
  | unknownSwitch => "unexpected argument"
  | badValue => "a value is missing or not allowed"
  | badNumber => "a value is not a number"
  | repeated => "an argument cannot be used multiple times"
  | unexpectedValue => "unexpected value for a flag"
  | help => CommandLine.help
  | version => programName ++ " " ++ programVersion ++ "\n"

end Golden.CommandLine
