import Golden.ArgumentFile
import Golden.CommandLine.Parse
import Golden.Configuration
import Golden.Console
import Golden.Suite
import Golden.Watched

/-! # The program

From the words of the command line to the exit code: argument files are expanded, the command line
and the configuration are read, and the suite of scripts that they describe is run (`run`). A run
that could not begin tells how the program is used. -/

namespace Golden.Program

/-- What surrounds the program: its arguments, the configuration file that its environment names,
the usual place of that file, whether it writes to a terminal, and a seed for random orders. -/
structure Invocation where
  arguments : List String
  configFile : Option String
  usualFile : Option Path
  terminal : Bool
  entropy : Nat
  deriving DecidableEq

/-- What a machine can do besides keeping files: run programs, and tell what is in a directory. -/
structure Machine (σ : Type) where
  launcher : Script.Launcher σ
  present : Path → σ → List Path

/-- How the program ended, and what it wrote to standard error. -/
structure Ended where
  code : Nat
  errors : Bytes
  deriving DecidableEq, Inhabited

/-! ### Errors -/

/-- Why the program did not finish its run. -/
inductive ProgramError where
  | refused (cause : CommandLine.Refusal)
  | usage (cause : ConfigError)
  | configuration (path : Path) (cause : Configuration.Failure)
  | suite (cause : RunError)
  deriving DecidableEq

namespace ProgramError

/-- The failure of a suite. A wrong configuration is a mistake in the use of the program. -/
def ofRunError : RunError → ProgramError
  | .configuration cause => usage cause
  | cause => suite cause

/-- The exit code of a program that was used wrongly. -/
def usageCode : Nat := 2

/-- The exit code that tells an error. -/
def exitCode : ProgramError → Nat
  | refused .help | refused .version => 0
  | refused _ | usage _ | configuration .. => usageCode
  | suite _ => 1

/-- A message about a mistake in the use of the program. -/
def usageText (message : String) : String :=
  "error: " ++ message ++ "\n\n" ++ CommandLine.usage ++ "\n"

/-- What is written to standard output because of an error. -/
def output : ProgramError → String
  | refused .help => CommandLine.Refusal.help.message
  | refused .version => CommandLine.Refusal.version.message
  | _ => ""

/-- What is written to standard error because of an error. -/
def text : ProgramError → String
  | refused .help | refused .version => ""
  | refused cause => usageText cause.message
  | usage cause => usageText cause.message
  | configuration path cause => usageText (path.spelling ++ ": " ++ cause.message)
  | suite cause => Console.line .error ("error: " ++ cause.message)

end ProgramError

variable {σ ω : Type}

/-! ### Reading -/

/-- Takes the configuration file from the environment if the command line names none. -/
def withEnvironment (i : Invocation) (c : CommandLine) : Except ProgramError CommandLine :=
  match c.configFile, i.configFile with
  | none, some "" => .error (.refused .badValue)
  | none, some file => .ok { c with configFile := some ⟨file⟩ }
  | _, _ => .ok c

/-- Reads the command line. Nothing that happens before it is known can be shown. -/
def readCommandLine [FileSystem σ] (i : Invocation) : Run σ ω ProgramError CommandLine := do
  let words ← Run.mapError .usage (ArgumentFile.expand i.arguments)
  Run.update fun w => ((), { w with trail := [] })
  let c ← Run.ofResult ((CommandLine.parse words).mapError .refused)
  Run.ofResult (withEnvironment i c)

/-- Whether reports are colored. -/
def colored (i : Invocation) : ColorChoice → Bool
  | .always => true
  | .never => false
  | .auto => i.terminal

/-- Reads the configuration. A file that was not named may be of no use. -/
def readConfiguration [FileSystem σ] (i : Invocation) (c : CommandLine) :
    Run σ ω ProgramError Configuration := do
  let loaded ← Configuration.load c.noConfig c.configFile i.usualFile
  if let some failure := loaded.failure then
    let path := loaded.path.getD ⟨""⟩
    if loaded.explicit then
      throw (.configuration path failure)
    Run.note (.ignoringConfiguration path failure.message)
  return loaded.configuration

/-! ### Running -/

/-- Runs the suite that a command line and a configuration describe. -/
def runSuite [FileSystem σ] [Sink ω] (m : Machine σ) (i : Invocation) (c : CommandLine) :
    Run (Watched σ) ω ProgramError SuiteResult := do
  let options ← Run.ofResult ((c.options (colored i c.color)).mapError .usage)
  let f ← readConfiguration i c
  let config := f.suiteConfig c
  let detector ← match f.scratchDirectory with
    | none => pure none
    | some d => do
      Watched.watch (m.present ⟨d⟩) ⟨d⟩
      pure (some (Watched.detector (m.present ⟨d⟩)))
  let suite : Suite (Watched σ) :=
    { options, config, detector
      loader := Script.loader (Watched.launcher m.launcher) f.scriptInterpreter
        config.discovery.extension
      entropy := i.entropy }
  Run.mapError .ofRunError suite.run

/-- Ends the program with an error. Nothing is written to standard output but what was asked for. -/
def fail [Sink ω] (e : ProgramError) (shown : Bytes) (w : World σ ω) : Ended × World σ ω :=
  let w := if e.output = "" then w else ((Run.write (utf8 e.output) : Run σ ω String Unit) w).2
  (⟨e.exitCode, shown ++ utf8 e.text⟩, w)

/-- Runs the program. -/
def run [FileSystem σ] [Sink ω] (m : Machine σ) (i : Invocation) (w : World (Watched σ) ω) :
    Ended × World (Watched σ) ω :=
  match (readCommandLine i : Run (Watched σ) ω ProgramError CommandLine) w with
  | (.error e, w) => fail e [] w
  | (.ok c, w) =>
    match runSuite m i c w with
    | (.error e, w) => fail e (Console.renderAll c w.trail) w
    | (.ok r, w) => (⟨r.exitCode, Console.renderAll c w.trail⟩, w)

end Golden.Program
