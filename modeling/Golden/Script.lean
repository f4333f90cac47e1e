import Golden.Behaviour
import Golden.Text.Lines

/-! # Scripts as test units

A script is a unit that runs as a program of its own. It learns about the run from its environment.
What it writes to its standard output is its output. How it ends says what became of it
(`classify`), and the last line of what it writes to standard error says why. -/

namespace Golden.Script

/-- The exit code of a script that declines to run. -/
def skipCode : Nat := 77

/-- The exit code of a script that reports a failure. -/
def failureCode : Nat := 1

/-- The variable that tells a script how much is shown. -/
def verboseVariable : String := "REGRTEST_VERBOSE"

/-- The variable that tells a script which resources are enabled. -/
def resourcesVariable : String := "REGRTEST_USE_RESOURCES"

/-- The variable that tells a script the name of the unit. -/
def nameVariable : String := "REGRTEST_TEST_NAME"

/-- The signal that an interruption sends. -/
def interruptSignal : Nat := 2

/-! ### Programs -/

/-- A program with its arguments, the directory to run it in, and variables of its environment. -/
structure Command where
  program : String
  arguments : List String
  directory : Option Path
  environment : List (String × String)
  deriving DecidableEq

/-- Whether a text has a character that no argument can have. -/
def hasNul (s : String) : Bool := s.toList.contains '\x00'

/-- The text that stands for one that no argument can have. -/
def withoutNul (s : String) : String := if hasNul s then "<string-with-nul>" else s

/-- The text of the program or the directory of a command. -/
def describeName (s : String) : String := Text.quoteName (withoutNul s)

/-- The text of an argument of a command. -/
def describeArgument (s : String) : String := Text.quotePath (withoutNul s)

/-- The text of a command. -/
def Command.describe (c : Command) : String :=
  let directory := match c.directory with
    | some d => "cd " ++ describeName d.spelling ++ " && "
    | none => ""
  let bindings := c.environment.map fun p => p.1 ++ "=" ++ Text.quotePath p.2 ++ " "
  directory ++ String.join bindings ++
    " ".intercalate (describeName c.program :: c.arguments.map describeArgument)

/-- Whether a program can be run with the arguments at all. -/
def Command.isPossible (c : Command) : Bool := !(c.program :: c.arguments).any hasNul

/-- How a program ended. -/
inductive Ending where
  | exited (code : Nat)
  | killed (signal : Nat)
  deriving DecidableEq, Inhabited

/-- A program that has ended, with what it has written. -/
structure Finished where
  ending : Ending
  output : Bytes
  errors : Bytes
  deriving DecidableEq, Inhabited

/-- Runs programs to their end, if they can be run. -/
structure Launcher (σ : Type) where
  launch : Command → σ → Except String Finished × σ

/-! ### Endings -/

/-- The last line that is not blank, trimmed. -/
def lastLine? (text : String) : Option String :=
  (((Text.lines text.toList).map Text.trim).reverse.find? (· ≠ [])).map String.ofList

/-- The text, unless it is blank. -/
def unlessBlank (text : String) : Option String :=
  if Text.trim text.toList = [] then none else some text

/-- What became of a script, in view of how it ended and what it reported. -/
def classify (ending : Ending) (errors : String) : Except Signal Unit :=
  match ending with
  | .exited 0 => .ok ()
  | .exited code =>
    if code = skipCode then .error (.skip ((lastLine? errors).getD "skipped by test"))
    else if code = failureCode then
      .error (.failure ((lastLine? errors).getD "test reported failure"))
    else
      .error (.fault ("exit status " ++ toString code) ((lastLine? errors).getD "")
        (unlessBlank errors))
  | .killed signal =>
    if signal = interruptSignal then .error .interrupt
    else .error (.fault "killed by signal" (toString signal) (unlessBlank errors))

/-! ### Units -/

/-- The command that runs a source file. Without an interpreter the file is run itself. -/
def command (interpreter : List String) (source : Path) (environment : List (String × String)) :
    Command :=
  let file := source.fileName?.getD ""
  let directory := source.parent?.filter (·.spelling ≠ "")
  match interpreter with
  | program :: arguments => ⟨program, arguments ++ [file], directory, environment⟩
  | [] => ⟨((⟨"."⟩ : Path).join file).spelling, [], directory, environment⟩

/-- What a script learns about the run. -/
def environment (c : Context) : List (String × String) :=
  [(nameVariable, c.unit.name), (resourcesVariable, c.resources.names),
   (verboseVariable, toString c.verbose)]

variable {σ : Type}

/-- The unit of a source file. -/
def unit (l : Launcher σ) (interpreter : List String) (source : Path) : TestUnit σ := fun c =>
  let cmd := command interpreter source (environment c)
  .note (.launching cmd.describe) <| .look fun host =>
    let launched :=
      if cmd.isPossible then l.launch cmd host
      else (.error "nul byte found in provided data", host)
    match launched with
    | (.error reason, host) =>
      .change host <|
        .raise (.loadFailure ("failed to launch " ++ source.spelling ++ ": " ++ reason))
    | (.ok finished, host) =>
      .change host <| .writeOrRaise finished.output <|
        let errors := Utf8.decodeLossy finished.errors
        let ended : Behaviour σ := .check (classify finished.ending errors) .done
        if c.verbose ≠ 0 ∧ errors ≠ "" then .complain (utf8 errors) ended else ended

/-- Finds scripts by the name of their source file. -/
def loader [FileSystem σ] (l : Launcher σ) (interpreter : List String) (extension : String) :
    Loader σ where
  load id host :=
    let source := id.source extension
    if !FileSystem.has host source || FileSystem.isDirectory host source then
      (.error (.loadFailure ("No module named " ++ id.name)), host)
    else (.ok (unit l interpreter source), host)
  nesting := 0

end Golden.Script
