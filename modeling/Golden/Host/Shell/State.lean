import Golden.Host.Act
import Golden.Host.Shell.Reader

/-! # The state of a shell

What a shell knows beside what the operating system knows of it: variables, functions and aliases,
its arguments and options, the jobs that it has begun, and how the last command ended. A step of a
shell (`Sh`) is an act that can change this state, and that can end early. -/

namespace Golden.Host.Shell

/-- A variable, which programs see if it is exported and set. -/
structure Variable where
  name : String
  value : Option String
  isExported : Bool
  isFixed : Bool
  deriving DecidableEq, Inhabited

/-- What keeps commands from being run: loops that are left or go on, or a function that is left. -/
inductive Skip where
  | nothing
  | breaks (levels : Nat)
  | continues (levels : Nat)
  /-- A function or script is left, with a status of its own if `isTold`. -/
  | returns (isTold : Bool)
  deriving DecidableEq, Inhabited

/-- A process of a job, with how it ended. -/
structure Member where
  pid : Nat
  ending : Option Ending
  deriving DecidableEq, Inhabited

/-- A job: processes that have been started together. -/
structure Job where
  number : Nat
  members : List Member
  isBackground : Bool
  /-- It has been waited for. -/
  isWaited : Bool
  deriving DecidableEq, Inhabited

/-- A variable as it was before a function made it its own. -/
structure Saved where
  name : String
  before : Option Variable
  deriving DecidableEq, Inhabited

/-- A command that has been found along the search path. -/
structure Found where
  name : String
  path : String
  /-- The working directory has been another one then. -/
  isOld : Bool
  deriving DecidableEq, Inhabited

/-- The state of a shell. -/
structure State where
  vars : List Variable
  functions : List (String × Command)
  aliases : List (String × String)
  /-- The letters of the options that are set. -/
  options : List Char
  /-- Options that have no letter. -/
  moreOptions : List String
  name : String
  arguments : List String
  /-- Where the options of a script have been read up to: the argument that comes next, and the
  letters that have been read of the one before. -/
  optionIndex : Nat
  optionOffset : Option Nat
  status : Nat
  /-- The status of the last command whose output was put into a word. -/
  outputStatus : Nat
  skip : Skip
  loops : Nat
  /-- The line of the command that is run. -/
  line : Nat
  /-- The number of functions that are being run. -/
  depth : Nat
  /-- The command of the shell itself that is run, for mistakes. -/
  command : Option String
  /-- What functions have hidden, the innermost first. -/
  hidden : List (List Saved)
  traps : List (Nat × String)
  caught : List Nat
  /-- The signals that have come and whose traps have not been run. -/
  arrived : List Nat
  /-- The signals that were ignored when the shell began. -/
  ignored : List Nat
  jobs : List Job
  lastBackground : Option Nat
  rootProcess : Nat
  isSubshell : Bool
  documents : List (Nat × Word)
  nextDocument : Nat
  /-- The commands that have been found along the search path. -/
  found : List Found
  directory : String
  /-- Where a trace goes. -/
  traceTo : Nat
  isTracing : Bool
  /-- Whether the end of what is read has been met already. -/
  isAtEnd : Bool
  /-- The status before the commands of a trap. -/
  savedStatus : Option Nat
  /-- What the command that is run has written and is not yet on its way. -/
  output : String
  deriving Inhabited

/-- Why a shell ends early. -/
inductive Stop where
  /-- The shell is told to end. -/
  | exit
  /-- A mistake, which has been told. -/
  | failed
  /-- There is nothing more to do. -/
  | finished
  deriving DecidableEq, Inhabited

/-- A step of a shell. -/
def Sh (α : Type) : Type := State → (Except Stop α → State → Process) → Process

namespace Sh

instance : Monad Sh where
  pure a := fun s next => next (.ok a) s
  bind x f := fun s next => x s fun r s =>
    match r with
    | .ok a => f a s next
    | .error e => next (.error e) s

instance {α : Type} : Inhabited (Sh α) := ⟨fun s next => next (.error .finished) s⟩

instance : MonadStateOf State Sh where
  get := fun s next => next (.ok s) s
  set s := fun _ next => next (.ok ()) s
  modifyGet f := fun s next => let (a, s) := f s; next (.ok a) s

/-- Changes the state. -/
def change (f : State → State) : Sh Unit := fun s next => next (.ok ()) (f s)

/-- What a part of the state is. -/
def read {α : Type} (f : State → α) : Sh α := fun s next => next (.ok (f s)) s

/-- Ends early. -/
def stop {α : Type} (e : Stop) : Sh α := fun s next => next (.error e) s

/-- The result of a step, even if it ends early. -/
def attempt {α : Type} (x : Sh α) : Sh (Except Stop α) :=
  fun s next => x s fun r s => next (.ok r) s

/-- Gives a result that may be an early end. -/
def ofExcept {α : Type} : Except Stop α → Sh α
  | .ok a => pure a
  | .error e => stop e

/-- An act as a step. -/
def act {α : Type} (a : Act α) : Sh α := fun s next => a fun x => next (.ok x) s

/-- Asks the operating system. -/
def call (c : Call) : Sh c.Reply := fun s next => .call c fun r => next (.ok r) s

/-- Makes a child, and gives its number. -/
def fork (child : Sh Unit) : Sh Nat := fun s next =>
  .fork (fun _ => child s fun _ s => .exit s.status) fun pid => next (.ok pid) s

/-- Ends the process. -/
def quit {α : Type} (status : Nat) : Sh α := fun _ _ => .exit status

/-- Sets the status of the last command. -/
def setStatus (n : Nat) : Sh Unit := change fun s => { s with status := n }

/-! ### Telling mistakes -/

/-- Writes to standard error. -/
def complain (text : String) : Sh Unit := act (Act.complain text)

/-- What a mistake begins with. -/
def blame (s : State) (line : Nat) : String :=
  s.name ++ ": " ++ toString line ++ ": " ++
    (match s.command with
    | some c => c ++ ": "
    | none => "")

/-- Tells a mistake. -/
def warn (text : String) : Sh Unit := do
  let s ← get
  complain (blame s s.line ++ text ++ "\n")

/-- The status that a mistake leaves behind. -/
def mistakeStatus : Nat := 2

/-- Tells a mistake, and ends early. -/
def fail {α : Type} (text : String) : Sh α := do
  warn text
  setStatus mistakeStatus
  stop .failed

/-! ### Output -/

/-- Writes to standard output, when the command of the shell has ended. -/
def write (text : String) : Sh Unit := change fun s => { s with output := s.output ++ text }

end Sh

/-! ### Options -/

/-- The options with their letters, in the order in which they are listed. Some have no letter. -/
def optionTable : List (String × Option Char) :=
  [("errexit", some 'e'), ("noglob", some 'f'), ("ignoreeof", some 'I'), ("interactive", some 'i'),
   ("monitor", some 'm'), ("noexec", some 'n'), ("stdin", some 's'), ("xtrace", some 'x'),
   ("verbose", some 'v'), ("vi", some 'V'), ("emacs", some 'E'), ("noclobber", some 'C'),
   ("allexport", some 'a'), ("notify", some 'b'), ("nounset", some 'u'),
   ("privileged", some 'p'), ("nolog", none), ("debug", none)]

namespace State

/-- Whether an option is set. -/
def has (s : State) (letter : Char) : Bool := s.options.contains letter

/-- Sets an option or takes it back. -/
def setOption (s : State) (letter : Char) (on : Bool) : State :=
  let others := s.options.filter (· ≠ letter)
  { s with options := if on then letter :: others else others }

/-- The letters of the options that are set. -/
def optionLetters (s : State) : String :=
  String.ofList ((optionTable.filterMap Prod.snd).reverse.filter s.has)

end State

end Golden.Host.Shell
