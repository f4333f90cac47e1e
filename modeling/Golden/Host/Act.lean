import Golden.Host.Octets
import Golden.Host.Process

/-! # Acts

An act is a part of what a process does: it makes a process out of what goes on with its result.
Acts follow one another as in any monad. -/

namespace Golden.Host

/-- A part of a process, with a result. -/
def Act (α : Type) : Type := (α → Process) → Process

namespace Act

instance : Monad Act where
  pure a := fun next => next a
  bind act f := fun next => act fun a => f a next

instance {α : Type} [Inhabited α] : Inhabited (Act α) := ⟨pure default⟩

/-- Asks the operating system. -/
def call (c : Call) : Act c.Reply := fun next => .call c next

/-- Ends the process. -/
def exit {α : Type} (status : Nat) : Act α := fun _ => .exit status

/-- Makes a child, and gives its number. -/
def fork (child : Act Nat) : Act Nat := fun next => .fork (fun _ => child .exit) next

/-- The process that does nothing else, and ends with the result. -/
def run (act : Act Nat) : Process := act .exit

/-- A number of steps that nothing needs. -/
def manySteps : Nat := 1000000000000

/-- The number of octets that are read at once. -/
def blockSize : Nat := 65536

/-- Reads up to the end, after what has been read. -/
def readRest (d : Nat) : Nat → ByteArray → Act (Except Errno ByteArray)
  | 0, read => pure (.ok read)
  | n + 1, read => do
    match ← call (.read d blockSize) with
    | .error e => pure (.error e)
    | .ok more => if more.isEmpty then pure (.ok read) else readRest d n (read ++ more)

/-- Reads up to the end. -/
def readAll (d : Nat) : Act (Except Errno String) := do
  let r ← readRest d manySteps .empty
  return r.map Octets.unpack

/-- Writes a text. -/
def write (d : Nat) (text : String) : Act (Except Errno Unit) := do
  if text = "" then return .ok ()
  let r ← call (.write d (Octets.pack text))
  return r.map fun _ => ()

/-- Writes a text to standard error, and goes on in any case. -/
def complain (text : String) : Act Unit := do
  let _ ← write 2 text

/-- Opens a file. -/
def openFile (path : String) (how : Opening) : Act (Except Errno Nat) :=
  call (.openFile path how 0o666)

/-- Closes a descriptor. -/
def close (d : Nat) : Act Unit := do
  let _ ← call (.close d)

/-- The contents of a file. -/
def readFile (path : String) : Act (Except Errno String) := do
  match ← openFile path .toRead with
  | .error e => return .error e
  | .ok d =>
    let r ← readAll d
    close d
    return r

/-- Puts a text into a file. -/
def writeFile (path text : String) : Act (Except Errno Unit) := do
  match ← openFile path .toWrite with
  | .error e => return .error e
  | .ok d =>
    let r ← write d text
    close d
    return r

/-- Whether a path leads to something. -/
def has (path : String) : Act Bool := do
  return (← call (.facts path true)).isOk

/-- What is known of what a path leads to, if there is anything. -/
def facts? (path : String) (follow : Bool) : Act (Option Facts) := do
  return (← call (.facts path follow)).toOption

/-- Whether a path leads to a directory. -/
def isDirectory (path : String) : Act Bool := do
  return (← facts? path true).any (·.kind = .directory)

/-- Lets time pass. -/
def sleep (nanoseconds : Nat) : Act (Except Errno Unit) := do
  let now : Nat ← call .now
  call (.sleepUntil (now + nanoseconds))

/-- The paths under which a program is looked for: its name if it has a `/`, and otherwise in the
directories of a search path. -/
def candidates (name search : String) : List String :=
  if name.contains '/' then [name]
  else (search.splitOn ":").map fun d => if d = "" then name else d ++ "/" ++ name

/-- The number of octets that tell whether a file is a text. -/
def glance : Nat := 128

/-- Whether a file that begins with these octets is a text: there are no signs for machines in its
first line, other than those that move on the paper and the one that begins other signs. -/
def looksLikeText (start : String) : Bool :=
  (start.toList.takeWhile (· ≠ '\n')).all fun c =>
    if c < ' ' then ('\x08' < c && c < '\x10') || c = '\x1b' else c ≠ '\x7f'

/-- Whether what is under a path is a text. -/
def isText (path : String) : Act Bool := do
  match ← openFile path .toRead with
  | .error _ => return false
  | .ok d =>
    let start ← call (.read d glance)
    close d
    return looksLikeText (Octets.unpack (start.toOption.getD .empty))

/-- Becomes the program under a path. A file that is no program is taken for a shell script, but if
`careful` only if it is a text. -/
def executeAt (careful : Bool) (path : String) (args : List String)
    (env : List (String × String)) : Act Errno := do
  match ← call (.execute path args env) with
  | .badFormat =>
    let isScript ← if careful then isText path else pure true
    if isScript then call (.execute "/bin/sh" ("/bin/sh" :: path :: args.tail) env)
    else return .badFormat
  | (e : Errno) => return e

/-- Becomes the first of several programs that can be run. The refusal is the first one that says
more than that there is nothing. -/
def executeFirst (careful : Bool) (args : List String) (env : List (String × String)) :
    Errno → List String → Act Errno
  | e, [] => pure e
  | e, path :: rest => do
    match ← executeAt careful path args env with
    | .noEntry | .notDirectory => executeFirst careful args env e rest
    | .noPermission => executeFirst careful args env .noPermission rest
    | e => pure e

/-- Becomes a program that is looked for along a search path. -/
def execute (careful : Bool) (search : String) (args : List String)
    (env : List (String × String)) : Act Errno :=
  match args with
  | [] | "" :: _ => pure .noEntry
  | name :: _ =>
    if name.contains '/' then executeAt careful name args env
    else executeFirst careful args env .noEntry (candidates name search)

/-- The search path of an environment. -/
def searchPath (env : List (String × String)) : String := (env.lookup "PATH").getD "/bin:/usr/bin"

end Act

end Golden.Host
