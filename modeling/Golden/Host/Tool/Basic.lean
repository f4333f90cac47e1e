import Golden.Host.Act
import Golden.Host.Tool.Quoting

/-! # Tools

A tool is a program that reads its arguments, writes to standard output, tells mistakes, and ends
with a status. What it writes is collected and put out in pieces. -/

namespace Golden.Host

/-- What a tool knows of itself. -/
structure Console where
  /-- The name that it has been called by. -/
  name : String
  environment : List (String × String)
  /-- What has been written and is not yet on its way. -/
  pending : String
  status : Nat
  /-- What is said when standard output refuses what is written, and the status then. -/
  refused : Errno → String × Nat
  deriving Inhabited

/-- A part of what a tool does. -/
def Tool (α : Type) : Type := Console → (α → Console → Process) → Process

namespace Tool

instance : Monad Tool where
  pure a := fun c next => next a c
  bind x f := fun c next => x c fun a c => f a c next

instance {α : Type} : Inhabited (Tool α) := ⟨fun _ _ => .exit 0⟩

/-- What is known of the tool. -/
def console : Tool Console := fun c next => next c c

/-- Changes what is known of the tool. -/
def change (f : Console → Console) : Tool Unit := fun c next => next () (f c)

/-- An act of a tool. -/
def act {α : Type} (a : Act α) : Tool α := fun c next => a fun x => next x c

/-- Asks the operating system. -/
def call (k : Call) : Tool k.Reply := fun c next => .call k fun r => next r c

/-- Ends at once, whatever has not been put out. -/
def quit {α : Type} (status : Nat) : Tool α := fun _ _ => .exit status

/-- Tells a mistake. -/
def warn (text : String) : Tool Unit := do
  act (Act.complain ((← console).name ++ ": " ++ text ++ "\n"))

/-- Writes to standard error. -/
def complain (text : String) : Tool Unit := act (Act.complain text)

/-- Puts out what has been written. -/
def flush : Tool Unit := do
  let c ← console
  change fun c => { c with pending := "" }
  match ← act (Act.write 1 c.pending) with
  | .ok () => return ()
  | .error e =>
    let (text, status) := c.refused e
    warn text
    quit status

/-- The number of octets that are put out at once. -/
def blockSize : Nat := 4096

/-- Writes to standard output. -/
def put (text : String) : Tool Unit := do
  change fun c => { c with pending := c.pending ++ text }
  if blockSize ≤ (← console).pending.utf8ByteSize then flush

/-- Ends, with what has been written put out. -/
def exit {α : Type} (status : Nat) : Tool α := do
  flush
  quit status

/-- Tells a mistake, and ends. -/
def fail {α : Type} (status : Nat) (text : String) : Tool α := do
  flush
  warn text
  quit status

/-- Notes the status to end with. -/
def setStatus (status : Nat) : Tool Unit := change fun c => { c with status }

/-- Tells a mistake, and notes that there was one. -/
def note (text : String) : Tool Unit := do
  warn text
  setStatus 1

/-- The path of a name in a directory. -/
def inside (directory name : String) : String :=
  if directory.endsWith "/" then directory ++ name else directory ++ "/" ++ name

/-- What most tools say when standard output refuses what is written. -/
def usualRefusal (e : Errno) : String × Nat := ("write error: " ++ e.words, 1)

/-- The program that a tool is, with what it says when standard output refuses what is written. -/
def programWith (refused : Errno → String × Nat) (body : List String → Tool Unit) : Program :=
  fun args env =>
    let whole : Tool Unit := do
      body args.tail
      let c ← console
      exit c.status
    whole ⟨args.headD "", env, "", 0, refused⟩ fun _ c => .exit c.status

/-- The program that a tool is. -/
def program (body : List String → Tool Unit) : Program := programWith usualRefusal body

/-! ### Children

A tool can make children that become other programs, and wait for them (`start`, `await`). It can
also listen to what a shell command writes, or write what such a command reads (`startPiped`). -/

/-- Makes a child that becomes another program. -/
def start (refusal : Errno → Act Nat) (prepare : Act Unit) (args : List String) : Tool Nat := do
  flush
  let env := (← console).environment
  act (Act.fork do
    prepare
    let e ← Act.execute false (Act.searchPath env) args env
    refusal e)

/-- Waits for a child. -/
def await (pid : Nat) (deadline : Option Nat) : Tool (Option Ending) := do
  let r : Except Errno (Option (Nat × Ending)) ← call (.wait (some pid) deadline false)
  match r with
  | .ok (some (_, how)) => return some how
  | .ok none => return none
  | .error _ => return some (.exited 0)

/-- A child and the descriptor at which the tool listens or speaks to it. -/
structure Child where
  pid : Nat
  descriptor : Nat
  deriving DecidableEq, Inhabited

/-- Becomes a shell with a name that runs a command. -/
def becomeShell (name : String) (env : List (String × String)) (command : String) : Act Nat := do
  let _ : Errno ← Act.call (.execute "/bin/sh" [name, "-c", command] env)
  return 127

/-- Makes a child that runs a command in a shell with a name. The tool hears what it writes if
`listens`, and otherwise writes what it reads. -/
def startPiped (shell : String) (listens : Bool) (command : String) :
    Tool (Except Errno Child) := do
  flush
  let env := (← console).environment
  let ends : Except Errno (Nat × Nat) ← call .pipe
  match ends with
  | .error e => return .error e
  | .ok (r, w) =>
    let (ours, theirs, target) := if listens then (r, w, 1) else (w, r, 0)
    let own : Except Errno Nat ← call (.duplicate ours 10 true)
    act (Act.close ours)
    let ours := own.toOption.getD ours
    let pid ← act (Act.fork do
      let _ ← Act.call (.duplicateTo theirs target)
      if theirs ≠ target then Act.close theirs
      becomeShell shell env command)
    act (Act.close theirs)
    return .ok ⟨pid, ours⟩

/-- Runs a shell command, and gives how it has ended. -/
def runShell (command : String) : Tool Ending := do
  flush
  let env := (← console).environment
  let pid ← act (Act.fork (becomeShell "sh" env command))
  return (← await pid none).getD (.exited 0)

/-- What a shell command writes. -/
def outputOf (command : String) : Tool String := do
  match ← startPiped "sh" true command with
  | .error _ => return ""
  | .ok child =>
    let text ← act (Act.readAll child.descriptor)
    act (Act.close child.descriptor)
    let _ ← await child.pid none
    return text.toOption.getD ""

end Tool

end Golden.Host
