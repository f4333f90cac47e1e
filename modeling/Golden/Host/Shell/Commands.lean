import Golden.Host.Shell.Builtin.Jobs
import Golden.Host.Shell.Builtin.Output
import Golden.Host.Shell.Builtin.Places
import Golden.Host.Shell.Builtin.Test

/-! # The commands of the shell

The commands that a shell carries out itself (`OwnCommand.find?`). Some of them evaluate other
commands, which is not told here. -/

namespace Golden.Host.Shell

/-- What a command of the shell does. -/
inductive Deed where
  | plain (run : Builtin)
  /-- Evaluates a text. -/
  | evaluate
  /-- Evaluates a file. -/
  | source
  /-- Becomes a program. -/
  | become

/-- A command of the shell. The assignments in front of a special one remain, and its mistakes end
the shell. The arguments of an assigning one can be assignments. -/
structure OwnCommand where
  name : String
  isSpecial : Bool
  isAssigning : Bool
  deed : Deed

namespace Builtin

/-- Ends the shell. -/
def exit : Builtin := fun args => do
  match args with
  | [] => pure ()
  | a :: _ =>
    let n ← number a
    Sh.change fun s => { s with savedStatus := some n }
  Sh.stop .exit

/-- Leaves a function or a script. -/
def leave : Builtin := fun args => do
  match args with
  | [] =>
    Sh.change fun s => { s with skip := .returns false }
    return (← get).status
  | a :: _ =>
    Sh.change fun s => { s with skip := .returns true }
    number a

/-- Leaves loops, or goes on with their next round. -/
def skipLoops (skip : Nat → Skip) : Builtin := fun args => do
  let n ← match args with
    | [] => pure 1
    | a :: _ => do
      let n ← number a
      if n = 0 then Sh.fail ("Illegal number: " ++ a)
      pure n
  let n := min n (← get).loops
  if 0 < n then Sh.change fun s => { s with skip := skip n }
  return 0

/-- Does nothing. -/
def nothing (status : Nat) : Builtin := fun _ => return status

end Builtin

namespace OwnCommand

/-- The names of all commands of the shell. -/
def names : List String :=
  [".", ":", "[", "alias", "bg", "break", "cd", "chdir", "command", "continue", "echo", "eval",
   "exec", "exit", "export", "false", "fg", "getopts", "hash", "jobs", "kill", "local", "printf",
   "pwd", "read", "readonly", "return", "set", "shift", "test", "times", "trap", "true", "type",
   "ulimit", "umask", "unalias", "unset", "wait"]

/-- Tells what a name stands for, as `command` does. -/
def tell : Builtin := fun args => do
  let (letters, names) ← Builtin.options "pvV" args
  let search := if letters.any (·.1 = 'p') then some usualSearchPath else none
  let told := letters.filter (·.1 ≠ 'p')
  match told.getLast?, names with
  | some (letter, _), name :: _ => do
    Builtin.tellMeaning (letter = 'V') name (← Builtin.meaning OwnCommand.names search name)
  | _, _ => return 0

/-- What a command of the shell does, if a name is that of one. -/
def deed? (name : String) : Option Deed :=
  match name with
  | "." => some .source
  | ":" | "true" => some (.plain (Builtin.nothing 0))
  | "[" => some (.plain Builtin.bracket)
  | "alias" => some (.plain Builtin.setAliases)
  | "bg" | "fg" => some (.plain Builtin.resume)
  | "break" => some (.plain (Builtin.skipLoops .breaks))
  | "cd" | "chdir" => some (.plain Builtin.cd)
  | "command" => some (.plain tell)
  | "continue" => some (.plain (Builtin.skipLoops .continues))
  | "echo" => some (.plain Builtin.echo)
  | "eval" => some .evaluate
  | "exec" => some .become
  | "exit" => some (.plain Builtin.exit)
  | "export" => some (.plain Builtin.exportNames)
  | "false" => some (.plain (Builtin.nothing 1))
  | "getopts" => some (.plain Builtin.getopts)
  | "hash" => some (.plain Builtin.hash)
  | "jobs" => some (.plain Builtin.jobs)
  | "kill" => some (.plain Builtin.kill)
  | "local" => some (.plain Builtin.ownNames)
  | "printf" => some (.plain Builtin.printf)
  | "pwd" => some (.plain Builtin.pwd)
  | "read" => some (.plain Builtin.readNames)
  | "readonly" => some (.plain Builtin.fix)
  | "return" => some (.plain Builtin.leave)
  | "set" => some (.plain Builtin.setAll)
  | "shift" => some (.plain Builtin.shift)
  | "test" => some (.plain Builtin.test)
  | "times" => some (.plain Builtin.times)
  | "trap" => some (.plain Builtin.trap)
  | "type" => some (.plain (Builtin.typeOf names))
  | "ulimit" => some (.plain Builtin.limits)
  | "umask" => some (.plain Builtin.umask)
  | "unalias" => some (.plain Builtin.unsetAliases)
  | "unset" => some (.plain Builtin.unset)
  | "wait" => some (.plain Builtin.wait)
  | _ => none

/-- The command of the shell with a name. -/
def find? (name : String) : Option OwnCommand :=
  (deed? name).map fun deed =>
    ⟨name, Grammar.specialNames.contains name,
      ["alias", "export", "local", "readonly"].contains name,
      deed⟩

/-- Leaves assignments as they are and does nothing. -/
def empty : OwnCommand := ⟨"", false, false, .plain fun _ => do return (← get).outputStatus⟩

end OwnCommand

end Golden.Host.Shell
