import Golden.Host.Installed
import Golden.Host.Machine.Run
import Golden.Script

/-! # Launching programs

A command is launched on a machine of its own, which has the tree of files before it and leaves the
tree behind. The program of a command is looked for along the search path, and it has to say itself
what runs it. -/

namespace Golden.Host

namespace Launch

/-- The variables that every program is told. -/
def given : List (String × String) := [("HOME", "/root"), ("PATH", "/usr/local/bin:/usr/bin:/bin")]

/-- The environment of a command, in the order of the names. -/
def environment (c : Script.Command) : List (String × String) :=
  let own := c.environment.map fun v => (Octets.ofText v.1, Octets.ofText v.2)
  let others := given.filter fun v => (own.lookup v.1).isNone
  (own ++ others).mergeSort fun a b => !(b.1 < a.1)

/-- Becomes the first of several programs that can be run. -/
def firstExecuted (m : Machine) (args : List String) (env : List (String × String)) :
    Errno → List String → Except Errno (Machine × Process)
  | e, [] => .error e
  | e, path :: rest =>
    match m.execute Machine.firstProcess path args env with
    | .ok started => .ok started
    | .error .noEntry | .error .notDirectory => firstExecuted m args env e rest
    | .error .noPermission => firstExecuted m args env .noPermission rest
    | .error e => .error e

/-- Becomes the program of a command, in its directory. -/
def executed (c : Script.Command) (m : Machine) : Except Errno (Machine × Process) := do
  let pid := Machine.firstProcess
  let m ← match c.directory with
    | none => pure m
    | some d =>
      let i ← m.tree.find true (Octets.ofText d.spelling)
      if m.tree.holdsNames i then pure (m.change pid fun e => { e with directory := i })
      else throw .notDirectory
  let args := (c.program :: c.arguments).map Octets.ofText
  let env := environment c
  let name := args.headD ""
  if name = "" then throw .noEntry
  if name.contains '/' then m.execute pid name args env
  else firstExecuted m args env .noEntry (Act.candidates name (Act.searchPath env))

/-- How a machine has come to its end. -/
def ending (m : Machine) : Script.Ending :=
  match (m.entry Machine.firstProcess).life with
  | .ended (.exited n) => .exited n
  | .ended (.killed n) => .killed n
  | _ => .killed Signals.kill

/-- Runs a command to its end. -/
def command (c : Script.Command) (t : Tree) : Except String Script.Finished × Tree :=
  match executed c (Machine.start t Installed.program?) with
  | .error e => (.error e.message, t)
  | .ok (m, p) =>
    let pid := Machine.firstProcess
    let m := m.change pid fun e => { e with life := .running p }
    let m := Machine.rounds Machine.manyRounds [pid] m
    let collected (i : Nat) : Bytes := (m.sinks[i]?.getD .empty).toList
    (.ok ⟨ending m, collected 0, collected 1⟩, { m.tree with here := t.here })

end Launch

/-- The launcher of a tree. -/
def launcher : Script.Launcher Tree := ⟨Launch.command⟩

end Golden.Host
