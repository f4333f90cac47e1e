import Golden.Host.Shell.Variables
import Golden.Host.Signals

/-! # Jobs

The processes that a shell starts together are a job. A shell waits for a job by waiting for any
process, and noting how it ended, until all processes of the job have ended. The status of a job is
that of its last process. -/

namespace Golden.Host.Shell

namespace Job

/-- Whether all processes have ended. -/
def isDone (j : Job) : Bool := j.members.all (·.ending.isSome)

/-- The status of a way to end. -/
def statusOf : Ending → Nat
  | .exited n => n
  | .killed n => 128 + n

/-- How the last process has ended. -/
def ending (j : Job) : Ending := ((j.members.getLast?).bind (·.ending)).getD (.exited 0)

/-- The status of a job. -/
def status (j : Job) : Nat := statusOf j.ending

/-- What is said of a job. -/
def text (j : Job) : String :=
  if !j.isDone then "Running"
  else
    match j.ending with
    | .exited 0 => "Done"
    | .exited n => "Done(" ++ toString n ++ ")"
    | .killed n => Signals.words n

end Job

namespace Jobs

/-- Makes a job without processes, and gives its number. -/
def start (isBackground : Bool) : Sh Nat := do
  let s ← get
  let isFree (n : Nat) : Bool :=
    match s.jobs.find? (·.number = n) with
    | none => true
    | some j => j.isDone && j.isWaited
  let number := ((List.range (s.jobs.length + 1)).map (· + 1)).find? isFree
  let number := number.getD (s.jobs.length + 1)
  let job : Job := ⟨number, [], isBackground, false⟩
  Sh.change fun s => { s with jobs := job :: s.jobs.filter (·.number ≠ number) }
  return number

/-- Changes a job. -/
def change (number : Nat) (f : Job → Job) : Sh Unit :=
  Sh.change fun s => { s with jobs := s.jobs.map fun j => if j.number = number then f j else j }

/-- Adds a process to a job. -/
def add (number pid : Nat) : Sh Unit :=
  change number fun j => { j with members := j.members ++ [⟨pid, none⟩] }

/-- A job by its number. -/
def find? (number : Nat) : Sh (Option Job) := do
  let s ← get
  return s.jobs.find? (·.number = number)

/-- Forgets a job. -/
def forget (number : Nat) : Sh Unit :=
  Sh.change fun s => { s with jobs := s.jobs.filter (·.number ≠ number) }

/-- Notes how a process has ended. Gives the job that it belongs to. -/
def note (pid : Nat) (e : Ending) : Sh (Option Nat) := do
  let s ← get
  let isIts (j : Job) : Bool := j.members.any fun m => m.pid = pid && m.ending.isNone
  match s.jobs.find? isIts with
  | none => return none
  | some j =>
    change j.number fun j => { j with
      members := j.members.map fun m => if m.pid = pid then { m with ending := some e } else m }
    return some j.number

/-- Says how a process has ended that has been awaited, if a signal has ended it. -/
def tell (e : Ending) : Sh Unit :=
  match e with
  | .killed n =>
    if n = Signals.interrupt || n = Signals.pipe then pure ()
    else Sh.complain (Signals.words n ++ "\n")
  | .exited _ => pure ()

/-- Notes which processes have ended, without waiting. -/
def poll : Nat → Sh Unit
  | 0 => pure ()
  | n + 1 => do
    match ← Sh.call (.wait none (some 0) false) with
    | .ok (some ((pid, e) : Nat × Ending)) =>
      let _ ← note pid e
      poll n
    | _ => pure ()

/-- How waiting for a job has ended. -/
inductive Waited where
  | done
  | interrupted
  deriving DecidableEq, Inhabited

/-- Waits for a job. Signals cut this short if it is `light`. -/
def await (light : Bool) (number : Nat) : Nat → Sh Waited
  | 0 => pure .done
  | n + 1 => do
    match ← find? number with
    | none => return .done
    | some j =>
      if j.isDone then return .done
      match ← Sh.call (.wait none none light) with
      | .ok (some ((pid, e) : Nat × Ending)) =>
        if (← note pid e) = some number then tell e
        await light number n
      | .error .interrupted => return .interrupted
      | _ =>
        change number fun j => { j with
          members := j.members.map fun m =>
            { m with ending := some (m.ending.getD (.exited 127)) } }
        return .done

/-- Waits for a job in the foreground, and gives its status. -/
def finish (number : Nat) : Sh Nat := do
  let _ ← await false number Act.manySteps
  let j ← find? number
  forget number
  return (j.map Job.status).getD 0

/-! ### Children -/

/-- Lets a child forget what only its parent has to know. -/
def settle (inBackground : Bool) : Sh Unit := do
  let s ← get
  s.caught.forM fun n => do
    let _ ← Sh.call (.handle n .usual)
    pure ()
  if inBackground then
    let _ ← Sh.call (.handle Signals.interrupt .ignored)
    let _ ← Sh.call (.handle 3 .ignored)
    pure ()
  Sh.change fun s => { s with
    isSubshell := true, jobs := [], caught := [], traps := s.traps.filter (·.2 = "") }

/-- Starts a process of a job. -/
def launch (number : Nat) (inBackground : Bool) (body : Sh Unit) : Sh Nat := do
  let pid ← Sh.fork do
    settle inBackground
    body
  add number pid
  if inBackground then Sh.change fun s => { s with lastBackground := some pid }
  return pid

end Jobs

end Golden.Host.Shell
