import Golden.Host.Shell.Builtin.Arguments
import Golden.Host.Shell.Jobs

/-! # Jobs and signals -/

namespace Golden.Host.Shell.Builtin

/-- The job that a text names. -/
def jobNamed (name : String) : Sh Job := do
  let s ← get
  let found (j : Option Job) (complaint : String) : Sh Job :=
    match j with
    | some j => pure j
    | none => Sh.fail complaint
  match name.toList with
  | ['%'] | ['%', '+'] | ['%', '%'] => found s.jobs.head? "No current job"
  | ['%', '-'] => found s.jobs.tail.head? "No previous job"
  | '%' :: cs =>
    let number := if cs.all Char.isDigit then some (Numbers.ofDigits 10 cs) else none
    found (number.bind fun n => s.jobs.find? (·.number = n)) ("No such job: " ++ name)
  | _ => Sh.fail ("No such job: " ++ name)

/-- The job whose last process has a number. -/
def jobWith? (s : State) (pid : Nat) : Option Job :=
  s.jobs.find? fun j => (j.members.getLast?.map Member.pid) = some pid

/-- Waits for all jobs. -/
def waitForAll : Nat → Sh Jobs.Waited
  | 0 => pure .done
  | n + 1 => do
    let s ← get
    match s.jobs.find? fun j => !j.isDone with
    | none =>
      Sh.change fun s => { s with jobs := s.jobs.map fun j => { j with isWaited := true } }
      return .done
    | some _ =>
      match ← Sh.call (.wait none none true) with
      | .ok (some ((pid, e) : Nat × Ending)) =>
        let _ ← Jobs.note pid e
        waitForAll n
      | .error .interrupted => return .interrupted
      | _ => return .done

/-- The status when a signal cuts waiting short. -/
def interruptedStatus : Sh Nat := do
  let signals : List Nat ← Sh.call .takeSignals
  Sh.change fun s => { s with arrived := s.arrived ++ signals }
  let s ← get
  return 128 + (s.arrived.head?).getD 0

/-- Waits for jobs, one after the other. -/
def waitForEach : List String → Nat → Sh Nat
  | [], status => pure status
  | a :: rest, _ => do
    let s ← get
    let job : Option Job ← if a.startsWith "%" then do pure (some (← jobNamed a))
      else do pure (jobWith? s (← number a))
    match job with
    | none => waitForEach rest 127
    | some j =>
      match ← Jobs.await true j.number Act.manySteps with
      | .interrupted => interruptedStatus
      | .done =>
        let ended := ((← Jobs.find? j.number).map Job.status).getD 127
        Jobs.change j.number fun j => { j with isWaited := true }
        waitForEach rest ended

/-- Waits for jobs. -/
def wait : Builtin := fun args => do
  match ← options "" args with
  | (_, []) =>
    match ← waitForAll Act.manySteps with
    | .done => return 0
    | .interrupted => interruptedStatus
  | (_, args) => waitForEach args 0

/-- The column in which the commands of a job are told. -/
def jobColumn : Nat := 33

/-- Tells a job, and forgets it if it is done. -/
def tellJob (pids onlyPid : Bool) (j : Job) : Sh Unit := do
  let s ← get
  let first := ((j.members.head?).map Member.pid).getD 0
  if onlyPid then Sh.write (toString first ++ "\n")
  else
    let sign := if (s.jobs.head?).map Job.number = some j.number then "+"
      else if (s.jobs.tail.head?).map Job.number = some j.number then "-" else " "
    let line := "[" ++ toString j.number ++ "] " ++ sign ++ " " ++
      (if pids then toString first ++ " " else "") ++ j.text
    let line := line ++ String.ofList (List.replicate (jobColumn - line.length) ' ')
    let indent := String.ofList (List.replicate (5 + (toString j.number).length) ' ')
    let others := j.members.tail.map fun m =>
      if pids then " |\n" ++ indent ++ toString m.pid ++ " " else " | "
    Sh.write (line ++ String.join others ++ "\n")
  if j.isDone then Jobs.forget j.number

/-- Tells the jobs. -/
def jobs : Builtin := fun args => do
  let (letters, args) ← options "lp" args
  let pids := letters.getLast?.any (·.1 = 'l')
  let onlyPid := letters.getLast?.any (·.1 = 'p')
  Jobs.poll 100000
  let js ← if args = [] then do pure (← get).jobs else args.mapM jobNamed
  js.forM (tellJob pids onlyPid)
  return 0

/-- Lets a job go on. Only a shell that controls its jobs can do that. -/
def resume : Builtin := fun args => do
  let (_, args) ← options "" args
  let name := args.headD ""
  let _ ← if args = [] then jobNamed "%" else jobNamed name
  let shown := if args = [] then "(null)" else name
  Sh.fail ("job " ++ shown ++ " not created under job control")

/-! ### Signals -/

/-- The name of a signal, or that of the end of a shell. -/
def signalName (n : Nat) : String :=
  if n = 0 then "EXIT" else ((Signals.name? n).filter (· ≠ "STKFLT")).getD (toString n)

/-- The signal that a text names, from a number on. -/
def signalNamed? (least : Nat) (s : String) : Option Nat :=
  if s ≠ "" && s.toList.all Char.isDigit then
    let n := Numbers.ofDigits 10 s.toList
    if n ≤ Signals.greatest then some n else none
  else
    (List.range (Signals.greatest + 1)).find? fun n => least ≤ n && signalName n = s.toUpper

/-- What is said of a call of `kill` that makes no sense. -/
def killUsage {α : Type} : Sh α :=
  Sh.fail ("Usage: kill [-s sigspec | -signum | -sigspec] [pid | job]... or\n" ++
    "kill -l [exitstatus]")

/-- The signal and the other arguments of `kill`, and whether signals are to be listed. -/
def killArguments (args : List String) : Sh (Option Nat × List String × Bool) := do
  match args with
  | [] => killUsage
  | a :: rest =>
    match a.toList with
    | '-' :: cs =>
      match signalNamed? 1 (String.ofList cs) with
      | some n => return (some n, rest, false)
      | none =>
        let (letters, others) ← options "ls:" args
        let chosen ← match letters.findRev? (·.1 = 's') with
          | some (_, name) =>
            match signalNamed? 1 name with
            | some n => pure (some n)
            | none => Sh.fail ("invalid signal number or name: " ++ name)
          | none => pure none
        return (chosen, others, letters.any (·.1 = 'l'))
    | _ => return (none, args, false)

/-- Sends a signal to a process. -/
def sendTo (signal : Nat) (target : String) : Sh Nat := do
  let pid ← if target.startsWith "%" then do
      let j ← jobNamed target
      pure (((j.members.head?).map Member.pid).getD 0)
    else if target.startsWith "-" then do
      let n ← number (target.drop 1).toString
      pure n
    else number target
  match ← Sh.call (.send pid signal) with
  | .ok () => return 0
  | .error e =>
    Sh.warn (e.words ++ "\n")
    return 1

/-- Sends signals, or lists them. -/
def kill : Builtin := fun args => do
  let (signal, others, lists) ← killArguments args
  if lists then
    if signal.isSome then killUsage
    match others with
    | [] =>
      let names := (List.range Signals.greatest).map fun n => signalName (n + 1) ++ "\n"
      Sh.write ("0\n" ++ String.join names)
    | a :: _ =>
      let n ← number a
      let n := if 128 < n then n - 128 else n
      if 0 < n && n ≤ Signals.greatest then Sh.write (signalName n ++ "\n")
      else Sh.fail ("invalid signal number or exit status: " ++ a)
    return 0
  else
    if others = [] then killUsage
    let statuses ← others.mapM (sendTo (signal.getD Signals.terminate))
    return statuses.foldl max 0

/-- Lets a signal be dealt with as a trap says. A signal that was ignored when the shell began stays
ignored. -/
def setTrap (signal : Nat) (action : Option String) : Sh Unit := do
  let wasIgnored := (← get).traps.lookup signal = some ""
  Sh.change fun s =>
    let others := s.traps.filter (·.1 ≠ signal)
    { s with traps := match action with
      | some a => (signal, a) :: others
      | none => others }
  let s ← get
  if signal ≠ 0 && !s.ignored.contains signal then
    let what : Disposition := match action with
      | none => .usual
      | some "" => .ignored
      | some _ => .caught
    let before : Disposition ← Sh.call (.handle signal what)
    if before = .ignored && !wasIgnored then
      let _ ← Sh.call (.handle signal .ignored)
      Sh.change fun s => { s with ignored := signal :: s.ignored }
    else
      let others := s.caught.filter (· ≠ signal)
      Sh.change fun s => { s with caught := if what = .caught then signal :: others else others }

/-- Sets a trap for each signal. -/
def setTraps (action : Option String) : List String → Sh Nat
  | [] => pure 0
  | name :: rest => do
    match signalNamed? 0 name with
    | none =>
      Sh.complain ("trap: " ++ name ++ ": bad trap\n")
      return 1
    | some n =>
      setTrap n (action.filter (· ≠ "-"))
      setTraps action rest

/-- Sets traps, or lists them. -/
def trap : Builtin := fun args => do
  match ← options "" args with
  | (_, []) =>
    let s ← get
    let line (n : Nat) : String :=
      match s.traps.lookup n with
      | some a => "trap -- " ++ quoteValue a ++ " " ++ signalName n ++ "\n"
      | none => ""
    Sh.write (String.join ((List.range (Signals.greatest + 1)).map line))
    return 0
  | (_, [name]) => setTraps none [name]
  | (_, action :: names) =>
    let isNumber := action ≠ "" && action.toList.all Char.isDigit && (signalNamed? 0 action).isSome
    if isNumber then setTraps none (action :: names) else setTraps (some action) names

end Golden.Host.Shell.Builtin
