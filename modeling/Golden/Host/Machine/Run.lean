import Golden.Host.CharClass
import Golden.Host.Machine.Files

/-! # Running processes

Processes run in turns. In its turn a process runs until it has to wait, until it ends, or for a
number of calls (`Machine.turn`). When all wait, time passes up to the moment that one of them waits
for (`Machine.round`). Time also passes with every call. -/

namespace Golden.Host.Machine

/-! ### Programs -/

/-- The greatest number of octets in the first line of a script that are looked at. -/
def firstLineLimit : Nat := 255

/-- The program that the first line of a script names, and its argument. -/
def interpreter? (contents : ByteArray) : Option (String × Option String) :=
  let cs := (Octets.unpack (contents.extract 0 firstLineLimit)).toList
  match cs with
  | '#' :: '!' :: rest =>
    let line := rest.takeWhile (· ≠ '\n')
    let trimmed := ((line.dropWhile CharClass.isBlank).reverse.dropWhile CharClass.isBlank).reverse
    let isWhole := line.length < rest.length || contents.size ≤ firstLineLimit
    let program := trimmed.takeWhile fun c => !CharClass.isBlank c
    let argument := (trimmed.drop program.length).dropWhile CharClass.isBlank
    if program = [] || (!isWhole && argument = []) then none
    else some (String.ofList program, if argument = [] then none else some (String.ofList argument))
  | _ => none

/-- The number of scripts that may lead from one to the other. -/
def scriptLimit : Nat := 5

/-- The program under a path with the arguments that it is given. A script leads to the program that
its first line names. -/
def programAt (m : Machine) (pid : Nat) :
    Nat → String → List String → Except Errno (Program × List String)
  | 0, _, _ => .error .manyLinks
  | n + 1, path, args => do
    let i ← (m.view pid).find true path
    let node := m.tree.node i
    match node.body with
    | .directory .. => throw .noPermission
    | .program name =>
      match m.programs name with
      | some p => return (p, args)
      | none => throw .noEntry
    | .file contents =>
      if node.mode &&& 0o111 = 0 then throw .noPermission
      match interpreter? contents with
      | none => throw .badFormat
      | some (program, argument) =>
        m.programAt pid n program (program :: argument.toList ++ path :: args.tail)
    | _ => throw .noPermission

/-- The greatest length of an argument. -/
def argumentLimit : Nat := 131072

/-- The greatest length of all arguments together. -/
def argumentsLimit : Nat := 2097152

/-- Becomes another program. -/
def execute (m : Machine) (pid : Nat) (path : String) (args : List String)
    (env : List (String × String)) : Except Errno (Machine × Process) := do
  let texts := args ++ env.map fun v => v.1 ++ "=" ++ v.2
  if texts.any fun a => argumentLimit ≤ a.length then throw .tooManyArguments
  if argumentsLimit ≤ texts.foldl (fun n a => n + a.length + 9) 0 then throw .tooManyArguments
  let (program, args) ← m.programAt pid scriptLimit path args
  let lost := (m.entry pid).descriptors.filter (·.2.isPrivate)
  let m := lost.foldl (fun m d => m.drop pid d.1) m
  let m := m.change pid fun e => { e with caught := [], pending := [] }
  return (m, program args env)

/-! ### Waiting for children -/

/-- Whether a process can still be awaited. -/
def canBeAwaited (e : Entry) : Bool :=
  match e.life with
  | .gone => false
  | _ => true

/-- How a process has ended. -/
def ending? (e : Entry) : Option Ending :=
  match e.life with
  | .ended how => some how
  | _ => none

/-- Waits for a child. -/
def wait (m : Machine) (pid : Nat) (child deadline : Option Nat) (light : Bool) :
    Option (Machine × Except Errno (Option (Nat × Ending))) :=
  let isMine (c : Nat) : Bool :=
    (m.entry c).parent = pid && canBeAwaited (m.entry c) && firstProcess ≤ c
  let mine := match child with
    | some c => if isMine c then [c] else []
    | none => m.processes.filter isMine
  if mine = [] then some (m, .error .noChild)
  else
    match mine.findSome? fun c => (ending? (m.entry c)).map fun e => (c, e) with
    | some (c, e) => some (m.change c fun x => { x with life := .gone }, .ok (some (c, e)))
    | none =>
      if deadline.any (· ≤ m.tree.clock) then some (m, .ok none)
      else if light && (m.entry pid).pending ≠ [] then some (m, .error .interrupted)
      else none

/-! ### Calls -/

/-- The time that a call takes. -/
def callTime : Nat := 10000

/-- The time that it takes to become another program. -/
def programTime : Nat := 500000

/-- The descriptors of a pipe. -/
def openPipe (m : Machine) (pid : Nat) : Machine × (Nat × Nat) :=
  let i := m.pipes.size
  let m := { m with pipes := m.pipes.push ⟨.empty, 0, 0, 0, 0, 0⟩ }
  let (r, m) := m.openObject pid (.pipe i) .toRead
  let (w, m) := m.openObject pid (.pipe i) { Opening.toWrite with makes := false }
  (m, (r, w))

/-- The reply to a call that does not end or change what a process goes on with, if it does not have
to wait. -/
def reply? (m : Machine) (pid : Nat) : (c : Call) → Option (Machine × c.Reply)
  | .openFile path how mode =>
    let (m, r, _) := m.openPath pid path how mode
    some (m, r)
  | .close d =>
    match m.descriptor? pid d with
    | none => some (m, .error .badDescriptor)
    | some _ => some (m.drop pid d, .ok ())
  | .duplicate d least isPrivate =>
    match m.fileOf pid d with
    | .error e => some (m, .error e)
    | .ok f =>
      let target := m.free pid least
      if descriptorLimit ≤ target then some (m, .error .invalid)
      else some (m.install pid target ⟨f, isPrivate⟩, .ok target)
  | .duplicateTo d target =>
    match m.fileOf pid d with
    | .error e => some (m, .error e)
    | .ok f =>
      if descriptorLimit ≤ target then some (m, .error .badDescriptor)
      else if d = target then some (m, .ok target)
      else some (m.install pid target ⟨f, false⟩, .ok target)
  | .pipe =>
    let (m, ends) := m.openPipe pid
    some (m, .ok ends)
  | .read d count =>
    match m.read pid d count with
    | some r => some r
    | none => if (m.entry pid).pending = [] then none else some (m, .error .interrupted)
  | .write .. => none
  | .seek d offset origin => some (m.seek pid d offset origin)
  | .setLength d length => some (m.setLength pid d length)
  | .meet d count =>
    match m.fileOf pid d with
    | .error e => some (m, .error e)
    | .ok f =>
      let o := m.file f
      match o.object with
      | .pipe i =>
        let others := if o.reads then (m.pipe i).writersEver else (m.pipe i).readersEver
        if count < others then some (m, .ok ()) else none
      | _ => some (m, .ok ())
  | .facts path follow => some (m, m.facts pid path follow)
  | .factsOf d => some (m, m.factsOf pid d)
  | .list path => some (m, (m.view pid).list path)
  | .makeDirectory path mode =>
    some (m.editFrom pid fun t => t.makeDirectory path (m.modeOf pid mode))
  | .removeDirectory path => some (m.editFrom pid fun t => t.removeDirectory path)
  | .unlink path => some (m.editFrom pid fun t => t.unlink path)
  | .rename source target => some (m.editFrom pid fun t => t.rename source target)
  | .link source target => some (m.editFrom pid fun t => t.link source target)
  | .makeLink target path =>
    some (m.editFrom pid fun t =>
      if target = "" then .error .noEntry else t.makeNode path (.link target) 0o777)
  | .readLink path => some (m, (m.view pid).readLink path)
  | .makeFifo path mode =>
    some (m.editFrom pid fun t => t.makeNode path .fifo (m.modeOf pid mode))
  | .setMode path mode =>
    some (m.editFrom pid fun t => do
      let i ← t.find true path
      return t.change i fun n => { n with mode })
  | .setTime path time =>
    some (m.editFrom pid fun t => do
      let i ← t.find true path
      return t.change i fun n => { n with modified := time })
  | .changeDirectory path =>
    match (m.view pid).find true path with
    | .error e => some (m, .error e)
    | .ok i =>
      if m.tree.holdsNames i then
        some (m.change pid fun e => { e with directory := i }, .ok ())
      else some (m, .error .notDirectory)
  | .workingDirectory =>
    let i := (m.entry pid).directory
    if i ≠ Tree.root && (m.tree.node i).links = 0 then some (m, .error .noEntry)
    else some (m, .ok (m.tree.pathOfNode i))
  | .setMask mask =>
    some (m.change pid fun e => { e with mask := mask % 512 }, (m.entry pid).mask)
  | .execute .. => none
  | .wait child deadline light => m.wait pid child deadline light
  | .send target signal =>
    if target < firstProcess || !canBeAwaited (m.entry target) ||
        m.entries.size ≤ target - firstProcess then some (m, .error .noProcess)
    else if Signals.greatest < signal then some (m, .error .invalid)
    else some (m.send target signal, .ok ())
  | .handle signal what =>
    let e := m.entry pid
    let before : Disposition := if e.ignored.contains signal then .ignored
      else if e.caught.contains signal then .caught else .usual
    let others (l : List Nat) : List Nat := l.filter (· ≠ signal)
    let after (e : Entry) : Entry :=
      match what with
      | .usual => { e with ignored := others e.ignored, caught := others e.caught }
      | .ignored => { e with ignored := signal :: others e.ignored, caught := others e.caught }
      | .caught => { e with ignored := others e.ignored, caught := signal :: others e.caught }
    some (m.change pid after, before)
  | .takeSignals => some (m.change pid fun e => { e with pending := [] }, (m.entry pid).pending)
  | .self => some (m, pid)
  | .parent =>
    let above : Nat := max 1 (m.entry pid).parent
    some (m, above)
  | .sleepUntil time =>
    if time ≤ m.tree.clock then some (m, .ok ())
    else if (m.entry pid).pending ≠ [] then some (m, .error .interrupted)
    else none
  | .now => some (m, m.tree.clock)

/-- Lets time pass. -/
def pass (m : Machine) (time : Nat) : Machine :=
  { m with tree := { m.tree with clock := m.tree.clock + time } }

/-- What comes of a step of a process: it goes on, waits, or has ended. -/
inductive Step where
  | on (p : Process)
  | waits (p : Process)
  | finished

/-- A step of a process. -/
def step (m : Machine) (pid : Nat) (p : Process) : Machine × Step :=
  match p with
  | .exit status => (m.finish pid (.exited (status % 256)), .finished)
  | .fork child next =>
    let (c, m) := m.fork pid (child ())
    (m.pass programTime, .on (next c))
  | .call (.execute path args env) next =>
    match m.execute pid path args env with
    | .ok (m, p) => (m.pass programTime, .on p)
    | .error e => (m.pass callTime, .on (next e))
  | .call (.write d octets) next =>
    match m.write pid d octets with
    | (m, .done r) => (m.pass callTime, .on (next r))
    | (m, .unread) =>
      let m := m.send pid Signals.pipe
      if m.runs pid then (m.pass callTime, .on (next (.error .brokenPipe))) else (m, .finished)
    | (m, .partly 0) => (m, .waits p)
    | (m, .partly n) =>
      let rest := octets.extract n octets.size
      (m.pass callTime, .on (.call (.write d rest) fun r => next (r.map (· + n))))
  | .call (.openFile path how mode) next =>
    match m.openPath pid path how mode with
    | (m, .ok d, some count) => (m, .on (.call (.meet d count) fun _ => next (.ok d)))
    | (m, r, _) => (m.pass callTime, .on (next r))
  | .call c next =>
    match m.reply? pid c with
    | none => (m, .waits p)
    | some (m, r) => (m.pass callTime, if m.runs pid then .on (next r) else .finished)

/-! ### Turns -/

/-- The turn of a process. Tells whether it has done anything. -/
def turn (pid : Nat) : Nat → Bool → Process → Machine → Bool × Machine
  | 0, _, p, m => (true, m.change pid fun e => { e with life := .running p })
  | n + 1, done, p, m =>
    match m.step pid p with
    | (m, .on p) =>
      if (m.entry pid).isStopped then
        (true, m.change pid fun e => { e with life := .running p })
      else turn pid n true p m
    | (m, .waits p) => (done, m.change pid fun e => { e with life := .running p })
    | (m, .finished) => (true, m)

/-- The number of calls in a turn. -/
def turnLength : Nat := 1000

/-- The turns of processes. Tells whether any has done anything. -/
def turns (pids : List Nat) (m : Machine) : Bool × Machine :=
  pids.foldl
    (fun (done, m) pid =>
      let e := m.entry pid
      match e.life, e.isStopped with
      | .running p, false =>
        let (more, m) := turn pid turnLength false p m
        (done || more, m)
      | _, _ => (done, m))
    (false, m)

/-- The time that a process waits for. -/
def awaitedTime? (e : Entry) : Option Nat :=
  match e.life, e.isStopped with
  | .running (.call (.sleepUntil t) _), false => some t
  | .running (.call (.wait _ (some t) _) _), false => some t
  | _, _ => none

/-- Whether a process has a descriptor for an output that is collected. -/
def holdsSink (m : Machine) (pid : Nat) : Bool :=
  m.runs pid && (m.entry pid).descriptors.any fun d =>
    match (m.file d.2.file).object with
    | .sink _ => true
    | _ => false

/-- Rounds of turns, at most `n`, until the first process has ended and nothing can be written any
more to an output that is collected. -/
def rounds : Nat → List Nat → Machine → Machine
  | 0, _, m => m
  | n + 1, pids, m =>
    let (done, m) := m.turns pids
    let pids := pids.filter m.runs ++ m.born.filter m.runs
    let m := { m with born := [] }
    if !m.runs firstProcess && !pids.any m.holdsSink then m
    else if done then rounds n pids m
    else
      match (pids.filterMap fun pid => awaitedTime? (m.entry pid)).min? with
      | none => m
      | some t => rounds n pids { m with tree := { m.tree with clock := max t m.tree.clock } }

/-- The number of rounds in which everything ends that does. -/
def manyRounds : Nat := 1000000

/-! ### Starting -/

/-- A machine whose first process has nothing to read and two outputs that are collected. -/
def start (tree : Tree) (programs : String → Option Program) : Machine :=
  let first : Entry :=
    ⟨.running default, 0, false, [(0, ⟨0, false⟩), (1, ⟨1, false⟩), (2, ⟨2, false⟩)], tree.here,
      0o22,
      [], [], []⟩
  let nothing := (tree.find true "/dev/null").toOption.getD Tree.root
  { tree, programs
    files :=
      #[⟨.node nothing, 0, true, false, false, 1⟩, ⟨.sink 0, 0, false, true, false, 1⟩,
        ⟨.sink 1, 0, false, true, false, 1⟩]
    pipes := #[], sinks := #[.empty, .empty], fifos := [], entries := #[first], born := [] }

end Golden.Host.Machine
