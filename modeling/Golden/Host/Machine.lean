import Golden.Host.Process
import Golden.Host.Signals
import Golden.Host.Tree

/-! # A machine

A machine runs processes on a tree of files. It knows what each process has open, how the processes
are related, and which signals are on their way. Two open descriptors can share a file and with it
the offset at which it is read and written, as those of a process and its child do. -/

namespace Golden.Host

/-- What is open: a node, an end of a pipe or both ends, or an output that is collected. -/
inductive Object where
  | node (i : Nat)
  | pipe (i : Nat)
  | sink (i : Nat)
  deriving DecidableEq, Inhabited

/-- A thing that is open, with the number of descriptors for it. -/
structure OpenFile where
  object : Object
  offset : Nat
  reads : Bool
  writes : Bool
  appends : Bool
  holders : Nat
  deriving DecidableEq, Inhabited

/-- A descriptor. One that is private is lost when a process becomes another program. -/
structure Descriptor where
  file : Nat
  isPrivate : Bool
  deriving DecidableEq, Inhabited

/-- A pipe: the octets that are in it from `start` on, the number of its ends that are open, and
that of those that ever were. -/
structure Pipe where
  octets : ByteArray
  start : Nat
  readers : Nat
  writers : Nat
  readersEver : Nat
  writersEver : Nat
  deriving Inhabited

/-- What has become of a process. -/
inductive Life where
  | running (p : Process)
  /-- Ended, and not yet awaited. -/
  | ended (e : Ending)
  | gone
  deriving Inhabited

/-- What a machine knows of a process. -/
structure Entry where
  life : Life
  parent : Nat
  isStopped : Bool
  descriptors : List (Nat × Descriptor)
  directory : Nat
  mask : Nat
  ignored : List Nat
  caught : List Nat
  /-- The signals that have come and are caught. -/
  pending : List Nat
  deriving Inhabited

/-- A machine. -/
structure Machine where
  tree : Tree
  programs : String → Option Program
  files : Array OpenFile
  pipes : Array Pipe
  sinks : Array ByteArray
  /-- The pipes behind nodes. -/
  fifos : List (Nat × Nat)
  entries : Array Entry
  /-- The processes that have been made since the last round. -/
  born : List Nat

namespace Machine

/-- What is open, by its number. -/
def file (m : Machine) (i : Nat) : OpenFile := m.files[i]?.getD default

/-- A pipe by its number. -/
def pipe (m : Machine) (i : Nat) : Pipe := m.pipes[i]?.getD default

/-- The number of the first process. -/
def firstProcess : Nat := 4242

/-- What is known of a process. -/
def entry (m : Machine) (pid : Nat) : Entry := m.entries[pid - firstProcess]?.getD default

/-- Changes what is known of a process. -/
def change (m : Machine) (pid : Nat) (f : Entry → Entry) : Machine :=
  { m with entries := m.entries.modify (pid - firstProcess) f }

/-- Changes what is open. -/
def changeFile (m : Machine) (i : Nat) (f : OpenFile → OpenFile) : Machine :=
  { m with files := m.files.modify i f }

/-- Changes a pipe. -/
def changePipe (m : Machine) (i : Nat) (f : Pipe → Pipe) : Machine :=
  { m with pipes := m.pipes.modify i f }

/-- The number of every process that there has been. -/
def processes (m : Machine) : List Nat :=
  (List.range m.entries.size).map (firstProcess + ·)

/-- Whether a process runs. -/
def runs (m : Machine) (pid : Nat) : Bool :=
  match (m.entry pid).life with
  | .running _ => firstProcess ≤ pid
  | _ => false

/-! ### Descriptors -/

/-- What a process has open under a number. -/
def descriptor? (m : Machine) (pid d : Nat) : Option Descriptor :=
  (m.entry pid).descriptors.lookup d

/-- The number of the file that a process has open. -/
def fileOf (m : Machine) (pid d : Nat) : Except Errno Nat :=
  match m.descriptor? pid d with
  | some x => .ok x.file
  | none => .error .badDescriptor

/-- The least number from `least` on that is not in use, among `n` of them. -/
def freeNumber (used : List Nat) : Nat → Nat → Nat
  | 0, least => least
  | n + 1, least => if used.contains least then freeNumber used n (least + 1) else least

/-- The least number from `least` on under which a process has nothing open. -/
def free (m : Machine) (pid least : Nat) : Nat :=
  let used := (m.entry pid).descriptors.map Prod.fst
  freeNumber used (used.length + 1) least

/-- The greatest number of a descriptor. -/
def descriptorLimit : Nat := 1024

/-- Counts one more holder of what is open. -/
def hold (m : Machine) (f : Nat) : Machine :=
  m.changeFile f fun o => { o with holders := o.holders + 1 }

/-- Counts one holder less of what is open. When the last one is gone, the end of a pipe is
closed. -/
def release (m : Machine) (f : Nat) : Machine :=
  let o := m.file f
  let m := m.changeFile f fun o => { o with holders := o.holders - 1 }
  if o.holders ≠ 1 then m
  else
    match o.object with
    | .pipe i => m.changePipe i fun p =>
        { p with
          readers := if o.reads then p.readers - 1 else p.readers
          writers := if o.writes then p.writers - 1 else p.writers }
    | _ => m

/-- Forgets a descriptor. -/
def drop (m : Machine) (pid d : Nat) : Machine :=
  match m.descriptor? pid d with
  | none => m
  | some x =>
    (m.release x.file).change pid fun e =>
      { e with descriptors := e.descriptors.filter (·.1 ≠ d) }

/-- Lets a number stand for what is open, in place of what it stood for. -/
def install (m : Machine) (pid d : Nat) (x : Descriptor) : Machine :=
  ((m.hold x.file).drop pid d).change pid fun e => { e with descriptors := (d, x) :: e.descriptors }

/-- Opens something under the least free number. -/
def openObject (m : Machine) (pid : Nat) (o : Object) (how : Opening) : Nat × Machine :=
  let d := m.free pid 0
  let f := m.files.size
  let m := { m with files := m.files.push ⟨o, 0, how.reads, how.writes, how.appends, 0⟩ }
  let m := match o with
    | .pipe i => m.changePipe i fun p =>
        { p with
          readers := if how.reads then p.readers + 1 else p.readers
          readersEver := if how.reads then p.readersEver + 1 else p.readersEver
          writers := if how.writes then p.writers + 1 else p.writers
          writersEver := if how.writes then p.writersEver + 1 else p.writersEver }
    | _ => m
  (d, m.install pid d ⟨f, false⟩)

/-! ### The end of processes -/

/-- Lets a signal come to a process. -/
def deliver (m : Machine) (pid signal : Nat) (die : Machine → Machine) : Machine :=
  let e := m.entry pid
  let isForced := signal = Signals.kill || signal = Signals.stop
  let m := if signal = Signals.goOn then m.change pid fun e => { e with isStopped := false } else m
  if signal = 0 || !m.runs pid then m
  else if e.ignored.contains signal && !isForced then m
  else if e.caught.contains signal && !isForced then
    if e.pending.contains signal then m
    else m.change pid fun e => { e with pending := e.pending ++ [signal] }
  else
    match Signals.usual signal with
    | .ends => die m
    | .stops => m.change pid fun e => { e with isStopped := true }
    | _ => m

/-- Ends a process: what it has open is closed, its children are left to themselves, and its parent
can learn how it ended, as can who started the machine of the first process. -/
def finish (m : Machine) (pid : Nat) (how : Ending) : Machine :=
  let m := (m.entry pid).descriptors.foldl (fun m d => m.drop pid d.1) m
  let orphan (e : Entry) : Entry :=
    if e.parent = pid then
      { e with
        parent := 0
        life := match e.life with
          | .ended _ => .gone
          | l => l }
    else e
  let m := { m with entries := m.entries.map orphan }
  let parent := (m.entry pid).parent
  let isAwaited := pid = firstProcess ||
    (m.runs parent && !(m.entry parent).ignored.contains Signals.child)
  let m := m.change pid fun e => { e with life := if isAwaited then .ended how else .gone }
  m.deliver parent Signals.child id

/-- Sends a signal to a process. -/
def send (m : Machine) (pid signal : Nat) : Machine :=
  m.deliver pid signal fun m => m.finish pid (.killed signal)

/-- Adds a process that has open what its parent has. -/
def fork (m : Machine) (pid : Nat) (p : Process) : Nat × Machine :=
  let e := m.entry pid
  let child := firstProcess + m.entries.size
  let m := e.descriptors.foldl (fun m d => m.hold d.2.file) m
  let m := { m with
    entries := m.entries.push { e with life := .running p, parent := pid, pending := [] }
    born := m.born ++ [child] }
  (child, m)

end Machine

end Golden.Host
