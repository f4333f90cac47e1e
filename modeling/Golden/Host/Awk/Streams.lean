import Golden.Host.Awk.Lexeme
import Golden.Host.Awk.State

/-! # What programs read and write

A program reads the files of its arguments one behind the other, and other files and commands by
their names; they are kept open until they are closed. What is written to a file or a command is
held back until there is enough of it. -/

namespace Golden.Host.Awk

namespace Run

/-! ### Writing -/

/-- The number of octets that are not held back. -/
def heldBack : Nat := 4096

/-- Fails because a file is lost. -/
def failClose {α : Type} (name : String) (e : Errno) : Run α :=
  stop (.failure ("close failed on file \"" ++ name ++ "\" (" ++ e.words ++ ")"))

/-- Writes what a file or a command lacks. -/
def drain (k : Sink) : Run Unit := do
  if k.pending = "" then return ()
  match ← ask (.write k.descriptor k.pending) with
  | .ok () => return ()
  | .error e => failClose k.name e

/-- Puts out all that has been held back. -/
def flushAll : Run Unit := do
  ask .flush
  (← state).sinks.forM drain
  change fun s => { s with sinks := s.sinks.map fun k => { k with pending := "" } }

/-- Opens a file or a command that is written to. -/
def openSink (d : Direction) (name : String) : Run Sink := do
  match d with
  | .command =>
    flushAll
    match ← ask (.start false name) with
    | .ok (number, descriptor) => return ⟨name, true, descriptor, some number, ""⟩
    | .error e => stop (.failure ("cannot open \"" ++ name ++ "\" for output (" ++ e.words ++ ")"))
  | d =>
    match ← ask (.openOutput name (d = .append)) with
    | .ok descriptor => return ⟨name, false, descriptor, none, ""⟩
    | .error e => stop (.failure ("cannot open \"" ++ name ++ "\" for output (" ++ e.words ++ ")"))

/-- Writes a text to standard output, to a file or to a command. -/
def write (target : Option (Direction × String)) (text : String) : Run Unit := do
  match target with
  | none | some (.truncate, "/dev/stdout") | some (.append, "/dev/stdout") => ask (.put text)
  | some (.truncate, "/dev/stderr") | some (.append, "/dev/stderr") => ask (.complain text)
  | some (d, name) =>
    let isCommand := d = .command
    let isThis (k : Sink) : Bool := k.name = name && k.isCommand = isCommand
    let k ← match (← state).sinks.find? isThis with
      | some k => pure k
      | none => do
        let k ← openSink d name
        change fun s => { s with sinks := s.sinks ++ [k] }
        pure k
    let k := { k with pending := k.pending ++ text }
    let k ← if heldBack ≤ k.pending.utf8ByteSize then do
        drain k
        pure { k with pending := "" }
      else pure k
    change fun s => { s with sinks := s.sinks.map fun other => if isThis other then k else other }

/-- The status of a command that has ended. -/
def statusOf : Ending → Nat
  | .exited n => n
  | .killed signal => 256 + signal

/-- Closes a file or a command that has been written to, and gives its status. -/
def closeSink (k : Sink) : Run Nat := do
  drain k
  ask (.close k.descriptor)
  match k.process with
  | none => return 0
  | some number => return statusOf (← ask (.await number))

/-! ### Reading -/

/-- The standard input. -/
def standardInput (name : String) : Source := ⟨name, false, 0, none, [], false⟩

/-- Whether a name stands for standard input. -/
def isStandardInput (name : String) : Bool := name = "-" || name = "/dev/stdin"

/-- Opens a file for reading. -/
def openFile (name : String) : Run (Except Errno Source) := do
  if isStandardInput name then return .ok (standardInput name)
  match ← ask (.openInput name) with
  | .ok d => return .ok ⟨name, false, d, none, [], false⟩
  | .error e => return .error e

/-- Starts a command whose output is read. -/
def openCommand (name : String) : Run (Except Errno Source) := do
  flushAll
  match ← ask (.start true name) with
  | .ok (number, d) => return .ok ⟨name, true, d, some number, [], false⟩
  | .error e => return .error e

/-- Fails because a file cannot be read. -/
def failRead {α : Type} (e : Errno) : Run α := stop (.failure ("read error (" ++ e.words ++ ")"))

/-- The next record, if there is one. -/
def takeRecord (k : Cutter) : Nat → Source → Run (Option String × Source)
  | 0, x => pure (none, x)
  | n + 1, x => do
    match k.cut x.isEnded x.ahead with
    | .record text rest => return (some (String.ofList text), { x with ahead := rest })
    | .finish => return (none, { x with ahead := [] })
    | .more =>
      match ← ask (.read x.descriptor) with
      | .error e => failRead e
      | .ok "" => takeRecord k n { x with isEnded := true }
      | .ok text => takeRecord k n { x with ahead := x.ahead ++ text.toList }

/-- A number of steps that nothing needs. -/
def manySteps : Nat := 1000000000000

/-- The next record of a file or a command. -/
def next (x : Source) : Run (Option String × Source) := do
  let rs ← scalarText "RS"
  let k ← ofPattern rs (Cutter.ofText rs)
  takeRecord k manySteps x

/-- Closes a file or a command that has been read, and gives its status. -/
def closeSource (x : Source) : Run Nat := do
  if x.descriptor ≠ 0 then ask (.close x.descriptor)
  match x.process with
  | none => return 0
  | some number => return statusOf (← ask (.await number))

/-- Closes files and commands with a name, and gives the status of the last one. -/
def close (name : String) : Run Int := do
  let s ← state
  let sinks := s.sinks.filter (·.name = name)
  let sources := s.sources.filter (·.name = name)
  change fun s => { s with
    sinks := s.sinks.filter (·.name ≠ name)
    sources := s.sources.filter (·.name ≠ name) }
  let first ← closeEach closeSink sinks none
  let last ← closeEach closeSource sources first
  return (last.map Int.ofNat).getD (-1)
where
  /-- Closes what is in a list. -/
  closeEach {α : Type} (f : α → Run Nat) : List α → Option Nat → Run (Option Nat)
    | [], status => pure status
    | a :: as, _ => do
      let n ← f a
      closeEach f as (some n)

/-- Closes all that is written to, and drops all that is read. -/
def closeAll : Run Unit := do
  let s ← state
  change fun s => { s with sinks := [], sources := [] }
  s.sinks.forM fun k => do let _ ← closeSink k
  s.sources.forM fun x => if x.descriptor ≠ 0 then ask (.close x.descriptor) else pure ()

/-! ### Arguments -/

/-- A name and the value that an argument gives it. -/
def assignment? (argument : String) : Option (String × String) :=
  let cs := argument.toList
  let name := cs.takeWhile CharClass.isNameChar
  match name, cs.drop name.length with
  | c :: _, '=' :: rest =>
    if CharClass.isNameStart c then some (String.ofList name, unescaped rest) else none
  | _, _ => none

/-- Opens the next file of the arguments. Tells whether there was one. -/
def openNext : Nat → Run Bool
  | 0 => pure false
  | n + 1 => do
    let s ← state
    let count := Piece.toWhole (← scalar "ARGC").toNumber
    if count ≤ s.nextArgument then
      if s.hasFile then return false
      change fun s => { s with hasFile := true, main := some (standardInput "-") }
      putScalar "FILENAME" (.text "-")
      putScalar "FNR" (.ofNat 0)
      return true
    change fun s => { s with nextArgument := s.nextArgument + 1 }
    let key : Key := .number s.nextArgument
    let isThere ← hasElement "ARGV" key
    let argument ← if isThere then do textOf (← element "ARGV" key) else pure ""
    if argument = "" then openNext n
    else
      match assignment? argument with
      | some (name, text) =>
        setScalar name (.given text)
        openNext n
      | none =>
        match ← openFile argument with
        | .error e =>
          stop (.failure ("cannot open \"" ++ argument ++ "\" (" ++ e.words ++ ")"))
        | .ok x =>
          change fun s => { s with hasFile := true, main := some x }
          putScalar "FILENAME" (.text argument)
          putScalar "FNR" (.ofNat 0)
          return true

/-- Adds one to a number that has a name. -/
def count (name : String) : Run Unit := do
  let r := (← scalar name).toNumber
  putScalar name (.number (r.add (Real.ofInt 1)))

/-- The next record of the arguments, which is counted. -/
def nextMain : Nat → Run (Option String)
  | 0 => pure none
  | n + 1 => do
    match (← state).main with
    | some x =>
      let (text, x) ← next x
      match text with
      | some text =>
        change fun s => { s with main := some x }
        count "NR"
        count "FNR"
        return some text
      | none =>
        change fun s => { s with main := none }
        let _ ← closeSource x
        nextMain n
    | none =>
      let goesOn ← openNext manySteps
      if goesOn then nextMain n else return none

/-- Leaves the file of the arguments that is read. -/
def leaveFile : Run Unit := do
  match (← state).main with
  | some x =>
    change fun s => { s with main := none }
    let _ ← closeSource x
  | none => return ()

/-- The next record of a file or a command with a name, or nothing if there is no such file. -/
def nextOf (isCommand : Bool) (name : String) : Run (Option (Option String)) := do
  let isThis (x : Source) : Bool := x.name = name && x.isCommand = isCommand
  let known := (← state).sources.find? isThis
  let x ← match known with
    | some x => pure (some x)
    | none => do
      let r ← if isCommand then openCommand name else openFile name
      pure r.toOption
  match x with
  | none => return none
  | some x =>
    let (text, x) ← next x
    change fun s => { s with
      sources := if known.isSome then s.sources.map fun other => if isThis other then x else other
        else s.sources ++ [x] }
    return some text

end Run

end Golden.Host.Awk
