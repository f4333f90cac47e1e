import Golden.Host.Errno

/-! # Processes

A process is what it does: it ends, it asks the operating system for something and goes on with the
reply, or it makes another process that goes on beside it (`Process`). What may be asked for is a
`Call`, and each call has a type of replies (`Call.Reply`). -/

namespace Golden.Host

/-- How a process ended. -/
inductive Ending where
  | exited (status : Nat)
  | killed (signal : Nat)
  deriving DecidableEq, Inhabited

/-- How a file is opened. -/
structure Opening where
  reads : Bool
  writes : Bool
  /-- What is written goes behind what is there. -/
  appends : Bool
  /-- The file is made if it is not there. -/
  makes : Bool
  /-- Nothing may be there. -/
  isNew : Bool
  /-- What is there is dropped. -/
  empties : Bool
  deriving DecidableEq, Inhabited

namespace Opening

/-- Opens a file for reading. -/
def toRead : Opening := ⟨true, false, false, false, false, false⟩

/-- Opens a file for writing, and makes or empties it. -/
def toWrite : Opening := ⟨false, true, false, true, false, true⟩

/-- Opens a file for writing behind what is there. -/
def toAppend : Opening := ⟨false, true, true, true, false, false⟩

/-- Opens a file for reading and writing. -/
def toBoth : Opening := ⟨true, true, false, true, false, false⟩

/-- Makes a file that is not there. -/
def toMake : Opening := ⟨false, true, false, true, true, false⟩

end Opening

/-- What kind of thing is under a name or a descriptor. -/
inductive Kind where
  | directory
  | regular
  | link
  | device
  | fifo
  deriving DecidableEq, Inhabited

/-- What is known of a thing. -/
structure Facts where
  number : Nat
  kind : Kind
  mode : Nat
  size : Nat
  links : Nat
  modified : Nat
  deriving DecidableEq, Inhabited

/-- What kind of thing it is, in words. -/
def Facts.kindWords (f : Facts) : String :=
  match f.kind with
  | .directory => "directory"
  | .regular => if f.size = 0 then "regular empty file" else "regular file"
  | .link => "symbolic link"
  | .device => "character special file"
  | .fifo => "fifo"

/-- Where an offset is counted from. -/
inductive Origin where
  | start
  | current
  | last
  deriving DecidableEq, Inhabited

/-- What becomes of a signal that comes. -/
inductive Disposition where
  | usual
  | ignored
  | caught
  deriving DecidableEq, Inhabited

/-- What a process asks for. -/
inductive Call where
  | openFile (path : String) (how : Opening) (mode : Nat)
  | close (descriptor : Nat)
  /-- Another descriptor for the same thing, at least the given one. -/
  | duplicate (descriptor least : Nat) (isPrivate : Bool)
  | duplicateTo (descriptor target : Nat)
  | pipe
  | read (descriptor count : Nat)
  | write (descriptor : Nat) (octets : ByteArray)
  | seek (descriptor : Nat) (offset : Int) (origin : Origin)
  | setLength (descriptor length : Nat)
  /-- Waits until the other end of a pipe with a name has been opened. -/
  | meet (descriptor count : Nat)
  | facts (path : String) (follow : Bool)
  | factsOf (descriptor : Nat)
  | list (path : String)
  | makeDirectory (path : String) (mode : Nat)
  | removeDirectory (path : String)
  | unlink (path : String)
  | rename (source target : String)
  | link (source target : String)
  | makeLink (target path : String)
  | readLink (path : String)
  | makeFifo (path : String) (mode : Nat)
  | setMode (path : String) (mode : Nat)
  | setTime (path : String) (time : Nat)
  | changeDirectory (path : String)
  | workingDirectory
  /-- Changes the permissions that new files lack. -/
  | setMask (mask : Nat)
  /-- Becomes another program. There is a reply only if that fails. -/
  | execute (path : String) (arguments : List String) (environment : List (String × String))
  /-- Waits for a child to end, up to a time. Signals cut this short if it is `light`. -/
  | wait (child : Option Nat) (deadline : Option Nat) (light : Bool)
  | send (target : Nat) (signal : Nat)
  | handle (signal : Nat) (what : Disposition)
  /-- The signals that have come and are not yet dealt with. -/
  | takeSignals
  | self
  | parent
  | sleepUntil (time : Nat)
  | now
  deriving Inhabited

/-- The replies to a call. -/
def Call.Reply : Call → Type
  | .openFile .. | .duplicate .. | .duplicateTo .. | .write .. | .seek .. => Except Errno Nat
  | .pipe => Except Errno (Nat × Nat)
  | .read .. => Except Errno ByteArray
  | .facts .. | .factsOf .. => Except Errno Facts
  | .list .. => Except Errno (List String)
  | .readLink .. | .workingDirectory => Except Errno String
  | .wait .. => Except Errno (Option (Nat × Ending))
  | .execute .. => Errno
  | .setMask .. | .self | .parent | .now => Nat
  | .handle .. => Disposition
  | .takeSignals => List Nat
  | _ => Except Errno Unit

/-- A process. -/
inductive Process where
  | exit (status : Nat)
  | call (c : Call) (next : c.Reply → Process)
  /-- Makes a child, and goes on with its number. -/
  | fork (child : Unit → Process) (next : Nat → Process)

instance : Inhabited Process := ⟨.exit 0⟩

/-- A program: a process that depends on its arguments, of which the first is its name, and on its
environment. -/
abbrev Program := List String → List (String × String) → Process

end Golden.Host
