import Golden.Host.Awk.Pattern
import Golden.Host.Awk.Table
import Golden.Host.Awk.Value
import Golden.Host.Process

/-! # The state of a program that goes through records

A run of a program goes on until it asks for something from outside (`Request`), is cut off
(`Stop`), or is done. It has a state: the values of names, the record with its fields, and what is
read and written. The fields of a record are only looked for when they are needed. -/

namespace Golden.Host.Awk

/-- What a run asks for. -/
inductive Request where
  /-- Writes to standard output. -/
  | put (text : String)
  | flush
  /-- Writes to standard error. -/
  | complain (text : String)
  | openInput (path : String)
  | openOutput (path : String) (appends : Bool)
  | read (descriptor : Nat)
  | write (descriptor : Nat) (text : String)
  | close (descriptor : Nat)
  /-- Starts a command. The run hears what it writes if `listens`, and otherwise writes what it
  reads. The reply has the number of the command and a descriptor. -/
  | start (listens : Bool) (command : String)
  | await (number : Nat)
  /-- Runs a command to its end. -/
  | perform (command : String)
  /-- The time in nanoseconds. -/
  | now
  deriving DecidableEq, Inhabited

/-- The replies to a request. -/
def Request.Reply : Request → Type
  | .openInput _ | .openOutput .. => Except Errno Nat
  | .read _ => Except Errno String
  | .write .. => Except Errno Unit
  | .start .. => Except Errno (Nat × Nat)
  | .await _ | .perform _ => Ending
  | .now => Nat
  | _ => Unit

/-- Why a part of a run is cut off. -/
inductive Stop where
  | next
  | nextFile
  | exit
  | giveBack (v : Value)
  | leaveLoop
  | nextRound
  /-- The run fails, with a message. -/
  | failure (message : String)
  deriving DecidableEq, Inhabited

/-- What an argument of a function stands for. -/
inductive Cell where
  | value (v : Value)
  /-- An array with a name. -/
  | table (key : String)
  deriving DecidableEq, Inhabited

/-- A file or a command whose records are read. -/
structure Source where
  name : String
  isCommand : Bool
  descriptor : Nat
  process : Option Nat
  /-- What has been read and is not part of a record that has been given. -/
  ahead : List Char
  isEnded : Bool
  deriving DecidableEq, Inhabited

/-- A file or a command that is written to. -/
structure Sink where
  name : String
  isCommand : Bool
  descriptor : Nat
  process : Option Nat
  /-- What has not been written yet. -/
  pending : String
  deriving DecidableEq, Inhabited

/-- The state of a run. -/
structure State where
  scalars : Std.HashMap String Value
  tables : Std.HashMap String (Table Value)
  /-- The arguments of the function that is run. -/
  cells : Array Cell
  /-- The number of arrays that functions have made. -/
  made : Nat
  record : Value
  fields : Array Value
  /-- The fields have been looked for. -/
  isSplit : Bool
  /-- The rules whose records go on. -/
  ranges : List Nat
  sources : List Source
  sinks : List Sink
  /-- The file of the arguments that is read. -/
  main : Option Source
  /-- The argument that comes next. -/
  nextArgument : Nat
  /-- A file has been read, so that standard input is not. -/
  hasFile : Bool
  status : Nat
  seed : Value
  random : Nat
  deriving Inhabited

/-- How a part of a run goes on. -/
inductive Course (α : Type) where
  | done (a : α) (s : State)
  | cut (why : Stop) (s : State)
  | ask (q : Request) (next : q.Reply → Course α)

/-- Goes on behind a part of a run. -/
def Course.andThen {α β : Type} (f : α → State → Course β) : Course α → Course β
  | done a s => f a s
  | cut w s => cut w s
  | ask q next => ask q fun r => (next r).andThen f

/-- Goes on behind a part of a run, also if it has been cut off. -/
def Course.always {α β : Type} (f : Except Stop α → State → Course β) : Course α → Course β
  | done a s => f (.ok a) s
  | cut w s => f (.error w) s
  | ask q next => ask q fun r => (next r).always f

/-- A part of a run. -/
def Run (α : Type) : Type := State → Course α

namespace Run

@[always_inline]
instance : Monad Run where
  pure a := fun s => .done a s
  bind x f := fun s => match x s with
    | .done a s => f a s
    | .cut w s => .cut w s
    | .ask q next => .ask q fun r => (next r).andThen f

instance {α : Type} : Inhabited (Run α) := ⟨fun s => .cut .exit s⟩

/-- The state. -/
@[inline]
def state : Run State := fun s => .done s s

/-- Changes the state. -/
@[inline]
def change (f : State → State) : Run Unit := fun s => .done () (f s)

/-- Asks for something. -/
def ask (q : Request) : Run q.Reply := fun s => .ask q fun r => .done r s

/-- Cuts off what is run. -/
def stop {α : Type} (w : Stop) : Run α := fun s => .cut w s

/-- Does something and tells whether it has been cut off. -/
def attempt {α : Type} (x : Run α) : Run (Except Stop α) := fun s =>
  (x s).always fun r s => .done r s

/-! ### Values of names -/

/-- The value of a name of the whole program. -/
def scalar (name : String) : Run Value := do
  return ((← state).scalars[name]?).getD .nothing

/-- Gives a value to a name of the whole program. -/
def putScalar (name : String) (v : Value) : Run Unit :=
  change fun s => { s with scalars := s.scalars.insert name v }

/-- How numbers become texts. -/
def conversion : Run String := do
  match ← scalar "CONVFMT" with
  | .number r => return textOfNumber "%.6g" r
  | v => return v.toText "%.6g"

/-- The value as a text. -/
def textOf (v : Value) : Run String := do
  match v with
  | .number r =>
    match wholeOf? r with
    | some n => return toString n
    | none => return textOfNumber (← conversion) r
  | v => return v.toText ""

/-- The value of a name as a text. -/
def scalarText (name : String) : Run String := do
  textOf (← scalar name)

/-- The end of messages, which tells where in the records the run is. -/
def whereabouts : Run String := do
  let file ← scalarText "FILENAME"
  let fnr ← scalarText "FNR"
  let nr ← scalarText "NR"
  return "\n\tFILENAME=\"" ++ file ++ "\" FNR=" ++ fnr ++ " NR=" ++ nr

/-- Fails in the course of a record. -/
def fail {α : Type} (text : String) : Run α := do
  stop (.failure ("run time error: " ++ text ++ (← whereabouts)))

/-- What a text stands for, if it is a pattern or has one in it. -/
def ofPattern {α : Type} (text : String) (r : Except String α) : Run α := do
  match r with
  | .ok a => return a
  | .error e => fail ("regular expression compile failed (" ++ e ++ ")\n" ++ text)

/-! ### Fields -/

/-- Looks for the fields of the record. -/
def split : Run Unit := do
  let s ← state
  if s.isSplit then return ()
  let fs ← scalarText "FS"
  let p ← ofPattern fs (Splitter.ofText fs)
  let text ← textOf s.record
  let fields := ((p.split text).map Value.given).toArray
  change fun s => { s with
    fields
    isSplit := true
    scalars := s.scalars.insert "NF" (.ofNat fields.size) }

/-- Makes a text the record. -/
def setRecord (v : Value) : Run Unit :=
  change fun s => { s with record := v, isSplit := false }

/-- Makes the record out of its fields. -/
def join : Run Unit := do
  let ofs ← scalarText "OFS"
  let format ← conversion
  change fun s =>
    { s with record := .given (ofs.intercalate (s.fields.toList.map fun v => v.toText format)) }

/-- Changes the number of fields. -/
def resize (n : Nat) : Run Unit := do
  split
  change fun s => { s with
    fields := (s.fields.extract 0 n) ++ Array.replicate (n - s.fields.size) (Value.given "")
    scalars := s.scalars.insert "NF" (.ofNat n) }

/-- A field, or the record. -/
def field (i : Nat) : Run Value := do
  if i = 0 then return (← state).record
  split
  return ((← state).fields[i - 1]?).getD (.given "")

/-- Changes a field, or the record. -/
def setField (i : Nat) (v : Value) : Run Unit := do
  if i = 0 then
    let text ← textOf v
    setRecord (.given text)
  else
    split
    if (← state).fields.size < i then resize i
    change fun s => { s with fields := s.fields.setIfInBounds (i - 1) v }
    join

/-! ### Names with a meaning -/

/-- The value of a name of the whole program, where fields are looked for if they are counted. -/
def getScalar (name : String) : Run Value := do
  if name = "NF" then split
  scalar name

/-- Gives a value to a name of the whole program, with all that follows from it. -/
def setScalar (name : String) (v : Value) : Run Unit := do
  match name with
  | "NF" =>
    let n := Piece.toWhole v.toNumber
    if n < 0 then fail "negative value assigned to NF"
    resize n.toNat
    putScalar name v
    join
  | "FS" =>
    split
    putScalar name v
  | _ => putScalar name v

/-! ### Arrays -/

/-- Does something with an array. -/
def withTable {α : Type} (key : String) (f : Table Value → α × Table Value) : Run α := fun s =>
  let t := (s.tables[key]?).getD .empty
  let s := { s with tables := s.tables.erase key }
  let (a, t) := f t
  .done a { s with tables := s.tables.insert key t }

/-- How a value finds an element. -/
inductive Key where
  | number (n : Int)
  | text (s : String)
  deriving DecidableEq, Inhabited

/-- The text by which an element is found. -/
def Key.spell : Key → String
  | .number n => toString n
  | .text s => s

/-- The key that a value is. -/
def keyOf (v : Value) : Run Key := do
  match v with
  | .number r =>
    match wholeOf? r with
    | some n => return .number n
    | none => return .text (← textOf v)
  | v => return .text (← textOf v)

/-- The value of an element. It is made if it is not there. -/
def element (table : String) (k : Key) : Run Value :=
  withTable table fun t =>
    match t.get? k.spell, k with
    | some v, .number n => (v, t.touchNumber n)
    | some v, .text s => (v, t.touchText s)
    | none, .number n => (.nothing, t.makeNumber n .nothing)
    | none, .text s => (.nothing, t.makeText s .nothing)

/-- Gives a value to an element that is there. -/
def setElement (table : String) (k : Key) (v : Value) : Run Unit :=
  withTable table fun t =>
    match t.get? k.spell, k with
    | some _, _ => ((), t.set k.spell v)
    | none, .number n => ((), t.makeNumber n v)
    | none, .text s => ((), t.makeText s v)

/-- Whether an element is there. -/
def hasElement (table : String) (k : Key) : Run Bool :=
  withTable table fun t =>
    match t.get? k.spell, k with
    | some _, .number n => (true, t.touchNumber n)
    | some _, .text s => (true, t.touchText s)
    | none, _ => (false, t)

/-- Takes an element away. -/
def deleteElement (table : String) (k : Key) : Run Unit :=
  withTable table fun t => ((), t.erase k.spell)

/-- Makes an array anew. -/
def setTable (table : String) (t : Table Value) : Run Unit :=
  change fun s => { s with tables := s.tables.insert table t }

end Run

end Golden.Host.Awk
