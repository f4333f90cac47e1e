/-! # TOML documents

A document is a table of values by keys. Tables come about in four ways, which decides whether they
may be added to later: by a header, by being on the way to a header or to a dotted key, or inline. A
statement of a document changes the table that it holds so far, unless it contradicts it
(`Table.apply`). -/

namespace Golden.Toml

/-- How a table came about. -/
inductive Origin where
  /-- A header of its own. -/
  | header
  /-- A header of a table below it. -/
  | implied
  /-- A dotted key. -/
  | dotted
  /-- A value in braces. -/
  | inline
  deriving DecidableEq, Inhabited

/-- A value of a document. Numbers are checked and then forgotten, apart from whether they fit into
128 bits, or 64 if they are floats. -/
inductive Value where
  | string (text : String)
  | number (fits : Bool)
  | boolean (b : Bool)
  | datetime
  | array (items : List Value)
  /-- Tables that share a header. -/
  | tables (items : List (List (String × Value)))
  | table (origin : Origin) (entries : List (String × Value))

instance : Inhabited Value := ⟨.datetime⟩

mutual

/-- Whether all numbers in a value fit. -/
def Value.numbersFit : Value → Bool
  | .number fits => fits
  | .array items => allFit items
  | .tables items => allItemsFit items
  | .table _ entries => allEntriesFit entries
  | _ => true

/-- Whether all numbers in some values fit. -/
def allFit : List Value → Bool
  | [] => true
  | v :: vs => v.numbersFit && allFit vs

/-- Whether all numbers in some entries fit. -/
def allEntriesFit : List (String × Value) → Bool
  | [] => true
  | (_, v) :: es => v.numbersFit && allEntriesFit es

/-- Whether all numbers in some tables fit. -/
def allItemsFit : List (List (String × Value)) → Bool
  | [] => true
  | t :: ts => allEntriesFit t && allItemsFit ts

end

/-- The entries of a table. -/
abbrev Table := List (String × Value)

namespace Table

/-- Puts a value in place of that of the same key. -/
def replace (t : Table) (k : String) (v : Value) : Table :=
  t.map fun e => if e.1 = k then (k, v) else e

/-- Changes the table at the end of a path with `f`, which is told how that table came about, and
tells how it is to be regarded from then on. Tables on the way are made if there are none. A dotted
key does not lead through tables that have a header, and nothing leads through inline tables and
other values. -/
def descend (dotted : Bool) (f : Origin → Table → Option (Origin × Table)) :
    List String → Origin → Table → Option (Origin × Table)
  | [], origin, t => f origin t
  | k :: ks, origin, t =>
    match t.lookup k with
    | none => do
      let (o, below) ← descend dotted f ks (if dotted then .dotted else .implied) []
      return (origin, t ++ [(k, .table o below)])
    | some (.table o below) =>
      if o = .inline || (dotted && o = .header) then none
      else do
        let (o, below) ← descend dotted f ks o below
        return (origin, replace t k (.table o below))
    | some (.tables items) => do
      let last ← items.getLast?
      let (_, last) ← descend dotted f ks .header last
      return (origin, replace t k (.tables (items.dropLast ++ [last])))
    | some _ => none

/-- Adds an entry under a key that may be dotted. The table that gets it must have no entry of that
name. If the key is dotted, the table must not have a header, and will not get one any more. -/
def addEntry (path : List String) (k : String) (v : Value) (origin : Origin) (t : Table) :
    Option (Origin × Table) :=
  descend true
    (fun origin t =>
      if (t.lookup k).isSome then none
      else if path = [] then
        if origin = .dotted then none else some (origin, t ++ [(k, v)])
      else if origin = .dotted ∨ origin = .implied then some (.dotted, t ++ [(k, v)])
      else none)
    path origin t

/-- Begins a table with a header of its own. -/
def beginTable (path : List String) (k : String) (t : Table) : Option Table :=
  (descend false
    (fun origin t =>
      match t.lookup k with
      | none => some (origin, t ++ [(k, .table .header [])])
      | some (.table .implied below) => some (origin, replace t k (.table .header below))
      | some _ => none)
    path .header t).map Prod.snd

/-- Begins another one of the tables that share a header. -/
def beginItem (path : List String) (k : String) (t : Table) : Option Table :=
  (descend false
    (fun origin t =>
      match t.lookup k with
      | none => some (origin, t ++ [(k, .tables [[]])])
      | some (.tables items) => some (origin, replace t k (.tables (items ++ [[]])))
      | some _ => none)
    path .header t).map Prod.snd

end Table

/-- A key is a path to a table and the name of an entry in it. -/
structure Key where
  path : List String
  name : String

/-- All parts of a key. -/
def Key.parts (k : Key) : List String := k.path ++ [k.name]

/-- A statement of a document. -/
inductive Statement where
  | entry (key : Key) (value : Value)
  | table (key : Key)
  | item (key : Key)

/-- What a document holds so far, and the path of the header that it is under. -/
structure Document where
  root : Table
  current : List String

/-- Obeys a statement. -/
def Document.apply (d : Document) : Statement → Option Document
  | .entry k v => do
    let (_, root) ← Table.descend false (Table.addEntry k.path k.name v) d.current .header d.root
    return { d with root }
  | .table k => do
    let root ← Table.beginTable k.path k.name d.root
    return ⟨root, k.parts⟩
  | .item k => do
    let root ← Table.beginItem k.path k.name d.root
    return ⟨root, k.parts⟩

end Golden.Toml
