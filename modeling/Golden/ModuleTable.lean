import Golden.Text.Quoted
import Golden.UnitId

/-! # Loaded units

While tests run, units load each other. The table knows which names are loaded, each with the root
it was loaded from, and which are being loaded at the moment. It keeps a record of the steps that
led there. Names that look like those of tests do not stay loaded beyond the run of the test that
loaded them (`ModuleTable.unloadNew`); all others do. -/

namespace Golden

/-- A step in the life of a unit. -/
inductive LoadStep where
  | began (unit : UnitId)
  | failed (unit : UnitId)
  | completed (unit : UnitId)
  deriving DecidableEq, Inhabited

/-- The loaded units in the order of their names, the names being loaded, latest first, and all
steps so far, oldest first. -/
structure ModuleTable where
  entries : List UnitId
  loading : List String
  steps : List LoadStep
  deriving DecidableEq, Inhabited

namespace ModuleTable

/-- The table of a new run. -/
def empty : ModuleTable := ⟨[], [], []⟩

/-- The loaded names, ascending. -/
def names (t : ModuleTable) : List String := t.entries.map UnitId.name

/-- Whether the name is loaded. -/
def contains (t : ModuleTable) (name : String) : Bool := t.names.contains name

/-- Whether the name is being loaded. -/
def isLoading (t : ModuleTable) (name : String) : Bool := t.loading.contains name

/-- Puts a unit into a list sorted by name, in place of one of the same name. -/
def insertEntry (u : UnitId) : List UnitId → List UnitId
  | [] => [u]
  | v :: vs =>
    if u.name < v.name then u :: v :: vs
    else if u.name = v.name then u :: vs
    else v :: insertEntry u vs

/-- Notes that the unit is loaded. -/
def insert (t : ModuleTable) (u : UnitId) : ModuleTable :=
  { t with entries := insertEntry u t.entries }

/-- Notes that the unit is no longer loaded. -/
def erase (t : ModuleTable) (name : String) : ModuleTable :=
  { t with entries := t.entries.filter (·.name ≠ name) }

/-- Marks the unit as being loaded. -/
def beginLoading (t : ModuleTable) (u : UnitId) : ModuleTable :=
  { t with
    loading := if t.isLoading u.name then t.loading else u.name :: t.loading
    steps := t.steps ++ [.began u] }

/-- Takes the mark back, because loading ended well or not. -/
def finishLoading (t : ModuleTable) (u : UnitId) (ok : Bool) : ModuleTable :=
  { t with
    loading := t.loading.filter (· ≠ u.name)
    steps := t.steps ++ [if ok then .completed u else .failed u] }

/-- Whether a name looks like that of a test. -/
def looksLikeTest (name : String) : Bool := name.startsWith "test_" || name.startsWith "test."

/-- Whether a name looks like that of a test and is not in the list. -/
def isNewTest (before : List String) (name : String) : Bool :=
  looksLikeTest name && !before.contains name

/-- Unloads all that look like tests and were not loaded before. Returns their names. -/
def unloadNew (t : ModuleTable) (before : List String) : List String × ModuleTable :=
  (t.names.filter (isNewTest before),
    { t with entries := t.entries.filter fun u => !isNewTest before u.name })

/-- The loaded names as a text. -/
def describe (t : ModuleTable) : String :=
  "\x7b" ++ ", ".intercalate (t.names.map Text.quote) ++ "\x7d"

end ModuleTable

end Golden
