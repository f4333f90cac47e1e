import Golden.Behaviour

/-! # Registries

A registry holds units by name. It is a loader that finds the same unit in every root. No unit is
loaded while it is being loaded, so that imports cannot nest deeper than there are names. -/

namespace Golden

/-- Units by name, ascending, each name once. -/
structure Registry (σ : Type) where
  units : List (String × TestUnit σ)

namespace Registry

variable {σ : Type}

/-- A registry without units. -/
def empty : Registry σ := ⟨[]⟩

/-- Puts a unit into a list sorted by name, in place of one of the same name. -/
def insertUnit (name : String) (unit : TestUnit σ) :
    List (String × TestUnit σ) → List (String × TestUnit σ)
  | [] => [(name, unit)]
  | p :: ps =>
    if name < p.1 then (name, unit) :: p :: ps
    else if name = p.1 then (name, unit) :: ps
    else p :: insertUnit name unit ps

/-- Registers a unit under a name. -/
def insert (r : Registry σ) (name : String) (unit : TestUnit σ) : Registry σ :=
  ⟨insertUnit name unit r.units⟩

/-- The registered names, ascending. -/
def names (r : Registry σ) : List String := r.units.map Prod.fst

/-- The unit of a name. -/
def find (r : Registry σ) (unit : UnitId) : Except Signal (TestUnit σ) :=
  match r.units.lookup unit.name with
  | some u => .ok u
  | none => .error (.loadFailure ("no unit named " ++ unit.name))

/-- The loader that finds the registered units. -/
def loader (r : Registry σ) : Loader σ where
  load unit host := (r.find unit, host)
  nesting := r.units.length

/-- The registry as a text. -/
def describe (r : Registry σ) : String := Text.quoteList r.names

end Registry

end Golden
