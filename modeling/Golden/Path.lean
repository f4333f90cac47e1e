/-! # Paths

A path is the text it was spelled with. What it names is its list of components (`Path.components`):
separators that repeat or end the path say nothing, nor does a `.` other than at the beginning.
Paths are compared and ordered by components and shown as they are spelled. -/

namespace Golden

/-- One step of a path. -/
inductive Component where
  | root
  | current
  | up
  | name (text : String)
  deriving DecidableEq, Inhabited

namespace Component

/-- Whether `a` comes before `b`: the root, `.`, `..`, then names by their characters. -/
def lt : Component → Component → Bool
  | root, b => b ≠ root
  | current, b => b ≠ root ∧ b ≠ current
  | up, name _ => true
  | up, _ => false
  | name a, name b => a < b
  | name _, _ => false

end Component

/-- A path as it is spelled. -/
structure Path where
  spelling : String
  deriving DecidableEq, Inhabited

namespace Path

/-- Whether a piece between separators names nothing after the beginning of a path. -/
def isVoid (p : List Char) : Bool := p = [] || p = ['.']

/-- The component of a piece that is not void. -/
def component (p : List Char) : Component :=
  if p = ['.', '.'] then .up else .name (String.ofList p)

/-- The components of the pieces after the beginning of a path. -/
def bodyComponents (ps : List (List Char)) : List Component :=
  (ps.filter fun p => !isVoid p).map component

/-- What the path names. -/
def components (p : Path) : List Component :=
  match p.spelling.toList.splitOn '/' with
  | [] => []
  | [[]] => []
  | [] :: body => .root :: bodyComponents body
  | ['.'] :: body => .current :: bodyComponents body
  | body => bodyComponents body

/-- Whether two paths have the same components. -/
def same (a b : Path) : Bool := a.components = b.components

/-- Whether one list of components comes before another: a beginning comes before the whole. -/
def before : List Component → List Component → Bool
  | _, [] => false
  | [], _ :: _ => true
  | a :: as, b :: bs => Component.lt a b || (a = b && before as bs)

/-- Whether `a` comes before `b` or has the same components. -/
def le (a b : Path) : Bool := !before b.components a.components

/-- Whether the path begins at the root. -/
def isAbsolute (p : Path) : Bool := p.spelling.startsWith "/"

/-- The path `b`, seen from `a`. -/
def join (a : Path) (b : String) : Path :=
  if b.startsWith "/" then ⟨b⟩
  else if a.spelling = "" then ⟨b⟩
  else if a.spelling.endsWith "/" then ⟨a.spelling ++ b⟩
  else ⟨a.spelling ++ "/" ++ b⟩

/-- The pieces up to the last one that is not void. -/
def trimPieces (ps : List (List Char)) : List (List Char) := (ps.reverse.dropWhile isVoid).reverse

/-- Pieces with a `/` between them. -/
def spell (ps : List (List Char)) : List Char := ['/'].intercalate ps

/-- The pieces without the last component, if there is one. -/
def parentPieces (ps : List (List Char)) : Option (List (List Char)) :=
  match (trimPieces ps).reverse with
  | [] => none
  | _ :: rest => some (trimPieces rest.reverse)

/-- The path without its last component. The root and the empty path have none to lose. -/
def parent? (p : Path) : Option Path :=
  match p.spelling.toList.splitOn '/' with
  | [] => none
  | [[]] => none
  | [] :: body => (parentPieces body).map fun ps => ⟨String.ofList ('/' :: spell ps)⟩
  | ['.'] :: body =>
    match parentPieces body with
    | none => some ⟨""⟩
    | some [] => some ⟨"."⟩
    | some ps => some ⟨String.ofList ('.' :: '/' :: spell ps)⟩
  | body => (parentPieces body).map fun ps => ⟨String.ofList (spell ps)⟩

/-- The name that the path ends in. -/
def fileName? (p : Path) : Option String :=
  match p.components.getLast? with
  | some (.name n) => some n
  | _ => none

end Path

end Golden
