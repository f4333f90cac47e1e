import Golden.ConfigError

/-! # Resources

A resource is something that tests need and that is only available on request. A set of enabled
resources is a list without repetitions, in the order of enabling. Requests come as lists of words
separated by commas (`Resources.use`). -/

namespace Golden

/-- Something that a test may need. -/
inductive Resource where
  | curses
  | largefile
  | network
  deriving DecidableEq, Inhabited

namespace Resource

/-- The name of a resource. -/
def name : Resource → String
  | curses => "curses"
  | largefile => "largefile"
  | network => "network"

/-- All resources, by name. -/
def all : List Resource := [curses, largefile, network]

/-- The resource of the given name, whatever the case of its letters. -/
def ofName? (s : String) : Option Resource :=
  let low := s.toLower
  all.find? fun r => r.name = low

end Resource

/-- Enabled resources. -/
structure Resources where
  toList : List Resource
  deriving DecidableEq, Inhabited

namespace Resources

/-- No resource at all. -/
def none : Resources := ⟨[]⟩

/-- Every resource. -/
def all : Resources := ⟨Resource.all⟩

/-- Whether the resource is enabled. -/
def contains (rs : Resources) (r : Resource) : Bool := rs.toList.contains r

/-- Enables a resource. -/
def insert (rs : Resources) (r : Resource) : Resources :=
  if rs.contains r then rs else ⟨rs.toList ++ [r]⟩

/-- Disables a resource. -/
def erase (rs : Resources) (r : Resource) : Resources := ⟨rs.toList.filter (· ≠ r)⟩

/-- The names of the enabled resources, separated by commas. -/
def names (rs : Resources) : String := ",".intercalate (rs.toList.map Resource.name)

/-- What one word of a request asks for. -/
inductive Word where
  | all
  | enable (r : Resource)
  | disable (r : Resource)
  deriving DecidableEq

/-- Reads one word of a request. -/
def Word.ofText? (w : List Char) : Option Word :=
  let low := w.map Char.toLower
  if low = "all".toList then some .all
  else
    match low with
    | '-' :: rest => (Resource.ofName? (String.ofList rest)).map .disable
    | _ => (Resource.ofName? (String.ofList low)).map .enable

/-- Obeys one word of a request. -/
def apply (rs : Resources) : Word → Resources
  | .all => Resources.all
  | .enable r => rs.insert r
  | .disable r => rs.erase r

/-- Obeys words from the left up to the first that is not understood. The second part tells whether
all of them were. -/
def applyWords (rs : Resources) : List (List Char) → Resources × Bool
  | [] => (rs, true)
  | w :: ws =>
    match Word.ofText? w with
    | Option.none => (rs, false)
    | some u => applyWords (rs.apply u) ws

/-- Obeys a request: the words between its commas. Those in front of a bad one stay obeyed, which the
second part shows. -/
def use (rs : Resources) (request : String) : Except ConfigError Unit × Resources :=
  let (rs', ok) := rs.applyWords (request.toList.splitOn ',')
  (if ok then .ok () else .error (.invalidResource request), rs')

/-- Obeys requests from the left, and stops at the first bad one. -/
def useAll (rs : Resources) : List String → Except ConfigError Resources
  | [] => .ok rs
  | request :: more =>
    match rs.use request with
    | (.ok (), rs') => rs'.useAll more
    | (.error e, _) => .error e

end Resources

end Golden
