import Golden.Host.Numbers
import Golden.Host.Shell.State

/-! # Variables of a shell -/

namespace Golden.Host.Shell

/-- The characters that separate fields, unless told otherwise. -/
def usualSeparators : String := " \t\n"

/-- The search path of a shell that is given none. -/
def usualSearchPath : String :=
  "/usr/local/sbin:/usr/local/bin:/usr/sbin:/usr/bin:/sbin:/bin"

namespace State

/-- A variable by its name. -/
def variableOf? (s : State) (name : String) : Option Variable := s.vars.find? (·.name = name)

/-- The value of a variable. -/
def value? (s : State) (name : String) : Option String := (s.variableOf? name).bind (·.value)

/-- The value of a variable, which is nothing if it is not set. -/
def value (s : State) (name : String) : String := (s.value? name).getD ""

/-- The characters that separate fields. -/
def separators (s : State) : String := (s.value? "IFS").getD usualSeparators

/-- Puts a variable in place of the one with its name. -/
def putVariable (s : State) (v : Variable) : State :=
  if s.vars.any (·.name = v.name) then
    { s with vars := s.vars.map fun w => if w.name = v.name then v else w }
  else { s with vars := s.vars ++ [v] }

/-- Removes a variable. -/
def removeVariable (s : State) (name : String) : State :=
  { s with vars := s.vars.filter (·.name ≠ name) }

/-- Whether a variable may not be changed. -/
def isFixed (s : State) (name : String) : Bool := (s.variableOf? name).any (·.isFixed)

/-- What follows from a change of a variable. -/
def afterChange (s : State) (name : String) : State :=
  if name = "PATH" then { s with found := [] }
  else if name = "OPTIND" then
    let index := match (s.variableOf? name).bind (·.value) with
      | some v => ((Numbers.whole? (some 10) v).getD 1).toNat
      | none => 1
    { s with optionIndex := max 1 index, optionOffset := none }
  else s

/-- Sets a variable that may be set. It is exported if it was, or if told so. -/
def assign (s : State) (name value : String) (exported : Bool) : State :=
  let exported := exported || s.has 'a'
  let v : Variable := match s.variableOf? name with
    | some v => { v with value := some value, isExported := v.isExported || exported }
    | none => ⟨name, some value, exported, false⟩
  (s.putVariable v).afterChange name

/-- The bucket that a variable is kept in, by its name. -/
def bucket (name : String) : Nat :=
  let start := match name.toList with
    | [] => 0
    | c :: _ => c.toNat * 16
  name.foldl (fun n c => n + c.toNat) start % 39

/-- The variables that programs see, by bucket. -/
def environment (s : State) : List (String × String) :=
  let seen := s.vars.filterMap fun v =>
    match v.value with
    | some value => if v.isExported then some (v.name, value) else none
    | none => none
  seen.mergeSort fun a b => bucket a.1 ≤ bucket b.1

end State

namespace Sh

/-- Sets a variable. -/
def assign (name value : String) (exported : Bool) : Sh Unit := do
  let s ← get
  if s.isFixed name then fail (name ++ ": is read only")
  change fun s => s.assign name value exported

/-- Makes a variable unset. -/
def unset (name : String) : Sh Unit := do
  let s ← get
  if s.isFixed name then fail (name ++ ": is read only")
  change fun s => (s.removeVariable name).afterChange name

/-- Lets a function have a variable for itself, if there is a function. -/
def hide (name : String) : Sh Unit := change fun s =>
  match s.hidden with
  | [] => s
  | l :: ls =>
    if l.any (·.name = name) then s
    else { s with hidden := (⟨name, s.variableOf? name⟩ :: l) :: ls }

/-- Puts the variables back that a function has hidden. -/
def reveal : Sh Unit := change fun s =>
  match s.hidden with
  | [] => s
  | l :: ls =>
    let back (s : State) (x : Saved) : State :=
      (match x.before with
      | some ⟨"-", letters, _, _⟩ => { s with options := (letters.getD "").toList }
      | some v => s.putVariable v
      | none => s.removeVariable x.name).afterChange x.name
    { l.foldl back s with hidden := ls }

end Sh

/-! ### Quoting -/

/-- Characters that are all single quotes, or of which none is one, in quotes. -/
def quoteRun (cs : List Char) : List Char :=
  if cs.head? = some '\'' then '"' :: cs ++ ['"'] else '\'' :: cs ++ ['\'']

/-- A value as it can be read back by a shell: in single quotes, but for these quotes themselves. -/
def quoteValue (s : String) : String :=
  let runs := s.toList.splitBy fun a b => (a = '\'') == (b = '\'')
  let front := match s.toList.head? with
    | some '\'' | none => "''"
    | _ => ""
  front ++ String.ofList (runs.flatMap quoteRun)

end Golden.Host.Shell
