import Golden.Host.Act
import Golden.Host.Shell.Variables

/-! # Looking for programs

A command that is neither a function nor a command of the shell is a program, which is looked for in
the directories of the search path (`Search.find`). What has been found is kept. -/

namespace Golden.Host.Shell.Search

/-- Whether a file can be run. -/
def isProgram (f : Facts) : Bool := f.kind = .regular && f.mode &&& 0o111 ≠ 0

/-- The first of several paths that leads to a program. The refusal is the last one that says more
than that there is nothing. -/
def firstProgram : Errno → List String → Act (Except Errno String)
  | e, [] => pure (.error e)
  | e, path :: rest => do
    match ← Act.call (.facts path true) with
    | .ok (f : Facts) => if isProgram f then return .ok path else firstProgram .noPermission rest
    | .error .noEntry | .error .notDirectory => firstProgram e rest
    | .error refusal => firstProgram refusal rest

/-- The program that a name stands for in the directories of a search path. -/
def along (name search : String) : Act (Except Errno String) :=
  firstProgram .noEntry (Act.candidates name search)

/-- What has been found under a name. -/
def found? (s : State) (name : String) : Option Found := s.found.find? (·.name = name)

/-- Keeps what has been found. -/
def keep (name path : String) : Sh Unit := Sh.change fun s =>
  let f : Found := ⟨name, path, false⟩
  { s with
    found := if (found? s name).isSome then s.found.map fun g => if g.name = name then f else g
      else s.found ++ [f] }

/-- Forgets a command. -/
def forget (name : String) : Sh Unit :=
  Sh.change fun s => { s with found := s.found.filter (·.name ≠ name) }

/-- The working directory has changed: what has been found may have to be looked for anew. -/
def becomeOld : Sh Unit :=
  Sh.change fun s => { s with found := s.found.map fun f => { f with isOld := true } }

/-- The row of the table of commands in which a command stands. -/
def row (f : Found) : Nat :=
  match f.name.toList with
  | [] => 0
  | c :: cs => ((c :: cs).foldl (fun n c => n + c.toNat) (16 * c.toNat)) % 0x8000 % 31

/-- What has been found, in the order of the table of commands. -/
def table (s : State) : List Found := s.found.mergeSort fun f g => row f ≤ row g

/-- The program that a name stands for, in the directories of the search path unless others are
given. -/
def find (name : String) (other : Option String) : Sh (Except Errno String) := do
  let s ← get
  match other with
  | some search => Sh.act (along name search)
  | none =>
    match (found? s name).filter fun f => !f.isOld || f.path.startsWith "/" with
    | some f =>
      if f.isOld then keep name f.path
      return .ok f.path
    | none =>
      let r ← Sh.act (along name (s.value "PATH"))
      match r with
      | .ok path => keep name path
      | .error _ => forget name
      return r

/-- The words for a command that cannot be run. -/
def words : Errno → String
  | .noEntry | .notDirectory => "not found"
  | e => e.words

/-- The status that a command leaves that cannot be run. -/
def statusOf : Errno → Nat
  | .noEntry | .notDirectory | .nameTooLong | .manyLinks => 127
  | _ => 126

/-- The status of a command that has not been found. -/
def notFound : Nat := 127

end Golden.Host.Shell.Search
