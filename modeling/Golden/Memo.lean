import Golden.SuiteResult
import Golden.Text.Lines
import Golden.Text.Quoted

/-! # Memos

A memo keeps the names of the good, the bad and the skipped units of a run, each kind in a section
of its own: a line `good = [`, a line for every name in quotes, and a line `]`. `Memo.render` writes
a memo. `Memo.parse` reads one; it does not mind the order of the sections, blank lines, and blanks
at the ends of lines. -/

namespace Golden

/-- A part of a memo. -/
inductive Section where
  | good
  | bad
  | skipped
  deriving DecidableEq, Inhabited

namespace Section

/-- The name of a section. -/
def name : Section → String
  | good => "good"
  | bad => "bad"
  | skipped => "skipped"

/-- All sections. -/
def all : List Section := [good, bad, skipped]

/-- The section of the given name. -/
def ofName? (cs : List Char) : Option Section := all.find? fun s => s.name.toList = cs

end Section

/-- What is wrong with a line of a memo. -/
inductive MemoFault where
  | noHeader
  | unknownSection
  | duplicateSection
  | noEntry
  | badEscape
  | unterminated
  deriving DecidableEq, Inhabited

/-- The words for what is wrong with a line. -/
def MemoFault.text : MemoFault → String
  | noHeader => "expected \x60<section> = [\x60"
  | unknownSection => "unknown section"
  | duplicateSection => "duplicate section"
  | noEntry => "expected a quoted entry"
  | badEscape => "invalid escape in entry"
  | unterminated => "unterminated section"

/-- Why a text is not a memo. -/
inductive MemoError where
  | malformed (line : Nat) (fault : MemoFault)
  | missingSection (missing : Section)
  deriving DecidableEq, Inhabited

/-- The text of a memo error. -/
def MemoError.message : MemoError → String
  | malformed line fault => "memo line " ++ toString line ++ ": " ++ fault.text
  | missingSection missing => "memo is missing the \x60" ++ missing.name ++ "\x60 section"

/-- The names of the units of a run. -/
structure Memo where
  good : List String
  bad : List String
  skipped : List String
  deriving DecidableEq, Inhabited

namespace Memo

/-- A memo without names. -/
def empty : Memo := ⟨[], [], []⟩

/-- The memo of a result. -/
def ofResult (r : SuiteResult) : Memo :=
  let names := List.map fun u : UnitId => u.display r.severalRoots
  ⟨names r.good, names r.bad, names r.skipped⟩

/-- The names in a section. -/
def names (m : Memo) : Section → List String
  | .good => m.good
  | .bad => m.bad
  | .skipped => m.skipped

/-- Adds a name to a section. -/
def add (m : Memo) (name : String) : Section → Memo
  | .good => { m with good := m.good ++ [name] }
  | .bad => { m with bad := m.bad ++ [name] }
  | .skipped => { m with skipped := m.skipped ++ [name] }

/-! ### Writing -/

/-- The lines of a section. -/
def sectionLines (m : Memo) (s : Section) : List String :=
  (s.name ++ " = [") :: ((m.names s).map fun n => "    " ++ Text.quote n ++ ",") ++ [" ]"]

/-- The lines of a memo. -/
def renderLines (m : Memo) : List String := Section.all.flatMap m.sectionLines

/-- The text of a memo. -/
def render (m : Memo) : String := String.join (m.renderLines.map (· ++ "\n"))

/-! ### Reading -/

/-- The text without `c` at its end, if it ends in `c`. -/
def withoutLast? (c : Char) (cs : List Char) : Option (List Char) :=
  if cs.getLast? = some c then some cs.dropLast else none

/-- The name in the first line of a section: what precedes an equals sign and a bracket. -/
def headerName? (line : List Char) : Option (List Char) := do
  let rest ← withoutLast? '[' line
  let rest ← withoutLast? '=' (Text.trimEnd rest)
  return Text.trimEnd rest

/-- What is between the quotes of an entry. A comma may follow. -/
def entryInner? (line : List Char) : Option (List Char) :=
  match Text.dropLast ',' line with
  | '"' :: rest => withoutLast? '"' rest
  | _ => none

/-- How far a memo has been read: what it holds so far, which sections were begun, and which of them
is open. -/
structure Reader where
  memo : Memo
  seen : List Section
  current : Option Section
  deriving DecidableEq, Inhabited

/-- Reads a line that is trimmed and not empty. -/
def Reader.step (r : Reader) (line : List Char) : Except MemoFault Reader :=
  match r.current with
  | none =>
    match headerName? line with
    | none => .error .noHeader
    | some name =>
      match Section.ofName? name with
      | none => .error .unknownSection
      | some s =>
        if s ∈ r.seen then .error .duplicateSection
        else .ok { r with seen := r.seen ++ [s], current := some s }
  | some s =>
    if line = [']'] then .ok { r with current := none }
    else
      match entryInner? line with
      | none => .error .noEntry
      | some inner =>
        match Text.unescape inner with
        | none => .error .badEscape
        | some name => .ok { r with memo := r.memo.add (String.ofList name) s }

/-- Reads lines, the first of which has the number `n`. -/
def Reader.steps (r : Reader) (n : Nat) : List (List Char) → Except MemoError Reader
  | [] => .ok r
  | line :: lines =>
    match Text.trim line with
    | [] => r.steps (n + 1) lines
    | trimmed =>
      match r.step trimmed with
      | .error fault => .error (.malformed n fault)
      | .ok r' => r'.steps (n + 1) lines

/-- Reads the text of a memo. -/
def parse (text : String) : Except MemoError Memo := do
  let lines := Text.lines text.toList
  let r ← Reader.steps ⟨empty, [], none⟩ 1 lines
  if r.current.isSome then throw (.malformed lines.length .unterminated)
  match Section.all.find? fun s => s ∉ r.seen with
  | some missing => throw (.missingSection missing)
  | none => return r.memo

end Memo

end Golden
