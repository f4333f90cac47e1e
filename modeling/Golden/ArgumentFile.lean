import Golden.Text.Lines
import Golden.World
import Golden.ConfigError

/-! # Argument files

An argument `@file` stands for the arguments in a file. They are separated by blanks and ends of
lines. An argument in double quotes may hold blanks; a backslash in it makes a quote or a backslash
stand for itself. A quote has to be closed on its line. Arguments from a file are not expanded
again. -/

namespace Golden.ArgumentFile

/-- Where the reader of a line stands: between arguments, in a plain one, in a quoted one, or
behind a backslash in a quoted one. The characters of the argument so far come with it, the last
one first. -/
inductive State where
  | between
  | plain (sofar : List Char)
  | quoted (sofar : List Char)
  | escaped (sofar : List Char)
  deriving DecidableEq, Inhabited

/-- An argument whose last character comes first. -/
def argument (sofar : List Char) : String := String.ofList sofar.reverse

/-- Reads the rest of a line. There is no result if a quote is open at its end. -/
def readLine : State → List Char → Option (List String)
  | .between, [] => some []
  | .plain sofar, [] => some [argument sofar]
  | .quoted _, [] => none
  | .escaped _, [] => none
  | .between, c :: cs =>
    if c = '"' then readLine (.quoted []) cs
    else if Text.isBlank c then readLine .between cs
    else readLine (.plain [c]) cs
  | .plain sofar, c :: cs =>
    if Text.isBlank c then (readLine .between cs).map (argument sofar :: ·)
    else if c = '"' then (readLine (.quoted []) cs).map (argument sofar :: ·)
    else readLine (.plain (c :: sofar)) cs
  | .quoted sofar, c :: cs =>
    if c = '"' then (readLine .between cs).map (argument sofar :: ·)
    else if c = '\\' then readLine (.escaped sofar) cs
    else readLine (.quoted (c :: sofar)) cs
  | .escaped sofar, c :: cs =>
    if c = '"' ∨ c = '\\' then readLine (.quoted (c :: sofar)) cs
    else readLine (.quoted (c :: '\\' :: sofar)) cs

/-- Reads lines, the first of which has the number `n`. -/
def readLines (origin : Path) (n : Nat) : List (List Char) → Except ConfigError (List String)
  | [] => .ok []
  | line :: lines =>
    match readLine .between line with
    | none => .error (.unterminatedQuote origin n)
    | some args => (readLines origin (n + 1) lines).map (args ++ ·)

/-- The arguments in the text of a file. -/
def parse (text : String) (origin : Path) : Except ConfigError (List String) :=
  readLines origin 1 (Text.lines text.toList)

variable {σ ω : Type}

/-- What an argument that stands for a file begins with. -/
def mark : Char := '@'

/-- The file that an argument stands for, if it does. -/
def file? (arg : String) : Option Path :=
  match arg.toList with
  | c :: rest => if c = mark then some ⟨String.ofList rest⟩ else none
  | [] => none

/-- The arguments in a file. -/
def load [FileSystem σ] (file : Path) : Run σ ω ConfigError (List String) := do
  let host ← Run.host
  match FileSystem.read host file with
  | .error cause => throw (.unreadableArgumentFile file cause)
  | .ok bs =>
    let args ← Run.ofResult (parse (Utf8.decodeLossy bs) file)
    Run.note (.expanded file args.length)
    return args

/-- Replaces arguments that stand for files. -/
def expand [FileSystem σ] : List String → Run σ ω ConfigError (List String)
  | [] => return []
  | arg :: args => do
    let front ← match file? arg with
      | some file => load file
      | none => pure [arg]
    let back ← expand args
    return front ++ back

end Golden.ArgumentFile
