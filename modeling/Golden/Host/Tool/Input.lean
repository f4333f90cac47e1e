import Golden.Host.Tool.Basic

/-! # What tools read

Tools read files one behind the other, where a dash stands for standard input. Some read all at
once (`Tool.contents`), and others line by line (`Lines.next`), so that they need not wait for the
end. -/

namespace Golden.Host

namespace Tool

/-- The files that arguments name, or standard input if there are none. -/
def inputs (names : List String) : List String := if names = [] then ["-"] else names

/-- Opens a file for reading. -/
def openInput (name : String) : Tool (Except Errno Nat) :=
  if name = "-" then pure (.ok 0) else act (Act.openFile name .toRead)

/-- Closes a file. -/
def closeInput (d : Nat) : Tool Unit := if d = 0 then pure () else act (Act.close d)

/-- Reads a piece of at most some octets, which is empty at the end. -/
def readUpTo (d count : Nat) : Tool (Except Errno String) := do
  let r : Except Errno ByteArray ← call (.read d count)
  return r.map Octets.unpack

/-- Reads a piece, which is empty at the end. -/
def readPiece (d : Nat) : Tool (Except Errno String) := readUpTo d Act.blockSize

/-- All that is in a file. -/
def contents (name : String) : Tool (Except Errno String) := do
  match ← openInput name with
  | .error e => return .error e
  | .ok d =>
    let r ← act (Act.readAll d)
    closeInput d
    return r

/-- How a file is called in messages. -/
def inputName (name : String) : String := if name = "-" then "standard input" else name

/-- Goes through pieces up to the end. Tells what is wrong if they cannot be read. -/
def eachPiece (d : Nat) (f : String → Tool Unit) : Nat → Tool (Option Errno)
  | 0 => pure none
  | n + 1 => do
    match ← readPiece d with
    | .error e => return some e
    | .ok "" => return none
    | .ok text =>
      f text
      eachPiece d f n

end Tool

/-! ### Lines -/

/-- The rest of a file that is read line by line: lines that have been read, what has been read of
the next one, and whether there is more. -/
structure Lines where
  descriptor : Nat
  ending : Char
  ready : List String
  begun : String
  isEnded : Bool
  /-- The number of octets that are read at once. -/
  block : Nat
  deriving Inhabited

/-- A line, and whether its end is there. -/
structure Line where
  text : String
  isWhole : Bool
  deriving DecidableEq, Inhabited

namespace Lines

/-- The lines of an open file. -/
def ofDescriptor (d : Nat) (ending : Char) : Lines := ⟨d, ending, [], "", false, Act.blockSize⟩

/-- The lines when a text has been read, where an empty one is the end. -/
def take (l : Lines) (text : String) : Lines :=
  match (text.splitToList (· = l.ending)).reverse with
  | [] | [""] => { l with isEnded := true }
  | last :: whole =>
    match whole.reverse with
    | [] => { l with begun := l.begun ++ last }
    | first :: rest => { l with ready := l.ready ++ (l.begun ++ first) :: rest, begun := last }

/-- Reads on until a line is there. -/
def fill (l : Lines) : Nat → Tool (Except Errno Unit × Lines)
  | 0 => pure (.ok (), l)
  | n + 1 => do
    if l.ready ≠ [] || l.isEnded then return (.ok (), l)
    match ← Tool.readUpTo l.descriptor l.block with
    | .error e => return (.error e, { l with isEnded := true })
    | .ok text => fill (l.take text) n

/-- The next line, if there is one. -/
def next (l : Lines) : Tool (Except Errno (Option Line) × Lines) := do
  let (r, l) ← l.fill Act.manySteps
  match r, l.ready with
  | _, text :: rest => return (.ok (some ⟨text, true⟩), { l with ready := rest })
  | .error e, [] => return (.error e, l)
  | .ok (), [] =>
    if l.begun = "" then return (.ok none, l)
    else return (.ok (some ⟨l.begun, false⟩), { l with begun := "" })

/-- The octets that have been read and are not part of a line that has been given. -/
def unread (l : Lines) : Nat :=
  l.ready.foldl (fun n s => n + s.length + 1) 0 + l.begun.length

/-- Goes through lines, with a state, as long as it is told to go on. Gives the state at the end,
and what is wrong if lines cannot be read. -/
def fold {α : Type} (f : α → Line → Tool (α × Bool)) :
    Nat → Lines → α → Tool (α × Option Errno)
  | 0, _, a => pure (a, none)
  | n + 1, l, a => do
    match ← l.next with
    | (.error e, _) => return (a, some e)
    | (.ok none, _) => return (a, none)
    | (.ok (some line), l) =>
      let (a, goesOn) ← f a line
      if goesOn then fold f n l a else return (a, none)

end Lines

/-- The line with its end. -/
def Line.spell (ending : Char) (l : Line) : String :=
  if l.isWhole then l.text.push ending else l.text

/-- The lines of a text. -/
def Line.ofText (ending : Char) (s : String) : List Line :=
  match (s.splitToList (· = ending)).reverse with
  | [] => []
  | last :: whole =>
    (whole.reverse.map fun t => ⟨t, true⟩) ++ (if last = "" then [] else [⟨last, false⟩])

end Golden.Host
