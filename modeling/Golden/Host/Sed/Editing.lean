import Golden.Host.Sed.Script
import Golden.Host.Tool.Quoting

/-! # Editing a line

What the commands of a script do to a line and to what is kept beside it (`Editing`). A run goes on
from a place in the script until its end is there, or until something is needed that only others can
give (`Pause`). What is to be written is collected on the way. -/

namespace Golden.Host.Sed

/-- A text that is edited, and whether its end is there. -/
structure Space where
  text : String
  isWhole : Bool
  deriving DecidableEq, Inhabited

/-- Where a range of lines stands. -/
inductive Stand where
  | waiting
  /-- The range has begun, and the number of its last line if that is known. -/
  | inside (last : Nat)
  | finished
  deriving DecidableEq, Inhabited

/-- What is written when the line has been dealt with. -/
inductive Later where
  | text (s : String)
  | file (path : String)
  | line (path : String)
  deriving DecidableEq, Inhabited

/-- What is written to where, and whether the end of its last line is missing. -/
structure Output where
  target : Target
  text : String
  isOpen : Bool
  deriving DecidableEq, Inhabited

/-- What is the same for all lines. -/
structure Custom where
  /-- Lines are written only when they are told to be. -/
  isQuiet : Bool
  ending : Char
  /-- The width of lines that are listed, or zero if there is no limit. -/
  width : Nat
  deriving DecidableEq, Inhabited

/-- What is edited. -/
structure Editing where
  space : Space
  hold : Space
  number : Nat
  /-- Whether this is the last line, if that is known. -/
  isLast : Option Bool
  file : String
  isReplaced : Bool
  /-- Where the ranges of the commands stand. -/
  stands : Array Stand
  /-- The latest comes first. -/
  later : List Later
  /-- The latest comes first. -/
  output : List Output
  /-- What has been looked for last. -/
  pattern : Option Matcher
  deriving Inhabited

/-- Why a run pauses. -/
inductive Pause where
  | finish
  | delete
  /-- Begins again with what is left of the text. -/
  | restart
  | next
  | join
  | quit (status : Nat)
  | quitAtOnce (status : Nat)
  /-- Runs a command, whose output comes first. -/
  | evaluate (command : String)
  /-- Runs the text as a command, and then does what is left of a substitution. -/
  | evaluateSpace (s : Option Substitution)
  /-- It has to be known whether this is the last line. -/
  | needsLast
  | noPattern
  deriving Inhabited

/-- A part of a run, which may lack something. -/
abbrev Edit : Type → Type := StateT Editing (Except Pause)

namespace Editing

/-- Writes a text whose last line has an end. -/
def put (target : Target) (text : String) : Edit Unit :=
  modify fun e => { e with output := ⟨target, text, false⟩ :: e.output }

/-- Writes a line, with its end if it is there. -/
def putLine (c : Custom) (target : Target) (s : Space) : Edit Unit :=
  let text := if s.isWhole then s.text.push c.ending else s.text
  modify fun e => { e with output := ⟨target, text, !s.isWhole⟩ :: e.output }

/-- The first line of a text, and what is behind it if there is more. -/
def splitFirst (c : Custom) (text : String) : String × Option String :=
  match text.splitOn (String.singleton c.ending) with
  | first :: rest =>
    (first, if rest = [] then none else some ((String.singleton c.ending).intercalate rest))
  | [] => (text, none)

/-- Writes the first line of the text. -/
def putFirst (c : Custom) (target : Target) : Edit Unit := do
  let e ← get
  match splitFirst c e.space.text with
  | (first, some _) => putLine c target ⟨first, true⟩
  | (_, none) => putLine c target e.space

/-- A text with another behind it, on a line of its own. -/
def joined (c : Custom) (s t : Space) : Space :=
  ⟨s.text ++ String.singleton c.ending ++ t.text, t.isWhole⟩

/-! ### Which lines are selected -/

/-- The expression that a pattern stands for. It is the last one from now on. -/
def matcher (p : Pattern) : Edit Matcher := do
  match p.or (← get).pattern with
  | some m =>
    modify fun e => { e with pattern := some m }
    return m
  | none => throw .noPattern

/-- Whether this is the last line. -/
def isAtLast : Edit Bool := do
  match (← get).isLast with
  | some b => return b
  | none => throw .needsLast

/-- Whether an address selects the line. -/
def isAt (a : Address) : Edit Bool := do
  let e ← get
  match a with
  | .line n => return e.number = n
  | .step first size =>
    let isReached := if size = 0 then e.number = first else (e.number - first) % size = 0
    return first ≤ e.number && isReached
  | .last => isAtLast
  | .pattern p =>
    let m ← matcher p
    return m.accepts e.space.text.toList.toArray

/-- Notes where the range of a command stands. -/
def setStand (place : Nat) (s : Stand) : Edit Unit :=
  modify fun e => { e with stands := e.stands.setIfInBounds place s }

/-- Whether a range selects a line in its midst. -/
def goesOn (place last : Nat) (range : RangeEnd) : Edit Bool := do
  let n := (← get).number
  match range with
  | .address (.line k) =>
    if k ≤ n then setStand place .finished
    return n ≤ k
  | .after _ | .multiple _ =>
    if last ≤ n then setStand place .finished
    return true
  | .address a =>
    if ← isAt a then setStand place .finished
    return true

/-- Whether a range begins at a line. -/
def begins (first : Address) (isOver : Bool) : Edit Bool := do
  match first with
  | .line k => return !isOver && k ≤ (← get).number
  | a => isAt a

/-- Whether a range that begins at a line selects it. -/
def enters (place : Nat) (first : Address) (range : RangeEnd) : Edit Bool := do
  let n := (← get).number
  let single : Edit Bool := do
    setStand place .finished
    return true
  match range with
  | .address (.line k) =>
    if n < k then
      setStand place (.inside k)
      return true
    setStand place .finished
    match first with
    | .line j => return n ≤ k || n = j
    | _ => return true
  | .after 0 | .multiple 0 => single
  | .after k =>
    setStand place (.inside (n + k))
    return true
  | .multiple k =>
    setStand place (.inside (n / k * k + k))
    return true
  | .address .last =>
    if ← isAtLast then single
    else
      setStand place (.inside 0)
      return true
  | .address _ =>
    setStand place (.inside 0)
    return true

/-- Whether the line is selected for the command at a place. -/
def isSelected (place : Nat) (s : Selection) : Edit Bool := do
  let stand := ((← get).stands[place]?).getD .waiting
  match s with
  | .all => return true
  | .one a => isAt a
  | .fromStart p =>
    match stand with
    | .inside last => goesOn place last (.address (.pattern p))
    | _ => return false
  | .range first range =>
    match stand with
    | .inside last => goesOn place last range
    | stand =>
      if ← begins first (stand = .finished) then enters place first range else return false

/-- Where a range stands at first. -/
def startOf (c : Command) : Stand :=
  match c.selection with
  | .fromStart _ => .inside 0
  | _ => .waiting

/-! ### Substitutions -/

/-- The text of a replacement that is made, the size that holds until further notice, and the size
of the next letter. -/
structure Sized where
  text : String
  size : Sizing
  next : Option Sizing
  deriving DecidableEq, Inhabited

/-- Letters of a size. -/
def resize (size : Sizing) (s : String) : String :=
  match size with
  | .large => s.toUpper
  | .small => s.toLower
  | _ => s

/-- A text with more behind it, in the size that is due. -/
def Sized.add (z : Sized) (s : String) : Sized :=
  match z.next, s.toList with
  | _, [] => z
  | none, _ => { z with text := z.text ++ resize z.size s }
  | some one, c :: cs =>
    let first := if one = .nextLarge then c.toUpper else c.toLower
    ⟨z.text.push first ++ resize z.size (String.ofList cs), z.size, none⟩

/-- What takes the place of a match. A change of size drops one that has not come to a letter. -/
def replacement (pieces : List Piece) (line : Array Char) (c : Captures) : String :=
  (pieces.foldl (fun (z : Sized) p =>
    match p with
    | .text s => z.add s
    | .group n =>
      match c.getD n none with
      | some (i, k) => z.add (Matcher.part line i k)
      | none => z
    | .sizing one =>
      if one = .nextLarge || one = .nextSmall then { z with next := some one }
      else { z with size := one, next := none }) ⟨"", .keep, none⟩).text

/-- The parts of a line between matches and what takes the place of these. `place` is the place up
to which the line has been dealt with, and `number` that of the next match. -/
def replaced (s : Substitution) (line : Array Char) :
    Nat → Nat → String → List Captures → String × Bool
  | place, _, done, [] => (done ++ Matcher.part line place line.size, false)
  | place, number, done, c :: cs =>
    match c.getD 0 none with
    | none => (done, false)
    | some (i, k) =>
      if number < s.number then replaced s line place (number + 1) done cs
      else
        let done := done ++ Matcher.part line place i ++ replacement s.replacement line c
        if s.all then ((replaced s line k (number + 1) done cs).1, true)
        else (done ++ Matcher.part line k line.size, true)

/-- Writes what a substitution has made. -/
def announce (c : Custom) (s : Substitution) : Edit Unit := do
  if s.prints && !(s.evaluates && s.printsEarly) then putLine c .output (← get).space
  match s.target with
  | some t => putLine c t (← get).space
  | none => pure ()

/-- Makes a substitution. Tells whether the text is to be evaluated. -/
def substitute (c : Custom) (s : Substitution) : Edit Bool := do
  let m ← matcher s.pattern
  let line := (← get).space.text.toList.toArray
  if !m.accepts line then return false
  let found := if s.number = 1 && !s.all then (m.find? line 0).toList else m.all line
  let (text, isDone) := replaced s line 0 1 "" found
  if !isDone then return false
  modify fun e => { e with space := { e.space with text }, isReplaced := true }
  if s.evaluates then
    if s.prints && s.printsEarly then putLine c .output (← get).space
    return true
  announce c s
  return false

/-! ### Showing all characters -/

/-- How a character is listed. -/
def listed (ch : Char) : String :=
  if ch = '\\' then "\\\\"
  else if Quoting.isShown ch then String.singleton ch
  else String.ofList (Quoting.escape ch)

/-- A text in lines of a width, or in one if the width is zero. -/
def list (width : Nat) (text : String) : String :=
  let limit := width - 1
  let (done, _) := text.foldl (fun (done, column) ch =>
    let piece := listed ch
    let more := piece.utf8ByteSize
    if 0 < width && limit < column + more then (done ++ "\\\n" ++ piece, more)
    else (done ++ piece, column + more)) ("", 0)
  done ++ "$"

/-! ### Commands -/

/-- What a command leads to. -/
inductive Onward where
  | go (place : Nat)
  | pause (p : Pause)
  deriving Inhabited

/-- Changes the text. -/
def changeText (f : String → String) : Edit Unit :=
  modify fun e => { e with space := { e.space with text := f e.space.text } }

/-- Does what a command at a place does. -/
def perform (c : Custom) (place : Nat) (d : Deed) : Edit Onward := do
  let onward (m : Edit Unit) : Edit Onward := do
    m
    return .go (place + 1)
  let later (l : Later) : Edit Onward := onward (modify fun e => { e with later := l :: e.later })
  match d with
  | .append t => later (.text t)
  | .insert t => onward (put .output t)
  | .change t =>
    let isInside : Bool := match ((← get).stands[place]?).getD .waiting with
      | .inside _ => true
      | _ => false
    if !isInside then put .output t
    return .pause .delete
  | .jump k => return .go k
  | .jumpIfDone k =>
    if (← get).isReplaced then
      modify fun e => { e with isReplaced := false }
      return .go k
    return .go (place + 1)
  | .jumpUnlessDone k =>
    if (← get).isReplaced then
      modify fun e => { e with isReplaced := false }
      return .go (place + 1)
    return .go k
  | .block _ | .nothing => return .go (place + 1)
  | .delete => return .pause .delete
  | .deleteFirst =>
    match splitFirst c (← get).space.text with
    | (_, some rest) =>
      changeText fun _ => rest
      return .pause .restart
    | (_, none) => return .pause .delete
  | .evaluate command =>
    return .pause (if command = "" then .evaluateSpace none else .evaluate command)
  | .fileName => onward do put .output ((← get).file.push c.ending)
  | .takeHold => onward (modify fun e => { e with space := e.hold })
  | .appendHold => onward (modify fun e => { e with space := joined c e.space e.hold })
  | .hold => onward (modify fun e => { e with hold := e.space })
  | .holdMore => onward (modify fun e => { e with hold := joined c e.hold e.space })
  | .list width =>
    onward do put .output ((list (width.getD c.width) (← get).space.text).push c.ending)
  | .next => return .pause .next
  | .join => return .pause .join
  | .print => onward do putLine c .output (← get).space
  | .printFirst => onward (putFirst c .output)
  | .quit status => return .pause (.quit status)
  | .quitAtOnce status => return .pause (.quitAtOnce status)
  | .readFile path => later (.file path)
  | .readLine path => later (.line path)
  | .substitute s =>
    if ← substitute c s then return .pause (.evaluateSpace (some s)) else return .go (place + 1)
  | .write t => onward do putLine c t (← get).space
  | .writeFirst t => onward (putFirst c t)
  | .exchange => onward (modify fun e => { e with space := e.hold, hold := e.space })
  | .mapLetters table => onward (changeText fun s => s.map fun ch => (table.lookup ch).getD ch)
  | .number => onward do put .output ((toString (← get).number).push c.ending)
  | .clear => onward (changeText fun _ => "")

/-- Does what the command at a place does, if the line is selected. -/
def step (c : Custom) (place : Nat) (k : Command) : Edit Onward := do
  if (← isSelected place k.selection) != k.isInverted then perform c place k.deed
  else
    match k.deed with
    | .block behind => return .go behind
    | _ => return .go (place + 1)

/-- Goes on from a place in the script until something is needed, in at most `n` steps. Gives the
place at which to go on then. -/
def run (c : Custom) (s : Script) : Nat → Nat → Editing → Pause × Nat × Editing
  | 0, place, e => (.finish, place, e)
  | n + 1, place, e =>
    match s.commands[place]? with
    | none => (.finish, place, e)
    | some k =>
      match (step c place k).run e with
      | .error p => (p, place, e)
      | .ok (.go next, e) => run c s n next e
      | .ok (.pause p, e) => (p, place + 1, e)

end Editing

end Golden.Host.Sed
