import Golden.Host.Regex.Parse

/-! # Scripts of the stream editor

A script is a list of commands, each for the lines that its addresses select. Jumps and blocks lead
to places in this list. -/

namespace Golden.Host.Sed

/-- An expression to look for. One that is not told is the last one that has been looked for. -/
abbrev Pattern : Type := Option Matcher

/-- What a line is selected by. -/
inductive Address where
  | line (n : Nat)
  /-- A line and every so many lines behind it. -/
  | step (first size : Nat)
  | last
  | pattern (p : Pattern)
  deriving Inhabited

/-- Where a range of lines ends. -/
inductive RangeEnd where
  | address (a : Address)
  | after (n : Nat)
  | multiple (n : Nat)
  deriving Inhabited

/-- Which lines a command is for. -/
inductive Selection where
  | all
  | one (a : Address)
  | range (first : Address) (last : RangeEnd)
  /-- From the beginning up to the first line that a pattern matches. -/
  | fromStart (p : Pattern)
  deriving Inhabited

/-- How the size of letters is changed. -/
inductive Sizing where
  | large
  | small
  | keep
  | nextLarge
  | nextSmall
  deriving DecidableEq, Inhabited

/-- A part of what takes the place of a match. -/
inductive Piece where
  | text (s : String)
  | group (n : Nat)
  | sizing (z : Sizing)
  deriving DecidableEq, Inhabited

/-- Where lines are written to. -/
inductive Target where
  | output
  /-- Standard output, even if a file is edited. -/
  | standard
  | errors
  | file (path : String)
  deriving DecidableEq, Inhabited

/-- What is put in the place of what. -/
structure Substitution where
  pattern : Pattern
  replacement : List Piece
  /-- The first match that is replaced. -/
  number : Nat
  all : Bool
  prints : Bool
  /-- The line is printed before it is evaluated. -/
  printsEarly : Bool
  evaluates : Bool
  target : Option Target
  deriving Inhabited

/-- What is done. -/
inductive Deed where
  | append (text : String)
  | insert (text : String)
  | change (text : String)
  /-- Goes on at a place in the script, which is behind its end if there is no such place. -/
  | jump (place : Nat)
  | jumpIfDone (place : Nat)
  | jumpUnlessDone (place : Nat)
  /-- Goes on behind a block, for lines that are not selected. -/
  | block (behind : Nat)
  | nothing
  | delete
  | deleteFirst
  | evaluate (command : String)
  | fileName
  | takeHold
  | appendHold
  | hold
  | holdMore
  | list (width : Option Nat)
  | next
  | join
  | print
  | printFirst
  | quit (status : Nat)
  | quitAtOnce (status : Nat)
  | readFile (path : String)
  | readLine (path : String)
  | substitute (s : Substitution)
  | write (target : Target)
  | writeFirst (target : Target)
  | exchange
  | mapLetters (table : List (Char × Char))
  | number
  | clear
  deriving Inhabited

/-- A command. -/
structure Command where
  selection : Selection
  /-- It is for all other lines. -/
  isInverted : Bool
  deed : Deed
  deriving Inhabited

/-- A script. -/
structure Script where
  commands : Array Command
  /-- Lines are written only when they are told to be. -/
  isQuiet : Bool
  deriving Inhabited

/-- The target that a name stands for. -/
def Target.ofName (path : String) : Target :=
  if path = "/dev/stdout" then .standard else if path = "/dev/stderr" then .errors else .file path

/-- The files that are written to. -/
def Script.files (s : Script) : List String :=
  let of (t : Option Target) : Option String := match t with
    | some (.file path) => some path
    | _ => none
  s.commands.toList.filterMap fun c =>
    match c.deed with
    | .write t | .writeFirst t => of (some t)
    | .substitute s => of s.target
    | _ => none

end Golden.Host.Sed
