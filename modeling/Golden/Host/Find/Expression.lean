import Golden.Host.Layout
import Golden.Host.Regex

/-! # What is searched for

An expression is true or false of a file. It is made of tests, and of actions that do something with
the file. Operators between them tell what is looked at if something else is true or false. -/

namespace Golden.Host.Find

/-- How a number is compared with another. -/
inductive Bound where
  | more (n : Nat)
  | less (n : Nat)
  | exactly (n : Nat)
  deriving DecidableEq, Inhabited

/-- Whether a number is within a bound. -/
def Bound.accepts (k : Nat) : Bound → Bool
  | more n => n < k
  | less n => k < n
  | exactly n => k = n

/-- How permissions are compared with others. -/
inductive Permission where
  | exactly (bits : Nat)
  | all (bits : Nat)
  | any (bits : Nat)
  deriving DecidableEq, Inhabited

/-- Whether permissions are as wanted. -/
def Permission.accepts (mode : Nat) : Permission → Bool
  | exactly bits => mode % 0o10000 = bits
  | all bits => mode &&& bits = bits
  | any bits => bits = 0 || mode &&& bits ≠ 0

/-- The span of time that an age is counted in. -/
inductive Span where
  | minutes
  | days
  deriving DecidableEq, Inhabited

/-- What is asked of a file. -/
inductive Test where
  | constant (b : Bool)
  | name (pattern : String) (ignoresCase : Bool)
  | path (pattern : String) (ignoresCase : Bool)
  | target (pattern : String) (ignoresCase : Bool)
  | expression (m : Matcher)
  /-- Kinds are told by letters. Links can count for what they lead to. -/
  | kind (letters : List Char) (follow : Bool)
  /-- The size in units, where a part of a unit counts as a whole one. -/
  | size (b : Bound) (unit : Nat)
  | empty
  | newer (time : Nat)
  | age (b : Bound) (span : Span)
  | permission (p : Permission)
  | links (b : Bound)
  | number (b : Bound)
  | owner (b : Bound)
  | runnable
  deriving Inhabited

/-- A part of a format. -/
inductive Piece where
  | text (s : String)
  | item (layout : Layout) (letter : Char)
  /-- A moment as a letter tells. -/
  | moment (layout : Layout) (letter : Char)
  /-- Nothing is written any more, and what has been written is put out. -/
  | stop
  deriving DecidableEq, Inhabited

/-- What is done with a file. -/
inductive Action where
  /-- Writes the path with something behind it, to a file if one is told. -/
  | print (ending : String) (file : Option Nat)
  | format (ps : List Piece) (file : Option Nat)
  /-- Runs a command, if nobody objects. -/
  | execute (command : List String) (inDirectory asks : Bool)
  /-- Keeps the file for the command with a number, which is run for many files at once. -/
  | gather (index : Nat)
  | delete
  | prune
  | quit
  deriving DecidableEq, Inhabited

/-- What is searched for. -/
inductive Expression where
  | test (t : Test)
  | action (a : Action)
  | not (e : Expression)
  | and (a b : Expression)
  | or (a b : Expression)
  /-- Both are looked at, and the second one counts. -/
  | both (a b : Expression)
  deriving Inhabited

/-! ### Operators -/

/-- A word of an expression. -/
inductive Word where
  | whole (e : Expression)
  | not (name : String)
  | and (name : String)
  | or (name : String)
  | comma
  | opens
  | closes
  deriving Inhabited

/-- Why words make no expression. -/
inductive Fault where
  | nothingBefore (operator : String)
  | nothingAfter (operator : String)
  | nothingBetween (operator other : String)
  | openEnd
  | unclosed
  | closed
  | empty
  deriving DecidableEq, Inhabited

/-- What is said of a fault. -/
def Fault.message : Fault → String
  | nothingBefore o =>
    "invalid expression; you have used a binary operator '" ++ o ++ "' with nothing before it."
  | nothingAfter o => "expected an expression after '" ++ o ++ "'"
  | nothingBetween o p => "expected an expression between '" ++ o ++ "' and '" ++ p ++ "'"
  | openEnd =>
    "invalid expression; expected to find a ')' but didn't see one. " ++
      "Perhaps you need an extra predicate after '('"
  | unclosed =>
    "invalid expression; I was expecting to find a ')' somewhere but did not see one."
  | closed => "you have too many ')'"
  | empty => "invalid expression; empty parentheses are not allowed."

/-- How tightly an operator holds what is around it. -/
inductive Tightness where
  | comma
  | or
  | and
  deriving DecidableEq, Inhabited

/-- Whether an operator of the first kind is part of what one of the second kind holds. -/
def Tightness.binds : Tightness → Tightness → Bool
  | .comma, t => t = .comma
  | .or, t => t = .comma || t = .or
  | .and, _ => true

mutual

/-- Reads what stands on one side of an operator, in at most `n` steps. `before` is the word in
front. -/
def readOperand : Nat → Option String → List Word → Except Fault (Expression × List Word)
  | 0, _, _ => .error .openEnd
  | n + 1, before, ws =>
    match ws with
    | [] =>
      match before with
      | some "(" => .error .openEnd
      | some o => .error (.nothingAfter o)
      | none => .error .openEnd
    | .whole e :: rest => .ok (e, rest)
    | .not name :: rest => do
      let (e, rest) ← readOperand n (some name) rest
      return (.not e, rest)
    | .opens :: rest =>
      match rest with
      | .closes :: _ => .error .empty
      | rest => do
        let (e, rest) ← readOperand n (some "(") rest
        let (e, rest) ← readOperators n .comma true e rest
        match rest with
        | .closes :: rest => return (e, rest)
        | _ => throw .unclosed
    | .closes :: _ =>
      match before with
      | some o => .error (.nothingBetween o ")")
      | none => .error .closed
    | .and o :: _ | .or o :: _ => .error (.nothingBefore o)
    | .comma :: _ => .error (.nothingBefore ",")

/-- Reads operators that hold at least so tightly, and what stands on their other sides. -/
def readOperators : Nat → Tightness → Bool → Expression → List Word →
    Except Fault (Expression × List Word)
  | 0, _, _, e, ws => .ok (e, ws)
  | n + 1, t, isInside, e, ws => do
    let go (own : Tightness) (o : String) (make : Expression → Expression)
        (rest : List Word) : Except Fault (Expression × List Word) := do
      if !own.binds t then return (e, ws)
      let (b, rest) ← readOperand n (some o) rest
      let tighter : Tightness := match own with
        | .comma => .or
        | _ => .and
      let (b, rest) ← if own = .and then pure (b, rest)
        else readOperators n tighter isInside b rest
      readOperators n t isInside (make (b)) rest
    match ws with
    | [] => return (e, [])
    | .closes :: _ => if isInside then return (e, ws) else throw .closed
    | .and o :: rest => go .and o (.and e) rest
    | .or o :: rest => go .or o (.or e) rest
    | .comma :: rest => go .comma "," (.both e) rest
    | ws => go .and "-a" (.and e) ws

end

/-- Reads an expression. -/
def Expression.ofWords (ws : List Word) : Except Fault Expression := do
  let n := 4 * ws.length + 4
  let (e, rest) ← readOperand n none ws
  let (e, _) ← readOperators n .comma false e rest
  return e

end Golden.Host.Find
