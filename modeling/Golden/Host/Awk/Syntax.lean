import Golden.Host.Decimal
import Golden.Host.Regex

/-! # Programs that go through records

A program has rules, each with a pattern that selects records and with statements for them, and it
has functions. -/

namespace Golden.Host.Awk

/-- Where a name leads. -/
inductive Place where
  | global (name : String)
  /-- An argument of the function. -/
  | argument (index : Nat)
  deriving DecidableEq, Inhabited

/-- What is calculated of two numbers. -/
inductive Operation where
  | add
  | sub
  | mul
  | div
  | rem
  | pow
  deriving DecidableEq, Inhabited

/-- How two values are compared. -/
inductive Relation where
  | less
  | atMost
  | equal
  | unequal
  | greater
  | atLeast
  deriving DecidableEq, Inhabited

/-- A function that every program has. -/
inductive Native where
  | length
  | index
  | substr
  | matchFirst
  | split
  | sub
  | gsub
  | sprintf
  | lower
  | upper
  | sin
  | cos
  | atan2
  | exp
  | log
  | sqrt
  | int
  | rand
  | srand
  | system
  | close
  | flush
  | now
  | formatTime
  | makeTime
  deriving DecidableEq, Inhabited

/-- Where a record comes from. -/
inductive Origin where
  | main
  | file
  | command
  deriving DecidableEq, Inhabited

/-- Where a statement writes to. -/
inductive Direction where
  | truncate
  | append
  | command
  deriving DecidableEq, Inhabited

/-- An expression. -/
inductive Expr where
  | number (r : Real)
  | text (s : String)
  /-- A regular expression, which asks whether it matches the record. -/
  | pattern (m : Matcher)
  | name (v : Place)
  | element (v : Place) (subscripts : List Expr)
  | field (e : Expr)
  | assign (target : Expr) (operation : Option Operation) (e : Expr)
  /-- Adds one, or takes one away. The value is that before it or behind it. -/
  | step (isUp isBefore : Bool) (target : Expr)
  | calculate (o : Operation) (a b : Expr)
  | join (a b : Expr)
  | compare (r : Relation) (a b : Expr)
  | matching (isInverted : Bool) (a b : Expr)
  | isIn (subscripts : List Expr) (v : Place)
  | and (a b : Expr)
  | or (a b : Expr)
  | not (e : Expr)
  | minus (e : Expr)
  | plus (e : Expr)
  | choose (c a b : Expr)
  | call (function : String) (arguments : List Expr)
  | native (f : Native) (arguments : List Expr)
  | read (o : Origin) (source target : Option Expr)
  deriving Inhabited

/-- A statement. -/
inductive Stmt where
  | expr (e : Expr)
  | print (es : List Expr) (target : Option (Direction × Expr))
  | printf (es : List Expr) (target : Option (Direction × Expr))
  | block (ss : List Stmt)
  | choose (c : Expr) (a : Stmt) (b : Option Stmt)
  | loop (c : Expr) (body : Stmt)
  /-- A loop whose condition is looked at behind each round. -/
  | loopBehind (body : Stmt) (c : Expr)
  | loopWith (first : Option Stmt) (c : Option Expr) (step : Option Stmt) (body : Stmt)
  | each (target : Expr) (v : Place) (body : Stmt)
  | next
  | nextFile
  | exit (e : Option Expr)
  | giveBack (e : Option Expr)
  | leaveLoop
  | nextRound
  | delete (v : Place) (subscripts : List Expr)
  deriving Inhabited

/-- What a rule is for. -/
inductive Pattern where
  | begins
  | ends
  | always
  | when (e : Expr)
  | range (first last : Expr)
  deriving Inhabited

/-- A rule. -/
structure Rule where
  pattern : Pattern
  /-- What is done, or nothing if the record is written. -/
  body : Option Stmt
  deriving Inhabited

/-- A function, with which of its arguments are arrays. -/
structure Function where
  name : String
  areTables : List Bool
  body : Stmt
  deriving Inhabited

/-- A program. -/
structure Code where
  rules : List Rule
  functions : List Function
  deriving Inhabited

end Golden.Host.Awk
