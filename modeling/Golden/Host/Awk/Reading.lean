import Golden.Host.Awk.Lexeme
import Golden.Host.Awk.Pattern

/-! # Reading programs that go through records

A program is read piece by piece. While it is read it is noted which names are arrays and which are
not, and which names are passed to functions; what is still open then follows from the functions
(`Usage.settle`). -/

namespace Golden.Host.Awk

/-! ### What names are -/

/-- A name of a function, or of the whole program if the function has no name. -/
structure Owned where
  function : String
  name : String
  deriving DecidableEq, Inhabited

/-- An argument of a call. -/
structure Passing where
  line : Nat
  /-- The name that is passed, or nothing if it is another expression. -/
  name : Option Owned
  function : String
  place : Nat
  deriving DecidableEq, Inhabited

/-- What is known of names: which are arrays. -/
abbrev Usage : Type := List (Owned × Bool)

/-- The names that are known from the beginning. -/
def Usage.first : Usage :=
  (["CONVFMT", "FILENAME", "FNR", "FS", "NF", "NR", "OFMT", "OFS", "ORS", "RLENGTH", "RS",
    "RSTART", "SUBSEP", "ARGC"].map fun s => (⟨"", s⟩, false)) ++
    ["ARGV", "ENVIRON"].map fun s => (⟨"", s⟩, true)

/-- What a name is called in messages. -/
def kindName (isLocal isTable : Bool) : String :=
  (if isLocal then "local " else "") ++ (if isTable then "array" else "variable")

/-! ### Reading pieces -/

/-- What is left of a program, and what is known of what has been read. -/
structure Progress where
  tokens : List Token
  /-- What is wrong and does not keep the rest from being read. -/
  faults : List Mistake
  /-- The function that is read, with its arguments. -/
  scope : Option (String × List String)
  isInLoop : Bool
  /-- No record is looked at. -/
  noRecord : Bool
  /-- What is read is written, so that some signs tell where to. -/
  isWritten : Bool
  usage : Usage
  passings : List Passing
  /-- The calls of functions, with their lines and the numbers of their arguments. -/
  calls : List (Nat × String × Nat)
  /-- The functions that have been read, with their arguments. -/
  known : List (String × List String)
  deriving Inhabited

/-- What reads a part of a program. -/
abbrev Reader (α : Type) : Type := ExceptT Mistake (StateM Progress) α

namespace Reader

/-- The piece in front. -/
def peekToken : Reader Token := do
  return (← get).tokens.headD ⟨.finish, 0, 0, 0⟩

/-- The piece in front. -/
def peek : Reader Lexeme := do
  return (← peekToken).lexeme

/-- Notes signs in front that close nothing, and goes behind them. -/
def passExtras : List Token → Reader Unit
  | t :: ts =>
    match t.lexeme with
    | .broken (.extra s) => do
      modify fun p => { p with tokens := ts, faults := ⟨t.line, .extra s⟩ :: p.faults }
      passExtras ts
    | _ => pure ()
  | [] => pure ()

/-- Goes behind the piece in front. -/
def skip : Reader Unit := do
  modify fun p => { p with tokens := p.tokens.tail }
  passExtras (← get).tokens

/-- Refuses a fault in the line of the piece in front. -/
def refuse {α : Type} (f : Fault) : Reader α := do
  throw ⟨(← peekToken).line, f⟩

/-- Notes a fault in the line of the piece in front. -/
def report (f : Fault) : Reader Unit := do
  let line := (← peekToken).line
  modify fun p => { p with faults := ⟨line, f⟩ :: p.faults }

/-- Refuses the piece in front. -/
def misplaced {α : Type} : Reader α := do
  let t ← peekToken
  match t.lexeme with
  | .broken f => refuse f
  | l =>
    let closes := l = .sign ";" || l = .sign "\x7d" || l = .filled || l = .lineEnd || l = .finish
    if closes && 0 < t.parens then refuse (.missing ")" l.near)
    else if (l = .finish || l = .word "BEGIN" || l = .word "END") && 0 < t.braces then
      refuse (.missing "\x7d" l.near)
    else refuse (.misplaced l.near)

/-- Goes behind a piece if it is in front. Tells whether it was. -/
def eat (l : Lexeme) : Reader Bool := do
  let t ← peek
  if t = l then
    skip
    return true
  else return false

/-- Goes behind a sign, which must be in front. -/
def expect (s : String) : Reader Unit := do
  let isThere ← eat (.sign s)
  if isThere then return () else misplaced

/-- Goes behind ends of lines. -/
def skipLines : Reader Unit :=
  modify fun p => { p with tokens := p.tokens.dropWhile fun t => t.lexeme = .lineEnd }

/-! ### Names -/

/-- The place of a name, and who owns it. -/
def placeOf (name : String) : Reader (Place × Owned) := do
  match (← get).scope with
  | none => return (.global name, ⟨"", name⟩)
  | some (f, arguments) =>
    match arguments.idxOf? name with
    | some i => return (.argument i, ⟨f, name⟩)
    | none => return (.global name, ⟨"", name⟩)

/-- Notes that a name is an array, or that it is none. -/
def use (name : String) (isTable : Bool) : Reader Place := do
  let (place, owned) ← placeOf name
  let known := (← get).usage
  match known.lookup owned with
  | none =>
    modify fun p => { p with usage := (owned, isTable) :: p.usage }
    return place
  | some b =>
    if b ≠ isTable then report (.notTable (kindName (owned.function ≠ "") b) name)
    return place

/-- Reads the name of an array. -/
def readTable : Reader Place := do
  match ← peek with
  | .name s =>
    let place ← use s true
    skip
    return place
  | _ => misplaced

/-- Reads a pattern from its text. -/
def readPattern (text : String) : Reader Expr := do
  match patternOf text with
  | .ok m => return .pattern m
  | .error e =>
    report (.badPattern e text)
    return .text text

/-- Takes a text for a pattern. -/
def settlePattern (e : Expr) : Reader Expr :=
  match e with
  | .text s => readPattern s
  | e => pure e

/-! ### Expressions -/

/-- How much of an expression is read. -/
inductive Extent where
  | whole
  /-- With all that binds tighter than a sign in front. -/
  | signed
  /-- With powers. -/
  | power
  /-- Without anything behind it. -/
  | tight
  deriving DecidableEq, Inhabited

/-- What reads so much of an expression. -/
abbrev Part : Type := Extent → Reader Expr

/-- Reads at most `n` operands with operators between them, which are applied from left to right. -/
def chain (operand : Reader Expr) (operator? : Lexeme → Bool → Option (Expr → Expr → Reader Expr)) :
    Nat → Expr → Reader Expr
  | 0, a => pure a
  | n + 1, a => do
    let l ← peek
    match operator? l (← get).isWritten with
    | none => return a
    | some f =>
      skip
      let b ← operand
      chain operand operator? n (← f a b)

/-- The number of pieces that are left. -/
def left : Reader Nat := do
  return (← get).tokens.length

/-- Reads operands with operators between them. -/
def operands (operand : Reader Expr)
    (operator? : Lexeme → Bool → Option (Expr → Expr → Reader Expr)) : Reader Expr := do
  let a ← operand
  chain operand operator? (← left) a

/-- Reads within parentheses or brackets, where signs do not tell where to write. -/
def enclosed {α : Type} (r : Reader α) : Reader α := do
  let isWritten := (← get).isWritten
  modify fun p => { p with isWritten := false }
  let a ← r
  modify fun p => { p with isWritten }
  return a

/-- Reads expressions with commas between them, at most `n`. -/
def separated (whole : Reader Expr) : Nat → Reader (List Expr)
  | 0 => pure []
  | n + 1 => do
    let e ← whole
    let goesOn ← eat (.sign ",")
    if goesOn then return e :: (← separated whole n) else return [e]

/-- Reads expressions with commas between them. -/
def list (whole : Reader Expr) : Reader (List Expr) := do
  separated whole (← left)

/-- Reads the subscripts of an element from behind the bracket. -/
def subscripts (part : Part) : Reader (List Expr) := enclosed do
  let es ← list (part .whole)
  expect "]"
  return es

/-- Whether an expression can be given a value. -/
def isTarget : Expr → Bool
  | .name _ | .element _ _ | .field _ => true
  | _ => false

/-- Reads what can be given a value. -/
def target (part : Part) : Reader Expr := do
  match ← peek with
  | .name _ | .sign "$" => part .tight
  | _ => misplaced

/-- Reads what may follow the word for reading records. -/
def readOrigin (part : Part) : Reader Expr := do
  let t ← match ← peek with
    | .name _ | .sign "$" => some <$> part .tight
    | _ => pure none
  let isFile ← eat (.sign "<")
  if isFile then return .read .file (some (← part .power)) t else return .read .main none t

/-- Notes what is passed to a function. -/
def notePassing (line : Nat) (function : String) (place : Nat) (name : Option Owned) :
    Reader Unit :=
  modify fun p => { p with passings := ⟨line, name, function, place⟩ :: p.passings }

/-- Reads the arguments of a call, at most `n`. Names are passed as they are. -/
def arguments (part : Part) (function : String) : Nat → Nat → Reader (List Expr)
  | 0, _ => pure []
  | n + 1, k => do
    let t ← peekToken
    let tokens := (← get).tokens
    let second := (tokens[1]?).map (·.lexeme)
    let isLast := second = some (.sign ")") || second = some (.sign ",")
    let e ← match t.lexeme, isLast with
      | .name s, true => do
        let (place, owned) ← placeOf s
        notePassing t.line function k (some owned)
        skip
        pure (Expr.name place)
      | _, _ => do
        let e ← part .whole
        notePassing t.line function k none
        pure e
    let goesOn ← eat (.sign ",")
    if goesOn then return e :: (← arguments part function n (k + 1)) else return [e]

/-- Reads a call of a function of the program. -/
def call (part : Part) (function : String) : Reader Expr := do
  let line := (← peekToken).line
  expect "("
  let es ← enclosed do
    let isEmpty ← eat (.sign ")")
    if isEmpty then return []
    let es ← arguments part function (← left) 0
    expect ")"
    return es
  modify fun p => { p with calls := (line, function, es.length) :: p.calls }
  return .call function es

/-- The least and the greatest number of arguments of a function. -/
def argumentBounds : Native → Nat × Nat
  | .length => (0, 1)
  | .index | .matchFirst | .atan2 => (2, 2)
  | .substr | .split | .sub | .gsub => (2, 3)
  | .sprintf => (1, 1000000)
  | .rand | .now => (0, 0)
  | .srand | .flush => (0, 1)
  | .formatTime => (0, 3)
  | _ => (1, 1)

/-- Reads the arguments of a function that every program has, some of which must be names or
patterns. -/
def nativeArguments (part : Part) (f : Native) : Reader (List Expr) := do
  let whole := part .whole
  let second (pattern : Expr → Reader Expr) : Reader (Expr × Expr) := do
    let a ← whole
    expect ","
    return (a, ← pattern (← whole))
  match f with
  | .split =>
    let a ← whole
    expect ","
    let v ← readTable
    let goesOn ← eat (.sign ",")
    if goesOn then
      let e ← whole
      match e with
      | .text s => if 1 < s.length then let _ ← readPattern s
      | _ => pure ()
      return [a, .name v, e]
    else return [a, .name v]
  | .sub | .gsub =>
    let a ← settlePattern (← whole)
    expect ","
    let b ← whole
    let goesOn ← eat (.sign ",")
    if goesOn then
      let e ← target part
      let next ← peek
      if next ≠ .sign ")" then misplaced
      return [a, b, e]
    else return [a, b]
  | .matchFirst =>
    let (a, b) ← second settlePattern
    return [a, b]
  | .length =>
    let tokens := (← get).tokens
    match tokens with
    | ⟨.name s, _, _, _⟩ :: ⟨.sign ")", _, _, _⟩ :: _ =>
      skip
      return [.name (← placeOf s).1]
    | _ => return [← whole]
  | _ => list whole

/-- Reads a call of a function that every program has. -/
def native (part : Part) (f : Native) (name : String) : Reader Expr := do
  let opens ← eat (.sign "(")
  if !opens then
    if f = .length then return .native f [] else misplaced
  let es ← enclosed do
    let isEmpty ← eat (.sign ")")
    if isEmpty then return []
    let es ← nativeArguments part f
    expect ")"
    return es
  let (least, greatest) := argumentBounds f
  if es.length < least || greatest < es.length then report (.badArguments name)
  return .native f es

/-- Reads what is in parentheses. Several expressions are the subscripts of an element. -/
def grouped (part : Part) : Reader Expr := do
  let es ← enclosed do
    let es ← list (part .whole)
    expect ")"
    return es
  match es with
  | [e] => return e
  | es =>
    let isIn ← eat (.word "in")
    if isIn then return .isIn es (← readTable) else misplaced

/-- Reads an expression without operators. -/
def primary (part : Part) : Reader Expr := do
  match ← peek with
  | .number r =>
    skip
    return .number r
  | .text s =>
    skip
    return .text s
  | .pattern s =>
    let e ← readPattern s
    skip
    return e
  | .name s =>
    let tokens := (← get).tokens
    if (tokens[1]?).any fun t => t.lexeme = .sign "[" then
      let place ← use s true
      skip
      skip
      return .element place (← subscripts part)
    else
      let place ← use s false
      skip
      return .name place
  | .function s =>
    skip
    call part s
  | .native f s =>
    skip
    native part f s
  | .word "getline" =>
    skip
    readOrigin part
  | .sign "(" =>
    skip
    grouped part
  | .sign "$" =>
    skip
    return .field (← part .tight)
  | .sign "++" =>
    skip
    return .step true true (← target part)
  | .sign "--" =>
    skip
    return .step false true (← target part)
  | .sign "-" =>
    skip
    return .minus (← part .tight)
  | .sign "+" =>
    skip
    return .plus (← part .tight)
  | .sign "!" =>
    skip
    return .not (← part .tight)
  | _ => misplaced

/-- Whether a piece is a sign in front of an operand. -/
def isFront (l : Lexeme) : Bool := l = .sign "-" || l = .sign "+" || l = .sign "!"

/-- Reads an expression with a step behind it. -/
def stepped (part : Part) : Reader Expr := do
  let first ← peek
  let e ← primary part
  if isTarget e && first ≠ .sign "(" then
    let isUp ← eat (.sign "++")
    if isUp then return .step true false e
    let isDown ← eat (.sign "--")
    if isDown then return .step false false e
  return e

/-- Reads an expression with powers. -/
def powered (part : Part) : Reader Expr := do
  let a ← stepped part
  let isPower ← eat (.sign "^")
  if isPower then
    let first ← peek
    return .calculate .pow a (← part (if isFront first then .signed else .power))
  else return a

/-- Reads the commands whose records are read, at most `n`. -/
def piped (part : Part) : Nat → Expr → Reader Expr
  | 0, a => pure a
  | n + 1, a => do
    let tokens := (← get).tokens
    let isRead := (tokens[0]?).any (fun t => t.lexeme = .sign "|") &&
      (tokens[1]?).any fun t => t.lexeme = .word "getline"
    if isRead && !(← get).isWritten then
      skip
      skip
      let t ← match ← peek with
        | .name _ | .sign "$" => some <$> part .tight
        | _ => pure none
      piped part n (.read .command (some a) t)
    else return a

/-- Reads an expression with signs in front. -/
def signed (part : Part) : Reader Expr := do
  match ← peek with
  | .sign "-" =>
    skip
    return .minus (← part .signed)
  | .sign "+" =>
    skip
    return .plus (← part .signed)
  | .sign "!" =>
    skip
    return .not (← part .signed)
  | _ =>
    let a ← powered part
    piped part (← left) a

/-- The calculation that a sign stands for. -/
def operation? (signs : List (String × Operation)) (l : Lexeme) (_ : Bool) :
    Option (Expr → Expr → Reader Expr) :=
  match l with
  | .sign s => (signs.lookup s).map fun o a b => pure (.calculate o a b)
  | _ => none

/-- Reads an expression with sums. -/
def sums (part : Part) : Reader Expr :=
  operands (operands (signed part) (operation? [("*", .mul), ("/", .div), ("%", .rem)]))
    (operation? [("+", .add), ("-", .sub)])

/-- Whether a piece can begin an operand behind another one. -/
def beginsOperand : Lexeme → Bool
  | .number _ | .text _ | .pattern _ | .name _ | .function _ | .native _ _ => true
  | .word s => s = "getline"
  | .sign s => s = "$" || s = "!" || s = "(" || s = "++" || s = "--" || s = "-" || s = "+"
  | _ => false

/-- Reads texts that are joined, at most `n`. -/
def joined (part : Part) : Nat → Expr → Reader Expr
  | 0, a => pure a
  | n + 1, a => do
    let l ← peek
    if beginsOperand l then
      let b ← sums part
      joined part n (.join a b)
    else return a

/-- The signs that give values. -/
def assignments : List (String × Option Operation) :=
  [("=", none), ("+=", some .add), ("-=", some .sub), ("*=", some .mul), ("/=", some .div),
   ("%=", some .rem), ("^=", some .pow)]

/-- Reads texts that are joined, or the giving of a value. -/
def given (part : Part) : Reader Expr := do
  let first ← peek
  let a ← sums part
  let sign := match ← peek with
    | .sign s => assignments.lookup s
    | _ => none
  match sign with
  | some o =>
    if isTarget a && first ≠ .sign "(" then
      skip
      return .assign a o (← part .whole)
    else misplaced
  | none => joined part (← left) a

/-- The comparison that a sign stands for. -/
def relation? (l : Lexeme) (isWritten : Bool) : Option (Expr → Expr → Reader Expr) :=
  let signs : List (String × Relation) :=
    [("<", .less), ("<=", .atMost), ("==", .equal), ("!=", .unequal), (">=", .atLeast)] ++
      if isWritten then [] else [(">", .greater)]
  match l with
  | .sign s => (signs.lookup s).map fun r a b => pure (.compare r a b)
  | _ => none

/-- The question for a match that a sign stands for. -/
def matching? (l : Lexeme) (_ : Bool) : Option (Expr → Expr → Reader Expr) :=
  if l = .sign "~" then some fun a b => return .matching false a (← settlePattern b)
  else if l = .sign "!~" then some fun a b => return .matching true a (← settlePattern b)
  else none

/-- Reads what is compared and matched behind a first operand. -/
def compared (part : Part) (a : Expr) : Reader Expr := do
  let n ← left
  chain (operands (given part) relation?) matching? n (← chain (given part) relation? n a)

/-- Reads questions for elements, at most `n`. -/
def contained (part : Part) : Nat → Expr → Reader Expr
  | 0, a => pure a
  | n + 1, a => do
    let isIn ← eat (.word "in")
    if isIn then
      let v ← readTable
      contained part n (← compared part (.isIn [a] v))
    else return a

/-- Reads expressions that are true if both are. -/
def conjunction (part : Part) : Reader Expr :=
  operands (do contained part (← left) (← compared part (← given part))) fun l _ =>
    if l = .sign "&&" then some fun a b => pure (.and a b) else none

/-- Reads a whole expression. -/
def whole (part : Part) : Reader Expr := do
  let c ← operands (conjunction part) fun l _ =>
    if l = .sign "||" then some fun a b => pure (.or a b) else none
  let isChoice ← eat (.sign "?")
  if isChoice then
    let a ← part .whole
    expect ":"
    return .choose c a (← part .whole)
  else return c

/-- Reads an expression whose parts lie at most `n` deep in each other. -/
def exprWithin : Nat → Part
  | 0 => fun _ => misplaced
  | n + 1 => fun extent =>
    match extent with
    | .whole => whole (exprWithin n)
    | .signed => signed (exprWithin n)
    | .power => powered (exprWithin n)
    | .tight => primary (exprWithin n)

/-- Reads so much of an expression. -/
def part (extent : Extent) : Reader Expr := do
  exprWithin (2 * (← left) + 2) extent

/-- Reads an expression. -/
def expr : Reader Expr := part .whole

/-! ### Statements -/

/-- Reads the end of a statement. -/
def separator : Reader Unit := do
  match ← peek with
  | .sign ";" | .lineEnd | .filled => skip
  | _ => misplaced

/-- Whether a piece ends a statement. -/
def isSeparator (l : Lexeme) : Bool := l = .sign ";" || l = .lineEnd || l = .filled

/-- What is between the parenthesis in front and the one that closes it, and what is behind that. -/
def inParens : Nat → List Token → List Token → Option (List Token × List Token)
  | depth, done, t :: ts =>
    match t.lexeme, depth with
    | .sign ")", 1 => some (done.reverse, ts)
    | .sign ")", n => inParens (n - 1) (t :: done) ts
    | .sign "(", n => inParens (n + 1) (t :: done) ts
    | _, n => inParens n (t :: done) ts
  | _, _, [] => none

/-- Whether several expressions are in parentheses in front, and no question for an element. -/
def isList (tokens : List Token) : Bool :=
  match tokens with
  | ⟨.sign "(", _, _, _⟩ :: rest =>
    match inParens 1 [] rest with
    | some (inner, after) =>
      let depths := inner.foldl (fun (r : Nat × Bool) t =>
        match t.lexeme with
        | .sign "(" | .sign "[" => (r.1 + 1, r.2)
        | .sign ")" | .sign "]" => (r.1 - 1, r.2)
        | .sign "," => (r.1, r.2 || r.1 = 0)
        | _ => r) (0, false)
      (depths.2 || inner = []) && !(after.head?.any fun t => t.lexeme = .word "in")
    | none => false
  | _ => false

/-- Reads what is written. -/
def written : Reader (List Expr) := do
  let tokens := (← get).tokens
  if isList tokens then
    skip
    let isEmpty ← eat (.sign ")")
    if isEmpty then return []
    let es ← enclosed (list expr)
    expect ")"
    return es
  else
    let l ← peek
    if isSeparator l || l = .sign ">" || l = .sign ">>" || l = .sign "|" then return []
    list expr

/-- Reads where something is written to. -/
def direction : Reader (Option (Direction × Expr)) := do
  let how : Option Direction := match ← peek with
    | .sign ">" => some .truncate
    | .sign ">>" => some .append
    | .sign "|" => some .command
    | _ => none
  modify fun p => { p with isWritten := false }
  match how with
  | none => return none
  | some d =>
    skip
    return some (d, ← expr)

/-- Reads a statement that writes, from behind its word. -/
def writing (make : List Expr → Option (Direction × Expr) → Stmt) : Reader Stmt := do
  modify fun p => { p with isWritten := true }
  let es ← written
  let d ← direction
  separator
  return make es d

/-- Reads a condition in parentheses. -/
def condition : Reader Expr := do
  expect "("
  let e ← expr
  expect ")"
  return e

/-- Reads the head of a loop over an array from behind its parenthesis, if it is one. -/
def eachHead : Reader (Option (Expr × Place)) := do
  let before ← get
  match before.tokens with
  | ⟨.name s, _, _, _⟩ :: ⟨.word "in", _, _, _⟩ :: ⟨.name v, _, _, _⟩ ::
      ⟨.sign ")", _, _, _⟩ :: rest =>
    let target ← use s false
    let place ← use v true
    modify fun p => { p with tokens := rest }
    return some (.name target, place)
  | ⟨.name _, _, _, _⟩ :: ⟨.sign "[", _, _, _⟩ :: _ | ⟨.sign "$", _, _, _⟩ :: _ =>
    let t ← part .tight
    match (← get).tokens with
    | ⟨.word "in", _, _, _⟩ :: ⟨.name v, _, _, _⟩ :: ⟨.sign ")", _, _, _⟩ :: rest =>
      let place ← use v true
      modify fun p => { p with tokens := rest }
      return some (t, place)
    | _ =>
      set before
      return none
  | _ => return none

/-- Reads the body of a loop. -/
def looped (body : Reader Stmt) : Reader Stmt := do
  let isInLoop := (← get).isInLoop
  modify fun p => { p with isInLoop := true }
  let s ← body
  modify fun p => { p with isInLoop }
  return s

/-- Reads an expression up to a piece, if there is one. -/
def upTo (isEnd : Lexeme → Bool) : Reader (Option Expr) := do
  let l ← peek
  if isEnd l then return none else return some (← expr)

/-- Reads a loop with a beginning and steps, from behind its word. -/
def forLoop (statement : Reader Stmt) : Reader Stmt := do
  expect "("
  match ← eachHead with
  | some (t, v) =>
    skipLines
    return .each t v (← looped statement)
  | none =>
    let first ← upTo (· = .sign ";")
    expect ";"
    let c ← upTo (· = .sign ";")
    expect ";"
    let step ← upTo (· = .sign ")")
    expect ")"
    skipLines
    let body ← looped statement
    return .loopWith (first.map .expr) c (step.map .expr) body

/-- Reads statements up to the brace that closes them, at most `n`. -/
def statements (statement : Reader Stmt) : Nat → Reader (List Stmt)
  | 0 => pure []
  | n + 1 => do
    let isClosed ← eat (.sign "\x7d")
    if isClosed then return []
    let s ← statement
    return s :: (← statements statement n)

/-- Reads statements in braces. -/
def block (statement : Reader Stmt) : Reader Stmt := do
  expect "\x7b"
  return .block (← statements statement (← left))

/-- Reads a statement that begins with a word, from behind the word. -/
def wordStatement (statement : Reader Stmt) (s : String) : Reader Stmt := do
  match s with
  | "if" =>
    let c ← condition
    skipLines
    let a ← statement
    let isElse ← eat (.word "else")
    if isElse then return .choose c a (some (← statement)) else return .choose c a none
  | "while" =>
    let c ← condition
    skipLines
    return .loop c (← looped statement)
  | "do" =>
    let body ← looped statement
    let isThere ← eat (.word "while")
    if !isThere then misplaced
    let c ← condition
    separator
    return .loopBehind body c
  | "for" => forLoop statement
  | "print" => writing .print
  | "printf" =>
    writing .printf
  | "next" | "nextfile" =>
    if (← get).noRecord then report (.improper s)
    separator
    return if s = "next" then .next else .nextFile
  | "break" | "continue" =>
    if !(← get).isInLoop then report (.outsideLoop s)
    separator
    return if s = "break" then .leaveLoop else .nextRound
  | "exit" =>
    let e ← upTo isSeparator
    separator
    return .exit e
  | "return" =>
    if (← get).scope.isNone then report .outsideFunction
    let e ← upTo isSeparator
    separator
    return .giveBack e
  | "delete" =>
    let v ← readTable
    let isElement ← eat (.sign "[")
    let keys ← if isElement then subscripts part else pure []
    separator
    return .delete v keys
  | _ => misplaced

/-- The words that begin statements. -/
def statementWords : List String :=
  ["break", "continue", "delete", "do", "exit", "for", "if", "next", "nextfile", "print", "printf",
   "return", "while"]

/-- Reads a statement whose parts lie at most `n` deep in each other. -/
def statementWithin : Nat → Reader Stmt
  | 0 => misplaced
  | n + 1 => do
    match ← peek with
    | .sign "\x7b" => block (statementWithin n)
    | .sign ";" | .lineEnd | .filled =>
      skip
      return .block []
    | .word s =>
      if statementWords.contains s then
        let line := (← peekToken).line
        skip
        let r ← wordStatement (statementWithin n) s
        match r with
        | .printf [] _ => throw ⟨line, .noArguments s⟩
        | r => return r
      else
        let e ← expr
        separator
        return .expr e
    | _ =>
      let e ← expr
      separator
      return .expr e

/-- Reads statements in braces. -/
def body : Reader Stmt := do
  block (statementWithin (← left))

/-! ### Rules and functions -/

/-- Reads the names of arguments from behind the parenthesis, at most `n`. -/
def argumentNames (function : String) : Nat → List String → Reader (List String)
  | 0, done => pure done
  | n + 1, done => do
    match ← peek with
    | .name s =>
      if done.contains s then report (.repeatedArgument s)
      skip
      let goesOn ← eat (.sign ",")
      if goesOn then argumentNames function n (done ++ [s])
      else
        expect ")"
        return done ++ [s]
    | .function s => if s = function then refuse .ownArgument else misplaced
    | _ => misplaced

/-- Reads a function from behind its word. -/
def function : Reader Function := do
  match ← peek with
  | .function s =>
    let known := (← get).known
    if (known.lookup s).isSome then report (.redefined s)
    skip
    expect "("
    let isEmpty ← eat (.sign ")")
    let names ← if isEmpty then pure [] else argumentNames s (← left) []
    skipLines
    modify fun p =>
      { p with known := (s, names) :: p.known, scope := some (s, names), noRecord := true }
    let b ← body
    modify fun p => { p with scope := none, noRecord := false }
    return ⟨s, [], b⟩
  | _ => misplaced

/-- Reads what a rule does, if it is told. -/
def action? : Reader (Option Stmt) := do
  match ← peek with
  | .sign "\x7b" => return some (← body)
  | _ =>
    separator
    return none

/-- Reads a rule or a function. -/
def rule : Reader (Rule ⊕ Function) := do
  match ← peek with
  | .word "function" =>
    skip
    return .inr (← function)
  | .word "BEGIN" =>
    skip
    modify fun p => { p with noRecord := true }
    let b ← body
    modify fun p => { p with noRecord := false }
    return .inl ⟨.begins, some b⟩
  | .word "END" =>
    skip
    modify fun p => { p with noRecord := true }
    let b ← body
    modify fun p => { p with noRecord := false }
    return .inl ⟨.ends, some b⟩
  | .sign "\x7b" => return .inl ⟨.always, some (← body)⟩
  | _ =>
    let a ← expr
    let isRange ← eat (.sign ",")
    if isRange then
      let b ← expr
      return .inl ⟨.range a b, ← action?⟩
    else return .inl ⟨.when a, ← action?⟩

/-- Reads rules and functions up to the end, at most `n`. -/
def rules : Nat → Reader (List (Rule ⊕ Function))
  | 0 => pure []
  | n + 1 => do
    let l ← peek
    if l = .finish then return []
    let r ← rule
    return r :: (← rules n)

end Reader

/-! ### What follows from functions -/

/-- Tells what is open of names from what is passed to functions, going through all that is passed
at most `n` times. -/
def Usage.settle (known : List (String × List String)) (passings : List Passing) :
    Nat → Usage → Usage
  | 0, u => u
  | n + 1, u =>
    let next := passings.foldl (fun (u : Usage) p =>
      match p.name, (known.lookup p.function).bind fun names => names[p.place]? with
      | some name, some argument =>
        let inner : Owned := ⟨p.function, argument⟩
        match u.lookup name, u.lookup inner with
        | some b, none => (inner, b) :: u
        | none, some b => (name, b) :: u
        | _, _ => u
      | _, _ => u) u
    if next.length = u.length then u else settle known passings n next

/-- What is wrong with an argument of a call. -/
def Passing.fault? (known : List (String × List String)) (u : Usage) (p : Passing) :
    Option Mistake := do
  let argument ← (← known.lookup p.function)[p.place]?
  let expected := (u.lookup ⟨p.function, argument⟩).getD false
  let actual := match p.name with
    | some name => (u.lookup name).getD expected
    | none => false
  if actual = expected then none
  else
    some ⟨p.line,
      .badCall (p.place + 1) p.function (kindName true actual) (kindName true expected)⟩

/-- What is wrong with a call as such. Functions are missed in the last line. -/
def callFault? (known : List (String × List String)) (lastLine : Nat) (call : Nat × String × Nat) :
    Option Mistake :=
  let (line, function, count) := call
  match known.lookup function with
  | none => some ⟨lastLine, .undefined function⟩
  | some names => if names.length < count then some ⟨line, .manyArguments function⟩ else none

/-- The program that parts of a text stand for. -/
def Code.ofParts (parts : List Part) : Except (List Mistake) Code :=
  let tokens := Token.ofText (parts.flatMap fun p => p.text.toList)
  let lastLine := (tokens.getLast?.map (·.line)).getD 1
  let first : Progress :=
    { tokens, faults := [], scope := none, isInLoop := false, noRecord := false, isWritten := false
      usage := Usage.first, passings := [], calls := [], known := [] }
  let read : Reader (List (Rule ⊕ Function)) := do
    Reader.passExtras tokens
    Reader.rules (tokens.length + 1)
  match read.run.run first with
  | (.error m, p) => .error (p.faults.reverse ++ [m])
  | (.ok items, p) =>
    let passings := p.passings.reverse
    let u := Usage.settle p.known passings (passings.length + 1) p.usage
    let faults := p.calls.reverse.filterMap (callFault? p.known lastLine) ++
      passings.filterMap (Passing.fault? p.known u)
    match if p.faults = [] then faults else p.faults.reverse with
    | [] =>
      let tables (f : String) : List Bool :=
        ((p.known.lookup f).getD []).map fun a => (u.lookup ⟨f, a⟩).getD false
      .ok
        { rules := items.filterMap Sum.getLeft?
          functions := (items.filterMap Sum.getRight?).map fun f =>
            { f with areTables := tables f.name } }
    | ms => .error ms

end Golden.Host.Awk
