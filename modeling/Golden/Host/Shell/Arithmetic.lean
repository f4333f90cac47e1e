import Golden.Host.Numbers
import Golden.Host.Shell.Syntax

/-! # Arithmetic

Expressions of integers of 64 bits. Operators that bind tighter are applied first, and those that
bind alike from left to right. Variables that are not set count as zero, and an expression may set
them. What is not to be evaluated, behind a decided `&&`, `||` or `?`, is only read. -/

namespace Golden.Host.Shell.Arithmetic

/-- A piece of an expression. -/
inductive Term where
  | number (n : Int64)
  | name (s : String)
  | operator (s : String)
  /-- A character that means nothing. -/
  | other
  deriving DecidableEq, Inhabited

/-- The operators, those of several characters first. -/
def operators : List String :=
  ["<<=", ">>=", "<<", ">>", "<=", ">=", "==", "!=", "&&", "||", "+=", "-=", "*=", "/=", "%=", "&=",
   "|=", "^=", "+", "-", "*", "/", "%", "(", ")", "<", ">", "&", "|", "^", "~", "!", "?", ":", "="]

/-- The operators that set a variable. -/
def assigning : List String :=
  ["=", "+=", "-=", "*=", "/=", "%=", "<<=", ">>=", "&=", "|=", "^="]

/-- The pieces of an expression, up to a character that means nothing. -/
def terms : Nat → List Char → List Term
  | 0, _ => []
  | _, [] => []
  | n + 1, c :: cs =>
    if c = ' ' || c = '\t' || c = '\n' then terms n cs
    else if c.isDigit then
      let r := Numbers.scan none (c :: cs)
      .number (Int64.ofInt (Numbers.clip r.value)) :: terms n r.rest
    else if CharClass.isNameStart c then
      let name := (c :: cs).takeWhile CharClass.isNameChar
      .name (String.ofList name) :: terms n ((c :: cs).drop name.length)
    else
      match operators.find? fun op => op.toList.isPrefixOf (c :: cs) with
      | some op => .operator op :: terms n ((c :: cs).drop op.length)
      | none => [.other]

/-- How tightly an operator with two operands binds, the tightest at zero. -/
def level? (op : String) : Option Nat :=
  [["*", "/", "%"], ["+", "-"], ["<<", ">>"], ["<", "<=", ">", ">="], ["==", "!="], ["&"], ["^"],
   ["|"]].findIdx? fun ops => ops.contains op

/-- The level that no operator reaches. -/
def loosest : Nat := 8

/-- A number for a truth value. -/
def ofBool (b : Bool) : Int64 := if b then 1 else 0

/-- Why an expression has no value: it is not well formed, or a text is no number or a variable may
not be set. -/
inductive Failure where
  | expression (reason : String)
  | other (reason : String)
  deriving DecidableEq, Inhabited

/-- Applies an operator to two operands. -/
def apply (op : String) (a b : Int64) : Except Failure Int64 :=
  match op with
  | "|" => .ok (a ||| b)
  | "^" => .ok (a ^^^ b)
  | "&" => .ok (a &&& b)
  | "==" => .ok (ofBool (a = b))
  | "!=" => .ok (ofBool (a ≠ b))
  | "<" => .ok (ofBool (a < b))
  | "<=" => .ok (ofBool (a ≤ b))
  | ">" => .ok (ofBool (b < a))
  | ">=" => .ok (ofBool (b ≤ a))
  | "<<" => .ok (a <<< b)
  | ">>" => .ok (a >>> b)
  | "+" => .ok (a + b)
  | "-" => .ok (a - b)
  | "*" => .ok (a * b)
  | "/" => if b = 0 then .error (.expression "division by zero") else .ok (a / b)
  | "%" => if b = 0 then .error (.expression "division by zero") else .ok (a % b)
  | _ => .ok b

/-- The state of an evaluation: the pieces that are left, and the variables that have been set, the
newest first. -/
structure Progress where
  terms : List Term
  values : List (String × Int64)
  deriving Inhabited

/-- An evaluation. -/
abbrev Evaluation (α : Type) : Type := Progress → Except Failure (α × Progress)

/-- The variables around an expression: their texts, and whether they may be set. -/
structure Variables where
  text? : String → Option String
  isFixed : String → Bool

/-- The value of a variable. -/
def value (v : Variables) (p : Progress) (name : String) : Except Failure Int64 :=
  match p.values.lookup name with
  | some a => .ok a
  | none =>
    let text := (v.text? name).getD ""
    if text.toList.all Numbers.isSpace then .ok 0
    else
      match Numbers.whole? none text with
      | some a => .ok (Int64.ofInt a)
      | none => .error (.other ("Illegal number: " ++ text))

/-- Sets a variable. -/
def set (v : Variables) (p : Progress) (name : String) (a : Int64) :
    Except Failure (Int64 × Progress) :=
  if v.isFixed name then .error (.other (name ++ ": is read only"))
  else .ok (a, { p with values := (name, a) :: p.values })

/-- The operator that comes next, if it has two operands. -/
def binary? (p : Progress) : Option (String × Nat) :=
  match p.terms with
  | .operator op :: _ => (level? op).map fun l => (op, l)
  | _ => none

/-- What evaluates expressions inside of others: an expression, a single operand, and the operands
that follow an operand. -/
structure Evaluators where
  assignment : Bool → Evaluation Int64
  primary : Bool → Evaluation Int64
  chain : Bool → Int64 → String → Nat → Evaluation Int64
  both : Bool → Evaluation Int64
  either : Bool → Evaluation Int64
  conditional : Bool → Evaluation Int64

/-- Evaluates an operand. -/
def primary (v : Variables) (k : Evaluators) (skip : Bool) : Evaluation Int64 := fun p =>
  match p.terms with
  | .operator "(" :: rest => do
    let (a, p) ← k.assignment skip { p with terms := rest }
    match p.terms with
    | .operator ")" :: rest => return (a, { p with terms := rest })
    | _ => throw (.expression "expecting ')'")
  | .number n :: rest => .ok (n, { p with terms := rest })
  | .name s :: rest => do
    let p := { p with terms := rest }
    if skip then return (0, p) else return (← value v p s, p)
  | .operator "+" :: rest => k.primary skip { p with terms := rest }
  | .operator "-" :: rest => do
    let (a, p) ← k.primary skip { p with terms := rest }
    return (-a, p)
  | .operator "!" :: rest => do
    let (a, p) ← k.primary skip { p with terms := rest }
    return (ofBool (a = 0), p)
  | .operator "~" :: rest => do
    let (a, p) ← k.primary skip { p with terms := rest }
    return (~~~a, p)
  | _ => .error (.expression "expecting primary")

/-- Applies the operators behind an operand that bind tighter than a level. -/
def chain (k : Evaluators) (skip : Bool) (a : Int64) (op : String) (limit : Nat) :
    Evaluation Int64 := fun p => do
  let (b, p) ← k.primary skip { p with terms := p.terms.tail }
  let own := (level? op).getD loosest
  let (b, p) ← match binary? p with
    | some (next, l) => if l < own then k.chain skip b next own p else pure (b, p)
    | none => pure (b, p)
  let a ← if skip then pure b else apply op a b
  match binary? p with
  | some (next, l) => if l < limit then k.chain skip a next limit p else return (a, p)
  | none => return (a, p)

/-- Evaluates operands with operators between them. -/
def operands (k : Evaluators) (skip : Bool) : Evaluation Int64 := fun p => do
  let (a, p) ← k.primary skip p
  match binary? p with
  | some (op, _) => k.chain skip a op loosest p
  | none => return (a, p)

/-- Evaluates up to an operator other than `&&`. -/
def both (k : Evaluators) (skip : Bool) : Evaluation Int64 := fun p => do
  let (a, p) ← operands k skip p
  match p.terms with
  | .operator "&&" :: rest => do
    let (b, p) ← k.both (skip || a = 0) { p with terms := rest }
    return (ofBool (a ≠ 0 && b ≠ 0), p)
  | _ => return (a, p)

/-- Evaluates up to an operator other than `&&` and `||`. -/
def either (k : Evaluators) (skip : Bool) : Evaluation Int64 := fun p => do
  let (a, p) ← k.both skip p
  match p.terms with
  | .operator "||" :: rest => do
    let (b, p) ← k.either (skip || a ≠ 0) { p with terms := rest }
    return (ofBool (a ≠ 0 || b ≠ 0), p)
  | _ => return (a, p)

/-- Evaluates a choice between two expressions. -/
def conditional (k : Evaluators) (skip : Bool) : Evaluation Int64 := fun p => do
  let (a, p) ← k.either skip p
  match p.terms with
  | .operator "?" :: rest => do
    let (b, p) ← k.assignment (skip || a = 0) { p with terms := rest }
    match p.terms with
    | .operator ":" :: rest => do
      let (c, p) ← k.conditional (skip || a ≠ 0) { p with terms := rest }
      return (if a ≠ 0 then b else c, p)
    | _ => throw (.expression "expecting ':'")
  | _ => return (a, p)

/-- Evaluates an expression, which may set a variable. -/
def assignment (v : Variables) (k : Evaluators) (skip : Bool) : Evaluation Int64 := fun p =>
  match p.terms with
  | .name s :: .operator op :: rest =>
    if assigning.contains op then do
      let (b, p) ← k.assignment skip { p with terms := rest }
      if skip then return (b, p)
      else if op = "=" then set v p s b
      else do
        let a ← value v p s
        set v p s (← apply (op.dropEnd 1).toString a b)
    else k.conditional skip p
  | _ => k.conditional skip p

/-- What evaluates expressions that lie at most `n` deep in each other. -/
def evaluators (v : Variables) : Nat → Unit → Evaluators
  | 0, _ =>
    let stop : Evaluation Int64 := fun _ => .error (.expression "expecting primary")
    ⟨fun _ => stop, fun _ => stop, fun _ _ _ _ => stop, fun _ => stop, fun _ => stop, fun _ => stop⟩
  | n + 1, _ =>
    { assignment := fun skip p => assignment v (evaluators v n ()) skip p
      primary := fun skip p => primary v (evaluators v n ()) skip p
      chain := fun skip a op limit p => chain (evaluators v n ()) skip a op limit p
      both := fun skip p => both (evaluators v n ()) skip p
      either := fun skip p => either (evaluators v n ()) skip p
      conditional := fun skip p => conditional (evaluators v n ()) skip p }

/-- The value of an expression, and the variables that it has set, the newest first. -/
def evaluate (v : Variables) (expression : String) :
    Except Failure (Int64 × List (String × Int64)) := do
  let ts := terms (expression.length + 1) expression.toList
  let (a, p) ← (evaluators v (8 * ts.length + 8) ()).assignment false ⟨ts, []⟩
  if p.terms ≠ [] then throw (.expression "expecting EOF")
  return (a, p.values)

/-- The text of a value. -/
def spell (a : Int64) : String := toString a.toInt

end Golden.Host.Shell.Arithmetic
