import Golden.Host.Shell.Builtin.Arguments

/-! # Conditions

Conditions compare texts and numbers, and ask for facts about files. Whether a word is an operator
or an operand depends on the words around it. -/

namespace Golden.Host.Shell.Builtin

/-- What kind of operator a word can be. -/
inductive TestKind where
  | unary
  | binary
  | negation
  | conjunction
  | disjunction
  | opening
  | closing
  deriving DecidableEq, Inhabited

/-- What a word is at a place. -/
inductive TestToken where
  | ending
  | operand
  | operator (kind : TestKind) (name : String)
  deriving DecidableEq, Inhabited

/-- The operators with one operand. -/
def unaryTests : List String :=
  ["-r", "-w", "-x", "-e", "-f", "-d", "-c", "-b", "-p", "-u", "-g", "-k", "-s", "-t", "-z", "-n",
   "-h", "-O", "-G", "-L", "-S"]

/-- The operators with two operands. -/
def binaryTests : List String :=
  ["=", "!=", "<", ">", "-eq", "-ne", "-ge", "-gt", "-le", "-lt", "-nt", "-ot", "-ef"]

/-- What kind of operator a word can be. -/
def testKind? (s : String) : Option TestKind :=
  if unaryTests.contains s then some .unary
  else if binaryTests.contains s then some .binary
  else
    match s with
    | "!" => some .negation
    | "-a" => some .conjunction
    | "-o" => some .disjunction
    | "(" => some .opening
    | ")" => some .closing
    | _ => none

/-- Whether a word that could be an operator with one operand is an operand, in view of what
follows. -/
def isTestOperand (following : List String) : Bool :=
  match following with
  | [] => true
  | [_] => false
  | s :: _ => testKind? s = some .binary

/-- What the first of several words is. -/
def testToken : List String → TestToken
  | [] => .ending
  | s :: following =>
    match testKind? s with
    | none => .operand
    | some .unary => if isTestOperand following then .operand else .operator .unary s
    | some .opening => if following = [] then .operand else .operator .opening s
    | some k => .operator k s

/-- Tells that a condition is not well formed. -/
def testMistake {α : Type} (word text : String) : Sh α :=
  Sh.fail (if word = "" then text else word ++ ": " ++ text)

/-- Whether something that is known has a property. -/
def hasFact (path : String) (follow : Bool) (p : Facts → Bool) : Sh Bool := do
  return (← Sh.act (Act.facts? path follow)).any p

/-- The value of a condition with one operand. -/
def testUnary (operator operand : String) : Sh Bool := do
  match operator with
  | "-z" => return operand = ""
  | "-n" => return operand ≠ ""
  | "-t" =>
    let _ ← integer operand
    return false
  | "-e" | "-r" | "-w" | "-O" | "-G" => hasFact operand true fun _ => true
  | "-x" => hasFact operand true fun f => f.kind = .directory || f.mode &&& 0o111 ≠ 0
  | "-f" => hasFact operand true fun f => f.kind = .regular
  | "-d" => hasFact operand true fun f => f.kind = .directory
  | "-c" => hasFact operand true fun f => f.kind = .device
  | "-p" => hasFact operand true fun f => f.kind = .fifo
  | "-s" => hasFact operand true fun f => f.size ≠ 0
  | "-u" => hasFact operand true fun f => f.mode &&& 0o4000 ≠ 0
  | "-g" => hasFact operand true fun f => f.mode &&& 0o2000 ≠ 0
  | "-k" => hasFact operand true fun f => f.mode &&& 0o1000 ≠ 0
  | "-h" | "-L" => hasFact operand false fun f => f.kind = .link
  | _ => return false

/-- Compares what is known of two paths. -/
def compareFacts (a b : String) (p : Facts → Facts → Bool) : Sh Bool := do
  match ← Sh.act (Act.facts? a true), ← Sh.act (Act.facts? b true) with
  | some f, some g => return p f g
  | _, _ => return false

/-- The value of a condition with two operands. -/
def testBinary (a operator b : String) : Sh Bool := do
  let compare (p : Int → Int → Bool) : Sh Bool := do
    let m ← integer a
    let n ← integer b
    return p m n
  match operator with
  | "=" => return a = b
  | "!=" => return a ≠ b
  | "<" => return decide (a < b)
  | ">" => return decide (b < a)
  | "-eq" => compare fun m n => m = n
  | "-ne" => compare fun m n => m ≠ n
  | "-ge" => compare fun m n => n ≤ m
  | "-gt" => compare fun m n => n < m
  | "-le" => compare fun m n => m ≤ n
  | "-lt" => compare fun m n => m < n
  | "-nt" => compareFacts a b fun f g => g.modified < f.modified
  | "-ot" => compareFacts a b fun f g => f.modified < g.modified
  | "-ef" => compareFacts a b fun f g => f.number = g.number
  | _ => return false

/-- Evaluates the words of a condition: its value and the words from the last one of it on. The
words are those from a token on. -/
abbrev TestPart : Type := TestToken → List String → Sh (Bool × List String)

/-- Evaluates a condition without operators that combine conditions. -/
def testPrimary (whole : TestPart) (t : TestToken) (ws : List String) :
    Sh (Bool × List String) := do
  match t with
  | .ending => return (false, ws)
  | .operator .opening _ =>
    let ws := ws.tail
    match testToken ws with
    | .operator .closing _ => return (false, ws)
    | t => do
      let (value, ws) ← whole t ws
      let ws := ws.tail
      match testToken ws with
      | .operator .closing _ => return (value, ws)
      | _ => testMistake "" "closing paren expected"
  | .operator .unary name =>
    match ws.tail with
    | [] => testMistake name "argument expected"
    | w :: rest => return (← testUnary name w, w :: rest)
  | _ =>
    match testToken ws.tail with
    | .operator .binary name =>
      match ws.tail.tail with
      | [] => testMistake name "argument expected"
      | w :: rest => return (← testBinary (ws.headD "") name w, w :: rest)
    | _ => return (ws.headD "" ≠ "", ws)

/-- Evaluates a condition that may be negated. -/
def testNegation (whole : TestPart) : Nat → TestPart
  | 0, _, ws => pure (false, ws)
  | n + 1, .operator .negation _, ws => do
    let t := testToken ws.tail
    let ws := if t = .ending then ws else ws.tail
    let (value, ws) ← testNegation whole n t ws
    return (!value, ws)
  | _, t, ws => testPrimary whole t ws

/-- Evaluates conditions of which all must hold. -/
def testConjunction (whole : TestPart) : Nat → Bool → TestPart
  | 0, value, _, ws => pure (value, ws)
  | n + 1, before, t, ws => do
    let (value, ws) ← testNegation whole (ws.length + 1) t ws
    let value := before && value
    match testToken ws.tail with
    | .operator .conjunction _ =>
      let ws := ws.tail.tail
      testConjunction whole n value (testToken ws) ws
    | _ => return (value, ws)

/-- Evaluates conditions of which one must hold. -/
def testDisjunction (whole : TestPart) : Nat → Bool → TestPart
  | 0, value, _, ws => pure (value, ws)
  | n + 1, before, t, ws => do
    let (value, ws) ← testConjunction whole (ws.length + 1) true t ws
    let value := before || value
    match testToken ws.tail with
    | .operator .disjunction _ =>
      let ws := ws.tail.tail
      testDisjunction whole n value (testToken ws) ws
    | _ => return (value, ws)

/-- Evaluates a condition in which parentheses lie at most `n` deep in each other. -/
def testWhole : Nat → TestPart
  | 0 => fun _ ws => pure (false, ws)
  | n + 1 => fun t ws => testDisjunction (testWhole n) (ws.length + 1) false t ws

/-- The words of a condition without what stands around it: whether it is negated, the words, and
whether the first is an operand in any case. -/
def testForm : Nat → Bool → List String → Bool × List String × Bool
  | 0, isNegated, ws => (isNegated, ws, false)
  | n + 1, isNegated, ws =>
    let isComparison : Bool := match ws with
      | [_, op, _] => testKind? op = some .binary
      | _ => false
    let isShort := ws.length = 3 || ws.length = 4
    if isComparison then (isNegated, ws, true)
    else if isShort && ws.head? = some "(" && ws.getLast? = some ")" then
      (isNegated, ws.tail.dropLast, false)
    else if isShort && ws.head? = some "!" then testForm n (!isNegated) ws.tail
    else (isNegated, ws, false)

/-- The status of a condition. -/
def testStatus (ws : List String) : Sh Nat := do
  if ws = [] then return 1
  let (isNegated, ws, isOperand) := testForm (ws.length + 1) false ws
  let t := if isOperand then .operand else testToken ws
  let (value, rest) ← testWhole (ws.length + 1) t ws
  match rest with
  | w :: _ :: _ => testMistake w "unexpected operator"
  | _ => return if value != isNegated then 0 else 1

/-- Evaluates a condition. -/
def test : Builtin := testStatus

/-- Evaluates a condition in brackets. -/
def bracket : Builtin := fun args =>
  if args.getLast? = some "]" then testStatus args.dropLast else Sh.fail "missing ]"

end Golden.Host.Shell.Builtin
