import Golden.Host.CharClass
import Golden.Host.Regex.Parse

/-! # Patterns, records and fields

A pattern is a regular expression whose operators have no backslash. Escapes are settled first, so
that a backslash is only left where it keeps a character from being an operator.

What is read is cut into records (`Cutter.cut`), and a record into fields (`Splitter.split`). What
lies between them is a character or whatever a pattern matches; an empty text stands for blank lines
between records, and a blank for all blanks between fields. -/

namespace Golden.Host.Awk

/-! ### Patterns -/

/-- How patterns are written. -/
def dialect : Dialect :=
  { extended := true, lenient := true, ignoresCase := false, lines := false, escapes := true }

/-- The characters that mean something in a pattern. -/
def operators : List Char := ".[]()*+?\x7b\x7d|^$\\".toList

/-- The letters behind a backslash that stand for other characters. -/
def escapeLetters : List Char := "ntrfvab".toList

/-- A character that stands for itself. -/
def literal (c : Char) : List Char := if operators.contains c then ['\\', c] else [c]

/-- Settles the escapes of a pattern. `inside` tells whether brackets are open. -/
def settleEscapes : Nat → Bool → List Char → List Char
  | 0, _, cs => cs
  | _, _, [] => []
  | _, inside, ['\\'] => if inside then ['\\'] else ['\\', '\\']
  | n + 1, inside, '\\' :: c :: cs =>
    if Text.isOctal c then
      let (d, rest) := Escapes.readOctet 8 3 (c :: cs)
      literal d ++ settleEscapes n inside rest
    else if c = 'x' && cs.head?.any fun d => (Numbers.digit? 16 d).isSome then
      let (d, rest) := Escapes.readOctet 16 2 cs
      literal d ++ settleEscapes n inside rest
    else if escapeLetters.contains c || inside then '\\' :: c :: settleEscapes n inside cs
    else literal c ++ settleEscapes n inside cs
  | n + 1, false, '[' :: cs =>
    let first := match cs with
      | '^' :: ']' :: _ => ['^', ']']
      | '^' :: _ => ['^']
      | ']' :: _ => [']']
      | _ => []
    '[' :: first ++ settleEscapes n true (cs.drop first.length)
  | n + 1, true, '[' :: ':' :: cs =>
    match CharClass.atStart? (':' :: cs) with
    | some (name, rest) => "[:".toList ++ name.toList ++ ":]".toList ++ settleEscapes n true rest
    | none => '[' :: ':' :: settleEscapes n true cs
  | n + 1, true, ']' :: cs => ']' :: settleEscapes n false cs
  | n + 1, inside, c :: cs => c :: settleEscapes n inside cs

/-- What stands in front of a place in a pattern. -/
inductive Before where
  /-- Nothing, or a sign that opens a group. -/
  | opening
  | bar
  | caret
  | part
  deriving DecidableEq, Inhabited

/-- Why the operators of a pattern have nothing to work on, if that is so. `inside` tells whether
brackets are open. -/
def operandFault? : Before → Bool → List Char → Option String
  | .bar, false, [] => some "missing operand"
  | _, _, [] => none
  | before, inside, '\\' :: _ :: cs =>
    if inside then operandFault? before true cs else operandFault? .part false cs
  | before, true, c :: cs =>
    if c = ']' && before ≠ .opening then operandFault? .part false cs
    else operandFault? .part true cs
  | before, false, c :: cs =>
    match c with
    | '[' =>
      match cs with
      | '^' :: rest => operandFault? .opening true rest
      | cs => operandFault? .opening true cs
    | '(' =>
      if cs.head? = some ')' then some "missing operand" else operandFault? .opening false cs
    | '|' =>
      if before = .opening || before = .bar then some "missing operand"
      else operandFault? .bar false cs
    | '^' => operandFault? .caret false cs
    | '*' | '+' =>
      if before = .opening || before = .bar then some "missing operand"
      else if before = .caret then some "syntax error ^* or ^+"
      else operandFault? .part false cs
    | '?' =>
      if before = .opening || before = .bar then some "missing operand"
      else operandFault? .part false cs
    | _ => operandFault? .part false cs

/-- What is said of a mistake in a pattern. -/
def patternFault : RegexMistake → String
  | .unmatchedOpening => "missing ')'"
  | .unmatchedBracket | .badClass | .invalid | .badElement | .bareClass =>
    "bad class -- [], [^] or ["
  | .badInterval | .openInterval | .tooBig => "bad interval expression"
  | e => e.message

/-- The pattern that a text stands for. -/
def patternOf (text : String) : Except String Matcher :=
  match operandFault? .opening false text.toList with
  | some e => .error e
  | none =>
    let settled := settleEscapes (text.length + 1) false text.toList
    match Matcher.ofText dialect (String.ofList settled) with
    | .ok m => .ok m
    | .error e => .error (patternFault e)

/-! ### Records -/

/-- What lies between records. -/
inductive Cutter where
  | letter (c : Char)
  | blankLines
  | pattern (m : Matcher)
  deriving Inhabited

/-- What a text says of what lies between records. -/
def Cutter.ofText (s : String) : Except String Cutter :=
  match s.toList with
  | [] => .ok .blankLines
  | [c] => .ok (.letter c)
  | _ => (patternOf s).map .pattern

/-- A record and what is behind it. -/
inductive Cut where
  | record (text rest : List Char)
  /-- Where the record ends cannot be told yet. -/
  | more
  | finish
  deriving DecidableEq, Inhabited

/-- What is in front of an empty line and behind it. -/
def atBlankLine? : List Char → List Char → Option (List Char × List Char)
  | done, '\n' :: '\n' :: cs => some (done.reverse, cs)
  | done, c :: cs => atBlankLine? (c :: done) cs
  | _, [] => none

/-- Cuts a record off what has been read. `isAll` tells whether nothing follows. -/
def Cutter.cut (k : Cutter) (isAll : Bool) (cs : List Char) : Cut :=
  let last (cs : List Char) : Cut :=
    if !isAll then .more else if cs = [] then .finish else .record cs []
  match k with
  | .letter c =>
    let front := cs.takeWhile (· ≠ c)
    match cs.drop front.length with
    | _ :: rest => .record front rest
    | [] => last cs
  | .blankLines =>
    let cs := cs.dropWhile (· = '\n')
    match atBlankLine? [] cs with
    | some (front, rest) => .record front rest
    | none => last (if cs.getLast? = some '\n' && isAll then cs.dropLast else cs)
  | .pattern m =>
    let t := cs.toArray
    match (m.find? t 0).bind fun c => c.getD 0 none with
    | some (a, b) =>
      if a = b || (b = t.size && !isAll) then last cs else .record (cs.take a) (cs.drop b)
    | none => last cs

/-! ### Fields -/

/-- What lies between fields. -/
inductive Splitter where
  | blanks
  | letter (c : Char)
  | nothing
  | pattern (m : Matcher)
  deriving Inhabited

/-- What a text says of what lies between fields. -/
def Splitter.ofText (s : String) : Except String Splitter :=
  match s.toList with
  | [] => .ok .nothing
  | [' '] => .ok .blanks
  | [c] => .ok (.letter c)
  | _ => (patternOf s).map .pattern

/-- The parts of a text between matches. -/
def between (t : Array Char) : Nat → List (Nat × Nat) → List String
  | i, [] => [Matcher.part t i t.size]
  | i, (a, b) :: rest => Matcher.part t i a :: between t b rest

/-- The fields of a text. An empty text has none. -/
def Splitter.split (p : Splitter) (s : String) : List String :=
  if s = "" then []
  else
    match p with
    | .blanks => (s.splitToList CharClass.isFieldBlank).filter (· ≠ "")
    | .letter c => s.splitToList (· = c)
    | .nothing => s.toList.map String.singleton
    | .pattern m =>
      let t := s.toList.toArray
      let places := ((m.all t).filterMap fun c => c.getD 0 none).filter fun p => p.1 < p.2
      between t 0 places

end Golden.Host.Awk
