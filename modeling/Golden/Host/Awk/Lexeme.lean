import Golden.Host.Awk.Syntax
import Golden.Host.Double
import Golden.Host.CharClass

/-! # Pieces of programs that go through records

A program is cut into names, numbers, texts, patterns and signs (`Token.ofText`). Whether a slash
divides or begins a pattern is told from the piece in front of it. Ends of lines count, but not
behind signs that leave something open; a semicolon in front of a closing brace may be left out,
and is put there. -/

namespace Golden.Host.Awk

/-- Why a program makes no sense. -/
inductive Fault where
  /-- A piece does not belong where it is. -/
  | misplaced (near : String)
  | missing (sign near : String)
  | extra (sign : String)
  | openText (text : String)
  | openPattern (text : String)
  | strange (c : Char)
  | badNumber (text : String)
  | badPattern (reason text : String)
  | undefined (function : String)
  | redefined (function : String)
  | repeatedArgument (name : String)
  | ownArgument
  | notTable (kind name : String)
  | badCall (place : Nat) (function actual expected : String)
  | manyArguments (function : String)
  | badArguments (function : String)
  | noArguments (statement : String)
  | improper (statement : String)
  | outsideFunction
  | outsideLoop (statement : String)
  deriving DecidableEq, Inhabited

/-- The number of characters that are shown of what has no end. -/
def shownLength : Nat := 10

/-- What is said of a fault. -/
def Fault.message : Fault → String
  | misplaced near => "syntax error at or near " ++ near
  | missing sign near => "missing " ++ sign ++ " near " ++ near
  | extra sign => "extra '" ++ sign ++ "'"
  | openText text => "runaway string constant \"" ++ (text.take shownLength).toString ++ " ..."
  | openPattern text => "runaway regular expression /" ++ (text.take shownLength).toString ++ " ..."
  | strange c =>
    if c.toNat < 32 || 126 < c.toNat then
      let filler := if c.toNat < 16 then "0" else ""
      "unexpected character 0x" ++ filler ++ String.ofList (Nat.toDigits 16 c.toNat)
    else "unexpected character '" ++ String.singleton c ++ "'"
  | badNumber text => "syntax error in decimal constant " ++ text
  | badPattern reason text =>
    "regular expression compile failed (" ++ reason ++ ")\n" ++ text
  | undefined function => "function " ++ function ++ " never defined"
  | redefined function => "redefinition of " ++ function
  | repeatedArgument name => name ++ " is duplicated in argument list"
  | ownArgument => "function parameter cannot be the function"
  | notTable kind name => "illegal reference to " ++ kind ++ " " ++ name
  | badCall place function actual expected =>
    "type error in arg(" ++ toString place ++ ") in call to " ++ function ++ " (actual " ++
      actual ++
      " vs " ++ expected ++ ")"
  | manyArguments function => "too many arguments in call to " ++ function
  | badArguments function => "wrong number of arguments in call to " ++ function
  | noArguments statement => "no arguments in call to " ++ statement
  | improper statement => "improper use of " ++ statement
  | outsideFunction => "return outside function body"
  | outsideLoop statement => statement ++ " statement outside of loop"

/-- A fault with its line. -/
structure Mistake where
  line : Nat
  fault : Fault
  deriving DecidableEq, Inhabited

/-- A part of the text of a program, with the name of the file that it is from. -/
structure Part where
  file : Option String
  text : String
  deriving DecidableEq, Inhabited

namespace Part

/-- A part that is an argument. A line ends behind it. -/
def ofArgument (text : String) : Part := ⟨none, text ++ "\n"⟩

/-- A part that is a file: what is in front of the first octet that is zero. A line ends behind a
file without such an octet. -/
def ofFile (file text : String) : Part :=
  let cs := text.toList.takeWhile (· ≠ '\x00')
  ⟨some file, if cs.length < text.length then String.ofList cs else text ++ "\n"⟩

/-- The file that a line of a program is in, and the number of the line there. -/
def locate : List Part → Nat → Option String × Nat
  | [], line => (none, line)
  | [p], line => (p.file, line)
  | p :: ps, line =>
    let lines := p.text.toList.count '\n'
    if line ≤ lines then (p.file, line) else locate ps (line - lines)

end Part

/-- What is said of a fault in a line of a program with these parts. -/
def Mistake.message (parts : List Part) (m : Mistake) : String :=
  let (file, line) := Part.locate parts m.line
  match m.fault, file with
  | .strange _, _ => toString line ++ ": " ++ m.fault.message
  | _, none => "line " ++ toString line ++ ": " ++ m.fault.message
  | _, some file => file ++ ": line " ++ toString line ++ ": " ++ m.fault.message

/-- A piece of a program. -/
inductive Lexeme where
  | number (r : Real)
  | text (s : String)
  | pattern (s : String)
  | name (s : String)
  /-- The name of a function of the program. -/
  | function (s : String)
  | native (f : Native) (name : String)
  | word (s : String)
  | sign (s : String)
  | lineEnd
  /-- A semicolon that has been left out. -/
  | filled
  | finish
  /-- What is no piece. -/
  | broken (f : Fault)
  deriving DecidableEq, Inhabited

/-- A piece with its line and with the numbers of parentheses and braces that are open behind it. -/
structure Token where
  lexeme : Lexeme
  line : Nat
  parens : Nat
  braces : Nat
  deriving DecidableEq, Inhabited

/-- The words of the language. -/
def words : List String :=
  ["BEGIN", "END", "break", "continue", "delete", "do", "else", "exit", "for", "function",
   "getline", "if", "in", "next", "nextfile", "print", "printf", "return", "while"]

/-- The functions that every program has, by their names. -/
def natives : List (String × Native) :=
  [("atan2", .atan2), ("close", .close), ("cos", .cos), ("exp", .exp), ("fflush", .flush),
   ("gsub", .gsub), ("index", .index), ("int", .int), ("length", .length), ("log", .log),
   ("match", .matchFirst), ("mktime", .makeTime), ("rand", .rand), ("sin", .sin),
   ("split", .split), ("sprintf", .sprintf), ("sqrt", .sqrt), ("srand", .srand),
   ("strftime", .formatTime), ("sub", .sub), ("substr", .substr), ("system", .system),
   ("systime", .now), ("tolower", .lower), ("toupper", .upper)]

/-- The signs, those of several characters first. -/
def signs : List String :=
  ["&&", "||", "==", "<=", ">=", "!=", "!~", "++", "--", "+=", "-=", "*=", "/=", "%=", "^=", ">>",
   "\x7b", "\x7d", "(", ")", "[", "]", ";", ",", "+", "-", "*", "/", "%", "^", "!", "<", ">", "|",
   "?", ":", "~", "$", "="]

/-- What a piece is called in messages. -/
def Lexeme.near : Lexeme → String
  | number r => String.ofList (match r with
    | .finite _ n d => Real.general 6 false n d
    | _ => "inf".toList)
  | text s | name s | function s | native _ s | word s | sign s => s
  | pattern s => "/" ++ s ++ "/"
  | lineEnd => "end of line"
  | filled => "\x7d"
  | finish => "end of file"
  | broken _ => ""

/-- Whether a slash behind a piece divides. -/
def Lexeme.isOperand : Lexeme → Bool
  | number _ | text _ | pattern _ | name _ => true
  | word s => s = "getline"
  | sign s => s = ")" || s = "]" || s = "++" || s = "--"
  | _ => false

/-! ### Characters -/

/-- Whether a character is a blank. -/
def isBlank (c : Char) : Bool := c = ' ' || c = '\t' || c = '\x0d' || c = '\x0c' || c = '\x0b'

/-- What is behind blanks, notes and ends of lines, and the number of its line. -/
def skipLines : Bool → List Char → Nat → List Char × Nat
  | _, [], n => ([], n)
  | isNote, c :: cs, n =>
    if c = '\n' then skipLines false cs (n + 1)
    else if isNote || isBlank c then skipLines isNote cs n
    else if c = '#' then skipLines true cs n
    else if c = '\\' && cs.head? = some '\n' then skipLines false cs n
    else (c :: cs, n)

/-- What is behind blanks and notes in a line, where a line may go on behind a backslash. -/
def skipBlanks : Bool → List Char → Nat → List Char × Nat
  | _, [], n => ([], n)
  | isNote, c :: cs, n =>
    if isNote then if c = '\n' then (c :: cs, n) else skipBlanks true cs n
    else if isBlank c then skipBlanks false cs n
    else if c = '#' then skipBlanks true cs n
    else
      match c, cs with
      | '\\', '\n' :: rest => skipBlanks false rest (n + 1)
      | _, _ => (c :: cs, n)

/-- The escapes in a text. One that means nothing keeps its backslash. -/
def unescape : Nat → List Char → List Char → List Char
  | 0, done, _ => done.reverse
  | _, done, [] => done.reverse
  | n + 1, done, '\\' :: c :: cs =>
    match c with
    | '"' => unescape n ('"' :: done) cs
    | '\n' => unescape n done cs
    | 'e' => unescape n ('e' :: '\\' :: done) cs
    | c =>
      if Text.isOctal c then
        let (d, rest) := Escapes.readOctet 8 3 (c :: cs)
        unescape n (d :: done) rest
      else if c = 'x' && cs.head?.any fun d => (Numbers.digit? 16 d).isSome then
        let (d, rest) := Escapes.readOctet 16 2 cs
        unescape n (d :: done) rest
      else
        match Escapes.letter? c with
        | some d => unescape n (d :: done) cs
        | none => unescape n (c :: '\\' :: done) cs
  | n + 1, done, c :: cs => unescape n (c :: done) cs

/-- A text with its escapes replaced. -/
def unescaped (cs : List Char) : String := String.ofList (unescape (cs.length + 1) [] cs)

/-- The characters up to a quotation mark, and what is behind it. -/
def readText : List Char → List Char → Except (List Char) (List Char × List Char)
  | done, [] => .error done.reverse
  | done, '"' :: cs => .ok (done.reverse, cs)
  | done, '\n' :: _ => .error done.reverse
  | done, '\\' :: c :: cs => readText (c :: '\\' :: done) cs
  | done, c :: cs => readText (c :: done) cs

/-- The characters up to a slash that is not in brackets, and what is behind it. `inside` tells
whether there are brackets, and whether nothing is behind the opening one. -/
def readPattern : Option Bool → List Char → List Char → Except (List Char) (List Char × List Char)
  | _, done, [] => .error done.reverse
  | none, done, '/' :: cs => .ok (done.reverse, cs)
  | _, done, '\n' :: _ => .error done.reverse
  | inside, done, '\\' :: c :: cs =>
    if c = '\n' then readPattern inside done cs
    else
      let more := if c = '/' then c :: done else c :: '\\' :: done
      readPattern (inside.map fun _ => false) more cs
  | some true, done, ']' :: cs => readPattern (some false) (']' :: done) cs
  | some true, done, '^' :: cs =>
    readPattern (some (done.head? = some '[')) ('^' :: done) cs
  | some false, done, ']' :: cs => readPattern none (']' :: done) cs
  | some isFirst, done, '[' :: ':' :: cs =>
    let name := cs.takeWhile Char.isAlpha
    match isFirst, h : cs.drop name.length with
    | _, ':' :: ']' :: rest =>
      have : rest.length < cs.length := by
        have := congrArg List.length h
        simp only [List.length_drop, List.length_cons] at this
        omega
      readPattern (some false) (']' :: ':' :: name.reverse ++ (':' :: '[' :: done)) rest
    | _, _ => readPattern (some false) (':' :: '[' :: done) cs
  | none, done, '[' :: cs => readPattern (some true) ('[' :: done) cs
  | inside, done, c :: cs => readPattern (inside.map fun _ => false) (c :: done) cs
termination_by _ _ cs => cs.length

/-! ### Tokens -/

/-- What is left of a program, and what is known of what has been cut off. -/
structure Cutting where
  rest : List Char
  line : Nat
  last : Lexeme
  parens : Nat
  braces : Nat
  /-- The functions of the program that are known. -/
  functions : List String
  deriving Inhabited

namespace Cutting

/-- Goes behind a piece. -/
def behind (x : Cutting) (l : Lexeme) (rest : List Char) : Lexeme × Cutting :=
  (l, { x with rest, last := l })

/-- Goes behind a piece, and behind all ends of lines there. -/
def behindLines (x : Cutting) (l : Lexeme) (rest : List Char) : Lexeme × Cutting :=
  let (rest, line) := skipLines false rest x.line
  (l, { x with rest, line, last := l })

/-- What is behind the braces of a rule: a semicolon in the same line is dropped. -/
def behindRule (rest : List Char) : List Char :=
  match rest.dropWhile isBlank with
  | ';' :: more => more
  | _ => rest

/-- Cuts off a word or a name. -/
def cutWord (x : Cutting) (cs : List Char) : Lexeme × Cutting :=
  let chars := cs.takeWhile CharClass.isNameChar
  let rest := cs.drop chars.length
  let s := String.ofList chars
  if words.contains s then
    if s = "else" || s = "do" then x.behindLines (.word s) rest else x.behind (.word s) rest
  else
    match natives.lookup s with
    | some f => x.behind (.native f s) rest
    | none =>
      let isFunction := x.last = .word "function" || x.functions.contains s ||
        rest.head? = some '('
      if isFunction then
        { x with functions := s :: x.functions }.behind (.function s) rest
      else x.behind (.name s) rest

/-- Cuts off a sign. -/
def cutSign (x : Cutting) (s : String) (rest : List Char) : Lexeme × Cutting :=
  match s with
  | "\x7b" => { x with braces := x.braces + 1 }.behindLines (.sign s) rest
  | "," | "&&" | "||" | ";" => x.behindLines (.sign s) rest
  | "(" => { x with parens := x.parens + 1 }.behind (.sign s) rest
  | ")" =>
    if x.parens = 0 then (.broken (.extra s), { x with rest })
    else { x with parens := x.parens - 1 }.behind (.sign s) rest
  | "\x7d" =>
    let isClosed := x.last = .lineEnd || x.last = .sign ";" || x.last = .filled ||
      x.last = .sign "\x7d"
    if x.braces = 0 then (.broken (.extra s), { x with rest := behindRule rest })
    else if isClosed then
      let x := { x with braces := x.braces - 1 }
      x.behindLines (.sign s) (if x.braces = 0 then behindRule rest else rest)
    else (.filled, { x with last := .filled })
  | s => x.behind (.sign s) rest

/-- Cuts off the next piece. -/
def next (x : Cutting) : Lexeme × Cutting :=
  let (cs, line) := skipBlanks false x.rest x.line
  let x := { x with line }
  match cs with
  | [] => x.behind .finish []
  | '\n' :: rest => { x with line := line + 1 }.behindLines .lineEnd rest
  | '"' :: rest =>
    match readText [] rest with
    | .error text => (.broken (.openText (String.ofList text)), { x with rest := [] })
    | .ok (text, after) =>
      { x with line := line + text.count '\n' }.behind (.text (unescaped text)) after
  | c :: rest =>
    if CharClass.isNameStart c then x.cutWord cs
    else if c.isDigit || (c = '.' && rest.head?.any Char.isDigit) then
      match Real.readUnsigned 10 ['e', 'E'] 10 cs with
      | some (r, rest) => x.behind (.number r.keep) rest
      | none => (.broken (.strange c), { x with rest := [] })
    else if c = '/' && !x.last.isOperand then
      match readPattern none [] rest with
      | .error text => (.broken (.openPattern (String.ofList text)), { x with rest := [] })
      | .ok (text, after) => x.behind (.pattern (String.ofList text)) after
    else
      match signs.find? fun s => s.toList.isPrefixOf cs with
      | some s => x.cutSign s (cs.drop s.length)
      | none => (.broken (.strange c), { x with rest := [] })

/-- The pieces of what is left, at most `n`. -/
def all : Nat → Cutting → List Token
  | 0, _ => []
  | n + 1, x =>
    let (l, y) := x.next
    let line := match l with
      | .lineEnd => (skipBlanks false x.rest x.line).2
      | .sign _ => (skipBlanks false x.rest x.line).2
      | _ => y.line
    let t : Token := ⟨l, line, y.parens, y.braces⟩
    match l with
    | .finish => [t]
    | .broken (.extra _) => t :: all n y
    | .broken _ => [t]
    | _ => t :: all n y

end Cutting

/-- The pieces of a program. -/
def Token.ofText (cs : List Char) : List Token :=
  let (rest, line) := skipLines false cs 1
  Cutting.all (2 * cs.length + 2) ⟨rest, line, .lineEnd, 0, 0, []⟩

end Golden.Host.Awk
