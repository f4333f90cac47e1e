import Golden.Host.Shell.Reader

/-! # Reading commands

Tokens are made into commands. What reads a command needs what reads lists of commands, which may be
inside of it: it is given this as a parameter, and `Grammar.lists` ties both together. -/

namespace Golden.Host.Shell.Grammar

open Reader Parse

/-! ### Tokens -/

/-- The words that have a meaning where a command begins. -/
def keywords : List String :=
  ["!", "case", "do", "done", "elif", "else", "esac", "fi", "for", "if", "in", "then", "until",
   "while", "\x7b", "\x7d"]

/-- What a token is called. -/
def describe : Token → String
  | .word .. => "word"
  | .keyword s => "\"" ++ s ++ "\""
  | .operator s => "\"" ++ s ++ "\""
  | .redirect .. => "redirection"
  | .newline => "newline"
  | .ending => "end of file"

/-- Whether a token ends a list of commands. -/
def endsList : Token → Bool
  | .ending => true
  | .operator s => s = ")" || s = ";;"
  | .keyword s => ["do", "done", "elif", "else", "esac", "fi", "then", "\x7d"].contains s
  | _ => false

/-- The text of a word in which nothing stands for anything else. -/
def plainText? (w : Word) : Option String :=
  (w.mapM fun (m : Mark) =>
    match m with
    | .plain c => some c
    | _ => none).map String.ofList

/-- Drops characters up to the end of the line. -/
def skipComment : Parse Unit :=
  modify fun r => { r with input := r.input.dropWhile (· ≠ '\n') }

/-- Reads an operator of one character, or of two equal ones. -/
def readDoubled (one two : String) (c : Char) : Parse Token := do
  let d ← nextJoined
  if d = some c then return .operator two
  unread d
  return .operator one

/-- Reads the operator of a redirection. -/
def readRedirect (digit : Option Nat) (c : Char) : Parse Token := do
  let d ← nextJoined
  let plain (s : String) : Parse Token := do
    unread d
    return .redirect (digit.getD (if c = '>' then 1 else 0)) s
  let doubled (s : String) : Parse Token :=
    return .redirect (digit.getD (if c = '>' then 1 else 0)) s
  if c = '>' then
    match d with
    | some '>' => doubled ">>"
    | some '|' => doubled ">|"
    | some '&' => doubled ">&"
    | _ => plain ">"
  else
    match d with
    | some '<' =>
      let e ← nextJoined
      if e = some '-' then doubled "<<-"
      else
        unread e
        doubled "<<"
    | some '&' => doubled "<&"
    | some '>' => doubled "<>"
    | _ => plain "<"

/-- Reads a token, whatever it may mean. -/
def readFresh (inner : Inner) : Nat → Parse Token
  | 0 => pure .ending
  | n + 1 => do
    match ← nextJoined with
    | none => return .ending
    | some c =>
      match c with
      | ' ' | '\t' => readFresh inner n
      | '#' =>
        skipComment
        readFresh inner n
      | '\n' =>
        modify fun r => { r with line := r.line + 1, asksNext := true }
        return .newline
      | '&' => readDoubled "&" "&&" '&'
      | '|' => readDoubled "|" "||" '|'
      | ';' => readDoubled ";" ";;" ';'
      | '(' => return .operator "("
      | ')' => return .operator ")"
      | c =>
        let (b, after) ← readWord inner (some c)
        let digit? : Option (Option Nat) := match b.marks with
          | [] => some none
          | [.plain d] => if d.isDigit then some (some (d.toNat - '0'.toNat)) else none
          | _ => none
        match after, digit? with
        | some d, some digit =>
          if (d = '<' || d = '>') && !b.isQuoted then readRedirect digit d
          else
            unread after
            return .word b.marks b.isQuoted
        | _, _ =>
          unread after
          return .word b.marks b.isQuoted

/-- What may stand at a place: ends of lines that are skipped, keywords, aliases. -/
structure Expect where
  lines : Bool
  keywords : Bool
  aliases : Bool
  deriving Inhabited

/-- Nothing but words. -/
def Expect.words : Expect := ⟨false, false, false⟩

/-- A command on the same line. -/
def Expect.command : Expect := ⟨false, true, true⟩

/-- A command on this line or on one behind. -/
def Expect.commandBehind : Expect := ⟨true, true, true⟩

/-- A token, which is the last one if it is to be read again. -/
def readAny (inner : Inner) : Parse Token := do
  let r ← get
  if r.again then
    modify fun r => { r with again := false }
    return r.last
  askNext
  let t ← readFresh inner longest
  modify fun r => { r with last := t }
  return t

/-- Skips ends of lines. Documents stand behind them. -/
def skipLines (inner : Inner) : Nat → Token → Parse Token
  | n + 1, .newline => do
    readDocuments inner
    skipLines inner n (← readAny inner)
  | _, t => pure t

/-- The text of an alias, if it is not being read. -/
def aliasOf? (r : Reader) (name : String) : Option String :=
  if r.active.contains name then none else r.aliases.lookup name

/-- Puts the text of an alias in front of what is to be read. -/
def enterAlias (name text : String) : Parse Unit := modify fun r =>
  if text = "" then r
  else
    let mark := if text.endsWith " " || text.endsWith "\t" then aliasEndBlank else aliasEnd
    { r with input := text.toList ++ mark :: r.input, active := name :: r.active }

/-- Reads a token. -/
def readToken (inner : Inner) (expect : Expect) : Nat → Parse Token
  | 0 => pure .ending
  | n + 1 => do
    let t ← readAny inner
    let t ← if expect.lines then skipLines inner longest t else pure t
    let r ← get
    let aliases := expect.aliases || r.aliasNext
    modify fun r => { r with last := t, aliasNext := false }
    match t with
    | .word w false =>
      match plainText? w with
      | none => return t
      | some s =>
        if expect.keywords && keywords.contains s then
          modify fun r => { r with last := .keyword s }
          return .keyword s
        match if aliases then aliasOf? r s else none with
        | none => return t
        | some text =>
          enterAlias s text
          readToken inner expect n
    | t => return t

/-- Reads a token. -/
def token (inner : Inner) (expect : Expect) : Parse Token := readToken inner expect longest

/-- Lets the last token be read again. -/
def pushBack : Parse Unit := modify fun r => { r with again := true }

/-- The number of characters of a mistake that are told. -/
def mistakeLength : Nat := 63

/-- Fails because of a token that may not stand where it stands. -/
def unexpected {α : Type} (awaited : Option String) : Parse α := do
  let r ← get
  let text := describe r.last ++ " unexpected" ++
    (match awaited with
    | some s => " (expecting " ++ s ++ ")"
    | none => "")
  fail (text.take mistakeLength).toString

/-- Reads a keyword. -/
def expectKeyword (inner : Inner) (s : String) (expect : Expect) : Parse Unit := do
  match ← token inner expect with
  | .keyword t => if s = t then return () else unexpected (some ("\"" ++ s ++ "\""))
  | _ => unexpected (some ("\"" ++ s ++ "\""))

/-- Reads an operator. -/
def expectOperator (inner : Inner) (s : String) : Parse Unit := do
  match ← token inner .words with
  | .operator t => if s = t then return () else unexpected (some ("\"" ++ s ++ "\""))
  | _ => unexpected (some ("\"" ++ s ++ "\""))

/-! ### Redirections -/

/-- Reads the word behind the operator of a redirection. -/
def readTarget (inner : Inner) (descriptor : Nat) (operator : String) : Parse Redirect := do
  let isDocument := operator = "<<" || operator = "<<-"
  match ← token (if isDocument then { inner with plain := true } else inner) .words with
  | .word w isQuoted =>
    match operator with
    | "<<" | "<<-" =>
      let r ← get
      let number := r.nextDocument
      modify fun r => { r with
        nextDocument := number + 1
        pending := r.pending ++ [⟨number, Mark.textOf w, operator = "<<-", !isQuoted⟩] }
      return .document descriptor number (!isQuoted)
    | ">&" => return .same descriptor false w
    | "<&" => return .same descriptor true w
    | ">" => return .file descriptor .output w
    | ">|" => return .file descriptor .clobber w
    | ">>" => return .file descriptor .append w
    | "<>" => return .file descriptor .both w
    | _ => return .file descriptor .input w
  | _ => unexpected none

/-- Reads redirections behind a command. -/
def readRedirects (inner : Inner) : Nat → List Redirect → Parse (List Redirect)
  | 0, rs => pure rs.reverse
  | n + 1, rs => do
    match ← token inner .command with
    | .redirect d operator =>
      let r ← readTarget inner d operator
      readRedirects inner n (r :: rs)
    | _ =>
      pushBack
      return rs.reverse

/-! ### Commands -/

/-- Whether a word assigns to a variable. -/
def isAssignment (w : Word) : Bool :=
  let name := w.takeWhile fun m =>
    match m with
    | .plain c => CharClass.isNameChar c
    | _ => false
  match name, w.drop name.length with
  | .plain c :: _, .plain '=' :: _ => CharClass.isNameStart c
  | _, _ => false

/-- The commands of the shell itself that no function can replace. -/
def specialNames : List String :=
  [".", ":", "break", "continue", "eval", "exec", "exit", "export", "local", "readonly", "return",
   "set", "shift", "times", "trap", "unset"]

/-- What a simple command has been found to consist of, from the last part on. -/
structure Simple where
  assignments : List Word
  words : List Word
  redirects : List Redirect

/-- What reads lists of commands: up to the end of a line, inside of a command, and such as may be
empty. -/
structure Lists where
  line : Parse (Option Command)
  full : Parse Command
  maybeEmpty : Parse (Option Command)
  command : Parse Command
  inner : Inner

/-- Reads a function from behind its name and the opening parenthesis. -/
def readFunction (k : Lists) (w : Word) : Parse Command := do
  expectOperator k.inner ")"
  match plainText? w with
  | none => fail "Bad function name"
  | some name =>
    if !isName name || specialNames.contains name then fail "Bad function name"
    let body ← k.command
    return .function name body

/-- Reads a simple command. -/
def readSimple (k : Lists) (line : Nat) : Nat → Bool → Simple → Parse Command
  | 0, _, _ => unexpected none
  | n + 1, maybeAssigns, s => do
    match ← token k.inner ⟨false, false, maybeAssigns⟩ with
    | .word w _ =>
      if maybeAssigns && isAssignment w then
        readSimple k line n true { s with assignments := w :: s.assignments }
      else readSimple k line n false { s with words := w :: s.words }
    | .redirect d operator =>
      let r ← readTarget k.inner d operator
      readSimple k line n maybeAssigns { s with redirects := r :: s.redirects }
    | t =>
      match t, s with
      | .operator "(", ⟨[], [w], []⟩ => readFunction k w
      | _, _ =>
        pushBack
        return .simple line s.assignments.reverse s.words.reverse s.redirects.reverse

/-- Reads the branches of a condition from behind the word that begins it. -/
def readChoice (k : Lists) : Nat → Parse Command
  | 0 => unexpected none
  | n + 1 => do
    let condition ← k.full
    expectKeyword k.inner "then" .words
    let yes ← k.full
    match ← token k.inner .words with
    | .keyword "elif" =>
      let no ← readChoice k n
      return .choice condition yes (some no)
    | .keyword "else" =>
      let no ← k.full
      return .choice condition yes (some no)
    | _ =>
      pushBack
      return .choice condition yes none

/-- Reads words up to something else. -/
def readWords (inner : Inner) : Nat → List Word → Parse (List Word)
  | 0, ws => pure ws.reverse
  | n + 1, ws => do
    match ← token inner .words with
    | .word w _ => readWords inner n (w :: ws)
    | _ => return ws.reverse

/-- The word that stands for all arguments. -/
def allArguments : Word := [.quote, .parameter "@" .value false, .quote]

/-- Reads a loop over words from behind its first word. -/
def readEach (k : Lists) (line : Nat) : Parse Command := do
  let name? := match ← token k.inner .words with
    | .word w false => (plainText? w).filter isName
    | _ => none
  match name? with
  | none => fail "Bad for loop variable"
  | some name =>
    let words ← match ← token k.inner .commandBehind with
      | .keyword "in" => do
        let ws ← readWords k.inner longest []
        match (← get).last with
        | .newline | .operator ";" => pure ws
        | _ => unexpected none
      | .operator ";" => pure [allArguments]
      | _ => do
        pushBack
        pure [allArguments]
    expectKeyword k.inner "do" .commandBehind
    let body ← k.full
    return .each line name words body

/-- Reads patterns up to the parenthesis that closes them, from behind the first token. -/
def readPatterns (inner : Inner) : Nat → Token → List Word → Parse (List Word)
  | 0, _, ps => pure ps.reverse
  | n + 1, t, ps => do
    let p : Word := match t with
      | .word w _ => w
      | .keyword s => Mark.text false s
      | _ => []
    match ← token inner .words with
    | .operator "|" => readPatterns inner n (← token inner .words) (p :: ps)
    | .operator ")" => return (p :: ps).reverse
    | _ => unexpected (some "\")\"")

/-- Reads the branches of a selection up to their end. -/
def readBranches (k : Lists) : Nat → List (List Word × Option Command) →
    Parse (List (List Word × Option Command))
  | 0, bs => pure bs.reverse
  | n + 1, bs => do
    match ← token k.inner ⟨true, true, false⟩ with
    | .keyword "esac" => return bs.reverse
    | t =>
      let t ← match t with
        | .operator "(" => token k.inner .words
        | t => pure t
      let patterns ← readPatterns k.inner longest t []
      let body ← k.maybeEmpty
      let bs := (patterns, body) :: bs
      match ← token k.inner ⟨true, true, false⟩ with
      | .keyword "esac" => return bs.reverse
      | .operator ";;" => readBranches k n bs
      | _ => unexpected (some "\";;\"")

/-- Reads a selection from behind its first word. -/
def readSelection (k : Lists) (line : Nat) : Parse Command := do
  match ← token k.inner .words with
  | .word w _ =>
    expectKeyword k.inner "in" .commandBehind
    let branches ← readBranches k longest []
    return .select line w branches
  | _ => unexpected (some "word")

/-- Adds the redirections behind a command. -/
def withRedirects (k : Lists) (line : Nat) (c : Command) : Parse Command := do
  match ← readRedirects k.inner longest [] with
  | [] => return c
  | rs =>
    match c with
    | .subshell l body _ => return .subshell l body rs
    | c => return .redirected line c rs

/-- Reads a command. -/
def readCommand (k : Lists) (expect : Expect) : Parse Command := do
  let line := (← get).line
  match ← token k.inner expect with
  | .keyword "if" =>
    let c ← readChoice k longest
    expectKeyword k.inner "fi" .words
    withRedirects k line c
  | .keyword "while" => do
    let condition ← k.full
    expectKeyword k.inner "do" .words
    let body ← k.full
    expectKeyword k.inner "done" .words
    withRedirects k line (.loop condition body false)
  | .keyword "until" => do
    let condition ← k.full
    expectKeyword k.inner "do" .words
    let body ← k.full
    expectKeyword k.inner "done" .words
    withRedirects k line (.loop condition body true)
  | .keyword "for" => do
    let c ← readEach k line
    expectKeyword k.inner "done" .words
    withRedirects k line c
  | .keyword "case" => withRedirects k line (← readSelection k line)
  | .operator "(" => do
    let body ← k.full
    expectOperator k.inner ")"
    withRedirects k line (.subshell line body [])
  | .keyword "\x7b" => do
    let body ← k.full
    expectKeyword k.inner "\x7d" .words
    withRedirects k line body
  | .word .. | .redirect .. =>
    pushBack
    readSimple k (← get).line longest true ⟨[], [], []⟩
  | _ => unexpected none

/-! ### Lists -/

/-- Reads the commands of a pipeline behind the first. -/
def readPiped (k : Lists) : Nat → List Command → Parse (List Command)
  | 0, cs => pure cs.reverse
  | n + 1, cs => do
    match ← token k.inner .words with
    | .operator "|" =>
      let c ← readCommand k .commandBehind
      readPiped k n (c :: cs)
    | _ =>
      pushBack
      return cs.reverse

/-- Reads a pipeline. -/
def readPipeline (k : Lists) (expect : Expect) : Parse Command := do
  let isNegated ← match ← token k.inner expect with
    | .keyword "!" => pure true
    | _ => do
      pushBack
      pure false
  let c ← readCommand k (if isNegated then .command else .words)
  let c ← match ← readPiped k longest [c] with
    | [c] => pure c
    | cs => pure (.pipe cs false)
  return if isNegated then .negated c else c

/-- Reads pipelines that depend on how the one before has ended. -/
def readConditions (k : Lists) : Nat → Command → Parse Command
  | 0, c => pure c
  | n + 1, c => do
    match ← token k.inner .words with
    | .operator "&&" => readConditions k n (.both c (← readPipeline k .commandBehind))
    | .operator "||" => readConditions k n (.either c (← readPipeline k .commandBehind))
    | _ =>
      pushBack
      return c

/-- A command that is not waited for. -/
def inBackground (c : Command) : Command :=
  match c with
  | .pipe cs _ => .pipe cs true
  | .redirected line body rs => .background line body rs
  | c => .background 0 c []

/-- A command behind those that have been read. -/
def behind (before : Option Command) (c : Command) : Command :=
  match before with
  | none => c
  | some b => .seq b c

/-- Reads commands up to the end of a line, or inside of a command if `inside`. There may be none if
`maybeEmpty`. -/
def readList (k : Lists) (inside : Bool) : Nat → Bool → Option Command → Parse (Option Command)
  | 0, _, before => pure before
  | n + 1, maybeEmpty, before => do
    match ← token k.inner ⟨inside, true, true⟩ with
    | .newline =>
      readDocuments k.inner
      return before
    | .ending =>
      readDocuments k.inner
      modify fun r => { r with last := .ending, again := true }
      return before
    | t =>
      pushBack
      if inside && maybeEmpty && endsList t then return before
      let c ← readPipeline k .words
      let c ← readConditions k longest c
      let t ← token k.inner .words
      let c := match t with
        | .operator "&" => inBackground c
        | _ => c
      let list := some (behind before c)
      match t with
      | .newline | .ending =>
        pushBack
        readList k inside n true list
      | .operator "&" | .operator ";" => readList k inside n true list
      | _ =>
        if !inside then unexpected none
        pushBack
        return list

/-- Reads a list of commands that is not empty. -/
def readFull (k : Lists) : Parse Command := do
  return (← readList k true longest false none).getD .empty

/-- What reads lists of commands that lie at most `n` deep in each other. -/
def lists : Nat → Unit → Lists
  | 0, _ =>
    let stop {α : Type} : Parse α := unexpected none
    ⟨stop, stop, stop, stop, ⟨stop, stop, false⟩⟩
  | n + 1, _ =>
    let deeper {α : Type} (f : Lists → Parse α) : Parse α := fun r => f (lists n ()) r
    let optional (k : Lists) : Parse Command := do
      return (← readList k true longest true none).getD .empty
    let parenthesis (k : Lists) : Parse Command :=
      readParenthesis (optional k) do
        expectOperator k.inner ")"
        readDocuments k.inner
    { line := deeper fun k => readList k false longest false none
      full := deeper readFull
      maybeEmpty := deeper fun k => readList k true longest true none
      command := deeper fun k => readCommand k .commandBehind
      inner :=
        { toEnd := deeper fun k => readParenthesis (optional k) (readDocuments k.inner)
          toParenthesis := deeper parenthesis
          plain := false } }

/-- The depth in which commands may lie in each other. -/
def greatestDepth : Nat := 100000

/-- What has been read: commands up to the end of a line, or the end of the script. -/
inductive Line where
  | commands (c : Option Command)
  | ending

/-- Reads the commands of a line, or of several lines that belong together. -/
def readLine : Parse Line := do
  modify fun r => { r with
    again := false, pending := [], aliasNext := false, requests := 0, asksNext := false }
  let c ← (lists greatestDepth ()).line
  match c, (← get).again with
  | none, true => return .ending
  | c, _ => return .commands c

end Golden.Host.Shell.Grammar
