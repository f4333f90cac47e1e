import Golden.Host.Shell.Syntax

/-! # Reading characters and words

A reader has a script before it, with the aliases that it knows and the documents that it still
has to read. Words are read character by character (`Reader.readMarks`). What a character means
depends on the quotes and braces around it, which are kept as a stack of levels. -/

namespace Golden.Host.Shell

/-- A mistake in a script, with its line, and with how often more has been asked for before it. -/
structure Mistake where
  line : Nat
  text : String
  requests : Nat
  deriving DecidableEq, Inhabited

/-- A document that stands on the lines behind. -/
structure Pending where
  number : Nat
  ending : String
  dropTabs : Bool
  isExpanded : Bool
  deriving DecidableEq, Inhabited

/-- A token of a script. -/
inductive Token where
  | word (w : Word) (isQuoted : Bool)
  | keyword (s : String)
  | operator (s : String)
  /-- A redirection to a file or descriptor, which a word names. -/
  | redirect (descriptor : Nat) (operator : String)
  | newline
  | ending
  deriving Inhabited

/-- The state of reading. -/
structure Reader where
  input : List Char
  line : Nat
  aliases : List (String × String)
  /-- The aliases whose texts are being read, and the number of them that have just ended. -/
  active : List String
  ended : Nat
  /-- The text of an alias has ended in a blank, so that the next word may be an alias too. -/
  aliasNext : Bool
  pending : List Pending
  documents : List (Nat × Word)
  nextDocument : Nat
  /-- The last token, and whether it is to be read again. -/
  last : Token
  again : Bool
  /-- How often more has been asked for, and whether it is to be asked for before the next token. -/
  requests : Nat
  asksNext : Bool
  deriving Inhabited

/-- What reads a part of a script. -/
def Parse (α : Type) : Type := Reader → Except Mistake (α × Reader)

namespace Parse

instance : Monad Parse where
  pure a := fun r => .ok (a, r)
  bind p f := fun r =>
    match p r with
    | .ok (a, r) => f a r
    | .error e => .error e

instance {α : Type} : Inhabited (Parse α) := ⟨fun _ => .error default⟩

/-- The state of reading. -/
def get : Parse Reader := fun r => .ok (r, r)

/-- Changes the state of reading. -/
def modify (f : Reader → Reader) : Parse Unit := fun r => .ok ((), f r)

/-- Fails because of a mistake on the current line. -/
def fail {α : Type} (text : String) : Parse α := fun r => .error ⟨r.line, text, r.requests⟩

end Parse

namespace Reader

open Parse

/-! ### Characters -/

/-- Stands behind the text of an alias. -/
def aliasEnd : Char := Char.ofNat 256

/-- Stands behind the text of an alias that ends in a blank. -/
def aliasEndBlank : Char := Char.ofNat 257

/-- The state with the next character in front. -/
def settle (r : Reader) : List Char → Reader
  | [] => { r with input := [] }
  | c :: cs =>
    if c = aliasEnd then { r with ended := r.ended + 1 }.settle cs
    else if c = aliasEndBlank then { r with ended := r.ended + 1, aliasNext := true }.settle cs
    else { r with input := c :: cs }

/-- Forgets the aliases that have ended. -/
def forget (r : Reader) : Reader :=
  if r.ended = 0 then r else { r with active := r.active.drop r.ended, ended := 0 }

/-- Takes the next character. -/
def take : Parse (Option Char) := fun r =>
  let r := r.settle r.input
  match r.input with
  | [] => .ok (none, r)
  | c :: cs => .ok (some c, { r with input := cs })

/-- Reads a character. -/
def next : Parse (Option Char) := do
  modify forget
  take

/-- Puts a character back. -/
def unread : Option Char → Parse Unit
  | none => pure ()
  | some c => modify fun r => { r with input := c :: r.input }

/-- Notes that a line has ended, behind which more is asked for. -/
def endLine : Parse Unit := modify fun r => { r with line := r.line + 1, requests := r.requests + 1 }

/-- Asks for more if a line has ended with the last token. -/
def askNext : Parse Unit := modify fun r =>
  if r.asksNext then { r with requests := r.requests + 1, asksNext := false } else r

/-- The number of characters from which on no script goes on. -/
def longest : Nat := 1000000000

/-- Drops lines that are joined to the next one. -/
def dropJoined : Nat → Reader → Reader
  | 0, r => r
  | n + 1, r =>
    let r := r.settle r.input
    match r.input with
    | '\\' :: '\n' :: cs =>
      dropJoined n { r with input := cs, line := r.line + 1, requests := r.requests + 1 }
    | _ => r

/-- Reads a character. Lines are joined. -/
def nextJoined : Parse (Option Char) := do
  modify fun r => dropJoined longest r.forget
  take

/-! ### Levels -/

/-- How characters are read. -/
inductive Mode where
  | bare
  | double
  | single
  | arithmetic
  deriving DecidableEq, Inhabited

/-- What is known of the quotes and braces around a character. -/
structure Level where
  mode : Mode
  isDouble : Bool
  /-- Quotes have been opened between braces. -/
  innerQuotes : Bool
  /-- The level ends with a brace. -/
  byBrace : Bool
  braces : Nat
  quotedBraces : Nat
  parens : Nat
  deriving DecidableEq, Inhabited

/-- A level. -/
def Level.of (mode : Mode) (isDouble : Bool) : Level := ⟨mode, isDouble, false, false, 0, 0, 0⟩

/-- A word that is being read: its marks from the last one on, whether anything is quoted, and the
levels from the innermost one on. -/
structure Building where
  marks : List Mark
  isQuoted : Bool
  level : Level
  outer : List Level

namespace Building

/-- Adds a mark. -/
def put (b : Building) (m : Mark) : Building := { b with marks := m :: b.marks }

/-- Adds a character. -/
def putChar (b : Building) (c : Char) : Building :=
  match b.level.mode with
  | .bare | .arithmetic => b.put (.plain c)
  | .double | .single => b.put (.quoted c)

/-- Enters a level. -/
def push (b : Building) (l : Level) : Building := { b with level := l, outer := b.level :: b.outer }

/-- Leaves a level. -/
def pop (b : Building) : Building :=
  match b.outer with
  | [] => b
  | l :: ls => { b with level := l, outer := ls }

/-- Notes that something is quoted. -/
def noteQuotes (b : Building) : Building := { b with isQuoted := true }

end Building

/-- What reads a document: the line that ends it, and whether tabs are dropped. -/
structure DocumentEnd where
  text : List Char
  dropTabs : Bool

/-- Whether a character is the name of a special parameter. -/
def isSpecial (c : Char) : Bool := c.isDigit || c ∈ ['!', '#', '$', '*', '-', '?', '@']

/-- Reads characters as long as they fulfil a condition. -/
def readWhile (p : Char → Bool) : Nat → List Char → Option Char → Parse (List Char × Option Char)
  | 0, cs, c => pure (cs.reverse, c)
  | _, cs, none => pure (cs.reverse, none)
  | n + 1, cs, some c =>
    if p c then do
      let d ← nextJoined
      readWhile p n (c :: cs) d
    else pure (cs.reverse, some c)

/-! ### Parameters -/

/-- How a parameter that is set to nothing is used, by the character behind its name. -/
def usageOf? (c : Char) : Option Usage :=
  match c with
  | '\x7d' => some .value
  | '-' => some .otherwise
  | '+' => some .instead
  | '?' => some .require
  | '=' => some .assign
  | _ => none

/-- A parameter between braces: its name, how it is used, and whether nothing counts as not set. -/
structure Braced where
  name : String
  usage : Usage
  emptyToo : Bool
  isPattern : Bool

/-- Reads how a parameter is used, from the character behind its name. -/
def readUsage (name : String) (c : Option Char) : Parse Braced := do
  match c with
  | some ':' =>
    let d ← nextJoined
    match d.bind usageOf? with
    | some u => return ⟨name, u, true, false⟩
    | none => return ⟨name, .bad, true, false⟩
  | some '%' =>
    let d ← nextJoined
    if d = some '%' then return ⟨name, .cut false true, false, true⟩
    unread d
    return ⟨name, .cut false false, false, true⟩
  | some '#' =>
    let d ← nextJoined
    if d = some '#' then return ⟨name, .cut true true, false, true⟩
    unread d
    return ⟨name, .cut true false, false, true⟩
  | c =>
    match c.bind usageOf? with
    | some u => return ⟨name, u, false, false⟩
    | none => return ⟨name, .bad, false, false⟩

/-- Reads the end of a parameter whose length is used. -/
def readLengthEnd (name : String) (c : Option Char) : Parse Braced := do
  unread c
  return ⟨name, if c = some '\x7d' then .length else .bad, false, false⟩

/-- Reads the name of a parameter from its first character, if it is a name or a number. -/
def readPlainName (c : Option Char) : Parse (Option (String × Option Char)) := do
  match c with
  | none => return none
  | some d =>
    if CharClass.isNameStart d then
      let (cs, after) ← readWhile CharClass.isNameChar longest [] c
      return some (String.ofList cs, after)
    else if d.isDigit then
      let (cs, after) ← readWhile Char.isDigit longest [] c
      return some (String.ofList cs, after)
    else return none

/-- Reads a parameter behind an opening brace. -/
def readBraced : Parse Braced := do
  let c ← nextJoined
  match ← readPlainName c with
  | some (name, after) => readUsage name after
  | none =>
    match c with
    | some '\x7d' | none =>
      unread c
      return ⟨"", .bad, false, false⟩
    | some '#' =>
      let d ← nextJoined
      match ← readPlainName d with
      | some (name, after) => readLengthEnd name after
      | none =>
        let e ← nextJoined
        if d = some '\x7d' || e ≠ some '\x7d' then
          unread e
          readUsage "#" d
        else if d.any isSpecial then readLengthEnd (String.singleton (d.getD '#')) e
        else
          unread e
          return ⟨"", .bad, false, false⟩
    | some c =>
      let d ← nextJoined
      if isSpecial c then readUsage (String.singleton c) d
      else
        unread d
        return ⟨"", .bad, false, false⟩

/-- Adds a parameter between braces. -/
def putBraced (b : Building) (p : Braced) : Building :=
  let mode := if p.isPattern then .bare else b.level.mode
  let mode := if mode = .arithmetic then .double else mode
  let isPlain := p.usage = .value && !p.emptyToo
  let b := b.put (.parameter p.name p.usage p.emptyToo)
  if isPlain then b
  else
    let b := if mode ≠ b.level.mode || b.level.innerQuotes then
        b.push { Level.of mode (mode ≠ .bare) with byBrace := true }
      else b
    let l := b.level
    { b with
      level := { l with
        braces := l.braces + 1
        quotedBraces := if l.isDouble then l.quotedBraces + 1 else l.quotedBraces } }

/-! ### Commands in words -/

/-- Reads up to the closing backquote. Some backslashes are dropped. -/
def readBackquoted (isDouble : Bool) : Nat → List Char → Parse (List Char)
  | 0, cs => pure cs.reverse
  | n + 1, cs => do
    match ← nextJoined with
    | none => fail "EOF in backquote substitution"
    | some '\x60' => return cs.reverse
    | some '\\' =>
      match ← next with
      | none => readBackquoted isDouble n ('\\' :: cs)
      | some d =>
        let isDropped := d ∈ ['\\', '\x60', '$'] || (isDouble && d = '"')
        if d = '\n' then endLine
        readBackquoted isDouble n (if isDropped then d :: cs else d :: '\\' :: cs)
    | some '\n' =>
      endLine
      readBackquoted isDouble n ('\n' :: cs)
    | some c => readBackquoted isDouble n (c :: cs)

/-- Reads another text, and goes on with the present one. -/
def within {α : Type} (text : List Char) (p : Parse α) : Parse α := do
  let r ← get
  modify fun r => { r with input := text, line := 1, pending := [], again := false }
  let a ← p
  modify fun s =>
    { s with
      input := r.input, line := r.line, pending := r.pending, again := false, last := r.last
      active := r.active, ended := r.ended, aliasNext := r.aliasNext
      requests := r.requests, asksNext := r.asksNext }
  return a

/-- Reads the commands of a parenthesis, up to its end. -/
def readParenthesis (commands : Parse Command) (isEnd : Parse Unit) : Parse Command := do
  let r ← get
  modify fun r => { r with pending := [] }
  let c ← commands
  isEnd
  modify fun s => { s with pending := r.pending, again := false, last := r.last }
  return c

/-! ### Words -/

/-- What reads the commands that are put into words: those up to the end of the text, and those up
to a closing parenthesis. Where nothing is to be put into words, dollar signs and backquotes are
`plain`. -/
structure Inner where
  toEnd : Parse Command
  toParenthesis : Parse Command
  plain : Bool

/-- Reads what a dollar sign stands in front of. -/
def readDollar (inner : Inner) (b : Building) : Parse Building := do
  let c ← nextJoined
  match c with
  | some '(' =>
    let d ← nextJoined
    if d = some '(' then
      return (b.put .expression).push (Level.of .arithmetic true)
    unread d
    let command ← inner.toParenthesis
    return b.put (.output command)
  | some '\x7b' => return putBraced b (← readBraced)
  | some d =>
    if CharClass.isNameStart d then
      let (cs, after) ← readWhile CharClass.isNameChar longest [] c
      unread after
      return b.put (.parameter (String.ofList cs) .value false)
    else if isSpecial d then return b.put (.parameter (String.singleton d) .value false)
    else
      unread c
      return b.putChar '$'
  | none => return b.putChar '$'

/-- Reads what a backslash stands in front of. -/
def readBackslash (isDocument : Bool) (b : Building) : Parse Building := do
  match ← next with
  | none => return b.put (.quoted '\\')
  | some c =>
    let l := b.level
    let keeps := l.isDouble && !(c ∈ ['\\', '\x60', '$']) &&
      (c ≠ '"' || (isDocument && l.braces = 0)) && (c ≠ '\x7d' || l.braces = 0)
    let b := if keeps then b.put (.quoted '\\') else b
    return (b.put (.quoted c)).noteQuotes

/-- Adds the sign that quotes begin or end. -/
def putQuote (isDocument : Bool) (b : Building) : Building :=
  if isDocument then b else b.put .quote

/-- Opens or closes quotes between braces. -/
def toggleQuotes (isDocument : Bool) (b : Building) : Building :=
  let l := b.level
  putQuote isDocument
    { b with level := if l.braces = 0 then l else { l with innerQuotes := !l.innerQuotes } }

/-- Reads a closing brace. -/
def closeBrace (b : Building) : Building :=
  let l := b.level
  if l.innerQuotes || l.braces = 0 then b.putChar '\x7d'
  else
    let b := { b with level := { l with braces := l.braces - 1 } }
    let b := if l.braces = 1 && l.byBrace then b.pop
      else if 0 < l.quotedBraces then
        { b with level := { b.level with quotedBraces := l.quotedBraces - 1 } }
      else b
    b.put .close

/-- Reads a closing parenthesis in an expression. -/
def closeParenthesis (b : Building) : Parse Building := do
  let l := b.level
  if 0 < l.parens then return { b with level := { l with parens := l.parens - 1 } }.putChar ')'
  let d ← nextJoined
  if d = some ')' then return (b.pop).put .closeExpression
  unread d
  return b.putChar ')'

/-- Whether a character ends a word that is not quoted. -/
def endsWord (c : Char) : Bool := c ∈ ['<', '>', '(', ')', ';', '&', '|', ' ', '\t']

/-- Looks for the end of a document at the beginning of a line. -/
def checkEnd (d : DocumentEnd) (c : Option Char) : Parse (Option Char) := do
  let r ← get
  let whole := c.toList ++ r.input
  let whole := if d.dropTabs then whole.dropWhile (· = '\t') else whole
  if d.text.isPrefixOf whole then
    match whole.drop d.text.length with
    | [] =>
      modify fun r => { r with input := [], line := r.line + 1, asksNext := true }
      return none
    | '\n' :: rest =>
      modify fun r => { r with input := rest, line := r.line + 1, asksNext := true }
      return none
    | _ => pure ()
  modify fun r => { r with input := whole.tail }
  return whole.head?

/-- Reads marks from a character on, up to the end of a word or a document. -/
def readMarks (inner : Inner) (document : Option DocumentEnd) :
    Nat → Bool → Building → Option Char → Parse (Building × Option Char)
  | 0, _, b, c => pure (b, c)
  | n + 1, isLineStart, b, c => do
    let c ← match document, isLineStart with
      | some d, true => checkEnd d c
      | _, _ => pure c
    let isDocument := document.isSome
    let l := b.level
    let after (b : Building) (isLineStart : Bool) : Parse (Building × Option Char) := do
      let d ← if b.level.mode = .single then next else nextJoined
      readMarks inner document n isLineStart b d
    match c with
    | none => return (b, none)
    | some '\n' =>
      if l.mode = .bare && l.braces = 0 then return (b, c)
      endLine
      after (b.putChar '\n') true
    | some c =>
      match l.mode with
      | .single =>
        if c = '\'' && !(isDocument && l.braces = 0) then
          let b := if l.quotedBraces = 0 then
              { b with level := { l with mode := .bare, isDouble := false } }
            else b
          after (putQuote isDocument b.noteQuotes) false
        else after (b.putChar c) false
      | mode =>
        if c = '\\' then after (← readBackslash isDocument b) false
        else if c = '$' && !inner.plain then after (← readDollar inner b) false
        else if c = '\x60' && inner.plain then after (b.putChar c).noteQuotes false
        else if c = '\x60' then do
          let text ← readBackquoted l.isDouble longest []
          let command ← within text inner.toEnd
          after (b.put (.output command)) false
        else if c = '\x7d' then after (closeBrace b) false
        else if mode = .double then
          if c = '"' then
            if isDocument && l.braces = 0 then after (b.putChar c) false
            else
              let b := if l.quotedBraces = 0 then
                  { b with level := { l with mode := .bare, isDouble := false } }
                else b
              after (toggleQuotes isDocument b.noteQuotes) false
          else after (b.putChar c) false
        else if mode = .arithmetic then
          if c = '(' then
            after ({ b with level := { l with parens := l.parens + 1 } }.putChar c) false
          else if c = ')' then after (← closeParenthesis b) false
          else after (b.putChar c) false
        else if c = '\'' then
          after (putQuote isDocument { b with level := { l with mode := .single } }) false
        else if c = '"' then
          let b := { b with level := { l with mode := .double, isDouble := true } }
          after (toggleQuotes isDocument b) false
        else if endsWord c && l.braces = 0 then return (b, some c)
        else after (b.putChar c) false

/-- The mistake of a word that ends too early. -/
def openText? (isDocument : Bool) (l : Level) : Option String :=
  if l.mode = .arithmetic then some "Missing '))'"
  else if l.mode ≠ .bare && !isDocument then some "Unterminated quoted string"
  else if l.braces ≠ 0 then some "Missing '\x7d'"
  else none

/-- Reads a word from its first character on, and the character behind it. -/
def readWord (inner : Inner) (c : Option Char) : Parse (Building × Option Char) := do
  let (b, c) ← readMarks inner none longest true ⟨[], false, Level.of .bare false, []⟩ c
  match openText? false b.level with
  | some text => fail text
  | none => return ({ b with marks := b.marks.reverse }, c)

/-- Reads the marks of a document from a character on. -/
def readDocumentFrom (inner : Inner) (isExpanded : Bool) (d : DocumentEnd) (c : Option Char) :
    Parse Word := do
  let level := if isExpanded then Level.of .double true else Level.of .single false
  let (b, _) ← readMarks inner (some d) longest true ⟨[], false, level, []⟩ c
  match openText? true b.level with
  | some text => fail text
  | none => return b.marks.reverse

/-- Reads a whole text as the marks of a document. -/
def readText (inner : Inner) : Parse Word := do
  readDocumentFrom inner true ⟨[aliasEnd], false⟩ (← nextJoined)

/-- Reads the documents that are awaited. -/
def readDocuments (inner : Inner) : Parse Unit := do
  let r ← get
  modify fun r => { r with pending := [] }
  r.pending.forM fun p => do
    askNext
    let c ← if p.isExpanded then nextJoined else next
    let w ← readDocumentFrom inner p.isExpanded ⟨p.ending.toList, p.dropTabs⟩ c
    modify fun r => { r with documents := (p.number, w) :: r.documents }

end Reader

end Golden.Host.Shell
