import Golden.Text.Quoted
import Golden.Toml.Scalar

/-! # Reading TOML

The reader goes through the text from the left. A statement ends with its line, but arrays and
inline tables may stretch over several lines. Readers return what they have read and the rest of the
text. Those that call each other are given a number of steps, of which twice the length of the text
is enough. -/

namespace Golden.Toml

/-- The characters that a comment and a quoted text may hold. -/
def isTextChar (c : Char) : Bool := c = '\t' || (0x20 ≤ c.toNat && c.toNat ≠ 0x7F)

/-- Whether a character separates words on a line. -/
def isSpace (c : Char) : Bool := c = ' ' || c = '\t'

/-- Drops spaces. -/
def skipSpaces (cs : List Char) : List Char := cs.dropWhile isSpace

/-- Drops spaces, comments and ends of lines. The flag tells whether a comment has begun. -/
def skipLines : Bool → List Char → List Char
  | _, '\n' :: cs => skipLines false cs
  | _, '\r' :: '\n' :: cs => skipLines false cs
  | true, c :: cs => if isTextChar c then skipLines true cs else c :: cs
  | false, '#' :: cs => skipLines true cs
  | false, c :: cs => if isSpace c then skipLines false cs else c :: cs
  | _, [] => []

/-- Drops the end of a line, with a comment in front of it. -/
def endLine? (cs : List Char) : Option (List Char) :=
  let cs := skipSpaces cs
  let cs := if cs.head? = some '#' then cs.dropWhile isTextChar else cs
  match cs with
  | [] => some []
  | '\n' :: cs => some cs
  | '\r' :: '\n' :: cs => some cs
  | _ => none

/-! ### Quoted texts -/

/-- The character of a letter behind a backslash. -/
def escaped? : Char → Option Char
  | 'b' => some '\x08'
  | 't' => some '\t'
  | 'n' => some '\n'
  | 'f' => some '\x0C'
  | 'r' => some '\r'
  | 'e' => some '\x1B'
  | '"' => some '"'
  | '\\' => some '\\'
  | _ => none

/-- The character with the given number in hexadecimal. -/
def hexChar? (cs : List Char) : Option Char :=
  (cs.mapM Text.hexDigit?).bind fun vs => Text.charOfNat? (vs.foldl (fun n v => n * 16 + v) 0)

/-- How many hexadecimal digits follow a letter behind a backslash. -/
def hexLength : Char → Nat
  | 'x' => 2
  | 'u' => 4
  | 'U' => 8
  | _ => 0

/-- Reads what follows a backslash. -/
def readEscape? : List Char → Option (Char × List Char)
  | [] => none
  | c :: cs =>
    let n := hexLength c
    if n = 0 then (escaped? c).map (·, cs)
    else if cs.length < n then none
    else (hexChar? (cs.take n)).map (·, cs.drop n)

/-- Puts a character in front of what has been read. -/
def push (c : Char) (r : Option (List Char × List Char)) : Option (List Char × List Char) :=
  r.map fun p => (c :: p.1, p.2)

/-- Reads a text in double quotes, from behind the first. -/
def readBasic : Nat → List Char → Option (List Char × List Char)
  | 0, _ => none
  | _, [] => none
  | n + 1, c :: cs =>
    if c = '"' then some ([], cs)
    else if c = '\\' then do
      let (d, cs) ← readEscape? cs
      push d (readBasic n cs)
    else if isTextChar c then push c (readBasic n cs)
    else none

/-- Reads a text in single quotes, from behind the first. -/
def readLiteral (cs : List Char) : Option (List Char × List Char) :=
  match cs.dropWhile fun c => c ≠ '\'' && isTextChar c with
  | '\'' :: rest => some (cs.takeWhile fun c => c ≠ '\'' && isTextChar c, rest)
  | _ => none

/-- Drops spaces and ends of lines. -/
def skipBlank : List Char → List Char
  | '\r' :: '\n' :: cs => skipBlank cs
  | c :: cs => if isSpace c || c = '\n' then skipBlank cs else c :: cs
  | [] => []

/-- Drops the end of a line behind a backslash, and all blanks that follow. -/
def skipFolded? (cs : List Char) : Option (List Char) :=
  match skipSpaces cs with
  | '\n' :: cs => some (skipBlank cs)
  | '\r' :: '\n' :: cs => some (skipBlank cs)
  | _ => none

/-- How many quotes are in front, five at most. -/
def quotesInFront (q : Char) (cs : List Char) : Nat := ((cs.take 5).takeWhile (· = q)).length

/-- Reads a text between triple quotes `q`, from behind the first ones. Escapes count if `q` is a
double quote. Up to two quotes may stand in front of the last three. -/
def readLong (q : Char) : Nat → List Char → Option (List Char × List Char)
  | 0, _ => none
  | _, [] => none
  | n + 1, c :: cs =>
    if c = q then
      let k := quotesInFront q (c :: cs)
      if 3 ≤ k then some (List.replicate (k - 3) q, (c :: cs).drop k) else push c (readLong q n cs)
    else if c = '\\' && q = '"' then
      match skipFolded? cs with
      | some cs => readLong q n cs
      | none => do
        let (d, cs) ← readEscape? cs
        push d (readLong q n cs)
    else if c = '\r' then
      match cs with
      | '\n' :: cs => push '\r' (push '\n' (readLong q n cs))
      | _ => none
    else if c = '\n' || isTextChar c then push c (readLong q n cs)
    else none

/-- Drops the end of a line right behind triple quotes. -/
def skipFirstEnd : List Char → List Char
  | '\n' :: cs => cs
  | '\r' :: '\n' :: cs => cs
  | cs => cs

/-- Reads a text with its quotes. -/
def readString (steps : Nat) : List Char → Option (List Char × List Char)
  | '"' :: '"' :: '"' :: cs => readLong '"' steps (skipFirstEnd cs)
  | '\'' :: '\'' :: '\'' :: cs => readLong '\'' steps (skipFirstEnd cs)
  | '"' :: cs => readBasic steps cs
  | '\'' :: cs => readLiteral cs
  | _ => none

/-! ### Keys -/

/-- Whether a key may hold the character without quotes. -/
def isKeyChar (c : Char) : Bool := c.isAlphanum || c = '_' || c = '-'

/-- Reads one part of a key. -/
def readKeyPart (steps : Nat) (cs : List Char) : Option (String × List Char) :=
  match cs with
  | '"' :: cs => (readBasic steps cs).map fun p => (String.ofList p.1, p.2)
  | '\'' :: cs => (readLiteral cs).map fun p => (String.ofList p.1, p.2)
  | _ =>
    let name := cs.takeWhile isKeyChar
    if name = [] then none else some (String.ofList name, cs.dropWhile isKeyChar)

/-- Reads a key. Its parts have points between them. -/
def readKey : Nat → List Char → Option (Key × List Char)
  | 0, _ => none
  | n + 1, cs => do
    let (name, cs) ← readKeyPart (n + 1) (skipSpaces cs)
    match skipSpaces cs with
    | '.' :: cs => do
      let (k, cs) ← readKey n cs
      return (⟨name :: k.path, k.name⟩, cs)
    | cs => return (⟨[], name⟩, cs)

/-! ### Values -/

/-- Whether a character may belong to a word without quotes. -/
def isWordChar (c : Char) : Bool :=
  c.isAlphanum || c = '_' || c = '-' || c = '+' || c = '.' || c = ':'

/-- Reads a word without quotes. A space may stand between a date and a time. -/
def readWord (cs : List Char) : List Char × List Char :=
  let word := cs.takeWhile isWordChar
  let rest := cs.dropWhile isWordChar
  if dropDate? word = some [] then
    match rest with
    | ' ' :: d :: more =>
      if isDecimal d then
        (word ++ ' ' :: (d :: more).takeWhile isWordChar, (d :: more).dropWhile isWordChar)
      else (word, rest)
    | _ => (word, rest)
  else (word, rest)

/-- How deep arrays and inline tables may nest. -/
def greatestDepth : Nat := 80

/-- Reads a key that is not too deep. -/
def readBoundedKey (steps : Nat) (cs : List Char) : Option (Key × List Char) := do
  let (k, cs) ← readKey steps cs
  if k.path.length < greatestDepth then return (k, cs) else none

mutual

/-- Reads a value. -/
def readValue (steps depth : Nat) (cs : List Char) : Option (Value × List Char) :=
  match steps with
  | 0 => none
  | n + 1 =>
    match cs, depth with
    | '[' :: cs, d + 1 => do
      let (items, cs) ← readItems n d (skipLines false cs)
      return (.array items, cs)
    | '\x7b' :: cs, d + 1 => do
      let (entries, cs) ← readEntries n d [] (skipLines false cs)
      return (.table .inline entries, cs)
    | c :: _, _ =>
      if c = '"' || c = '\'' then
        (readString n cs).map fun p => (.string (String.ofList p.1), p.2)
      else
        let (word, rest) := readWord cs
        (plainValue? word).map (·, rest)
    | [], _ => none

/-- Reads the items of an array up to its end. -/
def readItems (steps depth : Nat) (cs : List Char) : Option (List Value × List Char) :=
  match steps with
  | 0 => none
  | n + 1 =>
    match cs with
    | ']' :: cs => some ([], cs)
    | _ => do
      let (v, cs) ← readValue n depth cs
      match skipLines false cs with
      | ',' :: cs => do
        let (vs, cs) ← readItems n depth (skipLines false cs)
        return (v :: vs, cs)
      | ']' :: cs => return ([v], cs)
      | _ => none

/-- Reads the entries of an inline table up to its end, and adds them to those read before. -/
def readEntries (steps depth : Nat) (t : Table) (cs : List Char) : Option (Table × List Char) :=
  match steps with
  | 0 => none
  | n + 1 =>
    match cs with
    | '\x7d' :: cs => some (t, cs)
    | _ => do
      let (k, cs) ← readBoundedKey n cs
      let cs ← expect '=' (skipLines false cs)
      let (v, cs) ← readValue n depth (skipLines false cs)
      let (_, t) ← Table.addEntry k.path k.name v .inline t
      match skipLines false cs with
      | ',' :: cs => readEntries n depth t (skipLines false cs)
      | '\x7d' :: cs => return (t, cs)
      | _ => none

end

/-! ### Documents -/

/-- Reads a statement, up to the end of its line. -/
def readStatement (steps : Nat) (cs : List Char) : Option (Statement × List Char) :=
  match cs with
  | '[' :: '[' :: cs => do
    let (k, cs) ← readBoundedKey steps cs
    let cs ← expect ']' (← expect ']' cs)
    return (.item k, cs)
  | '[' :: cs => do
    let (k, cs) ← readBoundedKey steps cs
    let cs ← expect ']' cs
    return (.table k, cs)
  | _ => do
    let (k, cs) ← readBoundedKey steps cs
    let cs ← expect '=' cs
    let (v, cs) ← readValue steps greatestDepth (skipSpaces cs)
    return (.entry k v, cs)

/-- Reads statements to the end of the text, and obeys them. -/
def readStatements : Nat → Document → List Char → Option Document
  | 0, _, _ => none
  | n + 1, d, cs =>
    match skipLines false cs with
    | [] => some d
    | cs => do
      let (s, cs) ← readStatement (2 * cs.length + 2) cs
      let cs ← endLine? cs
      let d ← d.apply s
      readStatements n d cs

/-- Drops a byte order mark. -/
def skipMark : List Char → List Char
  | '\uFEFF' :: cs => cs
  | cs => cs

/-- Reads a document. -/
def parse (text : String) : Option Table :=
  let cs := skipMark text.toList
  (readStatements (cs.length + 1) ⟨[], []⟩ cs).map Document.root

end Golden.Toml
