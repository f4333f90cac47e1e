import Golden.Text.Shape

/-! # Quoted texts

`quote` writes a text between double quotes: six characters have an escape of their own, characters
without a shape are spelled `\u{…}` in hexadecimal, all others stand for themselves. `unescape`
reads the part between the quotes. It knows more escapes than `quote` writes, octal numbers of one
to three digits among them. -/

namespace Golden.Text

/-- The escapes that consist of a backslash and a letter, as `quote` writes them. -/
def escapeLetter? : Char → Option Char
  | '\x00' => some '0'
  | '\t' => some 't'
  | '\n' => some 'n'
  | '\r' => some 'r'
  | '"' => some '"'
  | '\\' => some '\\'
  | _ => none

/-- How a character is written inside quotes. -/
def escapeChar (c : Char) : List Char :=
  match escapeLetter? c with
  | some l => ['\\', l]
  | none =>
    if hasShape c then [c]
    else ['\\', 'u', '{'] ++ Nat.toDigits 16 c.toNat ++ ['}']

/-- A text inside quotes, without the quotes. -/
def escape (cs : List Char) : List Char := cs.flatMap escapeChar

/-- A text between double quotes. -/
def quote (s : String) : String := String.ofList ('"' :: (escape s.toList ++ ['"']))

/-- A path between double quotes. An apostrophe is escaped as well. -/
def quotePath (s : String) : String :=
  let escape (c : Char) : List Char := if c = '\'' then ['\\', c] else escapeChar c
  String.ofList ('"' :: (s.toList.flatMap escape ++ ['"']))

/-- How a character is written inside the quotes of the name of a program: controls of ASCII by two
digits. -/
def escapeNameChar (c : Char) : List Char :=
  if c = '\'' then ['\\', c]
  else if c ∈ ['\t', '\n', '\r'] ∨ 0x7F < c.toNat ∨ hasShape c then escapeChar c
  else ['\\', 'x'] ++ (if c.toNat < 16 then ['0'] else []) ++ Nat.toDigits 16 c.toNat

/-- The name of a program between double quotes. -/
def quoteName (s : String) : String :=
  String.ofList ('"' :: (s.toList.flatMap escapeNameChar ++ ['"']))

/-- A list of texts in brackets, each of them written by `write`. -/
def quoteListWith (write : String → String) (ss : List String) : String :=
  "[" ++ ", ".intercalate (ss.map write) ++ "]"

/-- A list of quoted texts in brackets. -/
def quoteList (ss : List String) : String := quoteListWith quote ss

/-! ### Reading -/

/-- The value of a hexadecimal digit. -/
def hexDigit? (c : Char) : Option Nat :=
  if '0' ≤ c ∧ c ≤ '9' then some (c.toNat - '0'.toNat)
  else if 'a' ≤ c ∧ c ≤ 'f' then some (c.toNat - 'a'.toNat + 10)
  else if 'A' ≤ c ∧ c ≤ 'F' then some (c.toNat - 'A'.toNat + 10)
  else none

/-- The value of an unsigned numeral in base 16. A plus sign may come first. -/
def hexValue? (cs : List Char) : Option Nat :=
  match cs with
  | [] => none
  | ['+'] => none
  | '+' :: ds => value ds
  | ds => value ds
where
  /-- The value of the digits. -/
  value (ds : List Char) : Option Nat :=
    (ds.mapM hexDigit?).map fun vs => vs.foldl (fun n v => n * 16 + v) 0

/-- The character with the given number, if there is one. -/
def charOfNat? (n : Nat) : Option Char := if n.isValidChar then some (Char.ofNat n) else none

/-- Reads a number of exactly `n` hexadecimal characters. -/
def readHex (n : Nat) (cs : List Char) : Option (Char × List Char) :=
  if cs.length < n then none
  else ((hexValue? (cs.take n)).bind charOfNat?).map (·, cs.drop n)

/-- Reads a number up to the next closing brace. -/
def readBraced (cs : List Char) : Option (Char × List Char) :=
  match cs.dropWhile (· ≠ '}') with
  | [] => none
  | _ :: rest => ((hexValue? (cs.takeWhile (· ≠ '}'))).bind charOfNat?).map (·, rest)

/-- Whether the character is an octal digit. -/
def isOctal (c : Char) : Bool := '0' ≤ c && c ≤ '7'

/-- Reads a number of one to three octal digits. -/
def readOctal (cs : List Char) : Option (Char × List Char) :=
  let ds := (cs.take 3).takeWhile isOctal
  if ds = [] then none
  else
    (charOfNat? (ds.foldl (fun n d => n * 8 + (d.toNat - '0'.toNat)) 0)).map (·, cs.drop ds.length)

/-- The character that a backslash and a letter stand for. -/
def unescapeLetter? : Char → Option Char
  | 'a' => some '\x07'
  | 'b' => some '\x08'
  | 't' => some '\t'
  | 'n' => some '\n'
  | 'v' => some '\x0B'
  | 'f' => some '\x0C'
  | 'r' => some '\r'
  | 'e' => some '\x1B'
  | '`' => some '`'
  | '\'' => some '\''
  | '"' => some '"'
  | '\\' => some '\\'
  | _ => none

/-- Reads what follows a backslash. -/
def readEscape : List Char → Option (Char × List Char)
  | 'x' :: rest => readHex 2 rest
  | 'u' :: '{' :: rest => readBraced rest
  | 'u' :: rest => readHex 4 rest
  | c :: rest =>
    match unescapeLetter? c with
    | some d => some (d, rest)
    | none => readOctal (c :: rest)
  | [] => none

theorem length_of_readHex {n : Nat} {cs : List Char} {p : Char × List Char}
    (h : readHex n cs = some p) : p.2.length ≤ cs.length := by
  unfold readHex at h
  split at h
  · cases h
  · obtain ⟨c, _, rfl⟩ := Option.map_eq_some_iff.1 h
    simp

theorem length_of_readBraced {cs : List Char} {p : Char × List Char}
    (h : readBraced cs = some p) : p.2.length ≤ cs.length := by
  unfold readBraced at h
  split at h
  · cases h
  · next heq =>
    obtain ⟨c, _, rfl⟩ := Option.map_eq_some_iff.1 h
    have := (List.dropWhile_suffix (l := cs) (· ≠ '}')).length_le
    rw [heq] at this
    simp at this ⊢
    omega

theorem length_of_readOctal {cs : List Char} {p : Char × List Char}
    (h : readOctal cs = some p) : p.2.length ≤ cs.length := by
  simp only [readOctal] at h
  split at h
  · cases h
  · obtain ⟨c, _, rfl⟩ := Option.map_eq_some_iff.1 h
    simp

theorem length_of_readEscape {cs : List Char} {p : Char × List Char}
    (h : readEscape cs = some p) : p.2.length ≤ cs.length := by
  unfold readEscape at h
  split at h
  · have := length_of_readHex h; simp; omega
  · have := length_of_readBraced h; simp; omega
  · have := length_of_readHex h; simp; omega
  · split at h
    · cases h; simp
    · exact length_of_readOctal h
  · cases h

/-- The text inside quotes. There is none if a backslash begins no escape. -/
def unescape (cs : List Char) : Option (List Char) :=
  match cs with
  | [] => some []
  | '\\' :: rest =>
    match _h : readEscape rest with
    | none => none
    | some p => (unescape p.2).map (p.1 :: ·)
  | c :: rest => (unescape rest).map (c :: ·)
termination_by cs.length
decreasing_by
  · exact Nat.lt_succ_of_le (length_of_readEscape _h)
  · simp

end Golden.Text
