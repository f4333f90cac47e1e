import Golden.Host.Numbers
import Golden.Text.Quoted

/-! # Classes of octets, and escapes

The classes that patterns of all kinds call by name. No octet from 128 on is in any of them.

A backslash and what stands behind it can stand for a character that is hard to write. -/

namespace Golden.Host.CharClass

/-- Whether an octet is a space or a tab. -/
def isBlank (c : Char) : Bool := c = ' ' || c = '\t'

/-- Whether an octet separates fields: it is a blank or ends a line. -/
def isFieldBlank (c : Char) : Bool := isBlank c || c = '\n'

/-- Whether a name can begin with an octet. -/
def isNameStart (c : Char) : Bool := c.isAlpha || c = '_'

/-- Whether an octet can be part of a name or of a word. -/
def isNameChar (c : Char) : Bool := c.isAlphanum || c = '_'

/-- Whether an octet is shown and takes up space. -/
def isGraph (c : Char) : Bool := '!' ≤ c && c ≤ '~'

/-- Whether an octet is neither a letter nor a digit but shown. -/
def isPunct (c : Char) : Bool := isGraph c && !c.isAlphanum

/-- Whether an octet is a control character. -/
def isControl (c : Char) : Bool := c < ' ' || c = '\x7f'

/-- The classes with their names. -/
def table : List (String × (Char → Bool)) :=
  [("alnum", Char.isAlphanum), ("alpha", Char.isAlpha), ("blank", isBlank),
   ("cntrl", isControl), ("digit", Char.isDigit), ("graph", isGraph), ("lower", Char.isLower),
   ("print", fun c => ' ' ≤ c && c ≤ '~'), ("punct", isPunct), ("space", Numbers.isSpace),
   ("upper", Char.isUpper),
   ("xdigit", fun c => c.isDigit || ('a' ≤ c.toLower && c.toLower ≤ 'f'))]

/-- The class with a name. -/
def named? (name : String) : Option (Char → Bool) := table.lookup name

/-- A class in brackets and colons at the beginning of a text, from behind the bracket, and what is
behind it. -/
def atStart? (cs : List Char) : Option (String × List Char) :=
  match cs with
  | ':' :: rest =>
    let name := rest.takeWhile Char.isAlpha
    match rest.drop name.length with
    | ':' :: ']' :: more => some (String.ofList name, more)
    | _ => none
  | _ => none

end Golden.Host.CharClass

namespace Golden.Host.Escapes

/-- The characters that letters behind a backslash stand for. -/
def letter? (c : Char) : Option Char :=
  match c with
  | '\\' => some '\\'
  | 'a' => some '\x07'
  | 'b' => some '\x08'
  | 'e' => some '\x1b'
  | 'f' => some '\x0c'
  | 'n' => some '\n'
  | 'r' => some '\x0d'
  | 't' => some '\t'
  | 'v' => some '\x0b'
  | _ => none

/-- The octet with a number. -/
def octet (n : Nat) : Char := Char.ofNat (n % 256)

/-- The octet that at most `limit` digits stand for, and what is behind them. -/
def readOctet (base limit : Nat) (cs : List Char) : Char × List Char :=
  let ds := (cs.take limit).takeWhile fun c => (Numbers.digit? base c).isSome
  (octet (Numbers.ofDigits base ds), cs.drop ds.length)

end Golden.Host.Escapes
