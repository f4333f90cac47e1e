import Golden.Host.CharClass
import Golden.Host.Numbers
import Golden.Host.Regex

/-! # Reading regular expressions

Two ways to write regular expressions are in use, which differ in what a backslash does to a sign:
it makes an operator of it, or it keeps it from being one. -/

namespace Golden.Host

/-- Why a text is no regular expression. -/
inductive RegexMistake where
  | unmatchedBracket
  | unmatchedOpening
  | unmatchedClosing
  | badRepeat
  | badInterval
  | openInterval
  | trailingBackslash
  | badReference
  | badRange
  | badClass
  | badElement
  | tooBig
  | invalid
  /-- A class that does not stand in brackets. -/
  | bareClass
  deriving DecidableEq, Inhabited

/-- What is said of a mistake. -/
def RegexMistake.message : RegexMistake → String
  | unmatchedBracket => "Unmatched [, [^, [:, [., or [="
  | unmatchedOpening => "Unmatched ( or \\("
  | unmatchedClosing => "Unmatched ) or \\)"
  | badRepeat => "Invalid preceding regular expression"
  | badInterval => "Invalid content of \\\x7b\\\x7d"
  | openInterval => "Unmatched \\\x7b"
  | trailingBackslash => "Trailing backslash"
  | badReference => "Invalid back reference"
  | badRange => "Invalid range end"
  | badClass => "Invalid character class name"
  | badElement => "Invalid collation character"
  | tooBig => "Regular expression too big"
  | invalid => "Invalid regular expression"
  | bareClass => "character class syntax is [[:space:]], not [:space:]"

/-- How a regular expression is written. -/
structure Dialect where
  /-- Operators have no backslash. -/
  extended : Bool
  /-- Operators that cannot be any stand for themselves. -/
  lenient : Bool
  ignoresCase : Bool
  /-- Ends of lines inside the text count for the signs of beginning and end. -/
  lines : Bool
  /-- Backslashes in brackets and in front of letters stand for other characters. -/
  escapes : Bool
  deriving DecidableEq, Inhabited

namespace Regex

/-- What is read, the number of groups that have begun, and those that have ended. -/
structure Progress where
  rest : List Char
  groups : Nat
  closed : List Nat
  deriving DecidableEq, Inhabited

/-- What reads a part of a regular expression. -/
abbrev Reading (α : Type) : Type := Progress → Except RegexMistake (α × Progress)

/-- A letter, or several that are the same if size does not matter. -/
def letterOf (d : Dialect) (c : Char) : Regex :=
  if d.ignoresCase && c.isAlpha then .letter fun x => x.toLower = c.toLower
  else .letter (· = c)

/-- A set of characters, with those of other size if that does not matter. -/
def setOf (d : Dialect) (p : Char → Bool) : Regex :=
  if d.ignoresCase then .letter fun x => p x || p x.toLower || p x.toUpper else .letter p

/-! ### Brackets -/

/-- A part in brackets of the kind that signs tell, and what is behind it. -/
def special? (sign : Char) (cs : List Char) : Option (String × List Char) :=
  let rec go : List Char → List Char → Option (List Char × List Char)
    | _, [] => none
    | name, c :: rest =>
      if c = sign && rest.head? = some ']' then some (name.reverse, rest.tail)
      else go (c :: name) rest
  (go [] cs).map fun r => (String.ofList r.1, r.2)

/-- The character that an escape in brackets stands for. -/
def bracketEscape (c : Char) : Char :=
  match c with
  | 'n' => '\n'
  | 't' => '\t'
  | 'r' => '\x0d'
  | 'f' => '\x0c'
  | 'v' => '\x0b'
  | 'a' => '\x07'
  | 'b' => '\x08'
  | c => c

/-- A member of a set: a character or a class. -/
inductive ReadMember where
  | char (c : Char)
  | named (p : Char → Bool)

/-- Reads a member of a set. -/
def readMember (d : Dialect) (cs : List Char) : Except RegexMistake (ReadMember × List Char) :=
  match cs with
  | [] => .error .unmatchedBracket
  | '[' :: ':' :: rest =>
    match special? ':' rest with
    | none => .error .unmatchedBracket
    | some (name, rest) =>
      match CharClass.named? name with
      | some p => .ok (.named p, rest)
      | none => .error .badClass
  | '[' :: sign :: rest =>
    if sign = '.' || sign = '=' then
      match special? sign rest with
      | none => .error .unmatchedBracket
      | some (name, rest) =>
        match name.toList with
        | [c] => .ok (.char c, rest)
        | _ => .error .badElement
    else .ok (.char '[', sign :: rest)
  | '\\' :: c :: rest =>
    if d.escapes then .ok (.char (bracketEscape c), rest) else .ok (.char '\\', c :: rest)
  | c :: rest => .ok (.char c, rest)

/-- Reads the members of a set up to the bracket that closes it. -/
def readMembers (d : Dialect) :
    Nat → Bool → List Char → (Char → Bool) → Except RegexMistake ((Char → Bool) × List Char)
  | 0, _, _, _ => .error .unmatchedBracket
  | n + 1, isFirst, cs, p => do
    match cs with
    | [] => throw .unmatchedBracket
    | ']' :: rest => if isFirst then go n (.char ']') rest p else return (p, rest)
    | cs => do
      let (m, rest) ← readMember d cs
      go n m rest p
where
  /-- Goes on behind a member. -/
  go (n : Nat) (m : ReadMember) (rest : List Char) (p : Char → Bool) :
      Except RegexMistake ((Char → Bool) × List Char) := do
    match m, rest with
    | .named q, rest => readMembers d n false rest fun x => p x || q x
    | .char a, '-' :: ']' :: rest =>
      readMembers d n false ('-' :: ']' :: rest) fun x => p x || x = a
    | .char a, '-' :: rest =>
      let (m, rest) ← readMember d rest
      match m with
      | .char b =>
        if b < a then throw .badRange
        readMembers d n false rest fun x => p x || (a ≤ x && x ≤ b)
      | .named _ => throw .badRange
    | .char a, rest => readMembers d n false rest fun x => p x || x = a

/-- Reads a set from behind its bracket. -/
def readSet (d : Dialect) (cs : List Char) : Except RegexMistake (Regex × List Char) := do
  let (negated, rest) := match cs with
    | '^' :: rest => (true, rest)
    | rest => (false, rest)
  if rest = [] then throw .unmatchedBracket
  let (p, after) ← readMembers d (2 * rest.length + 2) true rest fun _ => false
  let read := cs.take (cs.length - after.length)
  let isBare := match read with
    | ':' :: more => 2 ≤ more.length && more.dropLast.getLast? = some ':' && 3 ≤ more.length
    | _ => false
  if isBare && !d.escapes then throw .bareClass
  let set (x : Char) : Bool :=
    if d.ignoresCase then p x || p x.toLower || p x.toUpper else p x
  return (.letter fun x => set x != negated, after)

/-! ### Numbers of rounds -/

/-- The greatest number of rounds. -/
def greatestCount : Nat := 32767

/-- Reads the numbers of a repetition from behind the brace. -/
def readCounts (extended : Bool) (cs : List Char) :
    Except RegexMistake (Nat × Option Nat × List Char) := do
  let first := cs.takeWhile Char.isDigit
  let rest := cs.drop first.length
  let (isRange, second, rest) := match rest with
    | ',' :: more =>
      let ds := more.takeWhile Char.isDigit
      (true, ds, more.drop ds.length)
    | more => (false, [], more)
  let rest ← match extended, rest with
    | true, '\x7d' :: rest => pure rest
    | false, '\\' :: '\x7d' :: rest => pure rest
    | _, [] => throw .openInterval
    | false, ['\\'] => throw .openInterval
    | _, _ => throw .badInterval
  if first = [] && !isRange then throw .badInterval
  let least := Numbers.ofDigits 10 first
  let most := if !isRange then some least
    else if second = [] then none
    else some (Numbers.ofDigits 10 second)
  if most.any (· < least) then throw .badInterval
  if greatestCount < max least (most.getD 0) then throw .tooBig
  return (least, most, rest)

/-! ### Parts -/

/-- The signs of beginning and end. -/
def startSign (d : Dialect) : Regex := .assertion (if d.lines then .lineStart else .start)

/-- The sign of the end. -/
def stopSign (d : Dialect) : Regex := .assertion (if d.lines then .lineStop else .stop)

/-- What a backslash in front of a character stands for, if it is neither an operator nor the
character itself. -/
def escaped? (d : Dialect) (c : Char) : Option Regex :=
  match c with
  | 'w' => some (.letter CharClass.isNameChar)
  | 'W' => some (.letter fun x => !CharClass.isNameChar x)
  | 's' => some (.letter Numbers.isSpace)
  | 'S' => some (.letter fun x => !Numbers.isSpace x)
  | 'b' => if d.escapes then none else some (.assertion .wordEdge)
  | 'B' => some (.assertion .noWordEdge)
  | '<' => some (.assertion .wordStart)
  | '>' => some (.assertion .wordStop)
  | '\x60' => some (.assertion .start)
  | '\'' => some (.assertion .stop)
  | _ => none

/-- What an operator of repetition is. -/
inductive Repetition where
  | none
  | counts (least : Nat) (most : Option Nat) (rest : List Char)

/-- The repetition that stands in front. -/
def repetition (d : Dialect) (cs : List Char) : Except RegexMistake Repetition :=
  let interval (rest : List Char) : Except RegexMistake Repetition :=
    match readCounts d.extended rest with
    | .ok (least, most, rest) => .ok (.counts least most rest)
    | .error e =>
      if d.extended && (d.lenient || d.escapes) && e ≠ .tooBig &&
          !(e = .badInterval && (rest.takeWhile fun c => c.isDigit || c = ',') ≠ [] &&
            (rest.dropWhile fun c => c.isDigit || c = ',').head? = some '\x7d') then .ok .none
      else .error e
  match d.extended, cs with
  | _, '*' :: rest => .ok (.counts 0 none rest)
  | true, '+' :: rest | false, '\\' :: '+' :: rest => .ok (.counts 1 none rest)
  | true, '?' :: rest | false, '\\' :: '?' :: rest => .ok (.counts 0 (some 1) rest)
  | true, '\x7b' :: rest | false, '\\' :: '\x7b' :: rest => interval rest
  | _, _ => .ok .none

/-- Applies the repetitions that stand behind a part. -/
def applyRepetitions (d : Dialect) : Nat → Bool → Regex → Reading Regex
  | 0, _, r, p => .ok (r, p)
  | n + 1, isSecond, r, p => do
    match ← repetition d p.rest with
    | .none => return (r, p)
    | .counts least most rest =>
      if isSecond && !d.extended && !d.lenient then throw .badRepeat
      applyRepetitions d n true (.repeated r least most) { p with rest }

/-- Whether a list of parts ends here. -/
def endsBranch (d : Dialect) (cs : List Char) : Bool :=
  match d.extended, cs with
  | _, [] => true
  | true, '|' :: _ | true, ')' :: _ => true
  | false, '\\' :: '|' :: _ | false, '\\' :: ')' :: _ => true
  | _, _ => false

/-- A part that stands for itself. -/
def plain (d : Dialect) (c : Char) (p : Progress) (rest : List Char) :
    Except RegexMistake (Regex × Progress) :=
  .ok (letterOf d c, { p with rest })

/-- Reads a group from behind its sign. -/
def readGroup (d : Dialect) (alternatives : Reading Regex) : Reading Regex := fun p => do
  let number := p.groups + 1
  let (r, p) ← alternatives { p with groups := number }
  match d.extended, p.rest with
  | true, ')' :: rest | false, '\\' :: ')' :: rest =>
    return (.group number r, { p with rest, closed := number :: p.closed })
  | _, _ => throw .unmatchedOpening

/-- Reads a part without what stands behind it. `isFirst` tells whether it begins a branch. -/
def readAtom (d : Dialect) (alternatives : Reading Regex) (isFirst : Bool) : Reading Regex :=
  fun p => do
  match d.extended, p.rest with
  | _, [] => return (.empty, p)
  | _, '[' :: rest =>
    if rest = [] && d.lenient then throw .invalid
    let (r, rest) ← readSet d rest
    return (r, { p with rest })
  | _, '.' :: rest => return (.letter fun _ => true, { p with rest })
  | true, '(' :: rest => readGroup d alternatives { p with rest }
  | false, '\\' :: '(' :: rest => readGroup d alternatives { p with rest }
  | true, '^' :: rest => return (startSign d, { p with rest })
  | true, '$' :: rest => return (stopSign d, { p with rest })
  | false, '^' :: rest =>
    if isFirst then return (startSign d, { p with rest }) else plain d '^' p rest
  | false, '$' :: rest =>
    if endsBranch d rest then return (stopSign d, { p with rest }) else plain d '$' p rest
  | _, '\\' :: [] => throw .trailingBackslash
  | _, '\\' :: c :: rest =>
    if c.isDigit && c ≠ '0' && !d.escapes then
      let n := c.toNat - '0'.toNat
      if p.closed.contains n then return (.back n, { p with rest }) else throw .badReference
    else
      match escaped? d c with
      | some r => return (r, { p with rest })
      | none => plain d (if d.escapes then bracketEscape c else c) p rest
  | _, c :: rest => plain d c p rest

/-- Reads a branch. `isFirst` tells whether nothing has been read of it, or only a sign of the
beginning. -/
def readBranch (d : Dialect) (alternatives : Reading Regex) : Nat → Bool → Regex → Reading Regex
  | 0, _, r, p => .ok (r, p)
  | n + 1, isFirst, r, p => do
    let isClosing : Bool := match d.extended, p.rest with
      | true, ')' :: _ => true
      | false, '\\' :: ')' :: _ => true
      | _, _ => false
    if endsBranch d p.rest && !isClosing then return (r, p)
    if isClosing then return (r, p)
    match isFirst, ← repetition d p.rest with
    | true, .counts _ _ rest =>
      if d.extended then
        if d.lenient || d.escapes then readBranch d alternatives n true r { p with rest }
        else throw .badRepeat
      else
        let isStar := p.rest.head? = some '*'
        if isStar || d.lenient then
          let c := if isStar then '*' else (p.rest.tail.head?).getD '*'
          let rest := if isStar then p.rest.tail else p.rest.drop 2
          let (a, p) ← applyRepetitions d (p.rest.length + 1) false (letterOf d c) { p with rest }
          readBranch d alternatives n false (.seq r a) p
        else throw .badRepeat
    | _, _ =>
      let isStart : Bool := match r with
        | .empty => isFirst
        | _ => false
      let isSign := isFirst && p.rest.head? = some '^' && (d.extended || isStart)
      let (a, p) ← readAtom d alternatives isStart p
      if isSign then readBranch d alternatives n true (.seq r a) p
      else
        let (a, p) ← applyRepetitions d (p.rest.length + 1) false a p
        readBranch d alternatives n false (.seq r a) p

/-- Reads the alternatives behind the first. -/
def readMore (d : Dialect) (branch : Reading Regex) : Nat → Regex → Reading Regex
  | 0, r, p => .ok (r, p)
  | n + 1, r, p => do
    match d.extended, p.rest with
    | true, '|' :: rest | false, '\\' :: '|' :: rest =>
      let (b, p) ← branch { p with rest }
      readMore d branch n (.alt r b) p
    | _, _ => return (r, p)

/-- Reads alternatives in which groups lie at most `n` deep in each other. -/
def readAlternatives (d : Dialect) : Nat → Reading Regex
  | 0 => fun _ => .error .tooBig
  | n + 1 => fun p => do
    let branch : Reading Regex := fun p =>
      readBranch d (readAlternatives d n) (p.rest.length + 1) true .empty p
    let (r, p) ← branch p
    readMore d branch (p.rest.length + 1) r p

/-- Reads a regular expression whose groups all close. A sign that closes none stands for itself if
that is allowed. -/
def readWhole (d : Dialect) : Nat → Regex → Reading Regex
  | 0, r, p => .ok (r, p)
  | n + 1, r, p => do
    let (a, p) ← readAlternatives d (p.rest.length + 2) p
    let r := Regex.seq r a
    match d.extended, p.rest with
    | true, ')' :: rest =>
      if d.lenient then readWhole d n (.seq r (letterOf d ')')) { p with rest }
      else throw .unmatchedClosing
    | false, '\\' :: ')' :: _ => throw .unmatchedClosing
    | _, _ => return (r, p)

end Regex

/-- The regular expression that a text stands for. -/
def Matcher.ofText (d : Dialect) (s : String) : Except RegexMistake Matcher := do
  let (r, p) ← Regex.readWhole d (s.length + 1) .empty ⟨s.toList, 0, []⟩
  return ⟨r, p.groups, d.ignoresCase⟩

end Golden.Host
