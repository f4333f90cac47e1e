import Golden.Host.CharClass
import Golden.Host.Sed.Script

/-! # Reading scripts of the stream editor

A script is read from characters. A mistake is told with the place up to which it has been read. -/

namespace Golden.Host.Sed

/-- Why a script makes no sense. -/
inductive Fault where
  | manyNots
  | badComma
  | badStep
  | openBlock
  | closedBlock
  | moreThanCommand
  | expectedSlash
  | addressedClose
  | addressedLabel
  | addressedComment
  | noCommand
  | oneAddress
  | openPattern
  | openSubstitution
  | openTranslation
  | unknownOption
  | manyPrints
  | manyAlls
  | manyNumbers
  | zeroNumber
  | unlike
  | lineZero
  | unknown (c : Char)
  | noLabel
  | noFile
  | badGroup (n : Nat)
  | badPattern (e : RegexMistake)
  | emptyModified
  | newer
  /-- A jump leads nowhere. -/
  | lost (label : String)
  deriving DecidableEq, Inhabited

/-- What is said of a fault. -/
def Fault.message : Fault → String
  | manyNots => "multiple \x60!'s"
  | badComma => "unexpected \x60,'"
  | badStep => "invalid usage of +N or ~N as first address"
  | openBlock => "unmatched \x60\x7b'"
  | closedBlock => "unexpected \x60\x7d'"
  | moreThanCommand => "extra characters after command"
  | expectedSlash => "expected \\ after \x60a', \x60c' or \x60i'"
  | addressedClose => "\x60\x7d' doesn't want any addresses"
  | addressedLabel => ": doesn't want any addresses"
  | addressedComment => "comments don't accept any addresses"
  | noCommand => "missing command"
  | oneAddress => "command only uses one address"
  | openPattern => "unterminated address regex"
  | openSubstitution => "unterminated \x60s' command"
  | openTranslation => "unterminated \x60y' command"
  | unknownOption => "unknown option to \x60s'"
  | manyPrints => "multiple \x60p' options to \x60s' command"
  | manyAlls => "multiple \x60g' options to \x60s' command"
  | manyNumbers => "multiple number options to \x60s' command"
  | zeroNumber => "number option to \x60s' command may not be zero"
  | unlike => "strings for \x60y' command are different lengths"
  | lineZero => "invalid usage of line address 0"
  | unknown c => "unknown command: \x60" ++ String.singleton c ++ "'"
  | noLabel => "\":\" lacks a label"
  | noFile => "missing filename in r/R/w/W commands"
  | badGroup n => "invalid reference \\" ++ toString n ++ " on \x60s' command's RHS"
  | badPattern e => e.message
  | emptyModified => "cannot specify modifiers on empty regexp"
  | newer => "expected newer version of sed"
  | lost label => "can't find label for jump to \x60" ++ label ++ "'"

/-- A fault with the number of characters that have not been read. -/
structure Mistake where
  fault : Fault
  left : Nat
  deriving DecidableEq, Inhabited

/-- What reads a part of a script. -/
abbrev Reader (α : Type) : Type := List Char → Except Mistake (α × List Char)

/-- Fails in front of some characters. -/
def failAt {α : Type} (fault : Fault) (rest : List Char) : Except Mistake α :=
  .error ⟨fault, rest.length⟩

/-- How patterns are written. -/
structure Manner where
  extended : Bool
  deriving DecidableEq, Inhabited

/-! ### Texts between delimiters -/

/-- What is behind blanks. -/
def skipBlanks (cs : List Char) : List Char :=
  cs.dropWhile fun c => Numbers.isSpace c && c ≠ '\n'

/-- The end of a set in brackets, from behind the opening one. -/
def setEnd : Nat → Bool → List Char → List Char → Option (List Char × List Char)
  | 0, _, _, _ => none
  | _, _, _, [] => none
  | n + 1, isFirst, done, c :: cs =>
    if c = ']' && !isFirst then some ((']' :: done).reverse, cs)
    else if c = '^' && isFirst && done = [] then setEnd n true ['^'] cs
    else if c = '[' then
      match cs with
      | s :: rest =>
        if s = ':' || s = '.' || s = '=' then
          let inner := named s [] rest
          match inner with
          | some (text, rest) => setEnd n false (text.reverse ++ [s, '['] ++ done) rest
          | none => none
        else setEnd n false ('[' :: done) cs
      | [] => none
    else setEnd n false (c :: done) cs
where
  /-- A part up to a sign and a bracket. -/
  named (sign : Char) : List Char → List Char → Option (List Char × List Char)
    | done, c :: d :: rest =>
      if c = sign && d = ']' then some ((']' :: sign :: done).reverse, rest)
      else named sign (c :: done) (d :: rest)
    | _, _ => none

/-- Backslashes in a set: in front of the delimiter they are dropped, and a letter may stand for the
end of a line. -/
def settleSet (delimiter : Char) : List Char → List Char
  | '\\' :: c :: cs =>
    if c = delimiter then c :: settleSet delimiter cs
    else if c = 'n' then '\n' :: settleSet delimiter cs
    else '\\' :: c :: settleSet delimiter cs
  | c :: cs => c :: settleSet delimiter cs
  | [] => []

/-- The text up to a delimiter, and what is behind it. In a pattern a letter may stand for the end
of a line, and a delimiter in a set ends nothing. -/
def upTo (delimiter : Char) (isPattern : Bool) :
    Nat → List Char → List Char → Except (List Char) (List Char × List Char)
  | 0, _, cs => .error cs
  | _, _, [] => .error []
  | n + 1, done, c :: cs =>
    if c = delimiter then .ok (done.reverse, cs)
    else if c = '\n' && isPattern then .error (c :: cs)
    else if c = '\\' then
      match cs with
      | [] => .error []
      | d :: rest =>
        if d = 'n' && isPattern then upTo delimiter isPattern n ('\n' :: done) rest
        else if d = '\n' then upTo delimiter isPattern n ('\n' :: '\\' :: done) rest
        else if d = delimiter && (isPattern || d ≠ '&') then
          upTo delimiter isPattern n (d :: done) rest
        else upTo delimiter isPattern n (d :: '\\' :: done) rest
    else if c = '\n' then .error (c :: cs)
    else if c = '[' && isPattern then
      match setEnd (cs.length + 1) true [] cs with
      | some (inner, rest) =>
        if inner.contains '\n' then .error (cs.dropWhile (· ≠ '\n'))
        else upTo delimiter isPattern n ((settleSet delimiter inner).reverse ++ '[' :: done) rest
      | none => .error (cs.dropWhile (· ≠ '\n'))
    else upTo delimiter isPattern n (c :: done) cs

/-- Escapes that stand for single characters. A character that would mean something in a replacement
keeps a backslash if `keeps`. -/
def settleEscapes (keeps : Bool) : Nat → List Char → List Char
  | 0, cs => cs
  | _, [] => []
  | n + 1, '\\' :: c :: cs =>
    let number (base limit : Nat) : List Char :=
      if cs.head?.any fun d => (Numbers.digit? base d).isSome then
        let (d, rest) := Escapes.readOctet base limit cs
        let isSpecial := keeps && (d = '\\' || d = '&' || d = '\n')
        (if isSpecial then ['\\', d] else [d]) ++ settleEscapes keeps n rest
      else '\\' :: c :: settleEscapes keeps n cs
    match c with
    | 'a' => '\x07' :: settleEscapes keeps n cs
    | 'f' => '\x0c' :: settleEscapes keeps n cs
    | 'r' => '\x0d' :: settleEscapes keeps n cs
    | 't' => '\t' :: settleEscapes keeps n cs
    | 'v' => '\x0b' :: settleEscapes keeps n cs
    | 'd' => number 10 3
    | 'o' => number 8 3
    | 'x' => number 16 2
    | 'c' =>
      match cs with
      | d :: rest =>
        let k := d.toUpper.toNat
        Char.ofNat (if k < 64 then k + 64 else k - 64) :: settleEscapes keeps n rest
      | [] => ['\\', 'c']
    | c => '\\' :: c :: settleEscapes keeps n cs
  | n + 1, c :: cs => c :: settleEscapes keeps n cs

/-- A pattern with flags. -/
def readPattern (m : Manner) (text : List Char) (ignoresCase lines : Bool) (rest : List Char) :
    Except Mistake Pattern :=
  if text = [] then if ignoresCase || lines then failAt .emptyModified rest else .ok none
  else
    let settled := settleEscapes false (text.length + 1) text
    match Matcher.ofText ⟨m.extended, false, ignoresCase, lines, false⟩ (String.ofList settled) with
    | .ok p => .ok (some p)
    | .error e => failAt (.badPattern e) rest

/-! ### Addresses -/

/-- A whole number at the beginning. -/
def readNumber (cs : List Char) : Nat × List Char := Numbers.readDigits 10 0 cs

/-- The flags of a pattern in an address. -/
def patternFlags : Nat → Bool → Bool → List Char → Bool × Bool × List Char
  | 0, i, m, cs => (i, m, cs)
  | n + 1, i, m, cs =>
    match skipBlanks cs with
    | 'I' :: rest => patternFlags n true m rest
    | 'M' :: rest => patternFlags n i true rest
    | rest => (i, m, rest)

/-- Reads an address, if there is one. -/
def readAddress (m : Manner) : Reader (Option Address) := fun cs =>
  let pattern (delimiter : Char) (rest : List Char) :
      Except Mistake (Option Address × List Char) := do
    match upTo delimiter true (rest.length + 1) [] rest with
    | .error left => failAt .openPattern left
    | .ok (text, rest) =>
      let (ignoresCase, lines, rest) := patternFlags (rest.length + 1) false false rest
      let p ← readPattern m text ignoresCase lines rest
      return (some (.pattern p), rest)
  match cs with
  | '/' :: rest => pattern '/' rest
  | '\\' :: c :: rest => pattern c rest
  | '$' :: rest => .ok (some .last, rest)
  | c :: _ =>
    if c.isDigit then
      let (n, rest) := readNumber cs
      match skipBlanks rest with
      | '~' :: more =>
        let (k, more) := readNumber (skipBlanks more)
        .ok (some (if k = 0 then .line n else .step n k), more)
      | _ => .ok (some (.line n), rest)
    else .ok (none, cs)
  | [] => .ok (none, cs)

/-- Reads the end of a range. -/
def readRangeEnd (m : Manner) : Reader RangeEnd := fun cs => do
  match cs with
  | '+' :: rest =>
    let (n, rest) := readNumber (skipBlanks rest)
    return (.after n, rest)
  | '~' :: rest =>
    let (n, rest) := readNumber (skipBlanks rest)
    return (.multiple n, rest)
  | cs =>
    match ← readAddress m cs with
    | (some a, rest) => return (.address a, rest)
    | (none, rest) => failAt .badComma rest.tail

/-- Reads which lines a command is for. -/
def readSelection (m : Manner) : Reader Selection := fun cs => do
  match cs with
  | '+' :: rest | '~' :: rest => failAt .badStep (readNumber (skipBlanks rest)).2
  | _ => pure ()
  match ← readAddress m cs with
  | (none, rest) => return (.all, rest)
  | (some a, rest) =>
    match skipBlanks rest with
    | ',' :: more =>
      let (last, more) ← readRangeEnd m (skipBlanks more)
      match a, last with
      | .line 0, .address (.pattern p) => return (.fromStart p, more)
      | .line 0, _ => failAt .lineZero (skipBlanks more).tail
      | a, last => return (.range a last, more)
    | rest =>
      match a with
      | .line 0 => failAt .lineZero rest.tail
      | a => return (.one a, rest)

/-! ### Ends of commands -/

/-- Reads the end of a command. -/
def readEnd : Reader Unit := fun cs =>
  match skipBlanks cs with
  | [] => .ok ((), [])
  | c :: rest =>
    if c = '\x7d' || c = '#' then .ok ((), c :: rest)
    else if c = '\n' || c = ';' then .ok ((), rest)
    else failAt .moreThanCommand rest

/-- The rest of a line. -/
def readLine (cs : List Char) : List Char × List Char :=
  let line := cs.takeWhile (· ≠ '\n')
  (line, (cs.drop line.length).tail)

/-- The name of a file up to the end of its line. -/
def readFileName : Reader String := fun cs =>
  let rest := skipBlanks cs
  let (name, more) := readLine rest
  if name = [] then failAt .noFile rest else .ok (String.ofList name, more)

/-- The name of a place in the script. -/
def readLabel (cs : List Char) : String × List Char :=
  let rest := skipBlanks cs
  let name := rest.takeWhile fun c => !Numbers.isSpace c && c ≠ ';' && c ≠ '\x7d'
  (String.ofList name, rest.drop name.length)

/-! ### Texts -/

/-- The lines of a text up to one whose end has no backslash in front. Backslashes are dropped. -/
def readTextLines : Nat → List Char → List Char → List Char × List Char
  | 0, cs, done => (done.reverse, cs)
  | _, [], done => (('\n' :: done).reverse, [])
  | n + 1, c :: cs, done =>
    if c = '\n' then (('\n' :: done).reverse, cs)
    else if c = '\\' then
      match cs with
      | [] => (('\n' :: done).reverse, [])
      | 'n' :: rest => readTextLines n rest ('\n' :: done)
      | d :: rest =>
        match settleEscapes false 2 ('\\' :: d :: rest) with
        | '\\' :: _ => readTextLines n rest (d :: done)
        | e :: _ =>
          let used := ['a', 'f', 'r', 't', 'v'].contains d
          if used then readTextLines n rest (e :: done)
          else
            let whole := settleEscapes false (rest.length + 3) ('\\' :: d :: rest.take 3)
            let taken := numberLength d rest
            readTextLines n (rest.drop taken) ((whole.headD d) :: done)
        | [] => readTextLines n rest (d :: done)
    else readTextLines n cs (c :: done)
where
  /-- The length of a number behind a letter. -/
  numberLength (letter : Char) (cs : List Char) : Nat :=
    let (base, limit) : Nat × Nat := match letter with
      | 'd' => (10, 3)
      | 'o' => (8, 3)
      | 'x' => (16, 2)
      | _ => (10, 1)
    if letter = 'c' then 1
    else ((cs.take limit).takeWhile fun c => (Numbers.digit? base c).isSome).length

/-- Reads the text of a command. -/
def readText : Reader String := fun cs =>
  let finish (rest : List Char) : Except Mistake (String × List Char) :=
    let (text, rest) := readTextLines (rest.length + 1) rest []
    .ok (String.ofList text, rest)
  match skipBlanks cs with
  | [] => failAt .expectedSlash []
  | '\\' :: rest =>
    match skipBlanks rest with
    | '\n' :: more => finish more
    | [] => .ok ("", [])
    | _ =>
      match rest with
      | c :: _ =>
        if CharClass.isBlank c then finish (keepBlanks rest)
        else finish rest
      | [] => .ok ("", [])
  | rest => finish rest
where
  /-- Blanks behind a backslash belong to the text. -/
  keepBlanks (cs : List Char) : List Char := cs

/-! ### Substitutions -/

/-- The parts of a replacement. `text` is what has been read of a text, backwards. -/
def pieces : Nat → List Char → List Char → List Piece
  | 0, _, _ => []
  | _, text, [] => flush text []
  | n + 1, text, '\\' :: c :: cs =>
    match c with
    | 'L' => flush text (.sizing .small :: pieces n [] cs)
    | 'U' => flush text (.sizing .large :: pieces n [] cs)
    | 'E' => flush text (.sizing .keep :: pieces n [] cs)
    | 'l' => flush text (.sizing .nextSmall :: pieces n [] cs)
    | 'u' => flush text (.sizing .nextLarge :: pieces n [] cs)
    | 'n' => pieces n ('\n' :: text) cs
    | c =>
      if c.isDigit then flush text (.group (c.toNat - '0'.toNat) :: pieces n [] cs)
      else pieces n (c :: text) cs
  | n + 1, text, '&' :: cs => flush text (.group 0 :: pieces n [] cs)
  | n + 1, text, c :: cs => pieces n (c :: text) cs
where
  /-- A text in front of other parts. -/
  flush (text : List Char) (rest : List Piece) : List Piece :=
    if text = [] then rest else .text (String.ofList text.reverse) :: rest

/-- The flags of a substitution. -/
structure Flags where
  number : Option Nat
  all : Bool
  prints : Bool
  printsEarly : Bool
  evaluates : Bool
  ignoresCase : Bool
  lines : Bool
  target : Option Target
  deriving DecidableEq, Inhabited

/-- Reads the flags of a substitution. -/
def readFlags : Nat → Flags → Reader Flags
  | 0, f, cs => .ok (f, cs)
  | _, f, [] => .ok (f, [])
  | n + 1, f, c :: cs =>
    match c with
    | 'i' | 'I' => readFlags n { f with ignoresCase := true } cs
    | 'm' | 'M' => readFlags n { f with lines := true } cs
    | 'e' => readFlags n { f with evaluates := true } cs
    | 'p' =>
      if f.prints then failAt .manyPrints cs
      else readFlags n { f with prints := true, printsEarly := !f.evaluates } cs
    | 'g' => if f.all then failAt .manyAlls cs else readFlags n { f with all := true } cs
    | 'w' => do
      let (name, rest) ← readFileName cs
      return ({ f with target := some (.ofName name) }, rest)
    | '\n' | ';' => .ok (f, cs)
    | '#' | '\x7d' => .ok (f, c :: cs)
    | c =>
      if c.isDigit then
        if f.number.isSome then failAt .manyNumbers cs
        else
          let (k, rest) := readNumber (c :: cs)
          if k = 0 then failAt .zeroNumber rest
          else readFlags n { f with number := some k } rest
      else if Numbers.isSpace c then readFlags n f cs
      else failAt .unknownOption cs

/-- Reads a substitution. -/
def readSubstitution (m : Manner) : Reader Deed := fun cs => do
  match cs with
  | [] => failAt .openSubstitution []
  | delimiter :: rest =>
    if delimiter = '\n' || delimiter = '\\' then failAt .openSubstitution rest
    let fuel := rest.length + 1
    match upTo delimiter true fuel [] rest with
    | .error left => failAt .openSubstitution left
    | .ok (text, rest) =>
      match upTo delimiter false fuel [] rest with
      | .error left => failAt .openSubstitution left
      | .ok (replacement, rest) =>
        let (f, after) ← readFlags (rest.length + 1) default rest
        let p ← readPattern m text f.ignoresCase f.lines after
        let settled := settleEscapes true (replacement.length + 1) replacement
        let ps := pieces (settled.length + 1) [] settled
        let greatest := ps.foldl (fun k p => match p with
          | .group j => max k j
          | _ => k) 0
        if p.any fun q => q.groups < greatest then failAt (.badGroup greatest) after
        return (.substitute ⟨p, ps, f.number.getD 1, f.all, f.prints, f.printsEarly, f.evaluates,
          f.target⟩, after)

/-- The characters of a list of letters. -/
def lettersOf (delimiter : Char) : List Char → List Char
  | '\\' :: c :: cs =>
    if c = '\\' || c = delimiter then c :: lettersOf delimiter cs
    else if c = 'n' then '\n' :: lettersOf delimiter cs
    else if c = '\n' then '\n' :: lettersOf delimiter cs
    else '\\' :: lettersOf delimiter (c :: cs)
  | c :: cs => c :: lettersOf delimiter cs
  | [] => []

/-- Reads which letters stand for which. -/
def readTranslation : Reader Deed := fun cs => do
  match cs with
  | [] => failAt .openTranslation []
  | delimiter :: rest =>
    let fuel := rest.length + 1
    match upTo delimiter false fuel [] rest with
    | .error left => failAt .openTranslation left
    | .ok (a, rest) =>
      match upTo delimiter false fuel [] rest with
      | .error left => failAt .openTranslation left
      | .ok (b, rest) =>
        let settle (cs : List Char) : List Char :=
          lettersOf delimiter (settleEscapes true (cs.length + 1) cs)
        let a := settle a
        let b := settle b
        if a.length ≠ b.length then failAt .unlike rest
        let ((), after) ← readEnd rest
        return (.mapLetters (a.zip b), after)

/-! ### Commands -/

/-- A command whose jump is still told by a label, or that begins or ends a block. -/
inductive Draft where
  | deed (d : Deed)
  | jump (make : Nat → Deed) (label : String)
  | opens
  | closes
  | label (name : String)
  | nothing

/-- A number behind a command, if there is one. -/
def readCount : Reader (Option Nat) := fun cs => do
  let rest := skipBlanks cs
  let (n, more) := readNumber rest
  let ((), after) ← readEnd more
  return (if more.length = rest.length then none else some n, after)

/-- Whether lines are selected at all. -/
def Selection.isAll : Selection → Bool
  | all => true
  | _ => false

/-- Reads a command behind its addresses, inside a block or not. -/
def readDeed (m : Manner) (s : Selection) (isInside : Bool) : Reader Draft := fun cs => do
  let simple (d : Deed) (rest : List Char) : Except Mistake (Draft × List Char) := do
    let ((), rest) ← readEnd rest
    return (.deed d, rest)
  let withText (make : String → Deed) (rest : List Char) : Except Mistake (Draft × List Char) := do
    let (text, rest) ← readText rest
    return (.deed (make text), rest)
  let withFile (make : String → Deed) (rest : List Char) : Except Mistake (Draft × List Char) := do
    let (name, rest) ← readFileName rest
    return (.deed (make name), rest)
  let jump (make : Nat → Deed) (rest : List Char) : Except Mistake (Draft × List Char) := do
    let (name, rest) := readLabel rest
    return (.jump make name, rest)
  match cs with
  | [] => failAt .noCommand []
  | c :: rest =>
    match c with
    | '#' =>
      if !s.isAll then failAt .addressedComment rest
      return (.nothing, (readLine rest).2)
    | ':' =>
      if !s.isAll then failAt .addressedLabel rest
      let (name, rest) := readLabel rest
      if name = "" then failAt .noLabel rest
      return (.label name, rest)
    | '\x7b' => return (.opens, rest)
    | '\x7d' =>
      if !isInside then failAt .closedBlock rest
      if !s.isAll then failAt .addressedClose rest
      let ((), after) ← readEnd rest
      return (.closes, after)
    | '=' => simple .number rest
    | 'a' => withText .append rest
    | 'b' => jump .jump rest
    | 'c' => withText .change rest
    | 'D' => simple .deleteFirst rest
    | 'd' => simple .delete rest
    | 'e' =>
      let (command, rest) := readLine (skipBlanks rest)
      return (.deed (.evaluate (String.ofList command)), rest)
    | 'F' => simple .fileName rest
    | 'G' => simple .appendHold rest
    | 'g' => simple .takeHold rest
    | 'H' => simple .holdMore rest
    | 'h' => simple .hold rest
    | 'i' => withText .insert rest
    | 'l' =>
      let (n, rest) ← readCount rest
      return (.deed (.list n), rest)
    | 'N' => simple .join rest
    | 'n' => simple .next rest
    | 'P' => simple .printFirst rest
    | 'p' => simple .print rest
    | 'Q' | 'q' =>
      match s with
      | .range .. | .fromStart _ => failAt .oneAddress rest
      | _ =>
        let (n, rest) ← readCount rest
        let status := n.getD 0
        return (.deed (if c = 'q' then .quit status else .quitAtOnce status), rest)
    | 'R' => withFile .readLine rest
    | 'r' => withFile .readFile rest
    | 's' =>
      let (d, rest) ← readSubstitution m rest
      return (.deed d, rest)
    | 'T' => jump .jumpUnlessDone rest
    | 't' => jump .jumpIfDone rest
    | 'v' =>
      let (version, rest) := readLabel rest
      let parts := (version.splitOn ".").map fun p => Numbers.ofDigits 10 p.toList
      if [4, 9, 0] < parts then failAt .newer rest
      return (.nothing, rest)
    | 'W' => withFile (fun f => .writeFirst (.ofName f)) rest
    | 'w' => withFile (fun f => .write (.ofName f)) rest
    | 'x' => simple .exchange rest
    | 'y' =>
      let (d, rest) ← readTranslation rest
      return (.deed d, rest)
    | 'z' => simple .clear rest
    | c => failAt (.unknown c) rest

/-- A draft of a command with its addresses. -/
structure Drafted where
  selection : Selection
  isInverted : Bool
  draft : Draft

/-- Reads commands up to the end of a script. `opened` tells for each block around them, the
innermost first, what had not been read where it began. -/
def readCommands (m : Manner) : Nat → List Nat → List Char → List Drafted →
    Except Mistake (List Drafted)
  | 0, _, _, done => .ok done.reverse
  | n + 1, opened, cs, done => do
    match cs.dropWhile fun c => Numbers.isSpace c || c = ';' with
    | [] =>
      match opened with
      | [] => return done.reverse
      | left :: _ => throw ⟨.openBlock, left⟩
    | cs =>
      let (s, rest) ← readSelection m cs
      let rest := skipBlanks rest
      let (isInverted, rest) ← match rest with
        | '!' :: more =>
          match skipBlanks more with
          | '!' :: more => failAt .manyNots more
          | more => pure (true, more)
        | rest => pure (false, rest)
      let (d, after) ← readDeed m s (opened ≠ []) rest
      let opened ← match d, opened with
        | .opens, opened => pure (after.length :: opened)
        | .closes, opened => pure opened.tail
        | _, opened => pure opened
      readCommands m n opened after (⟨s, isInverted, d⟩ :: done)

/-- The place behind the end of a block that begins just before some commands, the first of which is
at a place. -/
def behindBlock : Nat → Nat → List Drafted → Nat
  | _, place, [] => place
  | depth, place, d :: rest =>
    match d.draft with
    | .opens => behindBlock (depth + 1) (place + 1) rest
    | .closes => if depth = 0 then place + 1 else behindBlock (depth - 1) (place + 1) rest
    | _ => behindBlock depth (place + 1) rest

/-- The place of a label. -/
def placeOfLabel (ds : List Drafted) (name : String) : Option Nat :=
  ds.findIdx? fun d =>
    match d.draft with
    | .label n => n = name
    | _ => false

/-- Commands whose jumps lead to places. -/
def settleJumps (all : List Drafted) : Nat → List Drafted → Except Mistake (List Command)
  | _, [] => .ok []
  | place, d :: rest => do
    let deed ← match d.draft with
      | .deed x => pure x
      | .jump make "" => pure (make all.length)
      | .jump make name =>
        match placeOfLabel all name with
        | some k => pure (make k)
        | none => throw ⟨.lost name, 0⟩
      | .opens => pure (.block (behindBlock 0 (place + 1) rest))
      | .closes | .label _ | .nothing => pure .nothing
    return ⟨d.selection, d.isInverted, deed⟩ :: (← settleJumps all (place + 1) rest)

/-- Reads a script. -/
def Script.ofText (extended : Bool) (text : List Char) : Except Mistake Script := do
  let isQuiet := ['#', 'n'].isPrefixOf text
  let ds ← readCommands ⟨extended⟩ (text.length + 1) [] text []
  return ⟨(← settleJumps ds 0 ds).toArray, isQuiet⟩

end Golden.Host.Sed
