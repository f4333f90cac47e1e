import Golden.Host.Shell.Arithmetic
import Golden.Host.Shell.Fields

/-! # Expanding words

The marks of a word are gone through from left to right. Parameters, commands and expressions are
replaced by their texts, which may be cut into fields if they are not quoted. Words that a parameter
does not call for are gone through as well, but nothing comes of them. -/

namespace Golden.Host.Shell

/-- How marks are gone through. -/
structure Manner where
  /-- Texts may be cut into fields. -/
  isFull : Bool
  /-- A tilde at the beginning stands for a directory. -/
  tilde : Bool
  /-- So do tildes behind colons, and behind the first equals sign. -/
  tildes : Bool
  /-- The equals sign has been met. -/
  afterEquals : Bool
  /-- The marks are a word in a parameter. -/
  isWord : Bool
  isQuoted : Bool
  /-- Nothing comes of the marks. -/
  isDiscarded : Bool
  deriving DecidableEq, Inhabited

namespace Manner

/-- Nothing special. -/
def plain : Manner := ⟨false, false, false, false, false, false, false⟩

/-- The words of a command. -/
def full : Manner := { plain with isFull := true, tilde := true }

/-- An assignment. -/
def assignment : Manner := { plain with tildes := true }

/-- A single text. -/
def single : Manner := { plain with tilde := true }

/-- A document. -/
def document : Manner := { plain with isQuoted := true }

end Manner

namespace Expand

/-- What runs a command and gives its output. -/
abbrev Runner : Type := Command → Sh String

/-- The home directories of users. -/
def homes : List (String × String) :=
  [("root", "/root"), ("daemon", "/usr/sbin"), ("bin", "/bin"), ("sys", "/dev"),
   ("games", "/usr/games"), ("man", "/var/cache/man"), ("mail", "/var/mail"),
   ("www-data", "/var/www"), ("backup", "/var/backups"), ("nobody", "/nonexistent")]

/-- The marks of a name behind a tilde, and those behind it. There is no name if anything is
quoted. -/
def tildeName? (colonEnds : Bool) : Word → Option (String × Word)
  | [] => some ("", [])
  | .plain c :: rest =>
    if c = '/' || (c = ':' && colonEnds) then some ("", .plain c :: rest)
    else (tildeName? colonEnds rest).map fun r => (String.singleton c ++ r.1, r.2)
  | .close :: rest => some ("", .close :: rest)
  | _ => none

/-- The directory that a tilde at the beginning stands for, and the marks behind it. -/
def tilde? (s : State) (m : Manner) (w : Word) : Option (String × Word) :=
  match w with
  | .plain '~' :: rest =>
    match tildeName? m.tildes rest with
    | none => none
    | some (name, rest) =>
      let home := if name = "" then s.value? "HOME" else homes.lookup name
      if m.isDiscarded then some ("", rest) else home.map fun h => (h, rest)
  | _ => none

/-! ### Parameters -/

/-- The glyphs of all arguments, with a text between them. -/
def joined (quoted : Bool) (separator : List Glyph) : List String → List Glyph
  | [] => []
  | [a] => Glyph.ofText quoted a
  | a :: as => Glyph.ofText quoted a ++ separator ++ joined quoted separator as

/-- What stands between arguments. -/
def between (s : State) (m : Manner) (isEach : Bool) : List Glyph :=
  let letter (c : Char) : List Glyph := [.letter ⟨c, m.isQuoted⟩]
  let ends : List Glyph := [.letter ⟨Glyph.separator, false⟩]
  if isEach && m.isQuoted && m.isFull then ends
  else
    match s.value? "IFS" with
    | none => letter ' '
    | some separators =>
      if m.isFull && !m.isQuoted then ends
      else
        match separators.toList with
        | [] => []
        | c :: _ => letter c

/-- The value of a parameter, if it is set. -/
def valueOf (s : State) (m : Manner) (name : String) : Option (List Glyph) :=
  let text (t : String) : Option (List Glyph) := some (Glyph.ofText m.isQuoted t)
  match name with
  | "?" => text (toString s.status)
  | "$" => text (toString s.rootProcess)
  | "#" => text (toString s.arguments.length)
  | "!" => s.lastBackground.bind fun n => text (toString n)
  | "-" => text s.optionLetters
  | "@" => some (joined m.isQuoted (between s m true) s.arguments)
  | "*" => some (joined m.isQuoted (between s m false) s.arguments)
  | "0" => text s.name
  | n =>
    match n.toNat? with
    | some k => (s.arguments[k - 1]?).bind text
    | none => (s.value? n).bind text

/-- The mistake of a parameter that is not set. -/
def notSet {α : Type} (name : String) (reason : Option String) (emptyToo : Bool) : Sh α :=
  let text := match reason with
    | some r => r
    | none => if emptyToo then "parameter not set or null" else "parameter not set"
  Sh.fail (name ++ ": " ++ text)

/-- What is left of letters when a pattern is cut off. -/
def cut (front longest : Bool) (pattern : List Letter) (gs : List Glyph) : List Glyph :=
  let items := Pattern.compile pattern
  let n := gs.length
  let accepts (part : List Glyph) : Bool :=
    Pattern.accepts items ((Glyph.letters part).map Letter.char)
  let places := List.range (n + 1)
  if front then
    let places := if longest then places.reverse else places
    match places.find? fun k => accepts (gs.take k) with
    | some k => gs.drop k
    | none => gs
  else
    let places := if longest then places else places.reverse
    match places.find? fun k => accepts (gs.drop k) with
    | some k => gs.take k
    | none => gs

/-! ### Marks -/

/-- What goes through marks up to the end of a word in a parameter, and gives those behind it. -/
abbrev Walker : Type := Manner → Word → Expanded → Sh (Word × Expanded)

/-- Drops ends of lines at the end. -/
def dropLastLines (s : String) : String := (s.dropEndWhile (· = '\n')).toString

/-- Adds the output of a command. -/
def putOutput (run : Runner) (m : Manner) (c : Command) (e : Expanded) : Sh Expanded := do
  if m.isDiscarded then return e
  let out ← run c
  let text := dropLastLines (String.ofList (out.toList.filter (· ≠ '\x00')))
  let first := e.glyphs.size
  let e := e.add (Glyph.ofText m.isQuoted text)
  return if m.isQuoted then e else e.region first false

/-- The variables around an expression. -/
def arithmeticVariables (s : State) : Arithmetic.Variables := ⟨s.value?, s.isFixed⟩

/-- The value of an expression, which may set variables. -/
def arithmetic (text : String) : Sh Int64 := do
  let s ← get
  match Arithmetic.evaluate (arithmeticVariables s) text with
  | .error (.expression reason) =>
    Sh.fail ("arithmetic expression: " ++ reason ++ ": \"" ++ text ++ "\"")
  | .error (.other reason) => Sh.fail reason
  | .ok (a, values) =>
    values.reverse.forM fun v => Sh.assign v.1 (Arithmetic.spell v.2) false
    return a

/-- Adds the value of an expression. -/
def putExpression (walk : Walker) (m : Manner) (w : Word) (e : Expanded) :
    Sh (Word × Expanded) := do
  let first := e.glyphs.size
  let (rest, f) ← walk { Manner.plain with isDiscarded := m.isDiscarded } w e
  if m.isDiscarded then return (rest, e)
  let value ← arithmetic (Glyph.text (f.since first))
  let e := (f.cutAt first).add (Glyph.ofText m.isQuoted (Arithmetic.spell value))
  return (rest, if m.isQuoted then e else e.region first false)

/-- Notes the region of a value. -/
def record (s : State) (m : Manner) (name : String) (first : Nat) (e : Expanded) : Expanded :=
  if m.isQuoted then
    if name = "@" && s.arguments ≠ [] then e.region first true else e
  else e.region first false

/-- Adds the value of a parameter. -/
def putParameter (walk : Walker) (m : Manner) (name : String) (usage : Usage) (emptyToo : Bool)
    (w : Word) (e : Expanded) : Sh (Word × Expanded) := do
  let s ← get
  let first := e.glyphs.size
  if usage = .bad && !m.isDiscarded then Sh.fail "Bad substitution"
  let value := if usage = .bad then none else valueOf s m name
  let isSet := match value with
    | none => false
    | some gs => !emptyToo || gs ≠ []
  let put (gs : Option (List Glyph)) (e : Expanded) : Expanded :=
    if m.isDiscarded then e else record s m name first (e.add (gs.getD []))
  let discarded := { m with tilde := true, isWord := true, isDiscarded := true }
  let word := { m with tilde := true, isWord := true }
  match usage with
  | .bad => do
    let (rest, _) ← walk discarded w e
    return (rest, e)
  | .value =>
    if !isSet && !m.isDiscarded && s.has 'u' then notSet name none false
    return (w, if isSet then put value e else e)
  | .otherwise =>
    if isSet then
      let (rest, _) ← walk discarded w e
      return (rest, put value e)
    else walk word w e
  | .instead =>
    if isSet then walk word w e
    else
      let (rest, _) ← walk discarded w e
      return (rest, put none e)
  | .length =>
    if !isSet && !m.isDiscarded && s.has 'u' then notSet name none false
    let length := Glyph.ofText m.isQuoted (toString (value.getD []).length)
    return (w.tail, put (some length) e)
  | .assign | .require =>
    if isSet || m.isDiscarded then
      let (rest, _) ← walk { Manner.single with isDiscarded := true } w e
      return (rest, put value e)
    else do
      let (rest, f) ← walk Manner.single w e
      let text := Glyph.text (f.since first)
      if usage = .require then
        let isDefault := match w with
          | .close :: _ => true
          | _ => false
        notSet name (if isDefault then none else some text) (isDefault && emptyToo)
      Sh.assign name text false
      let s ← get
      return (rest, put (valueOf s m name) e)
  | .cut front longest =>
    if !isSet && !m.isDiscarded && s.has 'u' then notSet name none false
    if !isSet || m.isDiscarded then
      let (rest, _) ← walk { Manner.single with isDiscarded := true } w e
      return (rest, e)
    else do
      let (rest, f) ← walk Manner.single w .empty
      let pattern := Glyph.letters f.glyphs.toList
      return (rest, put (some (cut front longest pattern (value.getD []))) e)

/-- The plain characters at the beginning of marks, up to a sign that tildes may follow. -/
def plainRun (m : Manner) : Word → List Char × Word
  | .plain c :: rest =>
    if m.tildes && (c = ':' || (c = '=' && !m.afterEquals)) then ([c], rest)
    else
      let (cs, rest) := plainRun m rest
      (c :: cs, rest)
  | w => ([], w)

/-- Goes through marks. `inQuotes` tells whether quotes have been opened. -/
def walkMarks (run : Runner) (walk : Walker) :
    Nat → Bool → Manner → Word → Expanded → Sh (Word × Expanded)
  | 0, _, _, w, e => pure (w, e)
  | n + 1, inQuotes, m, w, e => do
    let inner := { m with tilde := false, isQuoted := m.isQuoted || inQuotes }
    let s ← get
    match if m.tilde then tilde? s m w else none with
    | some (home, rest) =>
      let e := if m.isDiscarded then e else e.add (Glyph.ofText true home)
      walkMarks run walk n inQuotes { m with tilde := false } rest e
    | none =>
      let m := { m with tilde := false }
      match w with
      | [] => return ([], e)
      | .close :: rest | .closeExpression :: rest => return (rest, e)
      | .plain _ :: _ =>
        let (cs, rest) := plainRun m w
        let first := e.glyphs.size
        let e := if m.isDiscarded then e
          else
            let e := e.add (cs.map fun c => .letter ⟨c, m.isQuoted || inQuotes⟩)
            if m.isWord && !m.isQuoted && !inQuotes then e.region first false else e
        let isEquals := m.tildes && cs.getLast? = some '='
        let mayFollow := m.tildes && (cs.getLast? = some ':' || (isEquals && !m.afterEquals))
        walkMarks run walk n inQuotes
          { m with afterEquals := m.afterEquals || isEquals, tilde := mayFollow } rest e
      | .quoted c :: rest =>
        let e := if m.isDiscarded then e else e.add [.letter ⟨c, true⟩]
        walkMarks run walk n inQuotes m rest e
      | .quote :: .parameter "@" .value false :: .quote :: rest =>
        if inQuotes then
          let e := if m.isDiscarded then e else e.add [.quote]
          walkMarks run walk n false m w.tail e
        else do
          let (_, e) ← putParameter walk { inner with isQuoted := true } "@" .value false [] e
          walkMarks run walk n inQuotes m rest e
      | .quote :: rest =>
        let e := if m.isDiscarded then e else e.add [.quote]
        walkMarks run walk n (!inQuotes) m rest e
      | .parameter name usage emptyToo :: rest => do
        let (rest, e) ← putParameter walk inner name usage emptyToo rest e
        walkMarks run walk n inQuotes m rest e
      | .output c :: rest => do
        let e ← putOutput run inner c e
        walkMarks run walk n inQuotes m rest e
      | .expression :: rest => do
        let (rest, e) ← putExpression walk inner rest e
        walkMarks run walk n inQuotes m rest e

/-- Goes through marks that lie at most `n` deep in each other. -/
def walker (run : Runner) : Nat → Walker
  | 0 => fun _ w e => pure (w, e)
  | n + 1 => fun m w e => walkMarks run (walker run n) (w.length + 1) false m w e

/-- The depth in which words may lie in each other. -/
def greatestDepth : Nat := 1000

/-- Expands a word. -/
def expand (run : Runner) (m : Manner) (w : Word) : Sh Expanded := do
  let (_, e) ← walker run greatestDepth m w .empty
  return e

/-- The text of a word that is not cut into fields. -/
def text (run : Runner) (m : Manner) (w : Word) : Sh String := do
  return Glyph.text (← expand run m w).glyphs.toList

/-- The letters of a pattern. -/
def pattern (run : Runner) (w : Word) : Sh (List Letter) := do
  return Glyph.letters (← expand run .single w).glyphs.toList

/-- The texts that a word stands for. -/
def word (run : Runner) (w : Word) : Sh (List String) := do
  let e ← expand run .full w
  let s ← get
  let fields := splitFields e s.separators none
  if s.has 'f' then return fields.map Glyph.text
  else Sh.act (fields.flatMapM textsOfField)

end Expand

end Golden.Host.Shell
