import Golden.Host.CharClass
import Golden.Host.Layout
import Golden.Host.Shell.Builtin.Arguments

/-! # Writing texts -/

namespace Golden.Host.Shell.Builtin

/-- The character that what is behind a backslash stands for, and what is behind that. -/
def readEscape (cs : List Char) : Char × List Char :=
  match cs with
  | [] => ('\\', [])
  | c :: rest =>
    match Escapes.letter? c with
    | some d => (d, rest)
    | none => if Text.isOctal c then Escapes.readOctet 8 3 cs else ('\\', cs)

/-- A text with its escapes replaced, and whether one of them ends all output. -/
def unescape : Nat → List Char → List Char → List Char × Bool
  | 0, _, done => (done.reverse, false)
  | _, [], done => (done.reverse, false)
  | n + 1, '\\' :: cs, done =>
    match cs with
    | 'c' :: _ => (done.reverse, true)
    | '0' :: d :: rest =>
      let (c, rest) := if Text.isOctal d then readEscape (d :: rest) else readEscape cs
      unescape n rest (c :: done)
    | cs =>
      let (c, rest) := readEscape cs
      unescape n rest (c :: done)
  | n + 1, c :: cs, done => unescape n cs (c :: done)

/-- A text with its escapes replaced, and whether one of them ends all output. -/
def unescapeText (s : String) : List Char × Bool :=
  if s.contains '\\' then unescape (s.length + 1) s.toList [] else (s.toList, false)

/-- What arguments write, with blanks between them, up to an escape that ends all output. -/
def echoed (noLine : Bool) : List String → String
  | [] => if noLine then "" else "\n"
  | a :: as =>
    let (cs, stops) := unescapeText a
    let text := String.ofList cs
    if stops then text
    else
      match as with
      | [] => if noLine then text else text ++ "\n"
      | as => text ++ " " ++ echoed noLine as

/-- Writes its arguments. -/
def echo : Builtin := fun args => do
  let (noLine, args) := match args with
    | "-n" :: args => (true, args)
    | args => (false, args)
  Sh.write (echoed noLine args)
  return 0

/-! ### Formats -/

/-- The state of writing a format: the arguments that are left, whether any has been used, and the
status. -/
structure Printing where
  args : List String
  isUsed : Bool
  status : Nat
  deriving DecidableEq, Inhabited

/-- The first argument that is left, and the state behind it. -/
def Printing.next (p : Printing) : Option String × Printing :=
  match p.args with
  | [] => (none, p)
  | a :: args => (some a, { p with args, isUsed := true })

/-- Tells that an argument is no number. -/
def checkNumber (p : Printing) (arg : String) (isNumber isRead fits : Bool) : Sh Printing := do
  if isRead then
    if fits then return p
    Sh.warn (arg ++ ": Numerical result out of range")
  else if isNumber then Sh.warn (arg ++ ": not completely converted")
  else Sh.warn (arg ++ ": expected numeric value")
  return { p with status := 1 }

/-- The number behind a quote, which is that of a character. -/
def quotedNumber? (arg : String) : Option Int :=
  match arg.toList with
  | q :: rest => if q = '"' || q = '\'' then some ((rest.head?.map Char.toNat).getD 0) else none
  | [] => none

/-- The whole number that the next argument stands for. -/
def nextInteger (p : Printing) (isSigned : Bool) : Sh (Int × Printing) := do
  match p.next with
  | (none, p) => return (0, p)
  | (some arg, p) =>
    match quotedNumber? arg with
    | some n => return (n, p)
    | none =>
      let r := Numbers.scan none arg.toList
      let (value, fits) := if isSigned then (Numbers.clip r.value, Numbers.fits r.value)
        else if r.value.natAbs < UInt64.size then (r.value % UInt64.size, true)
        else (UInt64.size - 1, false)
      return (value, ← checkNumber p arg r.isNumber (r.rest = []) fits)

/-- The number that the next argument stands for. -/
def nextReal (p : Printing) : Sh (Real × Printing) := do
  match p.next with
  | (none, p) => return (.zero, p)
  | (some arg, p) =>
    match quotedNumber? arg with
    | some n => return (.ofInt n, p)
    | none =>
      let r := Real.scan arg.toList
      let value := r.value.round .double
      let isInfinite : Real → Bool
        | .infinite _ => true
        | _ => false
      return (value, ← checkNumber p arg r.isNumber (r.rest = [])
        (isInfinite r.value || !isInfinite value))

/-- The width of the first digit of base 16. -/
def firstDigitWidth : Nat := 1

/-- Reads a number in a layout, which may be an argument. -/
def readCount (p : Printing) (cs : List Char) : Sh (Option Int × List Char × Printing) := do
  match cs with
  | '*' :: rest => do
    let (n, p) ← nextInteger p true
    return (some n, rest, p)
  | cs =>
    let run := cs.takeWhile fun c => c = '*' || c.isDigit
    if run = [] then return (none, cs, p)
    return (some (Numbers.ofDigits 10 (run.takeWhile Char.isDigit)), cs.drop run.length, p)

/-- Writes an item of a format from behind its percent sign. Tells what is behind it, and whether
all output ends. -/
def writeItem (cs : List Char) (p : Printing) : Sh (List Char × Printing × Bool) := do
  let letters := cs.takeWhile Layout.letters.contains
  let (width, rest, p) ← readCount p (cs.drop letters.length)
  let (places, rest, p) ← match rest with
    | '.' :: rest => do
      let (places, rest, p) ← readCount p rest
      pure (some (places.getD 0), rest, p)
    | rest => pure (none, rest, p)
  let width := width.getD 0
  let l := Layout.plain.withLetters (if width < 0 then '-' :: letters else letters)
  let l := { l with
    width := width.natAbs
    places := (places.filter (0 ≤ ·)).map Int.toNat }
  let put (cs : List Char) : Sh Unit := Sh.write (String.ofList cs)
  match rest with
  | [] => Sh.fail "missing format character"
  | letter :: rest =>
    match letter with
    | 'b' =>
      let (arg, p) := p.next
      let (text, stops) := unescapeText (arg.getD "")
      put (l.text text)
      return (rest, p, stops)
    | 'c' =>
      let (arg, p) := p.next
      put (l.fill [((arg.getD "").toList.head?).getD '\x00'])
      return (rest, p, false)
    | 's' =>
      let (arg, p) := p.next
      put (l.text (arg.getD "").toList)
      return (rest, p, false)
    | 'd' | 'i' =>
      let (n, p) ← nextInteger p true
      put (l.integer n)
      return (rest, p, false)
    | 'o' | 'u' | 'x' | 'X' =>
      let (n, p) ← nextInteger p false
      put (l.unsigned letter n.toNat)
      return (rest, p, false)
    | 'a' | 'A' | 'e' | 'E' | 'f' | 'F' | 'g' | 'G' =>
      let (r, p) ← nextReal p
      put (l.real letter firstDigitWidth r)
      return (rest, p, false)
    | _ =>
      let item := cs.take (cs.length - rest.length)
      Sh.fail ("%" ++ String.ofList item ++ ": invalid directive")

/-- Writes a format once. Tells whether all output ends. -/
def writeOnce : Nat → List Char → Printing → Sh (Printing × Bool)
  | 0, _, p => pure (p, false)
  | _, [], p => pure (p, false)
  | n + 1, '\\' :: cs, p => do
    let (c, rest) := readEscape cs
    Sh.write (String.singleton c)
    writeOnce n rest p
  | n + 1, '%' :: '%' :: cs, p => do
    Sh.write "%"
    writeOnce n cs p
  | n + 1, '%' :: cs, p => do
    let (rest, p, stops) ← writeItem cs p
    if stops then return (p, true)
    writeOnce n rest p
  | n + 1, c :: cs, p => do
    let run := cs.takeWhile fun d => d ≠ '\\' && d ≠ '%'
    Sh.write (String.ofList (c :: run))
    writeOnce n (cs.drop run.length) p

/-- Writes a format as often as there are arguments for it. -/
def writeAll (format : List Char) : Nat → Printing → Sh Nat
  | 0, p => pure p.status
  | n + 1, p => do
    let (p, stops) ← writeOnce (format.length + 1) format { p with isUsed := false }
    if stops || p.args = [] || !p.isUsed then return p.status
    writeAll format n p

/-- Writes its arguments as a format tells. -/
def printf : Builtin := fun args => do
  match ← options "" args with
  | (_, []) => Sh.fail "usage: printf format [arg ...]"
  | (_, format :: args) => writeAll format.toList (args.length + 1) ⟨args, false, 0⟩

end Golden.Host.Shell.Builtin
