import Golden.Host.CharClass
import Golden.Host.Layout
import Golden.Host.Regex.Parse
import Golden.Host.Tool.Input
import Golden.Host.Tool.Options

/-! # Tools that calculate

Rows of numbers (`seq`), expressions (`expr`), factors (`factor`), formats (`printf`) and conditions
(`test`). -/

namespace Golden.Host.Tool

/-! ### Rows of numbers -/

/-- A number as it is written: its value, its width, and the number of places behind its point, if
that can be told. -/
structure Written where
  value : Real
  width : Int
  places : Option Int
  deriving DecidableEq, Inhabited

/-- Reads a number with the way it is written. -/
def written? (text : String) : Option Written :=
  let r := Real.scan text.toList
  let isWhole := r.isNumber && r.rest = []
  let cs := (text.toList.dropWhile Numbers.isSpace)
  let cs := if cs.head? = some '+' then cs.tail else cs
  let isHex := cs.contains 'x' || cs.contains 'X'
  let isFinite : Bool := match r.value with
    | .finite .. => true
    | _ => false
  if !isWhole then none
  else if isHex || !isFinite then
    some ⟨r.value, 0, if cs.contains '.' || cs.contains 'p' || !isFinite then none else some 0⟩
  else
    let front := cs.takeWhile fun c => c ≠ 'e' && c ≠ 'E'
    let exponent : Option Int := match cs.drop front.length with
      | _ :: ds => some (Numbers.scan (some 10) ds).value
      | [] => none
    let whole := front.takeWhile (· ≠ '.')
    let hasPoint := front.contains '.'
    let fraction := front.length - whole.length - 1
    let places : Int := if hasPoint then fraction else 0
    let width : Int := front.length +
      (if !hasPoint then 0
      else if fraction = 0 then -1
      else if whole.getLast?.any Char.isDigit then 0 else 1)
    match exponent with
    | none => some ⟨r.value, width, some places⟩
    | some e =>
      let left := if e < 0 then places - e else places - min places e
      let width := if e < 0 then
          (if hasPoint then if fraction = 0 then width + 1 else width else width + 1) - e
        else (if hasPoint && left = 0 && fraction ≠ 0 then width - 1 else width) + e
      some ⟨r.value, width, some left⟩

/-- The number of places of a row, and the width of its numbers if all are to have the same. -/
def rowLayout (sameWidth : Bool) (first step last : Written) : Option (Nat × Nat) :=
  match first.places, step.places, last.places with
  | some f, some s, some l =>
    let places := max f s
    let firstWidth := first.width + (places - f) + (if f = 0 && places ≠ 0 then 1 else 0)
    let lastWidth := last.width + (places - l) +
      (if l ≠ 0 && places = 0 then -1 else 0) + (if l = 0 && places ≠ 0 then 1 else 0)
    some (places.toNat, if sameWidth then (max firstWidth lastWidth).toNat else 0)
  | _, _, _ => none

/-- A number with a sign as a fraction. -/
def signedFraction? : Real → Option (Int × Nat)
  | .finite s n d => some (if s then -(n : Int) else n, d)
  | _ => none

/-- A format with a single item for numbers: the text in front, the layout, the letter, and the text
behind. -/
structure NumberFormat where
  front : List Char
  layout : Layout
  letter : Char
  back : List Char

/-- Why a format is none for numbers. -/
inductive FormatMistake where
  | noItem
  | tooMany
  | unknown (c : Char)
  | ends
  deriving DecidableEq, Inhabited

/-- What is said of a mistake. -/
def FormatMistake.message (format : String) (e : FormatMistake) : String :=
  "format " ++ Quoting.escaped format ++
    match e with
    | noItem => " has no % directive"
    | tooMany => " has too many % directives"
    | unknown c => " has unknown %" ++ String.singleton c ++ " directive"
    | ends => " ends in %"

/-- The text up to the next item of a format, with signs that stand for themselves. -/
def formatText : List Char → List Char × List Char
  | [] => ([], [])
  | '%' :: '%' :: cs => let (t, rest) := formatText cs; ('%' :: t, rest)
  | '%' :: cs => ([], '%' :: cs)
  | c :: cs => let (t, rest) := formatText cs; (c :: t, rest)

/-- Reads a format for numbers. -/
def numberFormat (cs : List Char) : Except FormatMistake NumberFormat :=
  match formatText cs with
  | (_, []) => .error .noItem
  | (front, _ :: item) =>
    let flags := item.takeWhile fun c => Layout.letters.contains c || c = '\''
    let rest := item.drop flags.length
    let width := rest.takeWhile Char.isDigit
    let rest := rest.drop width.length
    let (places, rest) := match rest with
      | '.' :: more =>
        let ds := more.takeWhile Char.isDigit
        (some (Numbers.ofDigits 10 ds), more.drop ds.length)
      | rest => (none, rest)
    let rest := if rest.head? = some 'L' then rest.tail else rest
    match rest with
    | [] => .error .ends
    | c :: more =>
      if !(['e', 'f', 'g', 'a', 'E', 'F', 'G', 'A'].contains c) then .error (.unknown c)
      else
        match formatText more with
        | (back, []) =>
          let l := Layout.plain.withLetters flags
          .ok ⟨front, { l with width := Numbers.ofDigits 10 width, places }, c, back⟩
        | _ => .error .tooMany

/-- The width of the first digit of base 16 of the widest numbers. -/
def wideDigitWidth : Nat := 4

/-- A number in a format. -/
def NumberFormat.spell (f : NumberFormat) (r : Real) : String :=
  String.ofList (f.front ++ f.layout.real f.letter wideDigitWidth (r.round .extended) ++ f.back)

/-- Writes the numbers of a row from one on, with a common denominator. -/
def putRow (spell : Int → String) (step : Int) (isOver : Int → Bool) (separator : String) :
    Nat → Bool → Int → Tool Unit
  | 0, _, _ => pure ()
  | n + 1, isFirst, x => do
    if isOver x then
      if !isFirst then put "\n"
    else
      put ((if isFirst then "" else separator) ++ spell x)
      putRow spell step isOver separator n false (x + step)

/-- The options of `seq`, in which a number below zero is no option. -/
def seqOptions : OptionTable :=
  { OptionTable.ofLetters "f:s:w" with
    inOrder := true
    words := [("format", .argument, "f"), ("separator", .argument, "s"),
      ("equal-width", .nothing, "w")] }

/-- Whether an argument is a number below zero. -/
def isBelowZero (a : String) : Bool :=
  match a.toList with
  | '-' :: c :: _ => c.isDigit || c = '.'
  | _ => false

/-- Writes a row of numbers. -/
def seq : Program := program fun args => do
  let front := args.takeWhile fun a => !isBelowZero a
  let takes := front.getLast?.any fun a => a = "-s" || a = "-f"
  let (os, names) ← if takes then options seqOptions args
    else do
      let (os, names) ← options seqOptions front
      pure (os, names ++ args.drop front.length)
  let numbers ← (names.take 3).mapM fun a => do
    match written? a with
    | some ⟨.noNumber _, _, _⟩ =>
      misuse seqOptions ("invalid 'not-a-number' argument: " ++ Quoting.escaped a)
    | some w => return w
    | none => misuse seqOptions ("invalid floating point argument: " ++ Quoting.escaped a)
  let one : Written := ⟨.ofInt 1, 1, some 0⟩
  let (first, step, last) ← match numbers, names[3]? with
    | _, some a => extra seqOptions a
    | [], _ => missing seqOptions none
    | [l], _ => pure (one, one, l)
    | [f, l], _ => pure (f, one, l)
    | f :: s :: l :: _, _ => pure (f, s, l)
  let format ← match valueOf? os "f" with
    | none => pure none
    | some text =>
      match numberFormat text.toList with
      | .ok f => pure (some f)
      | .error e => fail 1 (e.message text)
  if format.isSome && isGiven os "w" then
    misuse seqOptions "format string may not be specified when printing equal width strings"
  let separator := (valueOf? os "s").getD "\n"
  match signedFraction? first.value, signedFraction? step.value with
  | some (a, d), some (s, e) =>
    if s = 0 then
      misuse seqOptions ("invalid Zero increment value: " ++ Quoting.escaped ((names[1]?).getD "0"))
    let (l, g, endless) := match last.value with
      | .finite t n g => ((if t then -(n : Int) else (n : Int)), g, none)
      | .infinite t => (0, 1, some t)
      | .noNumber _ => (0, 1, some true)
    let unit := d * e * g
    let start := a * (e * g : Nat)
    let stride := s * (d * g : Nat)
    let stop := l * (d * e : Nat)
    let isOver (x : Int) : Bool := match endless with
      | some isNegative => isNegative != decide (stride < 0)
      | none => if stride < 0 then x < stop else stop < x
    let real (x : Int) : Real := .finite (x < 0) x.natAbs unit
    let spell : Int → String := match format, rowLayout (isGiven os "w") first step last with
      | some f, _ => fun x => f.spell (real x)
      | none, some (0, 0) => fun x => toString (x / (unit : Int))
      | none, some (places, width) => fun x =>
        let l : Layout := { Layout.plain with zeros := true, width, places := some places }
        String.ofList (l.real 'f' wideDigitWidth (real x))
      | none, none => fun x =>
        String.ofList (Layout.plain.real 'g' wideDigitWidth ((real x).round .extended))
    putRow spell stride isOver separator Act.manySteps true start
  | _, _ => pure ()

/-! ### Expressions -/

/-- The value of an expression: a text, which may stand for a number. -/
abbrev ExprValue : Type := String

/-- The number that a text stands for. -/
def exprNumber? (v : ExprValue) : Option Int :=
  match v.toList with
  | '-' :: d :: ds =>
    if (d :: ds).all Char.isDigit then some (-(Numbers.ofDigits 10 (d :: ds) : Int))
    else none
  | d :: ds => if (d :: ds).all Char.isDigit then some (Numbers.ofDigits 10 (d :: ds)) else none
  | [] => none

/-- Whether a value counts as nothing. -/
def exprIsNull (v : ExprValue) : Bool := v = "" || exprNumber? v = some 0

/-- The number that a value has to be. -/
def exprInteger (v : ExprValue) : Tool Int :=
  match exprNumber? v with
  | some n => pure n
  | none => fail 2 "non-integer argument"

/-- What of a text a pattern matches at its beginning. -/
def exprMatch (text pattern : String) : Tool ExprValue := do
  match Matcher.ofText ⟨false, true, false, false, false⟩ pattern with
  | .error e => fail 2 e.message
  | .ok m =>
    let anchored := { m with regex := .seq (.assertion .start) m.regex }
    let t := text.toList.toArray
    match anchored.find? t 0 with
    | none => return if 0 < m.groups then "" else "0"
    | some c =>
      if 0 < m.groups then
        match c.getD 1 none with
        | some (a, b) => return Matcher.part t a b
        | none => return ""
      else
        match c.getD 0 none with
        | some (a, b) => return toString (b - a)
        | none => return "0"

/-- A part of an expression: gives its value, and the words behind it. `counts` tells whether its
value matters. -/
abbrev ExprPart : Type := Bool → List String → Tool (ExprValue × List String)

/-- Applies the operators of one rank, from left to right. `before` is the word in front. -/
def exprChain (operators : List String) (operand : ExprPart)
    (apply : Bool → String → ExprValue → ExprValue → Tool ExprValue) :
    Nat → Bool → ExprValue → List String → Tool (ExprValue × List String)
  | 0, _, v, ws => pure (v, ws)
  | n + 1, counts, v, ws => do
    match ws with
    | op :: rest =>
      if !operators.contains op then return (v, ws)
      if rest = [] then
        fail 2 ("syntax error: missing argument after " ++ Quoting.escaped op)
      let isOpen := if op = "|" then exprIsNull v else if op = "&" then !exprIsNull v else true
      let needed := counts && isOpen
      let (w, rest) ← operand needed rest
      let value ← if counts then apply needed op v w else pure ""
      exprChain operators operand apply n counts value rest
    | [] => return (v, ws)

/-- Calculates. -/
def exprCalculate (op : String) (a b : ExprValue) : Tool ExprValue := do
  let m ← exprInteger a
  let n ← exprInteger b
  match op with
  | "+" => return toString (m + n)
  | "-" => return toString (m - n)
  | "*" => return toString (m * n)
  | _ =>
    if n = 0 then fail 2 "division by zero"
    return toString (if op = "/" then m.tdiv n else m.tmod n)

/-- Compares. -/
def exprCompare (op : String) (a b : ExprValue) : ExprValue :=
  let r : Ordering := match exprNumber? a, exprNumber? b with
    | some m, some n => compare m n
    | _, _ => compare a b
  let holds : Bool := match op with
    | "<" => r = .lt
    | "<=" => r ≠ .gt
    | "=" | "==" => r = .eq
    | "!=" => r ≠ .eq
    | ">=" => r ≠ .lt
    | _ => r = .gt
  if holds then "1" else "0"

/-- A part that can stand alone. -/
def exprAtom (whole : ExprPart) (counts : Bool) (ws : List String) :
    Tool (ExprValue × List String) := do
  match ws with
  | [] => fail 2 "syntax error"
  | "(" :: rest =>
    if rest = [] then fail 2 "syntax error: missing argument after '('"
    let (v, rest) ← whole counts rest
    match rest with
    | ")" :: rest => return (v, rest)
    | w :: _ => fail 2 ("syntax error: expecting ')' instead of " ++ Quoting.escaped w)
    | [] =>
      fail 2 ("syntax error: expecting ')' after " ++ Quoting.escaped (ws.getLastD ""))
  | ")" :: _ => fail 2 "syntax error: unexpected ')'"
  | w :: rest => return (w, rest)

/-- The functions with the number of their arguments. -/
def exprFunctions : List (String × Nat) :=
  [("match", 2), ("substr", 3), ("index", 2), ("length", 1)]

/-- Applies a function. -/
def exprApply (name : String) (vs : List ExprValue) : Tool ExprValue := do
  match name, vs with
  | "length", [a] => return toString a.length
  | "index", [a, b] =>
    return toString (match a.toList.findIdx? b.toList.contains with
      | some i => i + 1
      | none => 0)
  | "match", [a, b] => exprMatch a b
  | "substr", [a, i, n] =>
    match exprNumber? i, exprNumber? n with
    | some i, some n =>
      if i ≤ 0 || n ≤ 0 then return ""
      return String.ofList ((a.toList.drop (i.toNat - 1)).take n.toNat)
    | _, _ => return ""
  | _, _ => return ""

/-- The arguments of a function. -/
def exprArguments (operand : ExprPart) (counts : Bool) (before : String) :
    Nat → List String → Tool (List ExprValue × List String)
  | 0, ws => pure ([], ws)
  | n + 1, ws => do
    if ws = [] then
      fail 2 ("syntax error: missing argument after " ++ Quoting.escaped before)
    let (v, rest) ← operand counts ws
    let (vs, rest) ← exprArguments operand counts (ws.headD "") n rest
    return (v :: vs, rest)

/-- A function with its arguments, or what can stand alone. -/
def exprFunction (whole : ExprPart) : Nat → ExprPart
  | 0, _, ws => pure ("", ws)
  | n + 1, counts, ws => do
    match ws with
    | "+" :: rest =>
      match rest with
      | w :: rest => return (w, rest)
      | [] => fail 2 "syntax error: missing argument after '+'"
    | w :: rest =>
      match exprFunctions.lookup w with
      | some count =>
        let (vs, rest) ← exprArguments (exprFunction whole n) counts w count rest
        let v ← if counts then exprApply w vs else pure ""
        return (v, rest)
      | none => exprAtom whole counts ws
    | [] => exprAtom whole counts ws

/-- An expression in which parentheses lie at most `n` deep in each other. -/
def exprWhole : Nat → ExprPart
  | 0 => fun _ ws => pure ("", ws)
  | n + 1 =>
    let level (operators : List String) (operand : ExprPart)
        (apply : Bool → String → ExprValue → ExprValue → Tool ExprValue) : ExprPart :=
      fun counts ws => do
        let (v, rest) ← operand counts ws
        exprChain operators operand apply (ws.length + 1) counts v rest
    let matching := level [":"] (exprFunction (exprWhole n) (n + 1)) fun _ _ a b => exprMatch a b
    let products := level ["*", "/", "%"] matching fun _ op a b => exprCalculate op a b
    let sums := level ["+", "-"] products fun _ op a b => exprCalculate op a b
    let comparisons := level ["<", "<=", "=", "==", "!=", ">=", ">"] sums
      fun _ op a b => pure (exprCompare op a b)
    let both := level ["&"] comparisons fun _ _ a b =>
      pure (if exprIsNull a || exprIsNull b then "0" else a)
    level ["|"] both fun _ _ a b =>
      pure (if !exprIsNull a then a else if !exprIsNull b then b else "0")

/-- Evaluates an expression. -/
def expr : Program := program fun args => do
  let args := match args with
    | "--" :: rest => rest
    | args => args
  if args = [] then misuse { OptionTable.ofLetters "" with status := 2 } "missing operand"
  match ← exprWhole (args.length + 1) true args with
  | (_, w :: _) => fail 2 ("syntax error: unexpected argument " ++ Quoting.escaped w)
  | (v, []) =>
    put (v ++ "\n")
    setStatus (if exprIsNull v then 1 else 0)

/-! ### Factors -/

/-- The prime factors of a number from a divisor on. -/
def factorsFrom : Nat → Nat → Nat → List Nat
  | 0, _, n => if 1 < n then [n] else []
  | fuel + 1, d, n =>
    if n < d * d then if 1 < n then [n] else []
    else if n % d = 0 then d :: factorsFrom fuel d (n / d)
    else factorsFrom fuel (if d = 2 then 3 else d + 2) n

/-- Writes the prime factors of numbers. -/
def factor : Program := program fun args => do
  let (_, names) ← options (.ofLetters "h") args
  let one (a : String) : Tool Unit := do
    let cs := if a.startsWith "+" then a.toList.tail else a.toList
    if cs = [] || !cs.all Char.isDigit then
      note (Quoting.escaped a ++ " is not a valid positive integer")
    else
      let n := Numbers.ofDigits 10 cs
      put (toString n ++ ":" ++
        String.join ((factorsFrom Act.manySteps 2 n).map fun p => " " ++ toString p) ++ "\n")
  if names ≠ [] then names.forM one
  else
    match ← act (Act.readAll 0) with
    | .error e => fail 1 ("error reading input: " ++ e.words)
    | .ok text => ((text.splitToList Numbers.isSpace).filter (· ≠ "")).forM one

/-! ### Formats -/

/-- The state of writing a format: the arguments that are left, and whether any has been used. -/
structure FormatState where
  args : List String
  isUsed : Bool
  deriving DecidableEq, Inhabited

/-- The first argument that is left, and the state behind it. -/
def FormatState.next (p : FormatState) : Option String × FormatState :=
  match p.args with
  | [] => (none, p)
  | a :: args => (some a, ⟨args, true⟩)

/-- Tells what is wrong with a number. -/
def checkNumber (arg : String) (isNumber isRead fits : Bool) : Tool Unit := do
  if !isNumber then
    flush
    note (Quoting.escaped arg ++ ": expected a numeric value")
  else if !isRead then
    flush
    note (Quoting.escaped arg ++ ": value not completely converted")
  else if !fits then
    flush
    note (Quoting.escaped arg ++ ": Numerical result out of range")

/-- The number of the character behind a quote. -/
def characterNumber? (arg : String) : Option Nat :=
  match arg.toList with
  | q :: c :: _ => if q = '"' || q = '\'' then some c.toNat else none
  | _ => none

/-- The whole number that the next argument stands for. -/
def nextInteger (p : FormatState) (isSigned : Bool) : Tool (Int × FormatState) := do
  match p.next with
  | (none, p) => return (0, p)
  | (some arg, p) =>
    match characterNumber? arg with
    | some n => return (n, p)
    | none =>
      let r := Numbers.scan none arg.toList
      let (value, fits) := if isSigned then (Numbers.clip r.value, Numbers.fits r.value)
        else if r.value.natAbs < UInt64.size then (r.value % UInt64.size, true)
        else (UInt64.size - 1, false)
      checkNumber arg (r.isNumber || arg = "") (r.rest = [] || arg = "") fits
      return (value, p)

/-- The number that the next argument stands for. -/
def nextReal (p : FormatState) : Tool (Real × FormatState) := do
  match p.next with
  | (none, p) => return (.zero, p)
  | (some arg, p) =>
    match characterNumber? arg with
    | some n => return (.ofInt n, p)
    | none =>
      let r := Real.scan arg.toList
      checkNumber arg (r.isNumber || arg = "") (r.rest = [] || arg = "") true
      return (r.value.round .extended, p)

/-- The character that what is behind a backslash stands for, if it stands for one. -/
def formatEscape? (zero : Bool) (cs : List Char) : Option (List Char × List Char) :=
  match cs with
  | [] => none
  | '"' :: rest => some (['"'], rest)
  | 'x' :: rest =>
    if rest.head?.any fun d => (Numbers.digit? 16 d).isSome then
      let (c, rest) := Escapes.readOctet 16 2 rest
      some ([c], rest)
    else none
  | c :: rest =>
    if zero && c = '0' then
      let (c, rest) := Escapes.readOctet 8 3 rest
      some ([c], rest)
    else if Text.isOctal c then
      let (c, rest) := Escapes.readOctet 8 3 cs
      some ([c], rest)
    else (Escapes.letter? c).map fun d => ([d], rest)

/-- A text with its escapes replaced, and whether one of them ends all output. -/
def formatUnescape : Nat → List Char → List Char → List Char × Bool
  | 0, _, done => (done.reverse, false)
  | _, [], done => (done.reverse, false)
  | n + 1, '\\' :: cs, done =>
    if cs.head? = some 'c' then (done.reverse, true)
    else
      match formatEscape? true cs with
      | some (out, rest) => formatUnescape n rest (out.reverse ++ done)
      | none => formatUnescape n cs ('\\' :: done)
  | n + 1, c :: cs, done => formatUnescape n cs (c :: done)

/-- Reads a number in a layout, which may be an argument. -/
def formatCount (p : FormatState) (cs : List Char) :
    Tool (Option Int × List Char × FormatState) := do
  match cs with
  | '*' :: rest =>
    let (n, p) ← nextInteger p true
    return (some n, rest, p)
  | cs =>
    let ds := cs.takeWhile Char.isDigit
    return (if ds = [] then none else some (Numbers.ofDigits 10 ds), cs.drop ds.length, p)

/-- Writes an item of a format from behind its percent sign. Tells what is behind it, and whether
all output ends. -/
def formatItem (cs : List Char) (p : FormatState) : Tool (List Char × FormatState × Bool) := do
  let flags := cs.takeWhile Layout.letters.contains
  let (width, rest, p) ← formatCount p (cs.drop flags.length)
  let (places, rest, p) ← match rest with
    | '.' :: rest => do
      let (places, rest, p) ← formatCount p rest
      pure (some (places.getD 0), rest, p)
    | rest => pure (none, rest, p)
  let width := width.getD 0
  let l := Layout.plain.withLetters (if width < 0 then '-' :: flags else flags)
  let l := { l with width := width.natAbs, places := (places.filter (0 ≤ ·)).map Int.toNat }
  let write (cs : List Char) : Tool Unit := put (String.ofList cs)
  let rest := rest.dropWhile fun c => ['h', 'l', 'L', 'j', 'z', 't'].contains c
  match rest with
  | letter :: rest =>
    match letter with
    | 'b' =>
      let (arg, p) := p.next
      let text := (arg.getD "").toList
      let (cs, stops) := formatUnescape (text.length + 1) text []
      write (l.text cs)
      return (rest, p, stops)
    | 'q' =>
      let (arg, p) := p.next
      write (l.text (Quoting.shell (arg.getD "")).toList)
      return (rest, p, false)
    | 'c' =>
      let (arg, p) := p.next
      match (arg.getD "").toList with
      | c :: _ => write (l.fill [c])
      | [] => write (l.fill ['\x00'])
      return (rest, p, false)
    | 's' =>
      let (arg, p) := p.next
      write (l.text (arg.getD "").toList)
      return (rest, p, false)
    | 'd' | 'i' =>
      let (n, p) ← nextInteger p true
      write (l.integer n)
      return (rest, p, false)
    | 'o' | 'u' | 'x' | 'X' =>
      let (n, p) ← nextInteger p false
      write (l.unsigned letter n.toNat)
      return (rest, p, false)
    | 'a' | 'A' | 'e' | 'E' | 'f' | 'F' | 'g' | 'G' =>
      let (r, p) ← nextReal p
      write (l.real letter wideDigitWidth r)
      return (rest, p, false)
    | _ => fail 1 ("%" ++ String.ofList (cs.take (cs.length - rest.length)) ++
        ": invalid conversion specification")
  | [] => fail 1 ("%" ++ String.ofList cs ++ ": invalid conversion specification")

/-- Writes a format once. Tells whether all output ends. -/
def formatOnce : Nat → List Char → FormatState → Tool (FormatState × Bool)
  | 0, _, p => pure (p, false)
  | _, [], p => pure (p, false)
  | n + 1, '\\' :: cs, p => do
    if cs.head? = some 'c' then return (p, true)
    match formatEscape? false cs with
    | some (out, rest) =>
      put (String.ofList out)
      formatOnce n rest p
    | none =>
      put "\\"
      formatOnce n cs p
  | n + 1, '%' :: '%' :: cs, p => do
    put "%"
    formatOnce n cs p
  | n + 1, '%' :: cs, p => do
    let (rest, p, stops) ← formatItem cs p
    if stops then return (p, true)
    formatOnce n rest p
  | n + 1, c :: cs, p => do
    put (String.singleton c)
    formatOnce n cs p

/-- Writes a format as often as there are arguments for it. -/
def formatAll (format : List Char) : Nat → FormatState → Tool Unit
  | 0, _ => pure ()
  | n + 1, p => do
    let (p, stops) ← formatOnce (format.length + 1) format { p with isUsed := false }
    match p.args with
    | [] => pure ()
    | a :: _ =>
      if stops then pure ()
      else if p.isUsed then formatAll format n p
      else
        flush
        warn ("warning: ignoring excess arguments, starting with " ++ Quoting.escaped a)

/-- Writes its arguments as a format tells. -/
def printf : Program := program fun args => do
  let args := match args with
    | "--" :: rest => rest
    | args => args
  match args with
  | [] => missing (.ofLetters "") none
  | format :: args => formatAll format.toList (args.length + 1) ⟨args, false⟩

/-! ### Conditions -/

/-- The operators with one operand. -/
def testUnary : List String :=
  ["-b", "-c", "-d", "-e", "-f", "-g", "-G", "-h", "-k", "-L", "-n", "-N", "-O", "-p", "-r", "-s",
   "-S", "-t", "-u", "-w", "-x", "-z"]

/-- The operators with two operands. -/
def testBinary : List String :=
  ["=", "!=", "==", "<", ">", "-eq", "-ne", "-lt", "-le", "-gt", "-ge", "-nt", "-ot", "-ef"]

/-- The value of a condition with one operand. -/
def testOne (operator a : String) : Tool Bool := do
  let fact (follow : Bool) (p : Facts → Bool) : Tool Bool := do
    return (← act (Act.facts? a follow)).any p
  match operator with
  | "-n" => return a ≠ ""
  | "-z" => return a = ""
  | "-t" => return false
  | "-h" | "-L" => fact false fun f => f.kind = .link
  | "-c" => fact true fun f => f.kind = .device
  | "-d" => fact true fun f => f.kind = .directory
  | "-f" => fact true fun f => f.kind = .regular
  | "-p" => fact true fun f => f.kind = .fifo
  | "-s" => fact true fun f => f.size ≠ 0
  | "-x" => fact true fun f => f.kind = .directory || f.mode &&& 0o111 ≠ 0
  | "-g" => fact true fun f => f.mode &&& 0o2000 ≠ 0
  | "-u" => fact true fun f => f.mode &&& 0o4000 ≠ 0
  | "-k" => fact true fun f => f.mode &&& 0o1000 ≠ 0
  | "-b" | "-S" => return false
  | _ => fact true fun _ => true

/-- The value of a condition with two operands. -/
def testTwo (a operator b : String) : Tool Bool := do
  let number (s : String) : Tool Int := do
    match Numbers.whole? (some 10) s with
    | some n => return n
    | none => fail 2 ("invalid integer " ++ Quoting.escaped s)
  let facts (p : Option Facts → Option Facts → Bool) : Tool Bool := do
    return p (← act (Act.facts? a true)) (← act (Act.facts? b true))
  match operator with
  | "=" | "==" => return a = b
  | "!=" => return a ≠ b
  | "<" => return decide (a < b)
  | ">" => return decide (b < a)
  | "-nt" => facts fun f g => f.any fun f => g.all fun g => g.modified < f.modified
  | "-ot" => facts fun f g => g.any fun g => f.all fun f => f.modified < g.modified
  | "-ef" => facts fun f g => f.isSome && f.map Facts.number = g.map Facts.number
  | _ =>
    let m ← number a
    let n ← number b
    return match operator with
      | "-eq" => m = n
      | "-ne" => m ≠ n
      | "-lt" => m < n
      | "-le" => m ≤ n
      | "-gt" => n < m
      | _ => n ≤ m

/-- A condition of so many words. -/
def testShort : Nat → List String → Tool (Option Bool)
  | _, [] => pure (some false)
  | _, [a] => pure (some (a ≠ ""))
  | _, [op, a] => do
    if op = "!" then return some (a = "")
    else if testUnary.contains op then return some (← testOne op a)
    else if op.startsWith "-" && op.length = 2 then
      fail 2 (Quoting.escaped op ++ ": unary operator expected")
    else fail 2 ("missing argument after " ++ Quoting.escaped a)
  | n, [a, op, b] => do
    if testBinary.contains op then return some (← testTwo a op b)
    else if op = "-a" then return some (a ≠ "" && b ≠ "")
    else if op = "-o" then return some (a ≠ "" || b ≠ "")
    else if a = "!" then
      match n with
      | 0 => return none
      | n + 1 => return (← testShort n [op, b]).map (!·)
    else if a = "(" && b = ")" then return some (op ≠ "")
    else fail 2 (Quoting.escaped op ++ ": binary operator expected")
  | n, "!" :: a :: b :: [c] => do
    match n with
    | 0 => return none
    | n + 1 => return (← testShort n [a, b, c]).map (!·)
  | n, ["(", a, b, ")"] => do
    match n with
    | 0 => return none
    | n + 1 => testShort n [a, b]
  | _, _ => pure none

/-- A part of a long condition: its value, and the words behind it. -/
abbrev TestPart : Type := List String → Tool (Bool × List String)

/-- A condition without operators that combine conditions. -/
def testTerm (whole : TestPart) : Nat → TestPart
  | 0, ws => pure (false, ws)
  | n + 1, ws => do
    match ws with
    | "!" :: rest =>
      let (v, rest) ← testTerm whole n rest
      return (!v, rest)
    | "(" :: rest =>
      let (v, rest) ← whole rest
      match rest with
      | ")" :: rest => return (v, rest)
      | w :: _ => fail 2 ("')' expected, found " ++ Quoting.escaped w)
      | [] => fail 2 "')' expected"
    | a :: op :: b :: rest =>
      if testBinary.contains op then return (← testTwo a op b, rest)
      else if testUnary.contains a then return (← testOne a op, b :: rest)
      else return (a ≠ "", op :: b :: rest)
    | [a, b] => if testUnary.contains a then return (← testOne a b, []) else return (a ≠ "", [b])
    | [a] => return (a ≠ "", [])
    | [] => fail 2 "missing argument after '-a'"

/-- Conditions that are combined. -/
def testChain (operator : String) (combine : Bool → Bool → Bool) (part : TestPart) :
    Nat → Bool → TestPart
  | 0, v, ws => pure (v, ws)
  | n + 1, v, ws => do
    match ws with
    | op :: rest =>
      if op ≠ operator then return (v, ws)
      let (w, rest) ← part rest
      testChain operator combine part n (combine v w) rest
    | [] => return (v, ws)

/-- A condition in which parentheses lie at most `n` deep in each other. -/
def testLong : Nat → TestPart
  | 0 => fun ws => pure (false, ws)
  | n + 1 => fun ws => do
    let fuel := ws.length + 1
    let both : TestPart := fun ws => do
      let (v, rest) ← testTerm (testLong n) fuel ws
      testChain "-a" (· && ·) (testTerm (testLong n) fuel) fuel v rest
    let (v, rest) ← both ws
    testChain "-o" (· || ·) both fuel v rest

/-- Ends with the value of a condition. -/
def testWords (ws : List String) : Tool Unit := do
  let v ← match ← testShort ws.length ws with
    | some v => pure v
    | none => do
      match ← testLong (ws.length + 1) ws with
      | (v, []) => pure v
      | (_, w :: _) => fail 2 ("extra argument " ++ Quoting.escaped w)
  setStatus (if v then 0 else 1)

/-- Evaluates a condition. -/
def test : Program := program testWords

/-- Evaluates a condition in brackets. -/
def bracket : Program := program fun args =>
  if args.getLast? = some "]" then testWords args.dropLast else fail 2 "missing ']'"

end Golden.Host.Tool
