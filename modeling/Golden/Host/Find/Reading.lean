import Golden.Host.Calendar
import Golden.Host.CharClass
import Golden.Host.Find.Expression
import Golden.Host.Mode
import Golden.Host.Regex.Parse
import Golden.Host.Tool.Input

/-! # Reading what is searched for

Words of the command line are read one by one. Some of them are about the whole search (`Setting`),
and the others make up an expression. -/

namespace Golden.Host.Find

open Tool

/-- How a search is made. -/
structure Setting where
  /-- How deep files are that are looked at. -/
  least : Nat
  most : Option Nat
  /-- What is in a directory comes before it. -/
  contentsFirst : Bool
  /-- Links count for what they lead to: all of them, and those that are told. -/
  follows : Bool
  followsFirst : Bool
  /-- Regular expressions are written with operators that have no backslash, if that is told. -/
  extended : Option Bool
  /-- There is an action that makes it needless to write paths. -/
  acts : Bool
  /-- The commands that are run for many files at once, and whether that is done in directories. -/
  gathered : List (List String × Bool)
  now : Nat
  deriving Inhabited

/-- Tells that something is missing behind a word. -/
def missing {α : Type} (word : String) : Tool α :=
  fail 1 ("missing argument to \x60" ++ word ++ "'")

/-- Tells that what is behind a word makes no sense. -/
def senseless {α : Type} (word value : String) : Tool α :=
  fail 1 ("invalid argument \x60" ++ value ++ "' to \x60" ++ word ++ "'")

/-! ### Numbers -/

/-- A number with a sign that tells how it is compared. -/
def bound? (text : String) : Option Bound :=
  let digits (cs : List Char) : Option Nat :=
    if cs ≠ [] && cs.all Char.isDigit then some (Numbers.ofDigits 10 cs) else none
  match text.toList with
  | '+' :: cs => (digits cs).map .more
  | '-' :: cs => (digits cs).map .less
  | cs => (digits cs).map .exactly

/-- Reads a number with a sign. -/
def readBound (word value : String) : Tool Bound :=
  match bound? value with
  | some b => pure b
  | none => senseless word value

/-- Reads how deep something is. -/
def readDepth (word value : String) : Tool Nat :=
  let cs := value.toList
  if cs ≠ [] && cs.all Char.isDigit then pure (Numbers.ofDigits 10 cs)
  else
    fail 1 ("Expected a positive decimal integer argument to " ++ word ++ ", but got " ++
      Quoting.escaped value)

/-- Reads a size with its unit. -/
def readSize (value : String) : Tool Test := do
  let cs := value.toList
  let unit? : Option Nat := match cs.getLast? with
    | some 'b' => some 512
    | some 'c' => some 1
    | some 'w' => some 2
    | some 'k' => some 1024
    | some 'M' => some (1024 * 1024)
    | some 'G' => some (1024 * 1024 * 1024)
    | some c => if c.isDigit then some 512 else none
    | none => none
  match unit? with
  | none =>
    if cs = [] then fail 1 "invalid null argument to -size"
    fail 1 ("invalid -size type \x60" ++ String.ofList cs.getLast?.toList ++ "'")
  | some unit =>
    let hasLetter := cs.getLast?.any fun c => !c.isDigit
    match bound? (String.ofList (if hasLetter then cs.dropLast else cs)) with
    | some b => return .size b unit
    | none => fail 1 ("Invalid argument \x60" ++ value ++ "' to -size")

/-- Reads permissions. -/
def readPermission (value : String) : Tool Test := do
  let (make, text) : (Nat → Permission) × String := match value.toList with
    | '-' :: cs => (.all, String.ofList cs)
    | '/' :: cs => (.any, String.ofList cs)
    | _ => (.exactly, value)
  match if text = "" then none else Mode.change? text 0 false 0 with
  | some bits => return .permission (make bits)
  | none => fail 1 ("invalid mode " ++ Quoting.escaped value)

/-- Reads kinds of files. -/
def readKinds (word value : String) : Tool (List Char) := do
  let rec go : List Char → Tool (List Char)
    | [] =>
      fail 1 ("Last file type in list argument to " ++ word ++
        " is missing, i.e., list is ending on: ','")
    | c :: rest => do
      if !"fdlpcbsD".toList.contains c then
        fail 1 ("Unknown argument to " ++ word ++ ": " ++ String.singleton c)
      match rest with
      | [] => return [c]
      | ',' :: rest => return c :: (← go rest)
      | _ => fail 1 ("Must separate multiple arguments to " ++ word ++ " using: ','")
  if value = "" then fail 1 ("Arguments to " ++ word ++ " should contain at least one letter")
  go value.toList

/-- Reads when a file has been changed. -/
def readTimeOf (path : String) : Tool Nat := do
  match ← call (.facts path true) with
  | .ok (f : Facts) => return f.modified
  | .error e => fail 1 (Quoting.always path ++ ": " ++ e.words)

/-! ### Regular expressions -/

/-- A regular expression some of whose operators have no backslash, with backslashes. -/
def withBackslashes : Nat → List Char → List Char
  | 0, cs => cs
  | _, [] => []
  | n + 1, '\\' :: c :: cs =>
    if c = '+' || c = '?' then c :: withBackslashes n cs
    else if c = '\x7b' || c = '\x7d' then c :: withBackslashes n cs
    else '\\' :: c :: withBackslashes n cs
  | n + 1, '[' :: cs =>
    let body := match cs with
      | '^' :: ']' :: rest => ['^', ']'] ++ rest.takeWhile (· ≠ ']')
      | ']' :: rest => ']' :: rest.takeWhile (· ≠ ']')
      | cs => cs.takeWhile (· ≠ ']')
    '[' :: body ++ withBackslashes n (cs.drop body.length)
  | n + 1, c :: cs =>
    if c = '+' || c = '?' then '\\' :: c :: withBackslashes n cs else c :: withBackslashes n cs

/-- Reads a regular expression for a whole path. -/
def readRegex (s : Setting) (ignoresCase : Bool) (value : String) : Tool Test := do
  let text := match s.extended with
    | some _ => value
    | none => String.ofList (withBackslashes (value.length + 1) value.toList)
  match Matcher.ofText ⟨s.extended = some true, true, ignoresCase, false, false⟩ text with
  | .ok m => return .expression m.wholeText
  | .error e =>
    fail 1 ("failed to compile regular expression '" ++ value ++ "': " ++ e.message)

/-- The ways to write regular expressions, and whether operators have no backslash. -/
def manners : List (String × Option Bool) :=
  [("findutils-default", none), ("ed", some false), ("emacs", none), ("gnu-awk", some true),
   ("grep", some false), ("posix-awk", some true), ("awk", some true), ("posix-basic", some false),
   ("posix-egrep", some true), ("egrep", some true), ("posix-extended", some true),
   ("posix-minimal-basic", some false), ("sed", some false)]

/-- Reads how regular expressions are written. -/
def readManner (value : String) : Tool (Option Bool) :=
  match manners.lookup value with
  | some m => pure m
  | none =>
    fail 1 ("Unknown regular expression type " ++ Quoting.escaped value ++ "; valid types are " ++
      ", ".intercalate (manners.map fun m => "'" ++ m.1 ++ "'") ++ ".")

/-! ### Formats -/

/-- The letters that stand for something in a format. -/
def itemLetters : List Char := "abcdDfFgGhHiklmMnpPsStuUyYZ".toList

/-- Reads a format. What makes no sense in it is told and stands for itself. -/
def readFormat : Nat → List Char → Tool (List Piece)
  | 0, _ => pure []
  | _, [] => pure []
  | n + 1, '\\' :: c :: cs => do
    if c = 'c' then return [.stop]
    match Escapes.letter? c with
    | some d =>
      if c ≠ 'e' then return .text (String.singleton d) :: (← readFormat n cs)
      warn ("warning: unrecognized escape \x60\\" ++ String.singleton c ++ "'")
      return .text (String.ofList ['\\', c]) :: (← readFormat n cs)
    | none =>
      if Text.isOctal c then
        let (d, rest) := Escapes.readOctet 8 3 (c :: cs)
        return .text (String.singleton d) :: (← readFormat n rest)
      warn ("warning: unrecognized escape \x60\\" ++ String.singleton c ++ "'")
      return .text (String.ofList ['\\', c]) :: (← readFormat n cs)
  | _, ['\\'] => do
    warn "warning: escape \x60\\' followed by nothing at all"
    return [.text "\\"]
  | n + 1, '%' :: '%' :: cs => do return .text "%" :: (← readFormat n cs)
  | n + 1, '%' :: cs => do
    let flags := cs.takeWhile Layout.letters.contains
    let rest := cs.drop flags.length
    let (width, rest) := Numbers.readDigits 10 0 rest
    let (places, rest) : Option Nat × List Char := match rest with
      | '.' :: more => let (p, more) := Numbers.readDigits 10 0 more; (some p, more)
      | rest => (none, rest)
    let layout := { Layout.plain.withLetters flags with width, places }
    match rest with
    | [] => fail 1 "error: % at end of format string"
    | c :: more =>
      if itemLetters.contains c then return .item layout c :: (← readFormat n more)
      match more with
      | k :: others =>
        if ['A', 'B', 'C', 'T'].contains c then
          return .moment layout k :: (← readFormat n others)
        warn ("warning: unrecognized format directive \x60%" ++ String.singleton c ++ "'")
        return .text (String.ofList ('%' :: cs.take (cs.length - more.length))) ::
          (← readFormat n more)
      | [] =>
        warn ("warning: unrecognized format directive \x60%" ++ String.singleton c ++ "'")
        return [.text (String.ofList ('%' :: cs))]
  | n + 1, c :: cs => do
    let own := (c :: cs).takeWhile fun d => d ≠ '%' && d ≠ '\\'
    return .text (String.ofList own) :: (← readFormat n ((c :: cs).drop own.length))

/-! ### Commands -/

/-- Reads a command up to its end. Gives the command, whether it is run for many files at once, and
what is behind it. -/
def readCommand (word : String) (allowsMany : Bool) :
    List String → List String → Tool (List String × Bool × List String)
  | _, [] => missing word
  | done, a :: rest => do
    let holds (b : String) : Bool := 1 < (b.splitOn "\x7b\x7d").length
    if a = ";" then
      if done = [] then senseless word ";"
      return (done.reverse, false, rest)
    if a = "+" && allowsMany && done.head?.any holds then
      match done.find? fun b => holds b && b ≠ "\x7b\x7d" with
      | some b =>
        fail 1 ("In '" ++ word ++ " ... \x7b\x7d +' the '\x7b\x7d' must appear by itself, " ++
          "but you specified '" ++ b ++ "'")
      | none => pure ()
      if 1 < (done.filter holds).length then
        fail 1 ("Only one instance of \x7b\x7d is supported with " ++ word ++ " ... +")
      return (done.tail.reverse, true, rest)
    readCommand word allowsMany (a :: done) rest

/-- Opens a file that paths are written to. -/
def openReport (path : String) : Tool Nat := do
  match ← act (Act.openFile path .toWrite) with
  | .ok d => return d
  | .error e => fail 1 (Quoting.always path ++ ": " ++ e.words)

/-! ### Words -/

/-- Reads a word with what belongs to it. -/
def readWord (s : Setting) (word : String) (rest : List String) :
    Tool (Option Word × Setting × List String) := do
  let test (t : Test) : Tool (Option Word × Setting × List String) :=
    pure (some (.whole (.test t)), s, rest)
  let argument (f : String → List String → Tool (Option Word × Setting × List String)) :
      Tool (Option Word × Setting × List String) :=
    match rest with
    | v :: rest => f v rest
    | [] => missing word
  let testOf (f : String → Tool Test) : Tool (Option Word × Setting × List String) :=
    argument fun v rest => do return (some (.whole (.test (← f v))), s, rest)
  let setting (s : Setting) (rest : List String) : Tool (Option Word × Setting × List String) :=
    pure (some (.whole (.test (.constant true))), s, rest)
  let action (a : Action) (acts : Bool) (rest : List String) :
      Tool (Option Word × Setting × List String) :=
    pure (some (.whole (.action a)), { s with acts := s.acts || acts }, rest)
  let bound (make : Bound → Test) : Tool (Option Word × Setting × List String) :=
    testOf fun v => do return make (← readBound word v)
  let newer : Tool (Option Word × Setting × List String) :=
    testOf fun v => do return .newer (← readTimeOf v)
  let command (inDirectory asks : Bool) : Tool (Option Word × Setting × List String) := do
    let (c, many, rest) ← readCommand word (!asks) [] rest
    if many then
      return (some (.whole (.action (.gather s.gathered.length))),
        { s with acts := true, gathered := s.gathered ++ [(c, inDirectory)] }, rest)
    action (.execute c inDirectory asks) true rest
  match word with
  | "(" => return (some .opens, s, rest)
  | ")" => return (some .closes, s, rest)
  | "," => return (some .comma, s, rest)
  | "!" | "-not" => return (some (.not word), s, rest)
  | "-a" | "-and" => return (some (.and word), s, rest)
  | "-o" | "-or" => return (some (.or word), s, rest)
  | "-true" | "-noleaf" | "-mount" | "-xdev" | "-daystart" | "-warn" | "-nowarn"
  | "-ignore_readdir_race" | "-noignore_readdir_race" => test (.constant true)
  | "-readable" | "-writable" => test (.constant true)
  | "-executable" => test .runnable
  | "-false" | "-nouser" | "-nogroup" => test (.constant false)
  | "-depth" | "-d" => setting { s with contentsFirst := true } rest
  | "-follow" => setting { s with follows := true, followsFirst := true } rest
  | "-maxdepth" => argument fun v rest => do
    setting { s with most := some (← readDepth word v) } rest
  | "-mindepth" => argument fun v rest => do setting { s with least := ← readDepth word v } rest
  | "-regextype" => argument fun v rest => do
    setting { s with extended := ← readManner v } rest
  | "-name" => testOf fun v => return .name v false
  | "-iname" => testOf fun v => return .name v true
  | "-path" | "-wholename" => testOf fun v => return .path v false
  | "-ipath" | "-iwholename" => testOf fun v => return .path v true
  | "-lname" => testOf fun v => return .target v false
  | "-ilname" => testOf fun v => return .target v true
  | "-regex" => testOf (readRegex s false)
  | "-iregex" => testOf (readRegex s true)
  | "-type" => testOf fun v => do return .kind (← readKinds word v) false
  | "-xtype" => testOf fun v => do return .kind (← readKinds word v) true
  | "-size" => testOf readSize
  | "-empty" => test .empty
  | "-newer" | "-anewer" | "-cnewer" => newer
  | "-mtime" | "-atime" | "-ctime" => bound fun b => .age b .days
  | "-mmin" | "-amin" | "-cmin" => bound fun b => .age b .minutes
  | "-used" => bound fun b => .age b .days
  | "-perm" => testOf readPermission
  | "-links" => bound .links
  | "-inum" => bound .number
  | "-uid" | "-gid" => bound .owner
  | "-samefile" => testOf fun v => do
    match ← call (.facts v s.follows) with
    | .ok (f : Facts) => return .number (.exactly f.number)
    | .error e => fail 1 (Quoting.always v ++ ": " ++ e.words)
  | "-user" => testOf fun v => do
    if v = "root" then return .owner (.exactly 0)
    match bound? v with
    | some (.exactly n) => return .owner (.exactly n)
    | _ => fail 1 (Quoting.escaped v ++ " is not the name of a known user")
  | "-group" => testOf fun v => do
    if v = "root" then return .owner (.exactly 0)
    match bound? v with
    | some (.exactly n) => return .owner (.exactly n)
    | _ => fail 1 (Quoting.escaped v ++ " is not the name of an existing group")
  | "-print" => action (.print "\n" none) true rest
  | "-print0" => action (.print "\x00" none) true rest
  | "-printf" => argument fun v rest => do
    action (.format (← readFormat (v.length + 1) v.toList) none) true rest
  | "-fprint" => argument fun v rest => do action (.print "\n" (some (← openReport v))) true rest
  | "-fprint0" => argument fun v rest => do
    action (.print "\x00" (some (← openReport v))) true rest
  | "-fprintf" =>
    match rest with
    | file :: v :: rest => do
      let d ← openReport file
      action (.format (← readFormat (v.length + 1) v.toList) (some d)) true rest
    | _ => missing word
  | "-exec" => command false false
  | "-execdir" => command true false
  | "-ok" => command false true
  | "-okdir" => command true true
  | "-delete" => do
    let (w, s, rest) ← action .delete true rest
    return (w, { s with contentsFirst := true }, rest)
  | "-prune" => action .prune false rest
  | "-quit" => action .quit false rest
  | word =>
    match word.toList with
    | '-' :: 'n' :: 'e' :: 'w' :: 'e' :: 'r' :: x :: y :: [] =>
      if "aBcm".toList.contains x && "aBcmt".toList.contains y then
        if y = 't' then
          testOf fun v => do
            match Calendar.read? s.now v with
            | some t => return .newer t.toNat
            | none =>
              fail 1 ("I cannot figure out how to interpret " ++ Quoting.escaped v ++
                " as a date or time")
        else newer
      else fail 1 ("invalid predicate \x60" ++ word ++ "'")
    | _ => fail 1 ("unknown predicate \x60" ++ word ++ "'")

/-- Whether a word begins an expression. -/
def beginsExpression (word : String) : Bool :=
  match word.toList with
  | ['('] | ['!'] => true
  | '-' :: _ :: _ => true
  | _ => false

/-- Whether a word can be part of an expression behind its beginning. -/
def isWord (word : String) : Bool := beginsExpression word || word = ")" || word = ","

/-- Reads all words of an expression, at most `n`. -/
def readWords : Nat → Setting → String → List String → Tool (List Word × Setting)
  | 0, s, _, _ => pure ([], s)
  | _, s, _, [] => pure ([], s)
  | n + 1, s, before, word :: rest => do
    if !isWord word then
      flush
      warn ("paths must precede expression: \x60" ++ word ++ "'")
      if ← act (Act.has word) then
        warn ("possible unquoted pattern after predicate \x60" ++ before ++ "'?")
      quit 1
    let (w, s, rest) ← readWord s word rest
    let (ws, s) ← readWords n s word rest
    return (w.toList ++ ws, s)

end Golden.Host.Find
