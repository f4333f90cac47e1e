import Golden.Host.Shell.Builtin.Arguments
import Golden.Host.Shell.Fields
import Golden.Host.Shell.Grammar

/-! # Variables, arguments and options

The commands of the shell that change what names stand for. -/

namespace Golden.Host.Shell.Builtin

/-! ### Variables -/

/-- The name in front of an equals sign, and what is behind it. -/
def splitAssignment (s : String) : String × Option String :=
  let name := s.toList.takeWhile (· ≠ '=')
  match s.toList.drop name.length with
  | _ :: value => (String.ofList name, some (String.ofList value))
  | [] => (s, none)

/-- Fails unless a text is a name. -/
def checkName (s : String) : Sh Unit :=
  if isName s then pure () else Sh.fail (s ++ ": bad variable name")

/-- Sets a variable whose name may be no name. -/
def assignChecked (name value : String) : Sh Unit := do
  checkName name
  Sh.assign name value false

/-- Lists variables, in the order of their names. -/
def listVariables (front : String) (p : Variable → Bool) : Sh Unit := do
  let s ← get
  let line (v : Variable) : String :=
    front ++ (if front = "" then "" else " ") ++ v.name ++
      (match v.value with
      | some x => "=" ++ quoteValue x
      | none => "") ++ "\n"
  let vs := (s.vars.filter p).mergeSort fun a b => !(b.name < a.name)
  Sh.write (String.join (vs.map line))

/-- Marks a variable, which may be set as well. -/
def mark (change : Variable → Variable) (arg : String) : Sh Unit := do
  let (name, value) := splitAssignment arg
  checkName name
  match value with
  | some x => Sh.assign name x false
  | none => pure ()
  Sh.change fun s =>
    s.putVariable (change ((s.variableOf? name).getD ⟨name, none, s.has 'a', false⟩))

/-- Marks variables, or lists those that are marked. -/
def markAll (name : String) (isMarked : Variable → Bool) (change : Variable → Variable) :
    Builtin := fun args => do
  match ← options "p" args with
  | ([], a :: args) => (a :: args).forM (mark change)
  | _ => listVariables name isMarked
  return 0

/-- Lets programs see variables. -/
def exportNames : Builtin :=
  markAll "export" (·.isExported) fun v => { v with isExported := true }

/-- Fixes the values of variables. -/
def fix : Builtin := markAll "readonly" (·.isFixed) fun v => { v with isFixed := true }

/-- Makes variables and functions unset. -/
def unset : Builtin := fun args => do
  let (letters, names) ← options "vf" args
  let letter := (letters.getLast?.map Prod.fst).getD 'v'
  let forget (name : String) : Sh Unit := do
    if letter = 'f' then
      Sh.change fun s => { s with functions := s.functions.filter (·.1 ≠ name) }
    else
      checkName name
      Sh.unset name
  names.forM forget
  return 0

/-- Lets a function have options for itself. -/
def hideOptions (s : State) : State :=
  let options : Variable := ⟨"-", some (String.ofList s.options), false, false⟩
  match s.hidden with
  | [] => s
  | l :: ls => { s with hidden := (⟨"-", some options⟩ :: l) :: ls }

/-- Gives a function variables of its own. -/
def ownNames : Builtin := fun args => do
  let s ← get
  if s.hidden = [] then Sh.fail "not in a function"
  let (_, args) ← options "" args
  let own (arg : String) : Sh Unit := do
    if arg = "-" then Sh.change hideOptions
    else
      let (name, value) := splitAssignment arg
      checkName name
      Sh.hide name
      match value with
      | some x => Sh.assign name x false
      | none => pure ()
  args.forM own
  return 0

/-! ### Arguments and options -/

/-- Sets the arguments. -/
def setArguments (args : List String) : Sh Unit :=
  Sh.change fun s => { s with arguments := args, optionIndex := 1, optionOffset := none }

/-- Sets an option by its letter. -/
def setLetter (on : Bool) (c : Char) : Sh Unit := do
  if (optionTable.filterMap Prod.snd).contains c then
    Sh.change fun s =>
      let s := s.setOption c on
      if on && c = 'V' then s.setOption 'E' false
      else if on && c = 'E' then s.setOption 'V' false
      else s
  else Sh.fail ("Illegal option -" ++ String.singleton c)

/-- Whether an option is set. -/
def isOn (s : State) (o : String × Option Char) : Bool :=
  match o.2 with
  | some c => s.has c
  | none => s.moreOptions.contains o.1

/-- Sets an option by its name. -/
def setNamed (on : Bool) (name : String) : Sh Unit := do
  match optionTable.find? (·.1 = name) with
  | none => Sh.fail ("Illegal option -o " ++ name)
  | some (_, some c) => Sh.change fun s => s.setOption c on
  | some (_, none) =>
    Sh.change fun s =>
      let others := s.moreOptions.filter (· ≠ name)
      { s with moreOptions := if on then name :: others else others }

/-- Lists the options. -/
def listOptions (asTable : Bool) : Sh Unit := do
  let s ← get
  let padded (name : String) : String :=
    name ++ String.ofList (List.replicate (16 - name.length) ' ')
  let line (o : String × Option Char) : String :=
    if asTable then padded o.1 ++ (if isOn s o then "on" else "off") ++ "\n"
    else "set " ++ (if isOn s o then "-o " else "+o ") ++ o.1 ++ "\n"
  let title := if asTable then "Current option settings\n" else ""
  Sh.write (title ++ String.join (optionTable.map line))

/-- Sets options as the letters of an argument say. -/
def setLetters (on : Bool) : List Char → List String → Sh (List String)
  | [], args => pure args
  | 'o' :: cs, args => do
    match args with
    | [] =>
      listOptions on
      setLetters on cs []
    | name :: args =>
      setNamed on name
      setLetters on cs args
  | c :: cs, args => do
    setLetter on c
    setLetters on cs args

/-- Sets options at the beginning of arguments. Gives the arguments behind them, if these are to be
set as well. -/
def setOptions : Nat → List String → Sh (Option (List String))
  | 0, args => pure (some args)
  | _, [] => pure none
  | n + 1, a :: args => do
    match a.toList with
    | ['-'] =>
      Sh.change fun s => (s.setOption 'x' false).setOption 'v' false
      return if args = [] then none else some args
    | ['-', '-'] => return some args
    | '-' :: cs => setOptions n (← setLetters true cs args)
    | '+' :: cs => setOptions n (← setLetters false cs args)
    | _ => return some (a :: args)

/-- Gives up the control of jobs, for which there is no terminal. -/
def giveUpControl : Sh Unit := do
  let s ← get
  if s.has 'm' && !s.isSubshell then
    Sh.warn "can't access tty; job control turned off"
    Sh.change fun s => s.setOption 'm' false

/-- Sets options and arguments, or lists variables. -/
def setAll : Builtin := fun args => do
  if args = [] then listVariables "" (·.value.isSome)
  else
    match ← setOptions (args.length + 1) args with
    | some args => setArguments args
    | none => pure ()
    giveUpControl
  return 0

/-- Drops arguments. -/
def shift : Builtin := fun args => do
  let n ← match args with
    | [] => pure 1
    | a :: _ => number a
  let s ← get
  if s.arguments.length < n then Sh.fail "can't shift that many"
  setArguments (s.arguments.drop n)
  return 0

/-- Tells that an option has been read. -/
def putOption (name letter : String) (value : Option String) (complaint : String)
    (index : Nat) (offset : Option Nat) (status : Nat) : Sh Nat := do
  Sh.complain complaint
  match value with
  | some v => Sh.assign "OPTARG" v false
  | none => Sh.unset "OPTARG"
  Sh.assign "OPTIND" (toString index) false
  assignChecked name letter
  Sh.change fun s => { s with optionIndex := index, optionOffset := offset }
  return status

/-- Reads an option of the arguments. -/
def readOption (letters name : String) (args : List String) (index : Nat) (offset : Option Nat) :
    Sh Nat := do
  let isQuiet := letters.startsWith ":"
  let nothing (index : Nat) : Sh Nat := do
    Sh.assign "OPTIND" (toString index) false
    assignChecked name "?"
    Sh.change fun s => { s with optionIndex := index, optionOffset := none }
    return 1
  let within : List Char := match offset with
    | some k => if index ≤ 1 then [] else ((args[index - 2]?).getD "").toList.drop k
    | none => []
  let place? : Option (List Char × Nat × Nat) :=
    if within ≠ [] then some (within, index, offset.getD 0)
    else
      match (args[index - 1]?).map String.toList with
      | some ('-' :: c :: cs) => some (c :: cs, index + 1, 1)
      | _ => none
  match place? with
  | none => nothing index
  | some (['-'], next, 1) => nothing next
  | some ([], next, _) => nothing next
  | some (c :: rest, next, k) =>
    let letter := String.singleton c
    let after := some (k + 1)
    match takesArgument? (if isQuiet then letters.toList.tail else letters.toList) c with
    | none =>
      if isQuiet then putOption name "?" (some letter) "" next after 0
      else putOption name "?" none ("Illegal option -" ++ letter ++ "\n") next after 0
    | some false => putOption name letter (some "") "" next after 0
    | some true =>
      if rest ≠ [] then putOption name letter (some (String.ofList rest)) "" next none 0
      else
        match args[next - 1]? with
        | some a => putOption name letter (some a) "" (next + 1) none 0
        | none =>
          if isQuiet then putOption name ":" (some letter) "" next after 0
          else putOption name "?" none ("No arg for -" ++ letter ++ " option\n") next after 0

/-- Reads an option of a script. -/
def getopts : Builtin := fun args => do
  match ← options "" args with
  | (_, letters :: name :: rest) => do
    let s ← get
    let args := if rest = [] then s.arguments else rest
    if args.length + 1 < s.optionIndex then readOption letters name args 1 none
    else readOption letters name args s.optionIndex s.optionOffset
  | _ => Sh.fail "Usage: getopts optstring var [arg]"

/-! ### Aliases -/

/-- The text of an alias. -/
def aliasText (a : String × String) : String := a.1 ++ "=" ++ quoteValue a.2

/-- Sets or lists aliases. -/
def setAliases : Builtin := fun args => do
  let s ← get
  if args = [] then
    Sh.write (String.join (s.aliases.map fun a => aliasText a ++ "\n"))
    return 0
  let one (arg : String) : Sh Nat := do
    match splitAssignment arg with
    | (name, some text) =>
      if name = "" then
        Sh.complain ("alias: " ++ arg ++ " not found\n")
        return 1
      Sh.change fun s => { s with
        aliases := if s.aliases.any (·.1 = name) then
            s.aliases.map fun a => if a.1 = name then (name, text) else a
          else s.aliases ++ [(name, text)] }
      return 0
    | (name, none) =>
      match s.aliases.lookup name with
      | some text =>
        Sh.write (aliasText (name, text) ++ "\n")
        return 0
      | none =>
        Sh.complain ("alias: " ++ name ++ " not found\n")
        return 1
  return (← args.mapM one).foldl max 0

/-- Forgets aliases. -/
def unsetAliases : Builtin := fun args => do
  let (letters, names) ← options "a" args
  if letters ≠ [] then
    Sh.change fun s => { s with aliases := [] }
    return 0
  let one (name : String) : Sh Nat := do
    let s ← get
    if s.aliases.any (·.1 = name) then
      Sh.change fun s => { s with aliases := s.aliases.filter (·.1 ≠ name) }
      return 0
    else
      Sh.complain ("unalias: " ++ name ++ " not found\n")
      return 1
  return (← names.mapM one).foldl max 0

/-! ### Reading lines -/

/-- A line that is being read: its glyphs, and the regions in which it may be cut into fields. -/
structure ReadLine where
  line : Expanded
  start : Nat

/-- Reads a line, octet by octet. Tells whether it has an end. -/
def readGlyphs (keepsBackslashes : Bool) : Nat → Bool → ReadLine → Sh (ReadLine × Bool)
  | 0, _, r => pure (r, false)
  | n + 1, isEscaped, r => do
    match ← Sh.call (.read 0 1) with
    | .error _ => return (r, false)
    | .ok (octets : ByteArray) =>
      let put (c : Char) : Expanded := r.line.add [.letter ⟨c, false⟩]
      match (Octets.unpack octets).toList with
      | [] => return (r, false)
      | '\x00' :: _ => readGlyphs keepsBackslashes n isEscaped r
      | c :: _ =>
        if isEscaped then
          let line := r.line.region r.start false
          if c = '\n' then readGlyphs keepsBackslashes n false ⟨line, r.line.glyphs.size⟩
          else
            let line := line.add [.letter ⟨c, true⟩]
            readGlyphs keepsBackslashes n false ⟨line, line.glyphs.size⟩
        else if c = '\\' && !keepsBackslashes then readGlyphs keepsBackslashes n true r
        else if c = '\n' then return (r, true)
        else readGlyphs keepsBackslashes n false { r with line := put c }

/-- Sets variables to fields. -/
def assignFields : List String → List (List Glyph) → Sh Unit
  | [], _ => pure ()
  | name :: names, [] => do
    assignChecked name ""
    assignFields names []
  | name :: names, f :: fs => do
    assignChecked name (Glyph.text f)
    assignFields names fs

/-- Reads a line into variables. -/
def readNames : Builtin := fun args => do
  let (letters, names) ← options "p:r" args
  if names = [] then Sh.fail "arg count"
  let raw := letters.any (·.1 = 'r')
  let (r, isWhole) ← readGlyphs raw Act.manySteps false ⟨.empty, 0⟩
  let s ← get
  let fields := splitFields (r.line.region r.start false) s.separators (some names.length)
  assignFields names fields
  return if isWhole then 0 else 1

end Golden.Host.Shell.Builtin
