import Golden.Host.Mode
import Golden.Host.Shell.Builtin.Names
import Golden.Host.Shell.Search

/-! # Directories, permissions and commands -/

namespace Golden.Host.Shell.Builtin

/-! ### The working directory -/

/-- The pieces of a path that has been followed from a directory without looking at links. -/
def stepPiece (done : List String) (piece : String) : List String :=
  if piece = ".." then done.dropLast
  else if piece = "." || piece = "" then done
  else done ++ [piece]

/-- The path that another leads to from a directory, without looking at links. -/
def logicalPath (directory path : String) : String :=
  let pieces := (path.splitOn "/").filter (· ≠ "")
  let isDouble := path.startsWith "//" && !path.startsWith "///"
  let start := if path.startsWith "/" then [] else (directory.splitOn "/").filter (· ≠ "")
  let root := if isDouble || (directory.startsWith "//" && !path.startsWith "/") then "//" else "/"
  root ++ "/".intercalate (pieces.foldl stepPiece start)

/-- Notes the working directory. -/
def noteDirectory (directory : String) (old : Option String) : Sh Unit := do
  match old with
  | some d => Sh.change fun s => s.assign "OLDPWD" d true
  | none => pure ()
  Sh.change fun s => { s.assign "PWD" directory true with directory }

/-- The working directory, without links. -/
def physicalDirectory : Sh String := do
  match ← Sh.call .workingDirectory with
  | .ok (d : String) => return d
  | .error _ => return (← get).directory

/-- Changes the working directory. -/
def enter (isPhysical : Bool) (path : String) : Sh Bool := do
  let s ← get
  let target := if isPhysical || s.directory = "" then path else logicalPath s.directory path
  match ← Sh.call (.changeDirectory target) with
  | .error _ => return false
  | .ok () =>
    let directory ← if isPhysical || s.directory = "" then physicalDirectory else pure target
    noteDirectory directory (some s.directory)
    Search.becomeOld
    return true

/-- Whether a path is not looked for along the search path of directories. -/
def isExplicit (path : String) : Bool :=
  path.startsWith "/" || path = "." || path.startsWith "./" || path = ".." || path.startsWith "../"

/-- Changes the working directory. Tells whether the path is to be told, unless that fails. -/
def enterTold (isPhysical : Bool) (path : String) (isTold : Bool) : Sh (Option Bool) := do
  let entered ← enter isPhysical path
  return if entered then some isTold else none

/-- Changes the working directory to the first of several paths that lead to one. Tells whether the
path is to be told. -/
def enterFirst (isPhysical : Bool) : List (String × Bool) → Sh (Option Bool)
  | [] => pure none
  | (path, isTold) :: rest => do
    if ← Sh.act (Act.isDirectory path) then enterTold isPhysical path isTold
    else enterFirst isPhysical rest

/-- Changes the working directory. -/
def cd : Builtin := fun args => do
  let (letters, args) ← options "LP" args
  let isPhysical := letters.getLast?.any (·.1 = 'P')
  let s ← get
  let (path, isTold) : String × Bool := match args with
    | [] => (s.value "HOME", false)
    | "-" :: _ => (s.value "OLDPWD", true)
    | a :: _ => (a, false)
  let entered ← if isExplicit path then enterTold isPhysical path false
    else do
      let path := if path = "" then "." else path
      let fronts := match s.value? "CDPATH" with
        | some t => t.splitOn ":"
        | none => []
      let places := fronts.map fun f =>
        if f = "" then (path, false) else (f ++ "/" ++ path, true)
      match ← enterFirst isPhysical places with
      | some told => pure (some told)
      | none => enterTold isPhysical path false
  match entered with
  | none => Sh.fail ("can't cd to " ++ path)
  | some told =>
    if told || isTold then Sh.write ((← get).directory ++ "\n")
    return 0

/-- Writes the working directory. -/
def pwd : Builtin := fun args => do
  let (letters, _) ← options "LP" args
  let isPhysical := letters.getLast?.any (·.1 = 'P')
  let d ← if isPhysical then physicalDirectory else do pure (← get).directory
  Sh.write (d ++ "\n")
  return 0

/-! ### Permissions -/

/-- The letters of three permissions. -/
def modeLetters (n : Nat) : String :=
  (if n &&& 4 ≠ 0 then "r" else "") ++ (if n &&& 2 ≠ 0 then "w" else "") ++
    (if n &&& 1 ≠ 0 then "x" else "")

/-- A mask as the permissions that it leaves. -/
def spellMask (mask : Nat) : String :=
  let kept := 0o777 - mask % 512
  "u=" ++ modeLetters (kept / 64) ++ ",g=" ++ modeLetters (kept / 8 % 8) ++ ",o=" ++
    modeLetters (kept % 8)

/-- Digits of base eight, at least so many. -/
def octal (least n : Nat) : String :=
  let ds := Nat.toDigits 8 n
  String.ofList (List.replicate (least - ds.length) '0' ++ ds)

/-- Shows or changes which permissions new files lack. -/
def umask : Builtin := fun args => do
  let (letters, args) ← options "S" args
  let before : Nat ← Sh.call (.setMask 0)
  let _ ← Sh.call (.setMask before)
  match args with
  | [] =>
    Sh.write ((if letters = [] then octal 4 before else spellMask before) ++ "\n")
    return 0
  | a :: _ =>
    if a.toList.head?.any Char.isDigit then
      match Numbers.scan (some 8) a.toList with
      | ⟨n, true, []⟩ =>
        let _ ← Sh.call (.setMask n.toNat)
        return 0
      | _ => Sh.fail ("Illegal number: " ++ a)
    else
      match Mode.change? a (0o777 - before % 512) false 0 with
      | none => Sh.fail ("Illegal mode: " ++ a)
      | some kept =>
        let _ ← Sh.call (.setMask (0o777 - kept % 512))
        return 0

/-! ### Commands -/

/-- What a name stands for where a command begins. -/
inductive Meaning where
  | keyword
  | aliasFor (text : String)
  | function
  | builtin (isSpecial : Bool)
  | program (path : String) (isKnown : Bool)
  | nothing
  deriving DecidableEq, Inhabited

/-- What a name stands for where a command begins, if the shell has commands of its own. -/
def meaning (builtins : List String) (search : Option String) (name : String) : Sh Meaning := do
  let s ← get
  if Grammar.keywords.contains name then return .keyword
  match s.aliases.lookup name with
  | some text => return .aliasFor text
  | none => pure ()
  if name.contains '/' then
    return if ← Sh.act (Act.has name) then .program name false else .nothing
  if (s.functions.lookup name).isSome then return .function
  if builtins.contains name then return .builtin (Grammar.specialNames.contains name)
  match (Search.found? s name).filter fun _ => search.isNone with
  | some f => return .program f.path true
  | none =>
    match ← Search.find name search with
    | .ok path => return .program path false
    | .error _ => return .nothing

/-- Tells what a name stands for, at length or not. -/
def tellMeaning (atLength : Bool) (name : String) (m : Meaning) : Sh Nat := do
  let told (long short : String) : Sh Nat := do
    Sh.write ((if atLength then name ++ long else short) ++ "\n")
    return 0
  match m with
  | .keyword => told " is a shell keyword" name
  | .aliasFor text =>
    told (" is an alias for " ++ text) ("alias " ++ aliasText (name, text))
  | .function => told " is a shell function" name
  | .builtin isSpecial =>
    told (if isSpecial then " is a special shell builtin" else " is a shell builtin") name
  | .program path isKnown =>
    told ((if isKnown then " is a tracked alias for " else " is ") ++ path) path
  | .nothing =>
    if atLength then Sh.write (name ++ ": not found\n")
    return 127

/-- Tells what names stand for. -/
def typeOf (builtins : List String) : Builtin := fun args => do
  let statuses ← args.mapM fun name => do
    tellMeaning true name (← meaning builtins none name)
  return statuses.foldl (fun a b => a ||| b) 0

/-- Lists or forgets the commands that have been found, or looks for more. -/
def hash : Builtin := fun args => do
  let (letters, names) ← options "r" args
  if letters ≠ [] then
    Sh.change fun s => { s with found := [] }
    return 0
  let s ← get
  if names = [] then
    Sh.write (String.join ((Search.table s).map fun f =>
      f.path ++ (if f.isOld then "*\n" else "\n")))
    return 0
  let one (name : String) : Sh Nat := do
    if name.contains '/' || (s.functions.lookup name).isSome then return 0
    Search.forget name
    match ← Search.find name none with
    | .ok _ => return 0
    | .error e =>
      Sh.warn (name ++ ": " ++ Search.words e)
      return 1
  return (← names.mapM one).foldl max 0

/-- Writes the time that has been used. -/
def times : Builtin := fun _ => do
  Sh.write "0m0.000000s 0m0.000000s\n0m0.000000s 0m0.000000s\n"
  return 0

/-- Shows limits. -/
def limits : Builtin := fun args => do
  let (letters, values) ← options "HSatfdsmcnpvwr" args
  let letter := ((letters.filter fun l => l.1 ≠ 'H' && l.1 ≠ 'S').getLast?.map Prod.fst).getD 'f'
  if values = [] then
    let text := match letter with
      | 'n' => "1024"
      | 's' => "8192"
      | 'c' => "0"
      | _ => "unlimited"
    Sh.write (text ++ "\n")
  return 0

end Golden.Host.Shell.Builtin
