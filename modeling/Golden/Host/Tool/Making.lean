import Golden.Host.Calendar
import Golden.Host.Mode
import Golden.Host.Numbers
import Golden.Host.Tool.Answers

/-! # Tools that make things

Directories (`mkdir`), pipes (`mkfifo`), links (`ln`, `link`) and files (`touch`, `truncate`,
`mktemp`), and what is noted beside their contents (`chmod`). -/

namespace Golden.Host.Tool

/-! ### Directories -/

/-- What the permissions of something new are changed to, if an option tells. -/
def modeOption (os : List Opt) (isDirectory : Bool) (usual : Nat) : Tool (Option Nat) := do
  match valueOf? os "m" with
  | none => return none
  | some text =>
    let mask : Nat ← call (.setMask 0)
    let _ ← call (.setMask mask)
    match Mode.change? text usual isDirectory mask with
    | some mode => return some mode
    | none => fail 1 ("invalid mode " ++ Quoting.escaped text)

/-- Makes a directory with a mode. -/
def makeDirectory (path : String) (mode : Option Nat) : Tool (Except Errno Unit) := do
  match ← call (.makeDirectory path 0o777) with
  | .error e => return .error e
  | .ok () =>
    match mode with
    | none => return .ok ()
    | some mode => call (.setMode path mode)

/-- Tells that a directory has been made. -/
def tellMade (isVerbose : Bool) (path : String) : Tool Unit :=
  if isVerbose then do
    put ((← console).name ++ ": created directory " ++ Quoting.always path ++ "\n")
  else pure ()

/-- What `mkdir` says of a directory that cannot be made. -/
def noteDirectory (path : String) (e : Errno) : Tool Unit := do
  flush
  note ("cannot create directory " ++ Quoting.always path ++ ": " ++ e.words)

/-- Goes down the directories of a path and makes those that are missing. Only the last one has the
mode. Gives the directory that could not be reached. -/
def makeAll (isVerbose : Bool) (mode : Option Nat) (done : String) :
    List String → Tool (Option (String × Errno))
  | [] => pure none
  | name :: rest => do
    let path := done ++ name
    let r ← makeDirectory name (if rest = [] then mode else none)
    match r with
    | .ok () => tellMade isVerbose path
    | .error _ => pure ()
    match r, rest with
    | .ok (), [] => return none
    | .error e, [] =>
      let isThere ← act (Act.isDirectory name)
      return if isThere && (e = .alreadyThere || e = .isDirectory) then none else some (path, e)
    | r, _ =>
      match ← call (.changeDirectory name) with
      | .ok () => makeAll isVerbose mode (path ++ "/") rest
      | .error e =>
        let refusal : Errno := match r with
          | .error .alreadyThere | .ok () => e
          | .error first => first
        return some (path, refusal)

/-- Makes a directory with all directories above it, and goes back. -/
def makeWithParents (isVerbose : Bool) (mode : Option Nat) (path : String) : Tool Unit := do
  if path = "" then noteDirectory path .noEntry
  else
    let here : Except Errno String ← call .workingDirectory
    let start := if path.startsWith "/" then "/" else ""
    if start ≠ "" then
      let _ ← call (.changeDirectory "/")
    let names := (path.splitOn "/").filter (· ≠ "")
    match ← makeAll isVerbose mode start names with
    | none => pure ()
    | some (failed, e) =>
      let isLast := failed = start ++ "/".intercalate names
      noteDirectory (if isLast then path else failed) e
    match here with
    | .ok d =>
      let _ ← call (.changeDirectory d)
    | .error _ => pure ()

/-- Makes directories. -/
def mkdir : Program := program fun args => do
  let t := { OptionTable.ofLetters "pm:vZ" with
    words := [("mode", .argument, "m"), ("parents", .nothing, "p"), ("verbose", .nothing, "v")] }
  let (os, names) ← options t args
  if names = [] then missing t none
  let mode ← modeOption os true 0o777
  let isVerbose := isGiven os "v"
  names.forM fun path =>
    if isGiven os "p" then makeWithParents isVerbose mode path
    else do
      match ← makeDirectory path mode with
      | .ok () => tellMade isVerbose path
      | .error e => noteDirectory path e

/-- Makes pipes with names. -/
def mkfifo : Program := program fun args => do
  let t := { OptionTable.ofLetters "m:Z" with words := [("mode", .argument, "m")] }
  let (os, names) ← options t args
  if names = [] then missing t none
  let mode ← modeOption os false 0o666
  names.forM fun path => do
    match ← call (.makeFifo path 0o666) with
    | .error e => note ("cannot create fifo " ++ Quoting.always path ++ ": " ++ e.words)
    | .ok () =>
      match mode with
      | none => pure ()
      | some mode =>
        let _ ← call (.setMode path mode)

/-! ### Files -/

/-- The time that options tell, or that of now. -/
def touchTime (os : List Opt) (t : OptionTable) : Tool Nat := do
  let now : Nat ← call .now
  match os.findRev? fun o => ["d", "t", "r"].contains o.key with
  | none => return now
  | some o =>
    let text := o.value.getD ""
    if o.key = "r" then
      match ← call (.facts text true) with
      | .ok (f : Facts) => return f.modified
      | .error e =>
        fail 1 ("failed to get attributes of " ++ Quoting.always text ++ ": " ++ e.words)
    else
      let read? := if o.key = "d" then Calendar.read? else Calendar.stamp?
      match read? now text with
      | some time => return time.toNat
      | none =>
        let _ := t
        fail 1 ("invalid date format " ++ Quoting.escaped text)

/-- Makes files, or notes that they have been changed. -/
def touch : Program := program fun args => do
  let t := { OptionTable.ofLetters "acd:fhmr:t:" with
    words := [("no-create", .nothing, "c"), ("date", .argument, "d"),
      ("reference", .argument, "r"), ("time", .argument, "time"),
      ("no-dereference", .nothing, "h")] }
  let (os, names) ← options t args
  let time ← touchTime os t
  if names = [] then misuse t "missing file operand"
  names.forM fun path => do
    let how : Opening := { Opening.toWrite with makes := !isGiven os "c", empties := false }
    let refusal : Option Errno ← match ← act (Act.openFile path how) with
      | .ok d => do
        act (Act.close d)
        pure none
      | .error e => pure (some e)
    match ← call (.facts path true), refusal with
    | .ok _, _ =>
      let _ ← call (.setTime path time)
    | .error e, refusal =>
      if !(isGiven os "c" && e = .noEntry) then
        match refusal with
        | some .isDirectory | none =>
          note ("setting times of " ++ Quoting.always path ++ ": " ++ e.words)
        | some e => note ("cannot touch " ++ Quoting.always path ++ ": " ++ e.words)

/-- A size that a file gets: a number of octets, in relation to the size that it has. -/
def sizeAfter? (text : String) (size : Nat) : Option Nat := do
  let cs := text.toList
  let (sign, rest) := match cs with
    | c :: rest => if ['+', '-', '<', '>', '/', '%'].contains c then (c, rest) else ('=', cs)
    | [] => ('=', [])
  let n ← Sizes.read "kKmMGTPEZYRQbB".toList (String.ofList rest)
  match sign with
  | '+' => some (size + n)
  | '-' => some (size - n)
  | '<' => some (min size n)
  | '>' => some (max size n)
  | '/' => if n = 0 then none else some (size / n * n)
  | '%' => if n = 0 then none else some ((size + n - 1) / n * n)
  | _ => some n

/-- Gives files a size. -/
def truncate : Program := program fun args => do
  let t := { OptionTable.ofLetters "cor:s:" with
    words := [("no-create", .nothing, "c"), ("io-blocks", .nothing, "o"),
      ("reference", .argument, "r"), ("size", .argument, "s")] }
  let (os, names) ← options t args
  if !isGiven os "s" && !isGiven os "r" then
    misuse t "you must specify either '--size' or '--reference'"
  if names = [] then misuse t "missing file operand"
  let base ← match valueOf? os "r" with
    | none => pure none
    | some path =>
      match ← call (.facts path true) with
      | .ok (f : Facts) => pure (some f.size)
      | .error e => fail 1 ("cannot stat " ++ Quoting.always path ++ ": " ++ e.words)
  match valueOf? os "s" with
  | none => pure ()
  | some text =>
    if (sizeAfter? text 0).isNone then fail 1 ("Invalid number: " ++ Quoting.escaped text)
  names.forM fun path => do
    let how : Opening := { Opening.toWrite with makes := !isGiven os "c", empties := false }
    match ← act (Act.openFile path how) with
    | .error e =>
      if !(isGiven os "c" && e = .noEntry) then
        note ("cannot open " ++ Quoting.always path ++ " for writing: " ++ e.words)
    | .ok d =>
      let size ← match base, ← call (.factsOf d) with
        | some n, _ => pure n
        | none, .ok (f : Facts) => pure f.size
        | none, .error _ => pure 0
      let wanted := match valueOf? os "s" with
        | some text => (sizeAfter? text size).getD size
        | none => size
      let r ← call (.setLength d wanted)
      act (Act.close d)
      match r with
      | .ok () => pure ()
      | .error e =>
        note ("failed to truncate " ++ Quoting.always path ++ " at " ++ toString wanted ++
          " bytes: " ++ e.words)

/-- The characters of names that are made up. -/
def nameLetters : String := "abcdefghijklmnopqrstuvwxyzABCDEFGHIJKLMNOPQRSTUVWXYZ0123456789"

/-- A name that is made up: so many characters that depend on a number. -/
def madeUp : Nat → Nat → List Char
  | 0, _ => []
  | n + 1, seed =>
    let next := (seed * 6364136223846793005 + 1442695040888963407) % UInt64.size
    (nameLetters.toList[next / Nat.pow 2 33 % 62]?).getD 'x' :: madeUp n next

/-- Makes something under a made up name that is not in use. -/
def makeTemporary (isDirectory isDry : Bool) (front back : String) (letters : Nat) :
    Nat → Tool (Except Errno String)
  | 0 => pure (.error .alreadyThere)
  | n + 1 => do
    let now : Nat ← call .now
    let self : Nat ← call .self
    let path := front ++ String.ofList (madeUp letters (now * 7919 + self)) ++ back
    let r ← if isDry then do
        let isThere ← act (Act.has path)
        pure (if isThere then .error .alreadyThere else .ok ())
      else if isDirectory then call (.makeDirectory path 0o700)
      else do
        match ← call (.openFile path .toMake 0o600) with
        | .ok d => do
          act (Act.close d)
          pure (.ok ())
        | .error e => pure (.error e)
    match r with
    | .ok () => return .ok path
    | .error .alreadyThere => makeTemporary isDirectory isDry front back letters n
    | .error e => return .error e

/-- Makes a file or a directory under a name that is not in use. -/
def mktemp : Program := program fun args => do
  let t := { OptionTable.ofLetters "dp:qtuV" with
    words := [("directory", .nothing, "d"), ("quiet", .nothing, "q"),
      ("suffix", .argument, "suffix"), ("tmpdir", .maybe, "p"), ("dry-run", .nothing, "u")] }
  let (os, names) ← options t args
  match names with
  | _ :: _ :: _ => misuse t "too many templates"
  | _ => pure ()
  let environment := (← console).environment
  let usual := ((environment.lookup "TMPDIR").filter (· ≠ "")).getD "/tmp"
  let named := isGiven os "p" || isGiven os "t" || names = []
  let template := names.headD "tmp.XXXXXXXXXX"
  let ending := (valueOf? os "suffix").getD ""
  let cs := template.toList.reverse
  let back := if isGiven os "suffix" then [] else cs.takeWhile (· ≠ 'X')
  let xs := (cs.drop back.length).takeWhile (· = 'X')
  if isGiven os "suffix" && cs.head? ≠ some 'X' then
    fail 1 ("with --suffix, template " ++ Quoting.always template ++ " must end in X")
  if xs.length < 3 then fail 1 ("too few X's in template " ++ Quoting.always template)
  let stem := String.ofList (cs.drop (back.length + xs.length)).reverse
  let directory := (((valueOf? os "p").filter (· ≠ "")).getD usual)
  if named && stem.startsWith "/" then
    fail 1 ("invalid template, " ++ Quoting.always template ++
      "; with --tmpdir, it may not be absolute")
  let front := if named then
      (if directory.endsWith "/" then directory ++ stem else directory ++ "/" ++ stem)
    else stem
  let isDirectory := isGiven os "d"
  match ← makeTemporary isDirectory (isGiven os "u") front (String.ofList back.reverse ++ ending)
      xs.length 100 with
  | .ok path => put (path ++ "\n")
  | .error e =>
    let shown := front ++ String.ofList xs ++ String.ofList back.reverse ++ ending
    if isGiven os "q" then exit 1
    else
      fail 1 ("failed to create " ++ (if isDirectory then "directory" else "file") ++
        " via template " ++ Quoting.always shown ++ ": " ++ e.words)

/-! ### Links -/

/-- How links are made. -/
structure Linking where
  symbolic : Bool
  force : Bool
  isVerbose : Bool
  relative : Bool
  deriving DecidableEq, Inhabited

/-- The path from a directory to a place, if both are told from the root. -/
def relativePath (directory place : List String) : String :=
  match directory, place with
  | a :: as, b :: bs =>
    if a = b then relativePath as bs else up (a :: as) ++ "/".intercalate (b :: bs)
  | as, bs =>
    let path := up as ++ "/".intercalate bs
    if path = "" then "." else if bs = [] then (path.take (path.length - 1)).toString else path
where
  /-- Steps to the directories above. -/
  up (as : List String) : String := String.join (as.map fun _ => "../")

/-- The pieces of a path as told from the root, without following links. -/
def rootPieces (path : String) : Tool (List String) := do
  let here : Except Errno String ← call .workingDirectory
  let whole := if path.startsWith "/" then path else (here.toOption.getD "/") ++ "/" ++ path
  return (whole.splitOn "/").foldl (fun done p =>
    if p = "" || p = "." then done else if p = ".." then done.dropLast else done ++ [p]) []

/-- Makes a link. -/
def makeLink (l : Linking) (source path : String) : Tool Unit := do
  let source ← if l.relative then do
      pure (relativePath ((← rootPieces path).dropLast) (← rootPieces source))
    else pure source
  let target ← act (Act.facts? path false)
  if !l.symbolic then
    match ← call (.facts source false) with
    | .error e =>
      note ("failed to access " ++ Quoting.always source ++ ": " ++ e.words)
      return
    | .ok (f : Facts) =>
      if f.kind = .directory then
        note (source ++ ": hard link not allowed for directory")
        return
  let isSame ← do
    let f ← act (Act.facts? source false)
    pure (f.isSome && f.map Facts.number = target.map Facts.number)
  if l.force && isSame && (!l.symbolic || baseOf source = baseOf path) then
    note (Quoting.always source ++ " and " ++ Quoting.always path ++ " are the same file")
    return
  if l.force && target.any fun f => f.kind = .directory then
    note (path ++ ": cannot overwrite directory")
    return
  if l.force && target.isSome then
    let _ ← call (.unlink path)
  let r : Except Errno Unit ←
    if l.symbolic then call (.makeLink source path) else call (.link source path)
  match r with
  | .ok () =>
    if l.isVerbose then
      put (Quoting.always path ++ (if l.symbolic then " -> " else " => ") ++
        Quoting.always source ++ "\n")
  | .error e =>
    let isShort := e = .alreadyThere || (l.symbolic && source ≠ "")
    note ("failed to create " ++ (if l.symbolic then "symbolic" else "hard") ++ " link " ++
      Quoting.always path ++
      (if isShort then "" else (if l.symbolic then " -> " else " => ") ++ Quoting.always source) ++
      ": " ++ e.words)

/-- The options of `ln`. -/
def lnOptions : OptionTable :=
  { OptionTable.ofLetters "bdfinrst:vLPS:TF" with
    words := [("force", .nothing, "f"), ("no-dereference", .nothing, "n"),
      ("relative", .nothing, "r"), ("symbolic", .nothing, "s"),
      ("target-directory", .argument, "t"), ("no-target-directory", .nothing, "T"),
      ("verbose", .nothing, "v"), ("interactive", .nothing, "i"), ("logical", .nothing, "L"),
      ("physical", .nothing, "P")] }

/-- Makes links. -/
def ln : Program := program fun args => do
  let (os, names) ← options lnOptions args
  let l : Linking := ⟨isGiven os "s", isGiven os "f", isGiven os "v", isGiven os "r"⟩
  let linkInto (directory : String) (sources : List String) : Tool Unit :=
    sources.forM fun source => makeLink l source (inside directory (baseOf source))
  let isDirectory (path : String) : Tool Bool := do
    let f ← act (Act.facts? path (!isGiven os "n"))
    return f.any (·.kind = .directory)
  match valueOf? os "t", names.reverse with
  | _, [] => misuse lnOptions "missing file operand"
  | some directory, _ =>
    match ← call (.facts directory true) with
    | .ok _ => linkInto directory names
    | .error e => fail 1 ("failed to access " ++ Quoting.always directory ++ ": " ++ e.words)
  | none, last :: others =>
    if isGiven os "T" then
      match names with
      | [a, b] => makeLink l a b
      | [a] => misuse lnOptions ("missing destination file operand after " ++ Quoting.escaped a)
      | _ => misuse lnOptions ("extra operand " ++ Quoting.escaped ((names[2]?).getD ""))
    else
      match others.reverse with
      | [] => makeLink l last (inside "." (baseOf last))
      | [source] =>
        if ← isDirectory last then linkInto last [source] else makeLink l source last
      | sources =>
        match ← call (.facts last true) with
        | .error e => fail 1 ("target " ++ Quoting.always last ++ ": " ++ e.words)
        | .ok (f : Facts) =>
          if f.kind = .directory then linkInto last sources
          else fail 1 ("target " ++ Quoting.always last ++ ": " ++ Errno.notDirectory.words)

/-- Makes a link. -/
def link : Program := program fun args => do
  let t := OptionTable.ofLetters ""
  match ← options t args with
  | (_, []) => missing t none
  | (_, [a]) => missing t (some a)
  | (_, [a, b]) =>
    match ← call (.link a b) with
    | .ok () => pure ()
    | .error e =>
      fail 1 ("cannot create link " ++ Quoting.always b ++ " to " ++ Quoting.always a ++ ": " ++
        e.words)
  | (_, _ :: _ :: c :: _) => extra t c

/-! ### Permissions -/

/-- How permissions are changed. -/
structure ModeChange where
  text : String
  mask : Nat
  recursive : Bool
  isVerbose : Bool
  tellsChanges : Bool
  isSilent : Bool
  deriving DecidableEq, Inhabited

/-- A mode as digits and letters. -/
def spellMode (mode : Nat) : String :=
  String.ofList (let ds := Nat.toDigits 8 mode; List.replicate (4 - ds.length) '0' ++ ds) ++ " (" ++
    Mode.spell mode ++ ")"

/-- Changes the permissions of what a path leads to, and of what is below it, at most `n` levels
down. -/
def changeMode (c : ModeChange) : Nat → Bool → String → Tool Unit
  | 0, _, _ => pure ()
  | n + 1, isArgument, path => do
    match ← call (.facts path isArgument) with
    | .error e =>
      if !c.isSilent then
        let dangling := isArgument && (← act (Act.facts? path false)).isSome && e = .noEntry
        if dangling then note ("cannot operate on dangling symlink " ++ Quoting.always path)
        else note ("cannot access " ++ Quoting.always path ++ ": " ++ e.words)
      else setStatus 1
    | .ok (f : Facts) =>
      if f.kind = .link then return
      let isDirectory := f.kind = .directory
      match Mode.change? c.text f.mode isDirectory c.mask with
      | none => pure ()
      | some mode =>
        let _ ← call (.setMode path mode)
        if c.isVerbose || (c.tellsChanges && mode ≠ f.mode) then
          put ("mode of " ++ Quoting.always path ++
            (if mode = f.mode then " retained as " ++ spellMode mode
              else " changed from " ++ spellMode f.mode ++ " to " ++ spellMode mode) ++ "\n")
      if c.recursive && isDirectory then
        match ← call (.list path) with
        | .error e => note ("cannot read directory " ++ Quoting.always path ++ ": " ++ e.words)
        | .ok (names : List String) =>
          names.forM fun name => changeMode c n false (inside path name)

/-- Changes permissions. -/
def chmod : Program := program fun args => do
  let maybe (c : Char) : String := String.ofList [c, ':', ':']
  let modeLetters := String.join ("rwxXstugoa,=+01234567".toList.map maybe)
  let t := { OptionTable.ofLetters ("cfvR" ++ modeLetters) with
    words := [("changes", .nothing, "c"), ("silent", .nothing, "f"), ("quiet", .nothing, "f"),
      ("verbose", .nothing, "v"), ("recursive", .nothing, "R"),
      ("reference", .argument, "reference")] }
  let (os, names) ← options t args
  let minus := os.filter fun o => !(["c", "f", "v", "R", "reference"].contains o.key)
  let given := ",".intercalate (minus.map fun o => "-" ++ o.key ++ o.value.getD "")
  let (mode, names) ← match valueOf? os "reference", minus, names with
    | some path, _, names =>
      match ← call (.facts path true) with
      | .ok (f : Facts) => pure (String.ofList (Nat.toDigits 8 f.mode), names)
      | .error e =>
        fail 1 ("failed to get attributes of " ++ Quoting.always path ++ ": " ++ e.words)
    | none, _ :: _, names => pure (given, names)
    | none, [], [] => missing t none
    | none, [], mode :: names => pure (mode, names)
  if names = [] then
    if isGiven os "reference" then missing t none else missing t (some mode)
  let mask : Nat ← call (.setMask 0)
  let _ ← call (.setMask mask)
  if (Mode.change? mode 0 false mask).isNone then
    misuse t ("invalid mode: " ++ Quoting.escaped mode)
  let c : ModeChange :=
    ⟨mode, mask, isGiven os "R", isGiven os "v", isGiven os "c", isGiven os "f"⟩
  names.forM (changeMode c Act.manySteps true)

end Golden.Host.Tool
