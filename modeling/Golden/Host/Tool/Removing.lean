import Golden.Host.Tool.Answers

/-! # Tools that remove things

Files and whole directories (`rm`), directories that are empty (`rmdir`), and single names
(`unlink`). -/

namespace Golden.Host.Tool

/-! ### Asking -/

/-- Reads a line from standard input, octet by octet. -/
def readAnswer : Nat → String → Tool String
  | 0, done => pure done
  | n + 1, done => do
    let r : Except Errno ByteArray ← call (.read 0 1)
    match r with
    | .error _ => return done
    | .ok octets =>
      let c := Octets.unpack octets
      if c = "" || c = "\n" then return done else readAnswer n (done ++ c)

/-- Asks a question, and tells whether the answer is yes. -/
def ask (question : String) : Tool Bool := do
  flush
  complain ((← console).name ++ ": " ++ question ++ "? ")
  let answer ← readAnswer Act.manySteps ""
  return answer.startsWith "y" || answer.startsWith "Y"

/-- Asks a question if that is wanted, and tells whether to go on. -/
def agreed (asks : Bool) (question : String) : Tool Bool :=
  if asks then ask question else pure true

/-! ### Files and directories -/

/-- How things are removed. -/
structure Removal where
  force : Bool
  recursive : Bool
  /-- Directories are removed if they are empty. -/
  directories : Bool
  asks : Bool
  isVerbose : Bool
  deriving DecidableEq, Inhabited

namespace Removal

/-- Tells that something cannot be removed. -/
def noteRefusal (r : Removal) (path : String) (e : Errno) : Tool Unit :=
  if r.force && (e = .noEntry || e = .notDirectory) then pure ()
  else do
    flush
    note ("cannot remove " ++ Quoting.always path ++ ": " ++ e.words)

/-- Tells that something has been removed. -/
def tell (r : Removal) (what path : String) : Tool Unit :=
  if r.isVerbose then put ("removed " ++ what ++ Quoting.always path ++ "\n") else pure ()

/-- Removes what a path leads to with all that is below it, at most `n` levels down. Tells whether
it is gone. -/
def remove (r : Removal) : Nat → String → Tool Bool
  | 0, _ => pure false
  | n + 1, path => do
    match ← call (.facts path false) with
    | .error e =>
      r.noteRefusal path e
      return r.force
    | .ok (f : Facts) =>
      if f.kind ≠ .directory then
        if !(← agreed r.asks ("remove " ++ f.kindWords ++ " " ++ Quoting.always path)) then
          return false
        match ← call (.unlink path) with
        | .ok () =>
          r.tell "" path
          return true
        | .error e =>
          r.noteRefusal path e
          return false
      else
        let names : List String ← match ← call (.list path) with
          | .ok names => pure names
          | .error _ => pure []
        if !r.recursive then
          if !r.directories then
            r.noteRefusal path .isDirectory
            return false
          if names ≠ [] then
            r.noteRefusal path .notEmpty
            return false
        else
          let asks := r.asks && names ≠ []
          if !(← agreed asks ("descend into directory " ++ Quoting.always path)) then return false
        let inner (name : String) : String :=
          if path.endsWith "/" then path ++ name else path ++ "/" ++ name
        let gone ← if r.recursive then names.mapM fun name => remove r n (inner name)
          else pure []
        if gone.contains false then return false
        if !(← agreed r.asks ("remove directory " ++ Quoting.always path)) then return false
        match ← call (.removeDirectory path) with
        | .ok () =>
          r.tell "directory " path
          return true
        | .error e =>
          r.noteRefusal path e
          return false

/-- Removes what an argument names. -/
def argument (r : Removal) (path : String) : Tool Unit := do
  let base := baseOf path
  let f ← act (Act.facts? path false)
  let isDirectory := f.any (·.kind = .directory)
  if r.recursive && isDirectory && (base = "." || base = "..") then
    flush
    note ("refusing to remove '.' or '..' directory: skipping " ++ Quoting.always path)
  else if r.recursive && base = "/" then
    flush
    warn ("it is dangerous to operate recursively on " ++
      (if path = "/" then "'/'" else Quoting.always path ++ " (same as '/')"))
    note "use --no-preserve-root to override this failsafe"
  else
    let _ ← r.remove Act.manySteps path
    pure ()

end Removal

/-- Removes files and directories. -/
def rm : Program := program fun args => do
  let t := { OptionTable.ofLetters "dfirvIR" with
    words := [("force", .nothing, "f"), ("recursive", .nothing, "r"), ("dir", .nothing, "d"),
      ("verbose", .nothing, "v"), ("interactive", .maybe, "interactive"),
      ("one-file-system", .nothing, "one"), ("no-preserve-root", .nothing, "no"),
      ("preserve-root", .maybe, "keep")] }
  let (os, names) ← options t args
  let manner := os.findRev? fun o => ["f", "i", "I", "interactive"].contains o.key
  let (force, asks, asksOnce) := match manner with
    | none => (false, false, false)
    | some o =>
      match o.key, o.value with
      | "f", _ => (true, false, false)
      | "i", _ | "interactive", none | "interactive", some "always" => (false, true, false)
      | "I", _ | "interactive", some "once" => (false, false, true)
      | _, _ => (false, false, false)
  if names = [] then if isGiven os "f" then exit 0 else missing t none
  let recursive := isGiven os "r" || isGiven os "R"
  let r : Removal := ⟨force, recursive, isGiven os "d", asks, isGiven os "v"⟩
  if asksOnce && (recursive || 3 < names.length) then
    let plural := if names.length = 1 then " argument" else " arguments"
    let question := "remove " ++ toString names.length ++ plural ++
      (if recursive then " recursively" else "")
    if !(← ask question) then exit 0
  names.forM r.argument

/-! ### Empty directories -/

/-- Removes the directories above a path as long as they are empty. -/
def removeParents (isVerbose ignores : Bool) : Nat → String → Tool Unit
  | 0, _ => pure ()
  | n + 1, path => do
    let above := ((withoutSlashes path.toList).reverse.dropWhile (· ≠ '/')).reverse
    if above = [] then return
    let above := String.ofList (withoutSlashes above)
    if isVerbose then
      put ((← console).name ++ ": removing directory, " ++ Quoting.always above ++ "\n")
    match ← call (.removeDirectory above) with
    | .ok () => removeParents isVerbose ignores n above
    | .error e =>
      if !(ignores && e = .notEmpty) then
        flush
        note ("failed to remove directory " ++ Quoting.always above ++ ": " ++ e.words)

/-- Removes directories that are empty. -/
def rmdir : Program := program fun args => do
  let t := { OptionTable.ofLetters "pv" with
    words := [("parents", .nothing, "p"), ("verbose", .nothing, "v"),
      ("ignore-fail-on-non-empty", .nothing, "ignore")] }
  let (os, names) ← options t args
  if names = [] then missing t none
  let isVerbose := isGiven os "v"
  let ignores := isGiven os "ignore"
  names.forM fun path => do
    if isVerbose then
      put ((← console).name ++ ": removing directory, " ++ Quoting.always path ++ "\n")
    match ← call (.removeDirectory path) with
    | .ok () =>
      if isGiven os "p" then removeParents isVerbose ignores (path.length + 1) path
    | .error e =>
      if !(ignores && e = .notEmpty) then
        flush
        note ("failed to remove " ++ Quoting.always path ++ ": " ++ e.words)

/-- Removes a name. -/
def unlink : Program := program fun args => do
  let t := OptionTable.ofLetters ""
  match ← options t args with
  | (_, []) => missing t none
  | (_, [path]) =>
    match ← call (.unlink path) with
    | .ok () => pure ()
    | .error e => fail 1 ("cannot unlink " ++ Quoting.always path ++ ": " ++ e.words)
  | (_, _ :: b :: _) => extra t b

end Golden.Host.Tool
