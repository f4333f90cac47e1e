import Golden.Host.Tool.Making
import Golden.Host.Tool.Removing

/-! # Tools that copy and move things

Both tools (`cp`, `mv`) put one thing in the place of another, or several into a directory. -/

namespace Golden.Host.Tool

/-! ### Sources and targets -/

/-- The options that `cp` and `mv` have in common. -/
def transferWords : List (String × Takes × String) :=
  [("force", .nothing, "f"), ("interactive", .nothing, "i"), ("no-clobber", .nothing, "n"),
   ("target-directory", .argument, "t"), ("no-target-directory", .nothing, "T"),
   ("update", .maybe, "u"), ("verbose", .nothing, "v"),
   ("strip-trailing-slashes", .nothing, "strip")]

/-- The sources that are put in the places of targets. -/
def transfers (t : OptionTable) (os : List Opt) (names : List String) :
    Tool (List (String × String)) := do
  let into (directory : String) (sources : List String) : List (String × String) :=
    sources.map fun s => (s, inside directory (baseOf s))
  match valueOf? os "t", names with
  | _, [] => misuse t "missing file operand"
  | some directory, _ =>
    match ← call (.facts directory true) with
    | .error e => fail 1 ("target directory " ++ Quoting.always directory ++ ": " ++ e.words)
    | .ok (f : Facts) =>
      if f.kind = .directory then return into directory names
      else
        fail 1 ("target directory " ++ Quoting.always directory ++ ": " ++ Errno.notDirectory.words)
  | none, [a] => misuse t ("missing destination file operand after " ++ Quoting.escaped a)
  | none, _ =>
    let last := names.getLastD ""
    let sources := names.dropLast
    if isGiven os "T" then
      if 1 < sources.length then extra t ((names[2]?).getD "")
      return [(sources.headD "", last)]
    match ← call (.facts last true) with
    | .ok (f : Facts) =>
      if f.kind = .directory then return into last sources
      else if sources.length = 1 then return [(sources.headD "", last)]
      else fail 1 ("target " ++ Quoting.always last ++ ": " ++ Errno.notDirectory.words)
    | .error e =>
      if sources.length = 1 then return [(sources.headD "", last)]
      else fail 1 ("target " ++ Quoting.always last ++ ": " ++ e.words)

/-- How one thing takes the place of another. -/
structure Transfer where
  /-- What is there stays. -/
  keeps : Bool
  asks : Bool
  force : Bool
  isVerbose : Bool
  /-- Only what is older is replaced. -/
  updates : Bool
  recursive : Bool
  /-- Links are followed. -/
  follows : Bool
  preserves : Bool
  linksTo : Bool
  pointsTo : Bool
  deriving DecidableEq, Inhabited

/-- Tells what takes the place of what. -/
def Transfer.tell (x : Transfer) (how source target : String) : Tool Unit :=
  if x.isVerbose then put (how ++ Quoting.always source ++ " -> " ++ Quoting.always target ++ "\n")
  else pure ()

/-- A path as told from the root, up to links. -/
def isSamePath (a b : String) : Tool Bool := do
  return (← rootPieces a) = (← rootPieces b)

/-- Tells a mistake behind what has been written. -/
def noteBehind (text : String) : Tool Unit := do
  flush
  note text

/-- Whether one thing may take the place of another that is there. -/
def Transfer.mayReplace (x : Transfer) (source target : String) (s t : Facts) : Tool Bool := do
  if t.kind = .directory && s.kind ≠ .directory then
    noteBehind ("cannot overwrite directory " ++ Quoting.always target ++ " with non-directory")
    return false
  if s.kind = .directory && t.kind ≠ .directory then
    noteBehind ("cannot overwrite non-directory " ++ Quoting.always target ++ " with directory " ++
      Quoting.always source)
    return false
  if x.updates && s.kind ≠ .directory && s.modified ≤ t.modified then return false
  return true

/-! ### Moving -/

/-- What is said of something that cannot be moved. -/
def moveRefusal (source target : String) : Errno → String
  | .invalid =>
    "cannot move " ++ Quoting.always source ++ " to a subdirectory of itself, " ++
      Quoting.always target
  | .notEmpty => "cannot overwrite " ++ Quoting.always target ++ ": " ++ Errno.notEmpty.words
  | e =>
    "cannot move " ++ Quoting.always source ++ " to " ++ Quoting.always target ++ ": " ++ e.words

/-- Moves something. -/
def Transfer.move (x : Transfer) (source target : String) : Tool Unit := do
  let carryOut : Tool Unit := do
    match ← call (.rename source target) with
    | .ok () => x.tell "renamed " source target
    | .error e => noteBehind (moveRefusal source target e)
  match ← call (.facts source false), ← call (.facts target false) with
  | .error (e : Errno), _ => noteBehind ("cannot stat " ++ Quoting.always source ++ ": " ++ e.words)
  | .ok _, .error _ => carryOut
  | .ok (s : Facts), .ok (t : Facts) =>
    if s.number = t.number && (s.kind = .directory || (← isSamePath source target)) then
      if s.kind = .directory then carryOut
      else
        noteBehind
          (Quoting.always source ++ " and " ++ Quoting.always target ++ " are the same file")
    else if s.number = t.number then
      let _ ← call (.unlink source)
      x.tell "renamed " source target
    else if x.keeps then noteBehind ("not replacing " ++ Quoting.always target)
    else if ← x.mayReplace source target s t then
      let goesOn ← if x.asks then ask ("overwrite " ++ Quoting.always target) else pure true
      if goesOn then carryOut else setStatus 1

/-- Moves files and directories. -/
def mv : Program := program fun args => do
  let t := { OptionTable.ofLetters "bfint:uvS:TZ" with words := transferWords }
  let (os, names) ← options t args
  let manner := lastOf? os ["f", "i", "n"]
  let x : Transfer :=
    { (default : Transfer) with
      keeps := manner = some "n", asks := manner = some "i", force := manner = some "f"
      isVerbose := isGiven os "v", updates := isGiven os "u" }
  (← transfers t os names).forM fun (source, target) => x.move source target

/-! ### Copying -/

/-- Copies the contents of an open file to another. -/
def copyOpen (source target : Nat) : Nat → Tool (Except Errno Unit)
  | 0 => pure (.ok ())
  | n + 1 => do
    let r : Except Errno ByteArray ← call (.read source Act.blockSize)
    match r with
    | .error e => return .error e
    | .ok octets =>
      if octets.isEmpty then return .ok ()
      match ← call (.write target octets) with
      | .error e => return .error e
      | .ok _ => copyOpen source target n

/-- Copies the contents of a file into a file that may be new. -/
def Transfer.copyFile (x : Transfer) (source target : String) (mode : Nat) : Tool Unit := do
  match ← act (Act.openFile source .toRead) with
  | .error e =>
    noteBehind ("cannot open " ++ Quoting.always source ++ " for reading: " ++ e.words)
  | .ok d =>
    let isDangling ← do
      let a ← act (Act.facts? target false)
      let b ← act (Act.facts? target true)
      pure (a.isSome && b.isNone)
    if isDangling then
      noteBehind ("not writing through dangling symlink " ++ Quoting.always target)
    else
      match ← call (.openFile target .toWrite (mode % 512)) with
      | .error e =>
        let e := if e = .isDirectory then .notDirectory else e
        noteBehind ("cannot create regular file " ++ Quoting.always target ++ ": " ++ e.words)
      | .ok (w : Nat) =>
        match ← copyOpen d w Act.manySteps with
        | .ok () => x.tell "" source target
        | .error e => noteBehind ("error writing " ++ Quoting.always target ++ ": " ++ e.words)
        act (Act.close w)
    act (Act.close d)

/-- Keeps what is noted beside contents. -/
def Transfer.preserve (x : Transfer) (target : String) (f : Facts) : Tool Unit := do
  if x.preserves && f.kind ≠ .link then
    let _ ← call (.setMode target f.mode)
    let _ ← call (.setTime target f.modified)

/-- Copies something, with all that is below it, at most `n` levels down. `top` is the directory
that is being copied and its copy. -/
def Transfer.copy (x : Transfer) :
    Nat → Option (String × String × Nat) → String → String → Tool Unit
  | 0, _, _, _ => pure ()
  | n + 1, top, source, target => do
    match ← call (.facts source x.follows) with
    | .error e => noteBehind ("cannot stat " ++ Quoting.always source ++ ": " ++ e.words)
    | .ok (s : Facts) =>
      if s.kind = .directory && !x.recursive then
        noteBehind ("-r not specified; omitting directory " ++ Quoting.always source)
      else if let some (a, b, _) := top.filter (·.2.2 = s.number) then
        noteBehind ("cannot copy a directory, " ++ Quoting.always a ++ ", into itself, " ++
          Quoting.always b)
      else
        let t ← act (Act.facts? target (s.kind ≠ .link))
        let goesOn ← match t with
          | none => pure true
          | some t => do
            if s.number = t.number && s.kind ≠ .directory then
              noteBehind (Quoting.always source ++ " and " ++ Quoting.always target ++
                " are the same file")
              pure false
            else if x.keeps then pure (s.kind = .directory && t.kind = .directory)
            else if ← x.mayReplace source target s t then
              if x.asks && s.kind ≠ .directory then ask ("overwrite " ++ Quoting.always target)
              else pure true
            else pure false
        if goesOn then
          match s.kind with
          | .directory =>
            let made : Except Errno Unit ← if t.isSome then pure (.ok ())
              else do
                let r ← call (.makeDirectory target (s.mode ||| 0o700))
                pure r
            match made with
            | .error e =>
              noteBehind ("cannot create directory " ++ Quoting.always target ++ ": " ++ e.words)
            | .ok () =>
              if t.isNone then x.tell "" source target
              let own ← act (Act.facts? target true)
              let top := top.or (own.map fun f => (source, target, f.number))
              match ← call (.list source) with
              | .error e =>
                noteBehind ("cannot access " ++ Quoting.always source ++ ": " ++ e.words)
              | .ok (names : List String) =>
                names.forM fun name => copy x n top (inside source name) (inside target name)
              x.preserve target s
          | .link =>
            if t.isSome then
              let _ ← call (.unlink target)
            match ← call (.readLink source) with
            | .error e =>
              noteBehind ("cannot read symbolic link " ++ Quoting.always source ++ ": " ++ e.words)
            | .ok (leads : String) =>
              match ← call (.makeLink leads target) with
              | .ok () => x.tell "" source target
              | .error e =>
                noteBehind
                  ("cannot create symbolic link " ++ Quoting.always target ++ ": " ++ e.words)
          | .fifo =>
            if x.recursive then
              match ← call (.makeFifo target (s.mode % 512)) with
              | .ok () => x.tell "" source target
              | .error e =>
                noteBehind ("cannot create fifo " ++ Quoting.always target ++ ": " ++ e.words)
            else x.copyFile source target s.mode
          | _ =>
            if x.linksTo || x.pointsTo then
              if x.force && t.isSome then
                let _ ← call (.unlink target)
              let r : Except Errno Unit ←
                if x.pointsTo then call (.makeLink source target) else call (.link source target)
              match r with
              | .ok () => x.tell "" source target
              | .error e =>
                noteBehind ("cannot create " ++
                  (if x.pointsTo then "symbolic link " else "hard link ") ++
                  Quoting.always target ++ " to " ++ Quoting.always source ++ ": " ++ e.words)
            else
              x.copyFile source target s.mode
              x.preserve target s

/-- Makes the directories above a path in another directory. -/
def makeAbove (directory : String) (path : String) : Tool Unit := do
  let names := ((directoryOf path).splitOn "/").filter fun n => n ≠ "" && n ≠ "."
  let _ ← names.foldlM (fun done name => do
    let here := inside done name
    let _ ← call (.makeDirectory here 0o777)
    pure here) directory
  pure ()

/-- Copies things one behind the other. A source that has come before is left out. -/
def copyEach (x : Transfer) : List String → List (String × String) → Tool Unit
  | _, [] => pure ()
  | seen, (source, target) :: rest => do
    if seen.contains (source ++ "\x00" ++ target) then
      let kind := if (← act (Act.isDirectory source)) then "source directory " else "source file "
      flush
      warn ("warning: " ++ kind ++ Quoting.always source ++ " specified more than once")
    else x.copy Act.manySteps none source target
    copyEach x ((source ++ "\x00" ++ target) :: seen) rest

/-- Copies files and directories. -/
def cp : Program := program fun args => do
  let t := { OptionTable.ofLetters "abdfHilLnprst:uvxPRS:TZ" with
    words := transferWords ++ [("archive", .nothing, "a"), ("recursive", .nothing, "r"),
      ("link", .nothing, "l"), ("symbolic-link", .nothing, "s"), ("dereference", .nothing, "L"),
      ("no-dereference", .nothing, "P"), ("preserve", .maybe, "p"),
      ("parents", .nothing, "parents"), ("no-preserve", .argument, "no-preserve"),
      ("remove-destination", .nothing, "f"),
      ("one-file-system", .nothing, "x"), ("attributes-only", .nothing, "attributes")] }
  let (os, names) ← options t args
  if isGiven os "n" then
    warn ("warning: behavior of -n is non-portable and may change in future; " ++
      "use --update=none instead")
  let given (letters : List String) : Bool := letters.any (isGiven os)
  let manner := lastOf? os ["i", "n"]
  let recursive := given ["r", "R", "a"]
  let x : Transfer :=
    { keeps := manner = some "n" || valueOf? os "u" = some "none"
      asks := manner = some "i"
      force := isGiven os "f"
      isVerbose := isGiven os "v"
      updates := isGiven os "u" && valueOf? os "u" ≠ some "none" && valueOf? os "u" ≠ some "all"
      recursive
      follows := match lastOf? os ["L", "P", "d", "a", "H"] with
        | some "L" => true
        | some "H" => true
        | some _ => false
        | none => !recursive
      preserves := given ["p", "a"]
      linksTo := isGiven os "l"
      pointsTo := isGiven os "s" }
  if isGiven os "parents" then
    match names with
    | [] => misuse t "missing file operand"
    | [a] => misuse t ("missing destination file operand after " ++ Quoting.escaped a)
    | names =>
      let directory := names.getLastD ""
      if !(← act (Act.isDirectory directory)) then
        fail 1 "with --parents, the destination must be a directory"
      names.dropLast.forM fun source => do
        makeAbove directory source
        x.copy Act.manySteps none source (inside directory source)
  else
    let all ← transfers t os names
    copyEach x [] all

end Golden.Host.Tool
