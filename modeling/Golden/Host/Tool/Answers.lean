import Golden.Host.CharClass
import Golden.Host.Tool.Options

/-! # Tools that answer

Tools that read no files: they write their arguments (`echo`), parts of names (`basename`,
`dirname`), or what they know of the environment and the machine. -/

namespace Golden.Host.Tool

/-- Succeeds. -/
def succeed : Program := fun _ _ => .exit 0

/-- Fails. -/
def refuse : Program := fun _ _ => .exit 1

/-! ### Arguments -/

/-- A text with its escapes replaced, and whether one of them ends all output. -/
def unescapeEcho : Nat → List Char → List Char → List Char × Bool
  | 0, _, done => (done.reverse, false)
  | _, [], done => (done.reverse, false)
  | n + 1, '\\' :: c :: cs, done =>
    match c with
    | 'c' => (done.reverse, true)
    | 'x' =>
      if cs.head?.any fun d => (Numbers.digit? 16 d).isSome then
        let (d, rest) := Escapes.readOctet 16 2 cs
        unescapeEcho n rest (d :: done)
      else unescapeEcho n cs ('x' :: '\\' :: done)
    | '0' =>
      let (d, rest) := Escapes.readOctet 8 3 cs
      unescapeEcho n rest (d :: done)
    | c =>
      if Text.isOctal c then
        let (d, rest) := Escapes.readOctet 8 3 (c :: cs)
        unescapeEcho n rest (d :: done)
      else
        match Escapes.letter? c with
        | some d => unescapeEcho n cs (d :: done)
        | none => unescapeEcho n cs (c :: '\\' :: done)
  | n + 1, c :: cs, done => unescapeEcho n cs (c :: done)

/-- What the options of `echo` tell: whether the line is left open, and whether escapes are
replaced. -/
structure Echo where
  noLine : Bool
  escapes : Bool
  deriving DecidableEq, Inhabited

/-- Reads the options of `echo`. A word that is none ends them. -/
def readEcho (e : Echo) : List String → Echo × List String
  | [] => (e, [])
  | a :: args =>
    match a.toList with
    | '-' :: c :: cs =>
      if (c :: cs).all fun x => x = 'n' || x = 'e' || x = 'E' then
        let e := (c :: cs).foldl (fun (e : Echo) x =>
          match x with
          | 'n' => { e with noLine := true }
          | 'e' => { e with escapes := true }
          | _ => { e with escapes := false }) e
        readEcho e args
      else (e, a :: args)
    | _ => (e, a :: args)

/-- Writes its arguments. -/
def echo : Program := program fun args => do
  let (e, args) := readEcho ⟨false, false⟩ args
  let text := " ".intercalate args
  let (cs, stops) := if e.escapes then unescapeEcho (text.length + 1) text.toList []
    else (text.toList, false)
  put (String.ofList cs ++ (if stops || e.noLine then "" else "\n"))

/-- Writes a line over and over. -/
def repeatLine (text : String) : Nat → Tool Unit
  | 0 => pure ()
  | n + 1 => do
    put text
    repeatLine text n

/-- Writes its arguments over and over. -/
def yes : Program := program fun args => do
  let args := match args with
    | "--" :: args => args
    | args => args
  let line := (if args = [] then "y" else " ".intercalate args) ++ "\n"
  let times := blockSize / line.utf8ByteSize + 1
  repeatLine (String.join (List.replicate times line)) Act.manySteps

/-! ### Names -/

/-- A path without slashes at its end, of which one is kept if there is nothing else. -/
def withoutSlashes (cs : List Char) : List Char :=
  let kept := (cs.reverse.dropWhile (· = '/')).reverse
  if kept = [] then cs.take 1 else kept

/-- The last name of a path. -/
def baseOf (path : String) : String :=
  let cs := withoutSlashes path.toList
  if cs = ['/'] then "/" else String.ofList (cs.reverse.takeWhile (· ≠ '/')).reverse

/-- A path without its last name. -/
def directoryOf (path : String) : String :=
  let cs := withoutSlashes path.toList
  if cs = ['/'] then "/"
  else
    let front := (cs.reverse.dropWhile (· ≠ '/')).reverse
    if front = [] then "." else String.ofList (withoutSlashes front)

/-- A name without an ending, unless that is all of it. -/
def withoutEnding (ending name : String) : String :=
  if name ≠ ending && name.endsWith ending then (name.take (name.length - ending.length)).toString
  else name

/-- Writes the last names of paths. -/
def basename : Program := program fun args => do
  let t := { OptionTable.ofLetters "as:z" with
    inOrder := true
    words := [("multiple", .nothing, "a"), ("suffix", .argument, "s"), ("zero", .nothing, "z")] }
  let (os, names) ← options t args
  let last := if isGiven os "z" then "\x00" else "\n"
  let ending := (valueOf? os "s").getD ""
  let write (ending name : String) : Tool Unit := put (withoutEnding ending (baseOf name) ++ last)
  match names with
  | [] => missing t none
  | names =>
    if isGiven os "a" || isGiven os "s" then names.forM (write ending)
    else
      match names with
      | [name] => write "" name
      | [name, ending] => write ending name
      | _ => extra t ((names[2]?).getD "")

/-- Writes paths without their last names. -/
def dirname : Program := program fun args => do
  let t := { OptionTable.ofLetters "z" with inOrder := true, words := [("zero", .nothing, "z")] }
  let (os, names) ← options t args
  if names = [] then missing t none
  let last := if isGiven os "z" then "\x00" else "\n"
  names.forM fun name => put (directoryOf name ++ last)

/-! ### The environment -/

/-- Writes the values of variables. -/
def printenv : Program := program fun args => do
  let t := { OptionTable.ofLetters "0" with
    inOrder := true, words := [("null", .nothing, "0")], status := 2 }
  let (os, names) ← options t args
  let last := if isGiven os "0" then "\x00" else "\n"
  let environment := (← console).environment
  if names = [] then environment.forM fun v => put (v.1 ++ "=" ++ v.2 ++ last)
  else
    names.forM fun name => do
      match environment.lookup name with
      | some value => put (value ++ last)
      | none => setStatus 1

/-- The user that everything is run by. -/
def user : String := "root"

/-- Writes the name of the user. -/
def whoami : Program := program fun args => do
  match ← options (.ofLetters "") args with
  | (_, a :: _) => extra (.ofLetters "") a
  | (_, []) => put (user ++ "\n")

/-- Writes who the user is. -/
def identity : Program := program fun args => do
  let t := { OptionTable.ofLetters "aZgGnruz" with
    words := [("group", .nothing, "g"), ("groups", .nothing, "G"), ("name", .nothing, "n"),
      ("real", .nothing, "r"), ("user", .nothing, "u"), ("zero", .nothing, "z")] }
  let (os, names) ← options t args
  match names with
  | name :: _ =>
    if name ≠ user && name ≠ "0" then fail 1 (Quoting.escaped name ++ ": no such user")
  | [] => pure ()
  if isGiven os "u" || isGiven os "g" || isGiven os "G" then
    put (if isGiven os "n" then user ++ "\n" else "0\n")
  else if isGiven os "n" || isGiven os "r" then
    misuse t "cannot print only names or real IDs in default format"
  else put ("uid=0(" ++ user ++ ") gid=0(" ++ user ++ ") groups=0(" ++ user ++ ")\n")

/-- Writes the groups of users. -/
def groups : Program := program fun args => do
  let (_, names) ← options (OptionTable.ofLetters "") args
  if names = [] then put (user ++ "\n")
  names.forM fun name => do
    if name = user || name = "0" then put (name ++ " : " ++ user ++ "\n")
    else
      flush
      note (Quoting.escaped name ++ ": no such user")

/-- Tells that nobody has logged in. -/
def logname : Program := program fun args => do
  let t := OptionTable.ofLetters ""
  let (_, names) ← options t args
  match names with
  | [] => fail 1 "no login name"
  | a :: _ => extra t a

/-- Writes who has logged in, which is nobody. -/
def loggedIn : Program := program fun args => do
  let _ ← options (OptionTable.ofLetters "") args

/-- Waits until all is written, which it is. -/
def sync : Program := program fun args => do
  let t := { OptionTable.ofLetters "df" with
    words := [("data", .nothing, "d"), ("file-system", .nothing, "f")] }
  let (_, names) ← options t args
  names.forM fun name => do
    let r : Except Errno Facts ← call (.facts name true)
    match r with
    | .ok _ => pure ()
    | .error e => note ("error opening " ++ Quoting.always name ++ ": " ++ e.words)

/-! ### Owners -/

/-- Whether there is a user or a group with a name. Every number stands for one. -/
def isKnownOwner (name : String) : Bool :=
  name = "" || name = user || name.toList.all Char.isDigit

/-- Goes through the files whose owner is to be changed. All belong to the only user, whatever is
done. -/
def changeOwners (what : String) (os : List Opt) (owner : String) (names : List String) :
    Tool Unit :=
  names.forM fun name => do
    let r : Except Errno Facts ← call (.facts name true)
    match r with
    | .ok _ =>
      if isGiven os "v" then
        put (what ++ " of " ++ Quoting.always name ++ " retained as " ++ owner ++ "\n")
    | .error e =>
      flush
      if isGiven os "f" then setStatus 1
      else note ("cannot access " ++ Quoting.always name ++ ": " ++ e.words)
      if isGiven os "v" then
        put ("failed to change " ++ what ++ " of " ++ Quoting.always name ++ " to " ++ owner ++
          "\n")

/-- The options of tools that change owners. -/
def ownerOptions : OptionTable :=
  { OptionTable.ofLetters "cfhRvHLP" with
    words := [("changes", .nothing, "c"), ("silent", .nothing, "f"), ("quiet", .nothing, "f"),
      ("no-dereference", .nothing, "h"), ("recursive", .nothing, "R"), ("verbose", .nothing, "v"),
      ("reference", .argument, "reference"), ("dereference", .nothing, "dereference")] }

/-- Changes the owners of files. `check` tells what is wrong with an owner. -/
def ownerTool (what : String) (check : String → Option String) : Program := program fun args => do
  let t := ownerOptions
  let (os, names) ← options t args
  let (owner, names) ← match names, valueOf? os "reference" with
    | [], _ => missing t none
    | names, some _ => pure (user, names)
    | [a], none => missing t (some a)
    | a :: names, none => pure (a, names)
  match check owner with
  | some text => fail 1 text
  | none => changeOwners what os owner names

/-- Changes users and groups of files. -/
def chown : Program := ownerTool "ownership" fun owner =>
  let name := (owner.takeWhile (· ≠ ':')).toString
  let group := (owner.drop (name.length + 1)).toString
  if !isKnownOwner name then some ("invalid user: " ++ Quoting.escaped owner)
  else if !isKnownOwner group then some ("invalid group: " ++ Quoting.escaped owner)
  else none

/-- Changes groups of files. -/
def chgrp : Program := ownerTool "group" fun owner =>
  if isKnownOwner owner then none else some ("invalid group: " ++ Quoting.escaped owner)

/-- What the machine is called, by the letters that ask for it. -/
def machineNames : List (String × String) :=
  [("s", "Linux"), ("n", "localhost"), ("r", "6.1.0"), ("v", "#1 SMP"), ("m", "x86_64"),
   ("o", "GNU/Linux")]

/-- Writes what the machine is called. -/
def uname : Program := program fun args => do
  let t := { OptionTable.ofLetters "asnrvmpio" with
    words := [("all", .nothing, "a"), ("kernel-name", .nothing, "s"), ("nodename", .nothing, "n"),
      ("kernel-release", .nothing, "r"), ("kernel-version", .nothing, "v"),
      ("machine", .nothing, "m"), ("processor", .nothing, "p"),
      ("hardware-platform", .nothing, "i"), ("operating-system", .nothing, "o")] }
  let (os, names) ← options t args
  match names with
  | a :: _ => extra t a
  | [] => pure ()
  let asked (key : String) : Bool := isGiven os "a" || isGiven os key
  let known := machineNames.filter fun n => asked n.1 || (os = [] && n.1 = "s")
  let unknown := ["p", "i"].filter fun k => isGiven os k && !isGiven os "a"
  put (" ".intercalate (known.map Prod.snd ++ unknown.map fun _ => "unknown") ++ "\n")

/-- Writes what kind of machine it is. -/
def arch : Program := program fun args => do
  match ← options (.ofLetters "") args with
  | (_, a :: _) => extra (.ofLetters "") a
  | (_, []) => put "x86_64\n"

/-- Writes the name of the machine. -/
def hostname : Program := program fun _ => put ((machineNames.lookup "n").getD "" ++ "\n")

/-- Writes the number of processors. -/
def nproc : Program := program fun _ => put "1\n"

/-- Tells that there is no terminal. -/
def tty : Program := program fun args => do
  let t := { OptionTable.ofLetters "s" with
    words := [("silent", .nothing, "s"), ("quiet", .nothing, "s")], status := 2 }
  match ← options t args with
  | (_, a :: _) => extra t a
  | (os, []) =>
    if !isGiven os "s" then put "not a tty\n"
    setStatus 1

/-- Writes the working directory. -/
def pwd : Program := program fun args => do
  let t := { OptionTable.ofLetters "LP" with
    words := [("logical", .nothing, "L"), ("physical", .nothing, "P")] }
  let (os, names) ← options t args
  if names ≠ [] then warn "ignoring non-option arguments"
  let logical ← match lastOf? os ["L", "P"], (← console).environment.lookup "PWD" with
    | some "L", some d => do
      let a ← act (Act.facts? d true)
      let b ← act (Act.facts? "." true)
      pure (if d.startsWith "/" && a.isSome && a.map Facts.number = b.map Facts.number
        then some d else none)
    | _, _ => pure none
  match logical with
  | some d => put (d ++ "\n")
  | none =>
    match ← call .workingDirectory with
    | .ok (d : String) => put (d ++ "\n")
    | .error e => fail 1 ("cannot get current directory: " ++ e.words)

end Golden.Host.Tool
