import Golden.Host.Sed.Editing
import Golden.Host.Sed.Reading
import Golden.Host.Tool.Basic
import Golden.Host.Tool.Input
import Golden.Host.Tool.Options

/-! # The stream editor

Lines are read one by one, edited as a script says, and written. Files can be edited one by one,
and what is made of a file can take its place. -/

namespace Golden.Host.Sed

/-! ### Scripts in pieces -/

/-- A piece of a script: an argument with its number, or a file. -/
structure Source where
  /-- The file, or nothing if the piece is an argument. -/
  file : Option String
  number : Nat
  text : List Char
  deriving DecidableEq, Inhabited

/-- The end of a line that is missing between a piece and the next one. -/
def Source.separator (s : Source) : List Char := if s.text.getLast? = some '\n' then [] else ['\n']

/-- The pieces as one script. -/
def joinSources : List Source → List Char
  | [] => []
  | [s] => s.text
  | s :: rest => s.text ++ s.separator ++ joinSources rest

/-- The piece in which a place is, and how much of the piece is before it. -/
def locate : List Source → Nat → Option (Source × Nat)
  | [], _ => none
  | [s], n => some (s, min n s.text.length)
  | s :: rest, n =>
    if n ≤ s.text.length then some (s, n)
    else locate rest (n - s.text.length - s.separator.length)

/-- What is said of a mistake in a script. -/
def describe (sources : List Source) (m : Mistake) : String :=
  let total := (joinSources sources).length
  match locate sources (total - m.left) with
  | none => m.fault.message
  | some (s, n) =>
    let place := match s.file with
      | some name => "file " ++ name ++ " line " ++ toString ((s.text.take n).count '\n' + 1)
      | none =>
        "-e expression #" ++ toString s.number ++ ", char " ++
          toString (if m.fault = .openBlock then 0 else n)
    match m.fault with
    | .lost _ | .badPattern .bareClass => m.fault.message
    | _ => place ++ ": " ++ m.fault.message

/-- The status after a mistake in a script. -/
def Fault.status : Fault → Nat
  | badPattern .bareClass | lost _ => 4
  | _ => 1

/-! ### Reading and writing -/

/-- How files are dealt with. -/
structure Handling where
  custom : Custom
  script : Script
  /-- Every file has first and last lines of its own. -/
  separate : Bool
  /-- What is made of a file takes its place, and what the file is called then. -/
  inPlace : Option String
  /-- Nothing is read or held back without need. -/
  isPrompt : Bool
  deriving Inhabited

/-- What is read and written. -/
structure Session where
  /-- The files that have not been read. -/
  names : List String
  current : Option Lines
  /-- The next line of the file that is read. -/
  ahead : Option Line
  editing : Editing
  /-- The files that are written to. -/
  sinks : List (String × Nat)
  /-- Where the end of the last line has not been written. -/
  lacking : List Target
  /-- What takes the place of the file that is read, backwards. -/
  edited : List String
  /-- The files that lines are taken from. -/
  sources : List (String × Option Lines)
  isWrong : Bool
  deriving Inhabited

namespace Session

open Tool

/-- Writes a text to a target. -/
def emitText (h : Handling) (target : Target) (text : String) (x : Session) : Tool Session := do
  match target with
  | .output =>
    if h.inPlace.isSome then return { x with edited := text :: x.edited }
    put text
    if h.isPrompt then flush
    return x
  | .standard =>
    put text
    return x
  | .errors =>
    complain text
    return x
  | .file path =>
    match x.sinks.lookup path with
    | none => return x
    | some d =>
      match ← act (Act.write d text) with
      | .ok () => return x
      | .error e => fail 4 ("couldn't write to " ++ path ++ ": " ++ e.words)

/-- Ends the last line at a target. -/
def close (h : Handling) (target : Target) (x : Session) : Tool Session :=
  if x.lacking.contains target then
    emitText h target (String.singleton h.custom.ending)
      { x with lacking := x.lacking.filter (· ≠ target) }
  else pure x

/-- Writes what a run has made. -/
def emit (h : Handling) : List Output → Session → Tool Session
  | [], x => pure x
  | o :: rest, x => do
    let x ← x.close h o.target
    let x ← emitText h o.target o.text x
    emit h rest (if o.isOpen then { x with lacking := o.target :: x.lacking } else x)

/-- Writes the text that has been edited. -/
def emitSpace (h : Handling) (x : Session) : Tool Session :=
  if h.custom.isQuiet then pure x
  else
    let s := x.editing.space
    emit h [⟨.output, if s.isWhole then s.text.push h.custom.ending else s.text, !s.isWhole⟩] x

/-- The next line of a file that lines are taken from. -/
def takeLine (h : Handling) (path : String) (x : Session) : Tool (Option Line × Session) := do
  let source : Option Lines ← match x.sources.lookup path with
    | some s => pure s
    | none => do
      match ← openInput path with
      | .ok d => pure (some (Lines.ofDescriptor d h.custom.ending))
      | .error _ => pure none
  let others := x.sources.filter (·.1 ≠ path)
  match source with
  | none => return (none, { x with sources := (path, none) :: others })
  | some l =>
    match ← l.next with
    | (.ok line, l) => return (line, { x with sources := (path, some l) :: others })
    | (.error _, _) => return (none, { x with sources := (path, none) :: others })

/-- Writes what has been kept for the end of the line. -/
def emitLater (h : Handling) : List Later → Session → Tool Session
  | [], x => pure x
  | .text s :: rest, x => do
    let x ← x.close h .output
    emitLater h rest (← emitText h .output s x)
  | .file path :: rest, x => do
    let x ← x.close h .output
    match ← act (Act.openFile (if path = "/dev/stdin" then "/dev/fd/0" else path) .toRead) with
    | .error _ => emitLater h rest x
    | .ok d =>
      match ← act (Act.readAll d) with
      | .error e => fail 4 ("read error on " ++ path ++ ": " ++ e.words)
      | .ok text =>
        act (Act.close d)
        emitLater h rest (← emitText h .output text x)
  | .line path :: rest, x => do
    match ← x.takeLine h path with
    | (none, x) => emitLater h rest x
    | (some l, x) =>
      let x ← x.close h .output
      emitLater h rest (← emitText h .output (l.spell h.custom.ending) x)

/-- Writes all that has been kept for the end of the line. -/
def emitAllLater (h : Handling) (x : Session) : Tool Session :=
  emitLater h x.editing.later.reverse { x with editing := { x.editing with later := [] } }

/-- What a file is called from now on that is edited in place. -/
def backupName (suffix path : String) : String :=
  let parts := path.splitOn "/"
  let base := parts.getLastD path
  let name := if suffix.contains '*' then base.intercalate (suffix.splitOn "*") else base ++ suffix
  if name.contains '/' then name else "/".intercalate (parts.dropLast ++ [name])

/-- Puts what has been made of a file in its place. -/
def replaceFile (suffix path text : String) : Tool Unit := do
  let directory := "/".intercalate ((path.splitOn "/").dropLast ++ [""])
  let self : Nat ← call .self
  let fresh := directory ++ "sed" ++ toString self
  let facts ← act (Act.facts? path true)
  match ← act (Act.openFile fresh .toMake) with
  | .error e => fail 4 ("couldn't open temporary file " ++ fresh ++ ": " ++ e.words)
  | .ok d =>
    let _ ← act (Act.write d text)
    act (Act.close d)
    match facts with
    | some f =>
      let _ ← call (.setMode fresh f.mode)
    | none => pure ()
    if suffix ≠ "" then
      let _ ← call (.rename path (backupName suffix path))
    match ← call (.rename fresh path) with
    | .ok () => pure ()
    | .error e => fail 4 ("cannot rename " ++ fresh ++ ": " ++ e.words)

/-- Ends reading a file. -/
def finishFile (h : Handling) (x : Session) : Tool Session := do
  match x.current with
  | none => return x
  | some l =>
    closeInput l.descriptor
    match h.inPlace with
    | some suffix => replaceFile suffix x.editing.file (String.join x.edited.reverse)
    | none => pure ()
    return { x with current := none, edited := [] }

/-- Begins reading a file. -/
def beginFile (h : Handling) (name : String) (x : Session) : Tool Session := do
  let x ← if h.separate then do
      let x ← if h.inPlace.isSome then pure x else x.close h .output
      let e := x.editing
      pure { x with editing := { e with
        number := 0
        hold := ⟨"", true⟩
        stands := h.script.commands.map Editing.startOf } }
    else pure x
  let x := { x with editing := { x.editing with file := name } }
  if h.inPlace.isSome then
    match ← call (.facts name true) with
    | .ok (f : Facts) =>
      if f.kind ≠ .regular then fail 4 ("couldn't edit " ++ name ++ ": not a regular file")
    | .error _ => pure ()
  let opened ← if name = "-" && h.inPlace.isNone then pure (.ok 0)
    else act (Act.openFile name .toRead)
  match opened with
  | .error e =>
    warn ("can't read " ++ name ++ ": " ++ e.words)
    return { x with isWrong := true }
  | .ok d =>
    let l := Lines.ofDescriptor d h.custom.ending
    return { x with current := some (if h.isPrompt then { l with block := 1 } else l), lacking :=
      if h.inPlace.isSome then x.lacking.filter (· ≠ .output) else x.lacking }

/-- The next line of the file that is read. -/
def nextHere (x : Session) : Tool (Option Line × Session) := do
  match x.ahead, x.current with
  | some l, _ => return (some l, { x with ahead := none })
  | none, none => return (none, x)
  | none, some ls =>
    match ← ls.next with
    | (.ok line, ls) => return (line, { x with current := some ls })
    | (.error e, _) =>
      let name := if x.editing.file = "-" then "stdin" else x.editing.file
      fail 4 ("read error on " ++ name ++ ": " ++ e.words)

/-- The next line of all files. -/
def nextLine (h : Handling) : Nat → Session → Tool (Option Line × Session)
  | 0, x => pure (none, x)
  | n + 1, x => do
    match ← x.nextHere with
    | (some l, x) => return (some l, x)
    | (none, x) =>
      let x ← x.finishFile h
      match x.names with
      | [] => return (none, x)
      | name :: names => nextLine h n (← beginFile h name { x with names })

/-- A number of files that nobody has. -/
def manyFiles : Nat := Act.manySteps

/-- Whether the last line has been read. -/
def isAtEnd (h : Handling) (x : Session) : Tool (Bool × Session) := do
  match ← x.nextHere with
  | (some l, x) => return (false, { x with ahead := some l })
  | (none, x) =>
    if h.separate then return (true, x)
    match ← nextLine h manyFiles x with
    | (some l, x) => return (false, { x with ahead := some l })
    | (none, x) => return (true, x)

/-- Reads the next line, behind the text if it is `joined`. Tells whether there is one. -/
def advance (h : Handling) (joined : Bool) (x : Session) : Tool (Bool × Session) := do
  let x ← x.emitAllLater h
  match ← nextLine h manyFiles x with
  | (none, x) => return (false, x)
  | (some l, x) =>
    let e := x.editing
    let read : Space := ⟨l.text, l.isWhole⟩
    let space := if joined then Editing.joined h.custom e.space read else read
    return (true, { x with
      editing := { e with space, number := e.number + 1, isLast := none, isReplaced := false } })

/-- Edits a line from a place in the script on. Gives the status if all ends here. -/
def edit (h : Handling) : Nat → Nat → Session → Tool (Option Nat × Session)
  | 0, _, x => pure (none, x)
  | n + 1, place, x => do
    let (pause, place, e) := Editing.run h.custom h.script Act.manySteps place x.editing
    let x ← emit h e.output.reverse { x with editing := { e with output := [] } }
    match pause with
    | .finish => return (none, ← x.emitSpace h)
    | .delete => return (none, x)
    | .restart => edit h n 0 x
    | .next =>
      let (isLast, x) ← x.isAtEnd h
      let x ← x.emitSpace h
      if isLast then return (none, x)
      let (_, x) ← x.advance h false
      edit h n place x
    | .join =>
      let (isLast, x) ← x.isAtEnd h
      if isLast then return (none, ← x.emitSpace h)
      let (_, x) ← x.advance h true
      edit h n place x
    | .quit status =>
      let x ← x.emitSpace h
      let x ← x.close h .output
      return (some status, ← x.emitAllLater h)
    | .quitAtOnce status => return (some status, x)
    | .evaluate command =>
      let text ← outputOf command
      let x ← x.close h .output
      edit h n place (← emitText h .output text x)
    | .evaluateSpace s =>
      let text ← outputOf x.editing.space.text
      let text := match text.toList.reverse with
        | c :: cs => if c = h.custom.ending then String.ofList cs.reverse else text
        | [] => text
      let e := { x.editing with space := { x.editing.space with text } }
      let e := match s with
        | some s =>
          match (Editing.announce h.custom s).run e with
          | .ok ((), e) => e
          | .error _ => e
        | none => e
      edit h n place { x with editing := e }
    | .needsLast =>
      let (isLast, x) ← x.isAtEnd h
      edit h n place { x with editing := { x.editing with isLast := some isLast } }
    | .noPattern => fail 1 "-e expression #1, char 0: no previous regular expression"

/-- Edits all lines. Gives the status. -/
def editAll (h : Handling) : Nat → Session → Tool (Nat × Session)
  | 0, x => pure (0, x)
  | n + 1, x => do
    let (hasLine, x) ← x.advance h false
    if !hasLine then return (0, x)
    match ← x.edit h Act.manySteps 0 with
    | (none, x) => editAll h n x
    | (some status, x) => return (status, x)

/-- Gives back what has been read of standard input and not used. -/
def giveBack (x : Session) : Tool Unit := do
  match x.current with
  | some l =>
    let unused := l.unread + (x.ahead.map fun a => a.text.length + 1).getD 0
    if l.descriptor = 0 && 0 < unused then
      let _ ← call (.seek 0 (-(unused : Int)) .current)
  | none => pure ()

end Session

/-! ### The program -/

open Tool

/-- What is said of options that make no sense. -/
def usage (name : String) : String :=
  "Usage: " ++ name ++ " [OPTION]... \x7bscript-only-if-no-other-script\x7d [input-file]...\n"

/-- The options of the stream editor. -/
def optionTable : OptionTable :=
  { letters := "bsnrzuEe:f:l:i::"
    words := [("binary", .nothing, "b"), ("regexp-extended", .nothing, "E"),
      ("debug", .nothing, "debug"), ("in-place", .maybe, "i"), ("expression", .argument, "e"),
      ("file", .argument, "f"), ("line-length", .argument, "l"), ("null-data", .nothing, "z"),
      ("zero-terminated", .nothing, "z"), ("quiet", .nothing, "n"), ("posix", .nothing, "posix"),
      ("silent", .nothing, "n"), ("sandbox", .nothing, "sandbox"), ("separate", .nothing, "s"),
      ("unbuffered", .nothing, "u"), ("follow-symlinks", .nothing, "follow")]
    inOrder := false
    usage
    status := 1 }

/-- Reads the pieces of a script. The last number is that of the next argument. -/
def readSources : List Opt → Nat → Tool (List Source)
  | [], _ => pure []
  | o :: os, n => do
    let value := o.value.getD ""
    if o.key = "e" then return ⟨none, n, value.toList⟩ :: (← readSources os (n + 1))
    else if o.key = "f" then
      match ← contents value with
      | .error e => fail 4 ("couldn't open file " ++ value ++ ": " ++ e.words)
      | .ok text => return ⟨some value, n, text.toList⟩ :: (← readSources os n)
    else readSources os n

/-- Opens the files that are written to. -/
def openSinks : List String → List (String × Nat) → Tool (List (String × Nat))
  | [], done => pure done
  | path :: rest, done => do
    if (done.lookup path).isSome then openSinks rest done
    else
      match ← act (Act.openFile path .toWrite) with
      | .ok d => openSinks rest (done ++ [(path, d)])
      | .error e => fail 4 ("couldn't open file " ++ path ++ ": " ++ e.words)

/-- Edits what is read as a script says. -/
def program : Program :=
  programWith (fun e => ("couldn't flush stdout: " ++ e.words, 4)) fun args => do
  let (os, names) ← options optionTable args
  let given ← readSources os 1
  let (sources, names) ← match given, names with
    | [], [] => do
      complain (usage (← console).name)
      quit 1
    | [], text :: names => pure ([(⟨none, 1, text.toList⟩ : Source)], names)
    | given, names => pure (given, names)
  match Script.ofText (isGiven os "E" || isGiven os "r") (joinSources sources) with
  | .error m => fail m.fault.status (describe sources m)
  | .ok script =>
    let sinks ← openSinks script.files []
    let width := match valueOf? os "l" with
      | some text => (Numbers.scan (some 10) text.toList).value.toNat
      | none => 70
    let custom : Custom :=
      ⟨isGiven os "n" || script.isQuiet, if isGiven os "z" then '\x00' else '\n', width⟩
    let inPlace := if isGiven os "i" then some ((valueOf? os "i").getD "") else none
    let h : Handling :=
      { custom, script, inPlace, separate := inPlace.isSome || isGiven os "s"
        isPrompt := isGiven os "u" }
    if inPlace.isSome && names = [] then fail 4 "no input files"
    let editing : Editing :=
      { space := ⟨"", true⟩, hold := ⟨"", true⟩, number := 0, isLast := none, file := "-"
        isReplaced := false, stands := script.commands.map Editing.startOf, later := []
        output := []
        pattern := none }
    let x : Session :=
      { names := inputs names, current := none, ahead := none, editing, sinks, lacking := []
        edited := [], sources := [], isWrong := false }
    let (status, x) ← x.editAll h Act.manySteps
    x.giveBack
    let x ← x.finishFile h
    exit (if x.isWrong then 2 else status)

end Golden.Host.Sed
