import Golden.Host.Shell.Commands
import Golden.Host.Shell.Redirect

/-! # Evaluating commands

A command is evaluated by the shell itself or in a child (`Evaluate.body`). In front of every
command and behind it the traps of the signals that have come are run (`Evaluate.tree`). A simple
command is expanded, redirected and carried out, in this order (`Evaluate.simple`). The depth in
which commands lie in each other is bounded, and so is that in which functions are. -/

namespace Golden.Host.Shell

/-- How a command is evaluated: whether its status is looked at, so that its failure is no reason to
end, and whether the shell ends with it. -/
structure Flags where
  tested : Bool
  exits : Bool
  deriving DecidableEq, Inhabited

/-- Nothing special. -/
def Flags.plain : Flags := ⟨false, false⟩

/-- What evaluates commands, and the commands that a reader has before it. -/
structure Evaluators where
  tree : Flags → Command → Sh Nat
  script : Flags → Reader → Sh Nat

namespace Evaluate

/-- A reader that has a script before it, in which octets that are zero do not count. -/
def readerOf (text : String) : Reader :=
  { input := text.toList.filter (· ≠ '\x00'), line := 1, aliases := [], active := [], ended := 0,
    aliasNext := false, pending := [], documents := [], nextDocument := 0, last := .ending,
    again := false, requests := 0, asksNext := false }

/-- Evaluates a text. -/
def string (k : Evaluators) (flags : Flags) (text : String) : Sh Nat :=
  k.script flags (readerOf text)

/-- Whether there are traps that do something. -/
def hasTraps (s : State) : Bool := s.traps.any (·.2 ≠ "")

/-- Notes the line of a command. -/
def enterLine (line : Nat) : Sh Unit := Sh.change fun s => { s with line }

/-! ### Traps -/

/-- Runs the traps of signals that have come, at most `n`. -/
def runArrived (k : Evaluators) (status : Nat) : Nat → Sh Unit
  | 0 => pure ()
  | n + 1 => do
    let s ← get
    match s.arrived with
    | [] => return ()
    | signal :: rest =>
      if s.skip ≠ .nothing then return ()
      Sh.change fun s => { s with arrived := rest }
      match s.traps.lookup signal with
      | none => runArrived k status n
      | some action =>
        let _ ← string k .plain action
        Sh.change fun s => if s.skip = .returns true then s else { s with status }
        runArrived k status n

/-- Runs the traps of the signals that have come. The status of the last command is kept. -/
def runTraps (k : Evaluators) : Sh Unit := do
  let signals : List Nat ← Sh.call .takeSignals
  let s ← get
  if signals = [] && s.arrived = [] then return ()
  let status := s.savedStatus.getD s.status
  let isNew (n : Nat) : Bool := !s.arrived.contains n
  Sh.change fun s => { s with
    arrived := (s.arrived ++ signals.filter isNew).mergeSort (· ≤ ·), savedStatus := some status }
  runArrived k status Act.manySteps
  Sh.change fun t => { t with savedStatus := s.savedStatus }

/-! ### The end of a shell -/

/-- Forgets what was going on when a shell ends early. -/
def settleEnd (r : Except Stop Unit) : Sh Unit := Sh.change fun s =>
  let isOwn : Bool := match r with
    | .error .exit => true
    | _ => s.skip = .returns false
  { s with
    status := if isOwn then s.savedStatus.getD s.status else s.status
    savedStatus := none, skip := .nothing, loops := 0, command := none }

/-- Ends a shell: its last trap is run. -/
def finish (k : Evaluators) (r : Except Stop Unit) : Sh Unit := do
  match r with
  | .ok () => pure ()
  | .error _ => settleEnd r
  let s ← get
  match s.traps.lookup 0 with
  | none => return ()
  | some action =>
    Sh.change fun s => { s with
      traps := s.traps.filter (·.1 ≠ 0), savedStatus := some s.status, skip := .nothing }
    match ← Sh.attempt (string k .plain action) with
    | .ok _ =>
      Sh.change fun s => { s with skip := .returns false }
      settleEnd (.ok ())
    | .error e => settleEnd (.error e)

/-- All that a shell does, and its end. -/
def whole (k : Evaluators) (body : Sh Unit) : Sh Unit := do
  let r ← Sh.attempt body
  finish k r

/-- Evaluates the last command of a shell. -/
def last (k : Evaluators) (tested : Bool) (c : Command) : Sh Unit := do
  let _ ← k.tree ⟨tested, true⟩ c
  pure ()

/-! ### Children -/

/-- The output of a command. -/
def output (k : Evaluators) (c : Command) : Sh String := do
  match c with
  | .empty => return ""
  | c =>
    match ← Sh.call .pipe with
    | .error _ => Sh.fail "Pipe call failed"
    | .ok ((r, w) : Nat × Nat) =>
      let number ← Jobs.start false
      let _ ← Jobs.launch number false do
        Sh.act (Act.close r)
        if w ≠ 1 then
          let _ ← Sh.call (.duplicateTo w 1)
          Sh.act (Act.close w)
        whole k (last k false c)
      Sh.act (Act.close w)
      let text ← Sh.act (Act.readAll r)
      Sh.act (Act.close r)
      let status ← Jobs.finish number
      Sh.change fun s => { s with outputStatus := status }
      return text.toOption.getD ""

/-- Gives a process in the background nothing to read. -/
def readNothing : Sh Unit := do
  Sh.act (Act.close 0)
  let _ ← Sh.act (Act.openFile "/dev/null" .toRead)
  pure ()

/-- Opens redirections in a child, which keeps nothing. -/
def redirectChild (k : Evaluators) (targets : List (Nat × Redirect × Redirect.Target)) :
    Sh Unit := do
  let (r, _) ← Redirect.follow (output k) false targets []
  Sh.ofExcept r

/-- Evaluates a command in a shell of its own. -/
def subshell (k : Evaluators) (flags : Flags) (inBackground : Bool) (line : Nat) (body : Command)
    (redirects : List Redirect) : Sh Nat := do
  enterLine line
  let targets ← redirects.mapM (Redirect.targetOf (output k))
  let s ← get
  let tested := flags.tested && !inBackground
  if !inBackground && flags.exits && !hasTraps s then
    Jobs.settle false
    redirectChild k targets
    last k tested body
    return 0
  else
    let number ← Jobs.start inBackground
    let _ ← Jobs.launch number inBackground do
      if inBackground then readNothing
      whole k do
        redirectChild k targets
        last k tested body
    if inBackground then return 0 else Jobs.finish number

/-- Looks for the program of a command, and keeps it in mind. -/
def lookAhead (c : Command) : Sh Unit := do
  match c with
  | .simple _ _ (w :: _) _ =>
    let isPlain (m : Mark) : Bool := match m with
      | .plain _ => true
      | _ => false
    let name := Mark.textOf w
    let s ← get
    if w.all isPlain && isName name && (s.functions.lookup name).isNone &&
        (OwnCommand.deed? name).isNone then
      let _ ← Search.find name none
      pure ()
  | _ => pure ()

/-- Starts the commands of a pipeline, of which the first reads what is given. -/
def startAll (k : Evaluators) (tested inBackground : Bool) (number : Nat) :
    Bool → Option Nat → List Command → Sh Unit
  | _, _, [] => pure ()
  | isFirst, input, c :: rest => do
    lookAhead c
    let ends : Option (Nat × Nat) ← if rest = [] then pure none
      else do
        match ← Sh.call .pipe with
        | .ok (p : Nat × Nat) => pure (some p)
        | .error _ => Sh.fail "Pipe call failed"
    let _ ← Jobs.launch number inBackground do
      if inBackground && isFirst then readNothing
      match ends with
      | some (r, _) => Sh.act (Act.close r)
      | none => pure ()
      match input with
      | some d =>
        let _ ← Sh.call (.duplicateTo d 0)
        if d ≠ 0 then Sh.act (Act.close d)
      | none => pure ()
      match ends with
      | some (_, w) =>
        if w ≠ 1 then
          let _ ← Sh.call (.duplicateTo w 1)
          Sh.act (Act.close w)
      | none => pure ()
      whole k (last k tested c)
    match input with
    | some d => Sh.act (Act.close d)
    | none => pure ()
    match ends with
    | some (_, w) => Sh.act (Act.close w)
    | none => pure ()
    startAll k tested inBackground number false (ends.map Prod.fst) rest

/-- Evaluates a pipeline. -/
def pipeline (k : Evaluators) (flags : Flags) (inBackground : Bool) (cs : List Command) :
    Sh Nat := do
  let number ← Jobs.start inBackground
  startAll k flags.tested inBackground number true none cs
  if inBackground then return 0 else Jobs.finish number

/-! ### Loops -/

/-- Whether a loop is left, and whether the function around it is, in view of what has been told. -/
def loopLeft : Sh (Bool × Bool × Bool) := do
  let s ← get
  match s.skip with
  | .nothing => return (false, false, false)
  | .breaks n =>
    Sh.change fun s => { s with skip := if n ≤ 1 then .nothing else .breaks (n - 1) }
    return (true, true, false)
  | .continues n =>
    Sh.change fun s => { s with skip := if n ≤ 1 then .nothing else .continues (n - 1) }
    return (true, 1 < n, false)
  | .returns isTold => return (true, true, isTold)

/-- The rounds of a loop. -/
def rounds (k : Evaluators) (tested untilHolds : Bool) (condition body : Command) :
    Nat → Nat → Sh Nat
  | 0, status => pure status
  | n + 1, status => do
    let value ← k.tree ⟨true, false⟩ condition
    let (skips, leaves, isTold) ← loopLeft
    let status := if isTold then value else status
    if skips then
      if leaves then return status
      rounds k tested untilHolds condition body n status
    else if (value = 0) = untilHolds then return status
    else
      let status ← k.tree ⟨tested, false⟩ body
      let (_, leaves, _) ← loopLeft
      if leaves then return status
      rounds k tested untilHolds condition body n status

/-- Evaluates a command for each of several texts. -/
def roundsFor (k : Evaluators) (tested : Bool) (name : String) (body : Command) :
    List String → Nat → Sh Nat
  | [], status => pure status
  | text :: rest, _ => do
    Sh.assign name text false
    let status ← k.tree ⟨tested, false⟩ body
    let (_, leaves, _) ← loopLeft
    if leaves then return status
    roundsFor k tested name body rest status

/-- Counts a loop while it is evaluated. -/
def inLoop (body : Sh Nat) : Sh Nat := do
  Sh.change fun s => { s with loops := s.loops + 1 }
  let status ← body
  Sh.change fun s => { s with loops := s.loops - 1 }
  return status

/-- Whether one of several patterns accepts a text. -/
def anyAccepts (k : Evaluators) (text : List Char) : List Word → Sh Bool
  | [] => pure false
  | w :: ws => do
    let pattern ← Expand.pattern (output k) w
    if Pattern.accepts (Pattern.compile pattern) text then return true
    anyAccepts k text ws

/-- Evaluates the first branch one of whose patterns accepts a text. -/
def choose (k : Evaluators) (flags : Flags) (text : List Char) :
    List (List Word × Option Command) → Sh Nat
  | [] => pure 0
  | (patterns, body) :: rest => do
    if (← get).skip ≠ .nothing then return 0
    if ← anyAccepts k text patterns then
      match body with
      | some c => if (← get).skip = .nothing then k.tree flags c else return 0
      | none => return 0
    else choose k flags text rest

/-! ### Simple commands -/

/-- What a name stands for where a command begins. -/
inductive Meant where
  | own (c : OwnCommand)
  | function (body : Command)
  | program

/-- What a name stands for, if it is not looked for. -/
def meantBy (noFunctions : Bool) (name : String) : Sh Meant := do
  if name.contains '/' then return .program
  let s ← get
  match if noFunctions then none else s.functions.lookup name with
  | some body => return .function body
  | none => return ((OwnCommand.find? name).map Meant.own).getD .program

/-- A simple command whose name is known: its texts and the words that are still to be expanded,
what is meant, and where a program is looked for. -/
structure Named where
  texts : List String
  /-- The texts that stand in front of its name. -/
  front : List String
  words : List Word
  meant : Meant
  search : Option String
  /-- It is special. -/
  isSpecial : Bool
  /-- Assignments in front of it do not remain. -/
  isLocal : Bool

/-- The texts of the first words of which anything is left. -/
def firstTexts (k : Evaluators) : List Word → Sh (List String × List Word)
  | [] => pure ([], [])
  | w :: ws => do
    match ← Expand.word (output k) w with
    | [] => firstTexts k ws
    | texts => return (texts, ws)

/-- Drops all texts but some at the end, which stand in front of the name from now on. -/
def Named.dropFront (c : Named) (kept : List String) : Named :=
  let n := c.texts.length - kept.length
  { c with front := c.front ++ c.texts.take n, texts := c.texts.drop n }

/-- The command behind `command` and its options, unless it is to be told about. -/
def behindCommand (k : Evaluators) : Nat → List String → Named → Sh (Named × Bool)
  | 0, _, c => pure (c, false)
  | n + 1, more, c => do
    let (more, c) ← if more ≠ [] then pure (more, c)
      else do
        let (more, words) ← firstTexts k c.words
        pure (more, { c with texts := c.texts ++ more, words })
    match more with
    | [] => return (c, false)
    | a :: rest =>
      match a.toList with
      | ['-', '-'] =>
        let (rest, c) ← if rest ≠ [] then pure (rest, c)
          else do
            let (rest, words) ← firstTexts k c.words
            pure (rest, { c with texts := c.texts ++ rest, words })
        if rest = [] then return (c, false)
        return (c.dropFront rest, true)
      | '-' :: d :: letters =>
        if (d :: letters).all (· = 'p') then
          behindCommand k n rest { c with search := some usualSearchPath }
        else return (c, false)
      | _ => return (c.dropFront more, true)

/-- Finds out what a command is, behind any number of `command`. -/
def name (k : Evaluators) : Nat → Bool → Named → Sh Named
  | 0, _, c => pure c
  | n + 1, isFirst, c => do
    let meant ← meantBy (!isFirst) (c.texts.headD "")
    match meant with
    | .own own =>
      let c := { c with
        meant, isSpecial := if isFirst then own.isSpecial else c.isSpecial,
        isLocal := if isFirst then !own.isSpecial else true }
      if own.name ≠ "command" then return c
      let (c, goesOn) ← behindCommand k Act.manySteps c.texts.tail c
      if goesOn then name k n false c else return c
    | _ => return { c with meant, isLocal := true }

/-- The texts of a word behind the name of a command. -/
def argument (k : Evaluators) (isAssigning : Bool) (w : Word) : Sh (List String) := do
  if isAssigning && Grammar.isAssignment w then
    return [← Expand.text (output k) .assignment w]
  else Expand.word (output k) w

/-- The name and the texts of a simple command. -/
def named (k : Evaluators) (words : List Word) : Sh Named := do
  let nothing : Named := ⟨[], [], [], .own OwnCommand.empty, none, false, false⟩
  match ← firstTexts k words with
  | ([], _) => return nothing
  | (texts, words) =>
    let c ← name k Act.manySteps true { nothing with texts, words }
    let isAssigning : Bool := match c.meant with
      | .own own => own.isAssigning
      | _ => false
    let more ← c.words.mapM (argument k isAssigning)
    return { c with texts := c.texts ++ more.flatten, words := [] }

/-- Sets variables as assignments say. Gives their texts. -/
def assignAll (k : Evaluators) (isLocal exported : Bool) (ws : List Word) : Sh (List String) :=
  ws.mapM fun w => do
    let text ← Expand.text (output k) .assignment w
    let (name, value) := Builtin.splitAssignment text
    if isLocal then Sh.hide name
    Sh.assign name (value.getD "") (isLocal || exported)
    return text

/-- The text in a variable that stands in front of a trace or of what is asked for. -/
def promptIn (k : Evaluators) (name : String) : Sh String := do
  let s ← get
  let text := s.value name
  if text.contains '$' || text.contains '\x60' || text.contains '\\' then
    let reader := { readerOf text with again := s.isAtEnd, last := .ending }
    match Reader.readText (Grammar.lists Grammar.greatestDepth ()).inner reader with
    | .ok (w, _) =>
      Sh.change fun s => { s with isTracing := true }
      let r ← Sh.attempt (Expand.text (output k) .document w)
      Sh.change fun s => { s with isTracing := false }
      match r with
      | .ok t => return t
      | .error _ => return text
    | .error m =>
      Sh.warn ("Syntax error: " ++ m.text)
      Sh.change fun s => { s with isAtEnd := false }
      return text
  else return text

/-- Tells what is carried out, if it is to be told. -/
def trace (k : Evaluators) (d : Nat) (texts : List String) : Sh Unit := do
  let s ← get
  if s.has 'x' && !s.isTracing then
    let front ← promptIn k "PS4"
    let _ ← Sh.act (Act.write d (front ++ " ".intercalate texts ++ "\n"))
    pure ()

/-- Becomes a program. -/
def becomeProgram (texts paths : List String) : Sh Unit := do
  let s ← get
  let refusal ← Sh.act (Act.executeFirst true texts s.environment .noEntry paths)
  Sh.warn (texts.headD "" ++ ": " ++ Search.words refusal)
  Sh.setStatus (Search.statusOf refusal)
  Sh.stop .finished

/-- Runs a program, in a child unless the shell ends with it. -/
def program (flags : Flags) (texts : List String) (search : Option String) : Sh Nat := do
  let name := texts.headD ""
  let s ← get
  let paths : Except Errno (List String) ← if name.contains '/' then pure (.ok [name])
    else do
      let all := Act.candidates name (search.getD (s.value "PATH"))
      let found ← Search.find name search
      pure (found.map fun path => all.dropWhile (· ≠ path))
  match paths with
  | .error e =>
    Sh.warn (name ++ ": " ++ Search.words e)
    return Search.notFound
  | .ok paths =>
    if flags.exits && !hasTraps s then
      becomeProgram texts paths
      return 0
    else
      let number ← Jobs.start false
      let _ ← Jobs.launch number false (becomeProgram texts paths)
      Jobs.finish number

/-- The greatest depth in which functions may be run. -/
def greatestDepth : Nat := 1000

/-- Runs a function. -/
def function (k : Evaluators) (tested : Bool) (body : Command) (arguments : List String) :
    Sh Nat := do
  let s ← get
  if greatestDepth ≤ s.depth then
    Sh.fail ("Maximum function recursion depth (" ++ toString greatestDepth ++ ") reached")
  Sh.change fun s => { s with
    arguments, optionIndex := 1, optionOffset := none, depth := s.depth + 1, loops := 0 }
  let r ← Sh.attempt (k.tree ⟨tested, false⟩ body)
  Sh.change fun t => { t with
    arguments := s.arguments, optionIndex := s.optionIndex, optionOffset := s.optionOffset
    depth := s.depth, loops := s.loops
    skip := match t.skip with
      | .returns _ => .nothing
      | other => other }
  let _ ← Sh.ofExcept r
  return (← get).status

/-- Evaluates a file. -/
def source (k : Evaluators) (args : List String) : Sh Nat := do
  match ← Builtin.options "" args with
  | (_, []) => return 0
  | (_, name :: _) =>
    let s ← get
    let isFile (path : String) : Act (List String) := do
      let f ← Act.facts? path true
      return if f.any (·.kind = .regular) then [path] else []
    let paths ← if name.contains '/' then pure [name]
      else Sh.act ((Act.candidates name (s.value "PATH")).flatMapM isFile)
    match paths with
    | [] => Sh.fail (name ++ ": not found")
    | path :: _ =>
      match ← Sh.act (Act.openFile path .toRead) with
      | .error e => Sh.fail ("cannot open " ++ path ++ ": " ++ Redirect.openWords e)
      | .ok d =>
        let text ← Sh.act (Act.readAll d)
        Sh.act (Act.close d)
        Sh.change fun s => { s with command := some path }
        let status ← k.script .plain (readerOf (text.toOption.getD ""))
        Sh.change fun s => { s with
          skip := match s.skip with
            | .returns _ => .nothing
            | other => other }
        return status

/-- What a command of the shell does, with its arguments. -/
def deed (k : Evaluators) (tested : Bool) (d : Deed) : Builtin := fun args => do
  match d with
  | .plain run => run args
  | .evaluate => if args = [] then return 0 else string k ⟨tested, false⟩ (" ".intercalate args)
  | .source => source k args
  | .become =>
    match ← Builtin.options "" args with
    | (_, []) => return 0
    | (_, name :: args) =>
      becomeProgram (name :: args) (Act.candidates name ((← get).value "PATH"))
      return 0

/-- Writes what a command of the shell has to write. Tells whether that is refused. -/
def flush (name : String) : Sh Bool := do
  let s ← get
  Sh.change fun s => { s with output := "" }
  match ← Sh.act (Act.write 1 s.output) with
  | .ok () => return false
  | .error _ =>
    Sh.warn (name ++ ": I/O error")
    return true

/-- Carries out a command of the shell. -/
def own (k : Evaluators) (tested isSpecial : Bool) (c : OwnCommand) (texts : List String) :
    Sh Nat := do
  let s ← get
  let name := texts.headD ""
  if c.name ≠ "" then Sh.change fun s => { s with command := some name }
  let r ← Sh.attempt do
    let status ← deed k tested c.deed texts.tail
    let isRefused ← flush name
    return if isRefused then status ||| 1 else status
  Sh.change fun t => { t with command := s.command, output := "" }
  match r with
  | .ok status => return status
  | .error .failed => if isSpecial then Sh.stop .failed else return Sh.mistakeStatus
  | .error e => Sh.stop e

/-- Carries out a command whose name and texts are known. -/
def carryOut (k : Evaluators) (flags : Flags) (c : Named) : Sh Nat :=
  match c.meant with
  | .own o => own k flags.tested c.isSpecial o c.texts
  | .function body => function k flags.tested body c.texts.tail
  | .program => program flags c.texts c.search

/-- Whether a command is the one that becomes a program. -/
def becomes (c : Named) : Bool :=
  match c.meant with
  | .own o => o.name = "exec"
  | _ => false

/-- Evaluates a simple command. -/
def simple (k : Evaluators) (flags : Flags) (line : Nat) (assignments words : List Word)
    (redirects : List Redirect) : Sh Nat := do
  enterLine line
  Sh.change fun s => { s with outputStatus := 0 }
  let c ← named k words
  let stays := becomes c
  let before ← Sh.read State.hidden
  if c.isLocal then Sh.change fun s => { s with hidden := [] :: s.hidden }
  let targets ← redirects.mapM (Redirect.targetOf (output k))
  let (r, kept) ← Redirect.follow (output k) true targets []
  let r ← match r with
    | .error .failed => do
      Sh.setStatus Sh.mistakeStatus
      pure (if c.isSpecial then .error .failed else .ok Sh.mistakeStatus)
    | .error e => pure (.error e)
    | .ok () => Sh.attempt do
      let assigned ← assignAll k c.isLocal (stays && 1 < c.texts.length) assignments
      let d := (kept.find? (·.descriptor = 2)).bind (·.copy)
      trace k (d.getD 2) (assigned ++ c.front ++ c.texts)
      carryOut k flags c
  if stays && r.isOk then Redirect.forget kept else Redirect.restore kept
  let status ← Sh.ofExcept r
  if c.isLocal then
    Sh.reveal
    Sh.change fun s => { s with hidden := before }
  return status

/-! ### Commands of all kinds -/

/-- Evaluates a command with redirections. -/
def redirected (k : Evaluators) (tested : Bool) (line : Nat) (body : Command)
    (redirects : List Redirect) : Sh Nat := do
  enterLine line
  let targets ← redirects.mapM (Redirect.targetOf (output k))
  let (r, kept) ← Redirect.follow (output k) true targets []
  let r ← match r with
    | .error .failed => pure (.ok Sh.mistakeStatus)
    | .error e => pure (.error e)
    | .ok () => Sh.attempt (k.tree ⟨tested, false⟩ body)
  Redirect.restore kept
  Sh.ofExcept r

/-- Evaluates a command. Tells its status, and whether its failure can end the shell. -/
def body (k : Evaluators) (flags : Flags) : Command → Sh (Nat × Bool)
  | .empty => pure (0, false)
  | .simple line assignments words redirects => do
    return (← simple k flags line assignments words redirects, true)
  | .pipe cs inBackground => do return (← pipeline k flags inBackground cs, true)
  | .redirected line c redirects => do return (← redirected k flags.tested line c redirects, false)
  | .background line c redirects => do return (← subshell k flags true line c redirects, true)
  | .subshell line c redirects => do return (← subshell k flags false line c redirects, true)
  | .negated c => do
    let status ← k.tree ⟨true, false⟩ c
    return (if status = 0 then 1 else 0, false)
  | .both a b => do
    let status ← k.tree ⟨true, false⟩ a
    if status ≠ 0 || (← get).skip ≠ .nothing then return (status, false)
    return (← k.tree flags b, false)
  | .either a b => do
    let status ← k.tree ⟨true, false⟩ a
    if status = 0 || (← get).skip ≠ .nothing then return (status, false)
    return (← k.tree flags b, false)
  | .seq a b => do
    let status ← k.tree ⟨flags.tested, false⟩ a
    if (← get).skip ≠ .nothing then return (status, false)
    return (← k.tree flags b, false)
  | .choice condition yes no => do
    let status ← k.tree ⟨true, false⟩ condition
    if (← get).skip ≠ .nothing then return (status, false)
    match if status = 0 then some yes else no with
    | some c => return (← k.tree flags c, false)
    | none => return (0, false)
  | .loop condition c untilHolds => do
    return (← inLoop (rounds k flags.tested untilHolds condition c Act.manySteps 0), false)
  | .each line name words c => do
    enterLine line
    let texts ← words.mapM (Expand.word (output k))
    return (← inLoop (roundsFor k flags.tested name c texts.flatten 0), false)
  | .select line w branches => do
    enterLine line
    let text ← Expand.text (output k) .single w
    return (← choose k flags text.toList branches, false)
  | .function name c => do
    Sh.change fun s => { s with functions := (name, c) :: s.functions.filter (·.1 ≠ name) }
    return (0, false)

/-- Evaluates a command, and runs the traps of signals that come meanwhile. -/
def tree (k : Evaluators) (flags : Flags) (c : Command) : Sh Nat := do
  let (status, checks) ← if (← get).has 'n' then pure (0, false)
    else do
      runTraps k
      let (status, checks) ← body k flags c
      Sh.setStatus status
      pure (status, checks)
  runTraps k
  let s ← get
  if (s.has 'e' && checks && !flags.tested && status ≠ 0) || flags.exits then Sh.stop .finished
  return s.status

/-! ### Scripts -/

/-- Where a script comes from. Its lines can be repeated if it is not a text, and it is read bit by
bit if it is on standard input. -/
inductive Origin where
  | text
  | file
  | input
  deriving DecidableEq, Inhabited

/-- The number of octets of a script that are read at once from standard input. -/
def blockSize : Nat := 8192

/-- Whether the end of what has been read is the end of what has been understood. -/
def isExhausted : Except Mistake (Grammar.Line × Reader) → Bool
  | .error _ => true
  | .ok (_, r) =>
    match r.again, r.last with
    | true, .ending => true
    | _, _ => false

/-- Reads the next line of a script. -/
def nextLine (origin : Origin) : Nat → Reader → Sh (Reader × Except Mistake (Grammar.Line × Reader))
  | 0, r => pure (r, Grammar.readLine r)
  | n + 1, r => do
    let found := Grammar.readLine r
    if origin = .input && isExhausted found then
      match ← Sh.call (.read 0 blockSize) with
      | .error _ => return (r, found)
      | .ok (more : ByteArray) =>
        if more.isEmpty then return (r, found)
        let more := (Octets.unpack more).toList.filter (· ≠ '\x00')
        nextLine origin n { r with input := r.input ++ more }
    else return (r, found)

/-- Repeats lines of a script that have been read, if that is asked for. -/
def repeatLines (origin : Origin) (before after : List Char) : Sh Unit := do
  if origin ≠ .text && (← get).has 'v' then
    Sh.complain (String.ofList (before.take (before.length - after.length)))

/-- Asks several times for lines, if there is somebody to be asked. -/
def ask (k : Evaluators) (origin : Origin) (name : String) : Nat → Sh Unit
  | 0 => pure ()
  | n + 1 => do
    if origin ≠ .text && (← get).has 'i' then
      let text ← promptIn k name
      Sh.complain text
      ask k origin name n

/-- The number of ends of a script that are not taken for the end, if ends are to be ignored. -/
def ignoredEnds : Nat := 50

/-- Tells of the end of a script, which may have to be met several times. -/
def meetEnd (k : Evaluators) (origin : Origin) : Nat → Sh Unit
  | 0 => pure ()
  | n + 1 => do
    let s ← get
    if origin = .text then return ()
    if s.has 'I' then
      Sh.complain "\nUse \"exit\" to leave shell.\n"
      ask k origin "PS1" 1
      meetEnd k origin n
    else if s.has 'i' then Sh.complain "\n"

/-- Evaluates the commands of a script, line by line. -/
def lines (k : Evaluators) (flags : Flags) (origin : Origin) : Nat → Nat → Reader → Sh Nat
  | 0, status, _ => pure status
  | n + 1, status, r => do
    ask k origin "PS1" 1
    let s ← get
    match ← nextLine origin Act.manySteps
        { r with aliases := s.aliases, nextDocument := s.nextDocument } with
    | (r, .error m) =>
      repeatLines origin r.input []
      ask k origin "PS2" m.requests
      enterLine m.line
      Sh.fail ("Syntax error: " ++ m.text)
    | (r, .ok (line, after)) =>
      repeatLines origin r.input after.input
      ask k origin "PS2" after.requests
      let isLast := isExhausted (.ok (line, after))
      Sh.change fun s => { s with
        documents := after.documents ++ s.documents, nextDocument := after.nextDocument
        isAtEnd := isLast }
      let after := { after with documents := [] }
      match line with
      | .ending =>
        meetEnd k origin ignoredEnds
        return status
      | .commands none => lines k flags origin n status after
      | .commands (some c) =>
        let status ← k.tree ⟨flags.tested, flags.exits && isLast⟩ c
        if (← get).skip ≠ .nothing then return status
        lines k flags origin n status after

/-- Evaluates the lines of a script. -/
def script (k : Evaluators) (origin : Origin) (text : String) : Sh Unit := do
  let _ ← lines k .plain origin Act.manySteps 0 (readerOf text)
  pure ()

/-- Carries something out. A mistake leads to standard input if there is somebody who is asked. -/
def persist (k : Evaluators) : Nat → Sh Unit → Sh Unit
  | 0, _ => pure ()
  | n + 1, body => do
    match ← Sh.attempt body with
    | .ok () => pure ()
    | .error e =>
      if e = .failed && (← get).has 'i' then
        Sh.change fun s => { s with
          skip := .nothing, loops := 0, command := none, savedStatus := none, isAtEnd := false }
        persist k n (script k .input "")
      else Sh.stop e

/-- The signal that ends a process whose memory is used up. -/
def memoryFault : Nat := 11

/-- Ends the process because commands lie too deep in each other. -/
def giveUp : Sh Nat := do
  let pid : Nat ← Sh.call .self
  let _ ← Sh.call (.send pid memoryFault)
  Sh.quit (128 + memoryFault)

/-- What evaluates commands that lie at most `n` deep in each other. -/
def evaluators : Nat → Unit → Evaluators
  | 0, _ => ⟨fun _ _ => giveUp, fun _ _ => giveUp⟩
  | n + 1, _ =>
    { tree := fun flags c s next => tree (evaluators n ()) flags c s next
      script := fun flags r s next => lines (evaluators n ()) flags .text Act.manySteps 0 r s next }

/-- The depth in which commands may lie in each other. -/
def greatestNesting : Nat := 100000

/-- What evaluates all commands. -/
def all : Evaluators := evaluators greatestNesting ()

end Evaluate

end Golden.Host.Shell
