import Golden.Host.CharClass
import Golden.Host.Decimal
import Golden.Host.Numbers
import Golden.Host.Signals
import Golden.Host.Tool.Basic
import Golden.Host.Tool.Input
import Golden.Host.Tool.Options

/-! # Tools that run others

Tools that become another program under other circumstances (`env`, `nice`, `nohup`), that watch
over one (`timeout`), that make its arguments (`xargs`), and that send signals (`kill`). -/

namespace Golden.Host.Tool

/-- The status of a program that could not be run. -/
def refusedStatus (e : Errno) : Nat := if e = .noEntry then 127 else 126

/-- Becomes another program. Tells what is wrong if that fails, and ends. -/
def become {α : Type} (what : String → String) (args : List String) : Tool α := do
  flush
  let env := (← console).environment
  let e ← act (Act.execute false (Act.searchPath env) args env)
  warn (what (args.headD "") ++ ": " ++ e.words)
  quit (refusedStatus e)

/-! ### Waiting -/

/-- The nanoseconds of an interval: a number, and a letter for the unit. -/
def interval? (text : String) : Option Real :=
  let r := Real.scan text.toList
  let unit? : Option Nat := match r.rest with
    | [] | ['s'] => some 1
    | ['m'] => some 60
    | ['h'] => some 3600
    | ['d'] => some 86400
    | _ => none
  match r.isNumber, r.value, unit? with
  | true, .finite false n d, some u => some (.finite false (n * u * 1000000000) d)
  | true, .finite true 0 _, some _ => some .zero
  | true, .infinite false, some _ => some (.infinite false)
  | _, _, _ => none

/-- A time that never comes. -/
def never : Nat := Nat.pow 10 30

/-- The nanoseconds of a number. -/
def nanoseconds : Real → Nat
  | .finite _ n d => (n + d - 1) / d
  | _ => never

/-- Waits. -/
def sleep : Program := program fun args => do
  let t := OptionTable.ofLetters ""
  let (_, names) ← options t args
  if names = [] then missing t none
  let spans ← names.mapM fun a => do
    match interval? a with
    | some r => return some (nanoseconds r)
    | none =>
      warn ("invalid time interval " ++ Quoting.escaped a)
      return none
  if spans.any (·.isNone) then
    complain (t.usage (← console).name)
    quit t.status
  let _ ← act (Act.sleep ((spans.filterMap id).foldl Nat.add 0))
  pure ()

/-! ### Other circumstances -/

/-- Sets a variable where it stands, or behind all others. -/
def setVariable (name value : String) (env : List (String × String)) : List (String × String) :=
  if (env.lookup name).isSome then env.map fun v => if v.1 = name then (name, value) else v
  else env ++ [(name, value)]

/-- Why a text cannot be split into arguments. -/
inductive SplitMistake where
  | noQuote
  | backslash
  | sequence (c : Char)
  | noVariable (rest : String)
  deriving DecidableEq, Inhabited

/-- What is said of a mistake. -/
def SplitMistake.message : SplitMistake → String
  | noQuote => "no terminating quote in -S string"
  | backslash => "invalid backslash at end of string in -S"
  | sequence c => "invalid sequence '\\" ++ String.singleton c ++ "' in -S"
  | noVariable rest => "only $\x7bVARNAME\x7d expansion is supported, error at: " ++ rest

/-- What is behind a backslash: a character, the end of an argument, or the end of all. -/
inductive SplitEscape where
  | char (c : Char) (rest : List Char)
  | space (rest : List Char)
  | stop

/-- Reads what is behind a backslash. -/
def splitEscape (quote : Option Char) (cs : List Char) : Except SplitMistake SplitEscape :=
  match cs with
  | [] => .error .backslash
  | d :: rest =>
    if quote = some '\'' && d ≠ '\\' && d ≠ '\'' then .ok (.char '\\' (d :: rest))
    else
      match d with
      | '_' => .ok (if quote = some '"' then .char ' ' rest else .space rest)
      | 'c' => if quote = some '"' then .error (.sequence 'c') else .ok .stop
      | 'f' => .ok (.char '\x0c' rest)
      | 'n' => .ok (.char '\n' rest)
      | 'r' => .ok (.char '\x0d' rest)
      | 't' => .ok (.char '\t' rest)
      | 'v' => .ok (.char '\x0b' rest)
      | '"' | '#' | '$' | '\'' | '\\' => .ok (.char d rest)
      | d => .error (.sequence d)

/-- Reads a variable from behind its sign. Gives its value, if it has one, and what is behind it. -/
def splitVariable (env : List (String × String)) (cs : List Char) :
    Except SplitMistake (Option String × List Char) :=
  let mistake := SplitMistake.noVariable (String.ofList ('$' :: cs))
  match cs with
  | '\x7b' :: rest =>
    let name := rest.takeWhile fun c => c.isAlphanum || c = '_'
    match rest.drop name.length with
    | '\x7d' :: more =>
      if name.head?.any fun c => !c.isDigit then .ok (env.lookup (String.ofList name), more)
      else .error mistake
    | _ => .error mistake
  | _ => .error mistake

/-- Splits a text into arguments, with quotes, escapes and variables. `word` is what has been read
of an argument, if one has begun. -/
def splitText (env : List (String × String)) :
    Nat → Option Char → Option (List Char) → List Char → Except SplitMistake (List String)
  | 0, _, _, _ => .ok []
  | _, none, word, [] => .ok (word.toList.map fun w => String.ofList w.reverse)
  | _, some _, _, [] => .error .noQuote
  | n + 1, quote, word, c :: cs => do
    let whole := word.toList.map fun w => String.ofList w.reverse
    if quote = some c then splitText env n none (some (word.getD [])) cs
    else if quote.isNone && (c = '\'' || c = '"') then
      splitText env n (some c) (some (word.getD [])) cs
    else if c = '\\' then
      match ← splitEscape quote cs with
      | .char d rest => splitText env n quote (some (d :: word.getD [])) rest
      | .space rest => return whole ++ (← splitText env n none none rest)
      | .stop => return whole
    else if c = '$' && quote ≠ some '\'' then
      match ← splitVariable env cs with
      | (some v, rest) => splitText env n quote (some (v.toList.reverse ++ word.getD [])) rest
      | (none, rest) => splitText env n quote word rest
    else if c = '#' && quote.isNone && word.isNone then return []
    else if quote.isNone && Numbers.isSpace c then
      return whole ++ (← splitText env n none none cs)
    else splitText env n quote (some (c :: word.getD [])) cs

/-- The options of `env`. -/
def envOptions : OptionTable :=
  { OptionTable.ofLetters "0iu:C:S:v" with
    inOrder := true
    status := 125
    words := [("ignore-environment", .nothing, "i"), ("null", .nothing, "0"),
      ("unset", .argument, "u"), ("chdir", .argument, "C"), ("split-string", .argument, "S"),
      ("debug", .nothing, "v")] }

/-- The options of `env`, where a text that is split stands for arguments of its own. -/
def readEnv : Nat → List String → Tool (List Opt × List String)
  | 0, args => pure ([], args)
  | n + 1, args => do
    let (os, names) ← options envOptions args
    match os.findIdx? (·.key = "S") with
    | none => return (os, names)
    | some i =>
      let text := ((os[i]?).bind (·.value)).getD ""
      let known := (← console).environment
      match splitText known (2 * text.length + 2) none none text.toList with
      | .error e => fail 125 e.message
      | .ok inner =>
        let later := (os.drop (i + 1)).flatMap fun o => ("-" ++ o.key) :: o.value.toList
        let (more, names) ← readEnv n (inner ++ later ++ names)
        return (os.take i ++ more, names)

/-- Sets the variables in front of a command. -/
def assignAll : List (String × String) → List String → List (String × String) × List String
  | env, [] => (env, [])
  | env, a :: args =>
    match a.splitOn "=" with
    | name :: rest =>
      if rest = [] then (env, a :: args)
      else assignAll (setVariable name ("=".intercalate rest) env) args
    | [] => (env, a :: args)

/-- Runs a command in another environment, or writes the environment. -/
def env : Program := program fun args => do
  let (os, names) ← readEnv (args.length + 10) args
  let (clears, names) := match names with
    | "-" :: names => (true, names)
    | names => (isGiven os "i", names)
  let known := (← console).environment
  let before := if clears then [] else known
  let removed ← (valuesOf os "u").mapM fun name => do
    if name = "" || name.contains '=' then
      fail 125 ("cannot unset " ++ Quoting.always name ++ ": " ++ Errno.invalid.words)
    return name
  let (environment, names) := assignAll (before.filter fun v => !removed.contains v.1) names
  change fun c => { c with environment }
  if names = [] then
    if isGiven os "C" then misuse envOptions "must specify command with --chdir (-C)"
    let ending := if isGiven os "0" then "\x00" else "\n"
    environment.forM fun v => put (v.1 ++ "=" ++ v.2 ++ ending)
  else
    if isGiven os "0" then misuse envOptions "cannot specify --null (-0) with command"
    match valueOf? os "C" with
    | none => pure ()
    | some d =>
      match ← call (.changeDirectory d) with
      | .ok () => pure ()
      | .error e => fail 125 ("cannot change directory to " ++ Quoting.always d ++ ": " ++ e.words)
    flush
    let e ← act (Act.execute false (Act.searchPath environment) names environment)
    let name := names.headD ""
    warn (Quoting.always name ++ ": " ++ e.words)
    if e = .noEntry && name.any Numbers.isSpace then
      warn "use -[v]S to pass options in shebang lines"
    quit (refusedStatus e)

/-- Runs a command with another right of way. -/
def nice : Program := program fun args => do
  let t := { OptionTable.ofLetters "n:0::1::2::3::4::5::6::7::8::9::" with
    inOrder := true, status := 125, words := [("adjustment", .argument, "n")] }
  let (os, names) ← options t args
  match valueOf? os "n" with
  | none => pure ()
  | some n =>
    if (Numbers.whole? (some 10) n).isNone then
      fail 125 ("invalid adjustment " ++ Quoting.escaped n)
  if names = [] then
    if os ≠ [] then misuse t "a command must be given with an adjustment"
    put "0\n"
  else become Quoting.always names

/-- Runs a command that goes on when nobody listens any more. -/
def nohup : Program := program fun args => do
  let t := { OptionTable.ofLetters "" with inOrder := true, status := 125 }
  let (_, names) ← options t args
  if names = [] then missing t none
  let _ ← call (.handle 1 .ignored)
  become (fun name => "failed to run command " ++ Quoting.always name) names

/-- Runs a command in a session of its own. There is no terminal that it could have. -/
def setsid : Program := program fun args => do
  let t := { OptionTable.ofLetters "cfw" with
    inOrder := true
    words := [("ctty", .nothing, "c"), ("fork", .nothing, "f"), ("wait", .nothing, "w")] }
  let (_, names) ← options t args
  if names = [] then misuse t "no command specified"
  become (fun name => "failed to execute " ++ name) names

/-- Runs a command with other buffers, which nobody can tell apart here. -/
def stdbuf : Program := program fun args => do
  let t := { OptionTable.ofLetters "i:o:e:" with
    inOrder := true, status := 125
    words := [("input", .argument, "i"), ("output", .argument, "o"), ("error", .argument, "e")] }
  let (os, names) ← options t args
  os.forM fun o => do
    let text := o.value.getD ""
    if text = "L" then
      if o.key = "i" then misuse t "line buffering stdin is meaningless"
    else if (Sizes.read Sizes.usualLetters text).isNone then
      fail 125 ("invalid mode " ++ Quoting.escaped text)
  if names = [] then missing t none
  if os = [] then misuse t "you must specify a buffering mode option"
  become (fun name => "failed to run command " ++ Quoting.always name) names

/-! ### Signals -/

/-- The signal that a name or a number stands for. -/
def signal? (text : String) : Option Nat :=
  let name := text.toUpper
  let name := if name.startsWith "SIG" then (name.drop 3).toString else name
  if name = "EXIT" then some 0
  else
    match Signals.number? name with
    | some n => some n
    | none =>
      if text ≠ "" && text.toList.all Char.isDigit then
        let n := Numbers.ofDigits 10 text.toList
        if n ≤ Signals.greatest then some n else none
      else none

/-- Sends signals to processes. -/
def kill : Program := program fun args => do
  let usage {α : Type} : Tool α := do
    complain ("\nUsage:\n " ++ (← console).name ++ " [options] <pid> [...]\n")
    quit 1
  let signalOf (text : String) : Tool Nat := do
    match signal? text with
    | some n => return n
    | none => fail 1 ("unknown signal name " ++ text)
  let names (args : List String) : Tool Unit :=
    if args = [] then
      let all := (List.range' 1 31).filterMap Signals.name?
      put (" ".intercalate all ++ "\n")
    else args.forM fun a => do
      let n ← signalOf a
      let isNumber := a.toList.all Char.isDigit
      put ((if isNumber then (Signals.name? n).getD "" else toString n) ++ "\n")
  let (signal, pids) ← match args with
    | "-l" :: rest => do
      names rest
      exit 0
    | "-s" :: name :: rest => do pure (← signalOf name, rest)
    | "--" :: rest => pure (Signals.terminate, rest)
    | a :: rest =>
      match a.toList with
      | '-' :: c :: cs => do pure (← signalOf (String.ofList (c :: cs)), rest)
      | _ => pure (Signals.terminate, a :: rest)
    | [] => usage
  if pids = [] then usage
  pids.forM fun a => do
    match Numbers.whole? (some 10) a with
    | none => note ("failed to parse argument: " ++ Quoting.always a)
    | some n =>
      match ← call (.send n.toNat signal) with
      | .ok () => pure ()
      | .error e => note ("(" ++ a ++ "): " ++ e.words)

/-! ### Watching over a command -/

/-- Ends as a child has ended. -/
def endLike {α : Type} (status : Nat → Nat) : Ending → Tool α
  | .exited n => exit (status n)
  | .killed n => do
    let _ ← call (.handle n .usual)
    let self : Nat ← call .self
    let _ ← call (.send self n)
    exit (128 + n)

/-- Runs a command for some time at most. -/
def timeout : Program := program fun args => do
  let t := { OptionTable.ofLetters "k:s:v" with
    inOrder := true
    status := 125
    words := [("foreground", .nothing, "foreground"), ("kill-after", .argument, "k"),
      ("preserve-status", .nothing, "preserve"), ("signal", .argument, "s"),
      ("verbose", .nothing, "v")] }
  let usage {α : Type} : Tool α := do
    complain (t.usage (← console).name)
    quit 125
  let (os, names) ← options t args
  let span (text : String) : Tool Real := do
    match interval? text with
    | some r => return r
    | none => misuse t ("invalid time interval " ++ Quoting.escaped text)
  let again ← match valueOf? os "k" with
    | none => pure none
    | some text => do pure (some (← span text))
  let signal ← match valueOf? os "s" with
    | none => pure Signals.terminate
    | some text =>
      match signal? text with
      | some n => pure n
      | none => misuse t (Quoting.escaped text ++ ": invalid signal")
  match names with
  | [] | [_] => usage
  | text :: command =>
    let r ← span text
    let name := (← console).name
    let refusal (e : Errno) : Act Nat := do
      Act.complain (name ++ ": failed to run command " ++ Quoting.always (command.headD "") ++
        ": " ++
        e.words ++ "\n")
      return refusedStatus e
    let pid ← start refusal (pure ()) command
    let now : Nat ← call .now
    let limit (r : Real) : Option Nat :=
      let n := nanoseconds r
      if n = 0 then none else some (now + n)
    let tell (n : Nat) : Tool Unit := do
      if isGiven os "v" then
        warn ("sending signal " ++ (Signals.name? n).getD (toString n) ++ " to command " ++
          Quoting.always (command.headD ""))
    match ← await pid (limit r) with
    | some how => endLike (fun n => n) how
    | none =>
      tell signal
      let _ ← call (.send pid signal)
      if signal ≠ Signals.kill && signal ≠ Signals.stop then
        let _ ← call (.send pid Signals.goOn)
      let now : Nat ← call .now
      let deadline := (again.map nanoseconds).bind fun n => if n = 0 then none else some (now + n)
      let isKilling (n : Nat) : Bool := n = Signals.kill && !isGiven os "foreground"
      if isKilling signal then endLike (fun n => n) (.killed signal)
      match ← await pid deadline with
      | some (.exited n) => exit (if isGiven os "preserve" then n else 124)
      | some (.killed n) =>
        exit (if isGiven os "preserve" || n = Signals.kill then 128 + n else 124)
      | none =>
        tell Signals.kill
        let _ ← call (.send pid Signals.kill)
        if isKilling Signals.kill then endLike (fun n => n) (.killed Signals.kill)
        exit (128 + Signals.kill)

/-! ### Making arguments -/

/-- How arguments are read and commands are made. -/
structure Gathering where
  command : List String
  /-- What separates arguments, if they are not words. -/
  delimiter : Option Char
  /-- The word that ends all input. -/
  last : Option String
  most : Option Nat
  lines : Option Nat
  /-- What stands for an argument inside the command. -/
  place : Option String
  size : Nat
  noneIfEmpty : Bool
  traces : Bool
  exact : Bool
  deriving DecidableEq, Inhabited

/-- An argument, and whether a line ends behind it. -/
structure Gathered where
  text : String
  endsLine : Bool
  deriving DecidableEq, Inhabited

namespace Gathering

/-- A mistake in what is read. -/
inductive Mistake where
  | quote (isDouble : Bool)
  deriving DecidableEq, Inhabited

/-- Reads words with quotes and backslashes. `word` is what has been read of one. With `whole` a
word goes to the end of its line. -/
def words (whole : Bool) : Nat → Option (List Char) → List Char → List Gathered →
    List Gathered × Option Mistake
  | 0, _, _, done => (done.reverse, none)
  | _, word, [], done =>
    let rest : List Gathered := word.toList.map fun w => ⟨String.ofList w.reverse, true⟩
    (done.reverse ++ rest, none)
  | n + 1, word, c :: cs, done =>
    if c = '\n' then
      match word with
      | some w => words whole n none cs (⟨String.ofList w.reverse, true⟩ :: done)
      | none => words whole n none cs done
    else if CharClass.isBlank c && (!whole || word.isNone) then
      match word with
      | some w =>
        let endsHere := (cs.dropWhile CharClass.isBlank).isEmpty
        words whole n none cs (⟨String.ofList w.reverse, endsHere⟩ :: done)
      | none => words whole n none cs done
    else if c = '\'' || c = '"' then
      let inner := cs.takeWhile fun d => d ≠ c && d ≠ '\n'
      match cs.drop inner.length with
      | d :: rest =>
        if d = c then words whole n (some (inner.reverse ++ word.getD [])) rest done
        else (done.reverse, some (.quote (c = '"')))
      | [] => (done.reverse, some (.quote (c = '"')))
    else if c = '\\' then
      match cs with
      | d :: rest => words whole n (some (d :: word.getD [])) rest done
      | [] => words whole n word [] done
    else words whole n (some (c :: word.getD [])) cs done

/-- The arguments in a text. -/
def read (g : Gathering) (text : String) : List Gathered × Option Mistake :=
  match g.delimiter with
  | some d => ((Line.ofText d text).map fun l => ⟨l.text, true⟩, none)
  | none =>
    let (all, mistake) := words g.place.isSome (text.length + 1) none text.toList []
    match g.last with
    | none => (all, mistake)
    | some w =>
      let kept := all.takeWhile fun a => a.text ≠ w
      (kept, if kept.length < all.length then none else mistake)

/-- The length of a command. -/
def length (args : List String) : Nat := args.foldl (fun n a => n + a.length + 1) 0

/-- The arguments of the next command, and those that are left: as many as fit, at most so many, or
those of so many lines. -/
def take (g : Gathering) : Nat → Nat → Nat → List Gathered → List String →
    Except Unit (List String × List Gathered)
  | 0, _, _, rest, done => .ok (done.reverse, rest)
  | _, _, _, [], done => .ok (done.reverse, [])
  | n + 1, room, lines, a :: rest, done =>
    let need := a.text.length + 1
    if g.most.any (· ≤ done.length) then .ok (done.reverse, a :: rest)
    else if room < need then
      if done = [] || g.exact || g.lines.isSome then .error () else .ok (done.reverse, a :: rest)
    else
      let lines := if a.endsLine then lines + 1 else lines
      if g.lines.any (· ≤ lines) then .ok ((a.text :: done).reverse, rest)
      else g.take n (room - need) lines rest (a.text :: done)

/-- Runs a command, and notes how it has ended. Arguments end in front of octets that are zero. -/
def run (g : Gathering) (input : Option Nat) (args : List String) : Tool Unit := do
  let name := (← console).name
  let args := args.map fun a => String.ofList (a.toList.takeWhile (· ≠ '\x00'))
  if g.traces then complain (" ".intercalate (args.map Quoting.shell) ++ "\n")
  let program := args.headD ""
  let prepare : Act Unit := do
    match input with
    | some _ => pure ()
    | none =>
      match ← Act.openFile "/dev/null" .toRead with
      | .ok d =>
        let _ ← Act.call (.duplicateTo d 0)
        Act.close d
      | .error _ => pure ()
  let env := (← console).environment
  let ends : Except Errno (Nat × Nat) ← call .pipe
  let (r, w) := ends.toOption.getD (0, 0)
  let tellRefusal (e : Errno) : Act Nat := do
    let _ ← Act.write w (if e = .noEntry then "n" else "o")
    Act.complain (name ++ ": " ++ Quoting.name program ++ ": " ++ e.words ++ "\n")
    return refusedStatus e
  flush
  let pid ← act (Act.fork do
    prepare
    let _ ← Act.call (.close r)
    let kept : Except Errno Nat ← Act.call (.duplicate w 100 true)
    let _ ← Act.call (.close w)
    let e ← Act.execute false (Act.searchPath env) args env
    let _ ← Act.call (.duplicateTo (kept.toOption.getD w) w)
    tellRefusal e)
  act (Act.close w)
  let failed := (← act (Act.readAll r)).toOption.getD ""
  act (Act.close r)
  let how ← await pid none
  if failed ≠ "" then quit (if failed = "n" then 127 else 126)
  match how with
  | some (.exited 0) | none => pure ()
  | some (.exited 255) =>
    warn (program ++ ": exited with status 255; aborting")
    quit 124
  | some (.exited _) => setStatus 123
  | some (.killed n) =>
    warn (program ++ ": terminated by signal " ++ toString n)
    quit 125

/-- The arguments of a command with an argument in its place. -/
def replaced (place text : String) (command : List String) : List String :=
  match command with
  | [] => []
  | program :: args => program :: args.map fun a => text.intercalate (a.splitOn place)

/-- Tells that a command does not fit, and ends. -/
def tooLong {α : Type} : Tool α := fail 1 "argument line too long"

/-- Runs commands as long as there are arguments. -/
def runAll (g : Gathering) (input : Option Nat) : Nat → List Gathered → Tool Unit
  | 0, _ => pure ()
  | _, [] => pure ()
  | n + 1, all => do
    match g.place, all with
    | some place, a :: rest =>
      let args := replaced place a.text g.command
      if g.size < length args then tooLong
      g.run input args
      runAll g input n rest
    | _, all =>
      match g.take (all.length + 1) (g.size - length g.command) 0 all [] with
      | .error () => tooLong
      | .ok (args, rest) =>
        g.run input (g.command ++ args)
        runAll g input n rest

end Gathering

/-- The character that separates arguments, as a text tells. -/
def delimiterOf? (text : String) : Option Char :=
  match text.toList with
  | [c] => some c
  | ['\\', '0'] => some '\x00'
  | '\\' :: 'x' :: ds =>
    if ds ≠ [] && ds.all fun d => (Numbers.digit? 16 d).isSome then
      some (Escapes.octet (Numbers.ofDigits 16 ds))
    else none
  | '\\' :: c :: ds =>
    if (c :: ds).all Text.isOctal then some (Escapes.octet (Numbers.ofDigits 8 (c :: ds)))
    else if ds = [] then Escapes.letter? c else none
  | _ => none

/-- The length of a command that fits in any case. -/
def usualCommandSize : Nat := 131072

/-- Runs a command with arguments that are read. -/
def xargs : Program := program fun args => do
  let t := { OptionTable.ofLetters "0a:E:e::i::I:l::L:n:prs:txP:d:o" with
    inOrder := true
    words := [("null", .nothing, "0"), ("arg-file", .argument, "a"), ("delimiter", .argument, "d"),
      ("eof", .maybe, "e"), ("replace", .maybe, "i"), ("max-lines", .maybe, "l"),
      ("max-args", .argument, "n"), ("no-run-if-empty", .nothing, "r"),
      ("max-chars", .argument, "s"), ("verbose", .nothing, "t"), ("exit", .nothing, "x"),
      ("max-procs", .argument, "P"), ("open-tty", .nothing, "o"), ("interactive", .nothing, "p")] }
  let (os, names) ← options t args
  let number (key : String) (least : Nat) : Tool (Option Nat) := do
    match valueOf? os key with
    | none => return none
    | some v =>
      match Numbers.whole? (some 10) v with
      | none => misuse t ("invalid number \"" ++ v ++ "\" for -" ++ key ++ " option")
      | some n =>
        if n < least then
          misuse t ("value " ++ v ++ " for -" ++ key ++ " option should be >= " ++ toString least)
        return some n.toNat
  let most ← number "n" 1
  let lines ← number "L" 1
  let size ← number "s" 1
  let _ ← number "P" 0
  let manner := lastOf? os ["n", "L", "l", "I", "i"]
  let lineLimit := match manner with
    | some "l" => some (((valueOf? os "l").bind String.toNat?).getD 1)
    | some "L" => lines
    | _ => none
  let place := match manner with
    | some "I" => valueOf? os "I"
    | some "i" => some ((valueOf? os "i").getD "\x7b\x7d")
    | _ => none
  if manner = some "n" && (isGiven os "I" || isGiven os "i") then
    warn ("warning: options --replace and --max-args/-n are mutually exclusive, " ++
      "ignoring previous --replace value")
  let delimiter ← match os.findRev? fun o => o.key = "0" || o.key = "d" with
    | none => pure none
    | some ⟨"0", _⟩ => pure (some '\x00')
    | some o =>
      match delimiterOf? (o.value.getD "") with
      | some c => pure (some c)
      | none =>
        fail 1 ("Invalid input delimiter specification " ++ o.value.getD "" ++
          ": the delimiter must be either a single character or an escape sequence starting " ++
          "with \\.")
  let g : Gathering :=
    { command := if names = [] then ["echo"] else names
      delimiter := if place.isSome && delimiter.isNone then none else delimiter
      last := (valueOf? os "E").or (valueOf? os "e")
      most := if manner = some "n" then most else none
      lines := lineLimit, place
      size := size.getD usualCommandSize
      noneIfEmpty := isGiven os "r" || place.isSome
      traces := isGiven os "t" || isGiven os "p", exact := isGiven os "x" && most.isSome }
  let (input, text) ← match valueOf? os "a" with
    | none => do
      match ← act (Act.readAll 0) with
      | .ok text => pure (none, text)
      | .error _ => pure (none, "")
    | some path =>
      match ← act (Act.readFile path) with
      | .ok text => pure (some 0, text)
      | .error e => fail 1 ("Cannot open input file " ++ Quoting.always path ++ ": " ++ e.words)
  if g.delimiter.isNone && text.contains '\x00' then
    warn ("WARNING: a NUL character occurred in the input.  It cannot be passed through in the " ++
      "argument list.  Did you mean to use the --null option?")
  let (all, mistake) := g.read text
  if g.size < Gathering.length g.command then Gathering.tooLong
  match all, mistake with
  | [], none => if !g.noneIfEmpty then g.run input g.command
  | all, none => g.runAll input (all.length + 1) all
  | all, some (.quote isDouble) =>
    let whole := match g.most with
      | some n => all.take (all.length / n * n)
      | none => []
    g.runAll input (whole.length + 1) whole
    fail 1 ("unmatched " ++ (if isDouble then "double" else "single") ++
      " quote; by default quotes are special to xargs unless you use the -0 option")

end Golden.Host.Tool
