import Golden.Host.Shell.Evaluate

/-! # Starting a shell

A shell is given options, a script and arguments. The script is a text, a file or standard input. -/

namespace Golden.Host.Shell.Start

/-- The variables that a shell has of itself. -/
def ownVariables : List Variable :=
  [⟨"IFS", some usualSeparators, false, false⟩, ⟨"PATH", some usualSearchPath, false, false⟩,
   ⟨"PS1", some "# ", false, false⟩, ⟨"PS2", some "> ", false, false⟩,
   ⟨"PS4", some "+ ", false, false⟩, ⟨"OPTIND", some "1", false, false⟩]

/-- A shell that has just begun. -/
def fresh (name : String) : State :=
  { vars := ownVariables, functions := [], aliases := [], options := [], moreOptions := []
    name, arguments := [], optionIndex := 1, optionOffset := none, status := 0, outputStatus := 0
    skip := .nothing, loops := 0, line := 0, depth := 0, command := none, hidden := [], traps := []
    caught := [], arrived := [], ignored := [], jobs := [], lastBackground := none
    rootProcess := 0, isSubshell := false, documents := [], nextDocument := 0, found := []
    directory := "/", traceTo := 2, isTracing := false, isAtEnd := false, savedStatus := none
    output := "" }

/-- Takes over the variables of the environment whose names are names. -/
def takeOver (env : List (String × String)) : Sh Unit :=
  env.forM fun v => if isName v.1 then Sh.assign v.1 v.2 true else pure ()

/-- Sets the variables that tell where the shell is. -/
def settle : Sh Unit := do
  Sh.assign "IFS" usualSeparators false
  Sh.assign "OPTIND" "1" false
  let pid : Nat ← Sh.call .self
  let parent : Nat ← Sh.call .parent
  Sh.assign "PPID" (toString parent) false
  let here ← Builtin.physicalDirectory
  let s ← get
  let isHere ← match s.value? "PWD" with
    | some d =>
      if d.startsWith "/" then do
        let a ← Sh.act (Act.facts? d true)
        let b ← Sh.act (Act.facts? "." true)
        pure (a.isSome && a.map Facts.number = b.map Facts.number)
      else pure false
    | none => pure false
  let directory := if isHere then s.value "PWD" else here
  Sh.assign "PWD" directory true
  Sh.change fun s => { s with rootProcess := pid, directory }

/-- What the options of a shell tell beside the options that are set. -/
structure Request where
  /-- The script is an argument. -/
  isText : Bool
  arguments : List String
  deriving DecidableEq, Inhabited

/-- Reads the letters of an option. -/
def readLetters (on : Bool) : List Char → Request → Sh Request
  | [], r => pure r
  | 'c' :: cs, r => readLetters on cs { r with isText := true }
  | 'l' :: cs, r => readLetters on cs r
  | 'o' :: cs, r => do
    match r.arguments with
    | [] =>
      let before ← get
      Sh.change fun s => { s with
        options := optionTable.filterMap Prod.snd
        moreOptions := optionTable.map Prod.fst }
      Builtin.listOptions on
      let _ ← Evaluate.flush ""
      Sh.change fun s => { s with options := before.options, moreOptions := before.moreOptions }
      readLetters on cs r
    | name :: args =>
      Builtin.setNamed on name
      readLetters on cs { r with arguments := args }
  | c :: cs, r => do
    Builtin.setLetter on c
    readLetters on cs r

/-- Reads options. -/
def readOptions : Nat → Request → Sh Request
  | 0, r => pure r
  | n + 1, r => do
    match r.arguments.head?.map String.toList with
    | some ['-'] | some ['-', '-'] => return { r with arguments := r.arguments.tail }
    | some ('-' :: cs) =>
      readOptions n (← readLetters true cs { r with arguments := r.arguments.tail })
    | some ('+' :: cs) =>
      readOptions n (← readLetters false cs { r with arguments := r.arguments.tail })
    | _ => return r

/-- Sets the name and the arguments of the shell. -/
def setArguments (args : List String) : Sh Unit :=
  match args with
  | [] => pure ()
  | name :: rest => Sh.change fun s => { s with name, arguments := rest }

/-- Settles what the options ask for. Jobs are controlled where somebody is asked for lines. -/
def settleOptions : Sh Unit := do
  if (← get).has 'i' then Sh.change fun s => s.setOption 'm' true
  Builtin.giveUpControl

/-- Evaluates a script. -/
def script (args : List String) : Sh Unit := do
  let k := Evaluate.all
  let evaluate (origin : Evaluate.Origin) (text : String) : Sh Unit := do
    settleOptions
    Evaluate.persist k Act.manySteps (Evaluate.script k origin text)
  let r ← readOptions (args.length + 1) ⟨false, args⟩
  match r.isText, r.arguments with
  | true, [] => Sh.fail "-c requires an argument"
  | true, text :: rest =>
    setArguments rest
    settleOptions
    let goesOn := (← get).has 's'
    Evaluate.persist k Act.manySteps do
      let _ ← Evaluate.string k ⟨false, !goesOn⟩ text
      if goesOn then Evaluate.script k .input ""
  | false, [] =>
    Sh.change fun s => s.setOption 's' true
    evaluate .input ""
  | false, path :: rest =>
    if (← get).has 's' then
      Sh.change fun s => { s with arguments := path :: rest }
      evaluate .input ""
    else
      let text ← match ← Sh.act (Act.readFile path) with
        | .ok text => pure text
        | .error .isDirectory => pure ""
        | .error e => Sh.fail ("cannot open " ++ path ++ ": " ++ Redirect.openWords e)
      setArguments (path :: rest)
      evaluate .file text

/-- A shell. -/
def program : Program := fun args env =>
  let body : Sh Unit := do
    takeOver env
    settle
    Evaluate.whole Evaluate.all (script args.tail)
  body (fresh (args.headD "sh")) fun _ s => .exit s.status

end Golden.Host.Shell.Start
