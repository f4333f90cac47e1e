import Golden.Host.Tool.Basic

/-! # Options of tools

Options are letters behind a dash or words behind two. Words can be shortened as long as they can be
told from others. Options can stand behind other arguments, up to `--`. -/

namespace Golden.Host.Tool

/-- Whether an option takes an argument. -/
inductive Takes where
  | nothing
  | argument
  /-- An argument in the same word. -/
  | maybe
  deriving DecidableEq, Inhabited

/-- The options of a tool: letters, each with colons behind it that tell what it takes, and words,
with what they take and what they stand for. -/
structure OptionTable where
  letters : String
  words : List (String × Takes × String)
  /-- Options stand in front of all other arguments. -/
  inOrder : Bool
  /-- What is said behind a mistake, and the status then. -/
  usage : String → String
  status : Nat

/-- An option with its argument. -/
structure Opt where
  key : String
  value : Option String
  deriving DecidableEq, Inhabited

/-- Where one can find out more. -/
def usualUsage (name : String) : String := "Try '" ++ name ++ " --help' for more information.\n"

/-- Options with no words. -/
def OptionTable.ofLetters (letters : String) : OptionTable := ⟨letters, [], false, usualUsage, 1⟩

/-- What a letter takes, if there is such an option. -/
def takesOf : List Char → Char → Option Takes
  | [], _ => none
  | c :: rest, d =>
    if c = d && c ≠ ':' then
      some (match rest with
        | ':' :: ':' :: _ => .maybe
        | ':' :: _ => .argument
        | _ => .nothing)
    else takesOf rest d

/-- Tells a mistake in the options, and ends. -/
def misuse {α : Type} (t : OptionTable) (text : String) : Tool α := do
  flush
  let c ← console
  complain (c.name ++ ": " ++ text ++ "\n" ++ t.usage c.name)
  quit t.status

/-- Reads the letters of an argument. Gives the options and the arguments behind. -/
def readLetters (t : OptionTable) : List Char → List String → List Opt →
    Tool (List Opt × List String)
  | [], args, done => pure (done, args)
  | c :: cs, args, done => do
    let key := String.singleton c
    match takesOf t.letters.toList c with
    | none => misuse t ("invalid option -- '" ++ key ++ "'")
    | some .nothing => readLetters t cs args (done ++ [⟨key, none⟩])
    | some .maybe =>
      return (done ++ [⟨key, if cs = [] then none else some (String.ofList cs)⟩], args)
    | some .argument =>
      match cs, args with
      | [], [] => misuse t ("option requires an argument -- '" ++ key ++ "'")
      | [], a :: args => return (done ++ [⟨key, some a⟩], args)
      | cs, args => return (done ++ [⟨key, some (String.ofList cs)⟩], args)

/-- The option that a word or the beginning of one stands for. -/
def readWord (t : OptionTable) (word : String) : Tool (String × Takes × String) := do
  match t.words.find? (·.1 = word) with
  | some w => return w
  | none =>
    match t.words.filter fun w => w.1.startsWith word with
    | [] => misuse t ("unrecognized option '--" ++ word ++ "'")
    | w :: ws =>
      if ws.all (·.2 = w.2) then return w
      let named (w : String × Takes × String) : String := " '--" ++ w.1 ++ "'"
      misuse t ("option '--" ++ word ++ "' is ambiguous; possibilities:" ++
        String.join ((w :: ws).map named))

/-- Reads an option that is a word. -/
def readLong (t : OptionTable) (text : List Char) (args : List String) :
    Tool (Opt × List String) := do
  let word := text.takeWhile (· ≠ '=')
  let value := match text.drop word.length with
    | _ :: v => some (String.ofList v)
    | [] => none
  let (name, takes, key) ← readWord t (String.ofList word)
  match takes, value, args with
  | .nothing, some _, _ => misuse t ("option '--" ++ name ++ "' doesn't allow an argument")
  | .argument, none, [] => misuse t ("option '--" ++ name ++ "' requires an argument")
  | .argument, none, a :: args => return (⟨key, some a⟩, args)
  | _, v, args => return (⟨key, v⟩, args)

/-- Reads options, and the other arguments. -/
def readOptions (t : OptionTable) : Nat → List String → List Opt → List String →
    Tool (List Opt × List String)
  | 0, args, done, others => pure (done, others.reverse ++ args)
  | _, [], done, others => pure (done, others.reverse)
  | n + 1, a :: args, done, others => do
    match a.toList with
    | ['-', '-'] => return (done, others.reverse ++ args)
    | '-' :: '-' :: text => do
      let (o, args) ← readLong t text args
      readOptions t n args (done ++ [o]) others
    | '-' :: c :: cs => do
      let (done, args) ← readLetters t (c :: cs) args done
      readOptions t n args done others
    | _ =>
      if t.inOrder then return (done, a :: args)
      readOptions t n args done (a :: others)

/-- The options among arguments, and the other arguments. -/
def options (t : OptionTable) (args : List String) : Tool (List Opt × List String) := do
  let strict := ((← console).environment.lookup "POSIXLY_CORRECT").isSome
  readOptions { t with inOrder := t.inOrder || strict } (args.length + 1) args [] []

/-- Whether an option is given. -/
def isGiven (os : List Opt) (key : String) : Bool := os.any (·.key = key)

/-- The last argument of an option. -/
def valueOf? (os : List Opt) (key : String) : Option String :=
  (os.findRev? (·.key = key)).bind (·.value)

/-- All arguments of an option. -/
def valuesOf (os : List Opt) (key : String) : List String :=
  os.filterMap fun o => if o.key = key then o.value else none

/-- The last of several options. -/
def lastOf? (os : List Opt) (keys : List String) : Option String :=
  (os.findRev? fun o => keys.contains o.key).map (·.key)

/-! ### Words for arguments -/

/-- Refuses a text that is none of some choices, and ends. Each has one spelling or more. -/
def refuseChoice {α : Type} (t : OptionTable) (option kind : String) (choices : List (List String))
    (text : String) : Tool α := do
  let line (c : List String) : String := "  - " ++ ", ".intercalate (c.map Quoting.always) ++ "\n"
  flush
  warn (kind ++ " argument " ++ Quoting.always text ++ " for " ++ Quoting.always option)
  complain ("Valid arguments are:\n" ++ String.join (choices.map line) ++ t.usage (← console).name)
  quit 1

/-- The first spelling of what a text stands for, or shortens. -/
def choose (t : OptionTable) (option : String) (choices : List (List String)) (text : String) :
    Tool String :=
  match choices.find? (·.contains text), choices.filter fun c => c.any (·.startsWith text) with
  | some c, _ | none, [c] => return c.headD text
  | none, [] => refuseChoice t option "invalid" choices text
  | none, _ => refuseChoice t option "ambiguous" choices text

/-- Options with their arguments in the first spelling. -/
def chooseAll (t : OptionTable) (choices : List (String × List (List String))) :
    List Opt → Tool (List Opt)
  | [] => pure []
  | o :: os => do
    let o ← match choices.lookup o.key, o.value with
      | some cs, some text => do pure { o with value := some (← choose t ("--" ++ o.key) cs text) }
      | _, _ => pure o
    return o :: (← chooseAll t choices os)

/-- Tells that an argument is missing, and ends. -/
def missing {α : Type} (t : OptionTable) (after : Option String) : Tool α :=
  match after with
  | none => misuse t "missing operand"
  | some a => misuse t ("missing operand after " ++ Quoting.escaped a)

/-- Tells that there is an argument too many, and ends. -/
def extra {α : Type} (t : OptionTable) (a : String) : Tool α :=
  misuse t ("extra operand " ++ Quoting.escaped a)

end Golden.Host.Tool
