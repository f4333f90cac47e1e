import Golden.Host.Awk.Evaluate
import Golden.Host.Awk.Reading
import Golden.Host.Tool.Basic
import Golden.Host.Tool.Input

/-! # A tool that goes through records

The tool reads a program from its arguments or from files, gives names their first values, and runs
the program. What the run asks for is done by the tool. -/

namespace Golden.Host.Awk

open Tool

/-- The number of octets that are read at once. -/
def inputBlock : Nat := 4096

/-- The text and the status of an error of standard output. -/
def refusal (e : Errno) : String × Nat :=
  ("close failed on file \"/dev/stdout\" (" ++ e.words ++ ")", 2)

/-- Does what a run asks for. -/
def answer (q : Request) : Tool q.Reply :=
  match q with
  | .put text => put text
  | .flush => flush
  | .complain text => complain text
  | .openInput path => act (Act.openFile path .toRead)
  | .openOutput path appends => act (Act.openFile path (if appends then .toAppend else .toWrite))
  | .read d => readUpTo d inputBlock
  | .write d text => act (Act.write d text)
  | .close d => act (Act.close d)
  | .start listens command => do
    match ← startPiped "/bin/sh" listens command with
    | .ok child => return .ok (child.pid, child.descriptor)
    | .error e => return .error e
  | .await number => do
    return (← Tool.await number none).getD (.exited 0)
  | .perform command => runShell command
  | .now => call .now

/-- Follows a run to its end. -/
def follow : Course Unit → Tool Unit
  | .done _ s => exit s.status
  | .cut (.failure e) _ => do
    warn e
    exit 2
  | .cut _ s => exit s.status
  | .ask q next => fun c go => answer q c fun r c => follow (next r) c go

/-! ### Arguments -/

/-- What the arguments say. -/
structure Command where
  /-- The files with the program. -/
  files : List String
  separator : Option String
  /-- The values of names. -/
  values : List (String × String)
  /-- What is behind the options. -/
  rest : List String
  deriving DecidableEq, Inhabited

/-- Notes an option. -/
def Command.withOption (c : Command) (letter : Char) (value : String) : Tool Command := do
  match letter with
  | 'F' => return { c with separator := some (unescaped value.toList) }
  | 'f' => return { c with files := c.files ++ [value] }
  | 'v' =>
    match Run.assignment? value with
    | some p => return { c with values := c.values ++ [p] }
    | none => fail 2 ("improper assignment: -v " ++ value)
  | _ => return c

/-- Reads the options. -/
def Command.read (c : Command) : List String → Tool Command
  | [] => return { c with rest := [] }
  | "--" :: rest => return { c with rest }
  | a :: rest =>
    match a.toList with
    | '-' :: letter :: more =>
      let known := letter = 'F' || letter = 'v' || letter = 'f' || letter = 'W'
      if !known then fail 2 ("not an option: " ++ a)
      else
        match more, rest with
        | [], [] => fail 2 ("option -" ++ String.singleton letter ++ " lacks argument")
        | [], value :: rest => do
          let c ← c.withOption letter value
          Command.read c rest
        | more, rest => do
          let c ← c.withOption letter (String.ofList more)
          Command.read c rest
    | _ => return { c with rest := a :: rest }
/-- How the tool is called. -/
def usage : String :=
  "Usage: mawk [Options] [Program] [file ...]

Program:
    The -f option value is the name of a file containing program text.
    If no -f option is given, a \"--\" ends option processing; the following
    parameters are the program text.

Options:
    -f program-file  Program  text is read from file instead of from the
                     command-line.  Multiple -f options are accepted.
    -F value         sets the field separator, FS, to value.
    -v var=value     assigns value to program variable var.
    --               unambiguous end of options.

    Implementation-specific options are prefixed with \"-W\".  They can be
    abbreviated:

    -W version       show version information and exit.
    -W compat        pre-POSIX 2001.
    -W dump          show assembler-like listing of program and exit.
    -W help          show this message and exit.
    -W interactive   set unbuffered output, line-buffered input.
    -W exec file     use file as program as well as last option.
    -W posix         stricter POSIX checking.
    -W random=number set initial random seed.
    -W sprintf=number adjust size of sprintf buffer.
    -W usage         show this message and exit.
"

/-- The parts of the program, and the arguments behind it. -/
def programParts (c : Command) : Tool (List Part × List String) := do
  match c.files, c.rest with
  | [], text :: rest => return ([Part.ofArgument text], rest)
  | [], [] => do
    complain usage
    quit 0
  | files, rest => do
    let parts ← files.mapM fun path => do
      match ← contents path with
      | .ok text => return Part.ofFile path text
      | .error .isDirectory => fail 2 ("read error (" ++ Errno.isDirectory.words ++ ")")
      | .error e => fail 2 ("cannot open \"" ++ path ++ "\" (" ++ e.words ++ ")")
    return (parts, rest)

/-! ### The first state -/

/-- The values of names at first. -/
def firstScalars (arguments : Nat) : List (String × Value) :=
  [("CONVFMT", .text "%.6g"), ("FILENAME", .text ""), ("FNR", .ofNat 0), ("FS", .text " "),
   ("NF", .ofNat 0), ("NR", .ofNat 0), ("OFMT", .text "%.6g"), ("OFS", .text " "),
   ("ORS", .text "\n"), ("RS", .text "\n"), ("SUBSEP", .text "\x1c"), ("ARGC", .ofNat arguments)]

/-- An array of texts from outside. -/
def tableOfTexts (texts : List (String × String)) : Table Value :=
  texts.foldl (fun t p => if (t.get? p.1).isSome then t else t.makeText p.1 (.given p.2)) .empty

/-- An array of arguments. -/
def tableOfArguments (arguments : List String) : Table Value :=
  arguments.zipIdx.foldl (fun t p => t.makeNumber p.2 (.given p.1)) .empty

/-- The state before a run. -/
def firstState (arguments : List String) (env : List (String × String)) (time : Nat) : State :=
  { scalars := (firstScalars arguments.length).foldl (fun m p => m.insert p.1 p.2) ∅
    tables := (∅ : Std.HashMap String (Table Value)).insert "ARGV" (tableOfArguments arguments)
      |>.insert "ENVIRON" (tableOfTexts env)
    cells := #[], made := 0, record := .given "", fields := #[], isSplit := false, ranges := []
    sources := [], sinks := [], main := none, nextArgument := 1, hasFile := false, status := 0
    seed := .ofNat time, random := time }

/-- Gives names the values that options tell. -/
def Command.setValues (c : Command) : Run Unit := do
  match c.separator with
  | some fs => Run.putScalar "FS" (.text fs)
  | none => pure ()
  c.values.forM fun p => Run.setScalar p.1 (.given p.2)

/-- Runs a program over records. -/
def program : Program := programWith refusal fun args => do
  let c ← Command.read ⟨[], none, [], []⟩ args
  let (parts, rest) ← programParts c
  match Code.ofParts parts with
  | .error ms =>
    ms.forM fun m => warn (m.message parts)
    quit 2
  | .ok code =>
    let now : Nat ← call .now
    let console ← console
    let s := firstState (console.name :: rest) console.environment (now / 1000000000)
    let run : Run Unit := do
      c.setValues
      Run.code code
    follow (run s)

end Golden.Host.Awk
