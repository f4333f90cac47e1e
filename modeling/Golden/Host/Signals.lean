/-! # Signals

Signals are numbers. Each has a name, words that tell how it ended a process, and something that it
does to a process that neither ignores nor awaits it. -/

namespace Golden.Host.Signals

/-- The names of the signals from the first on, with the words for a process that one has ended. -/
def table : List (String × String) :=
  [("HUP", "Hangup"), ("INT", "Interrupt"), ("QUIT", "Quit"), ("ILL", "Illegal instruction"),
   ("TRAP", "Trace/breakpoint trap"), ("ABRT", "Aborted"), ("BUS", "Bus error"),
   ("FPE", "Floating point exception"), ("KILL", "Killed"), ("USR1", "User defined signal 1"),
   ("SEGV", "Segmentation fault"), ("USR2", "User defined signal 2"), ("PIPE", "Broken pipe"),
   ("ALRM", "Alarm clock"), ("TERM", "Terminated"), ("STKFLT", "Stack fault"),
   ("CHLD", "Child exited"), ("CONT", "Continued"), ("STOP", "Stopped (signal)"),
   ("TSTP", "Stopped"), ("TTIN", "Stopped (tty input)"), ("TTOU", "Stopped (tty output)"),
   ("URG", "Urgent I/O condition"), ("XCPU", "CPU time limit exceeded"),
   ("XFSZ", "File size limit exceeded"), ("VTALRM", "Virtual timer expired"),
   ("PROF", "Profiling timer expired"), ("WINCH", "Window changed"), ("IO", "I/O possible"),
   ("PWR", "Power failure"), ("SYS", "Bad system call")]

/-- The greatest number of a signal. -/
def greatest : Nat := 64

/-- An interruption from outside. -/
def interrupt : Nat := 2

/-- Ends a process in any case. -/
def kill : Nat := 9

/-- Nothing reads what is written. -/
def pipe : Nat := 13

/-- A request to end. -/
def terminate : Nat := 15

/-- A child has ended. -/
def child : Nat := 17

/-- Lets a stopped process go on. -/
def goOn : Nat := 18

/-- Stops a process in any case. -/
def stop : Nat := 19

/-- The number of the first signal that has no fixed meaning. -/
def firstFree : Nat := 34

/-- The number of the last signal that has no fixed meaning. -/
def lastFree : Nat := 64

/-- The name of a signal. -/
def name? (n : Nat) : Option String :=
  if n = 0 then none
  else if n ≤ table.length then (table[n - 1]?).map Prod.fst
  else if n = firstFree then some "RTMIN"
  else if n = lastFree then some "RTMAX"
  else if firstFree < n && n < 50 then some ("RTMIN+" ++ toString (n - firstFree))
  else if 50 ≤ n && n < lastFree then some ("RTMAX-" ++ toString (lastFree - n))
  else none

/-- The signal with a name. -/
def number? (name : String) : Option Nat :=
  (List.range (greatest + 1)).find? fun n => name? n = some name

/-- The words for a process that a signal has ended. -/
def words (n : Nat) : String :=
  match table[n - 1]? with
  | some e => e.2
  | none =>
    if firstFree ≤ n && n ≤ lastFree then "Real-time signal " ++ toString (n - firstFree)
    else "Unknown signal " ++ toString n

/-- What a signal does. -/
inductive Action where
  | ends
  | nothing
  | stops
  | goesOn
  deriving DecidableEq, Inhabited

/-- What a signal does to a process that says nothing about it. -/
def usual (n : Nat) : Action :=
  if n = child || n = 23 || n = 28 then .nothing
  else if n = goOn then .goesOn
  else if n = stop || n = 20 || n = 21 || n = 22 then .stops
  else .ends

end Golden.Host.Signals
