import Golden.Host.Calendar
import Golden.Host.Tool.Input
import Golden.Host.Tool.Options

/-! # A tool that tells the time

The time is that of the clock, that of a file, or one that an argument describes. -/

namespace Golden.Host.Tool

/-- The formats that go by names, for days and for times of day. -/
def namedFormats : List (String × String) :=
  [("hours", "%Y-%m-%dT%H+00:00"), ("minutes", "%Y-%m-%dT%H:%M+00:00"), ("date", "%Y-%m-%d"),
   ("seconds", "%Y-%m-%dT%H:%M:%S+00:00"), ("ns", "%Y-%m-%dT%H:%M:%S,%N+00:00")]

/-- The format for a named one with a blank between day and time. -/
def spacedFormats : List (String × String) :=
  [("date", "%Y-%m-%d"), ("seconds", "%Y-%m-%d %H:%M:%S+00:00"),
   ("ns", "%Y-%m-%d %H:%M:%S.%N+00:00")]

/-- The options of `date`. -/
def dateOptions : OptionTable :=
  { OptionTable.ofLetters "d:f:I::r:Rs:u" with
    words := [("date", .argument, "d"), ("iso-8601", .maybe, "I"), ("reference", .argument, "r"),
      ("rfc-email", .nothing, "R"), ("rfc-822", .nothing, "R"), ("rfc-2822", .nothing, "R"),
      ("rfc-3339", .argument, "3339"), ("file", .argument, "f"), ("set", .argument, "s"),
      ("utc", .nothing, "u"), ("universal", .nothing, "u")] }

/-- Tells the time. -/
def date : Program := program fun args => do
  let t := dateOptions
  let (os, names) ← options t args
  let named (formats : List (String × String)) (option text : String) : Tool String := do
    return (formats.lookup (← choose t option (formats.map fun f => [f.1]) text)).getD ""
  let usual ← match lastOf? os ["I", "R", "3339"] with
    | some "I" => named namedFormats "--iso-8601" ((valueOf? os "I").getD "date")
    | some "R" => pure "%a, %d %b %Y %H:%M:%S +0000"
    | some _ => named spacedFormats "--rfc-3339" ((valueOf? os "3339").getD "")
    | none => pure "%a %b %e %H:%M:%S UTC %Y"
  let format ← match names with
    | [] => pure usual
    | [a] =>
      match a.toList with
      | '+' :: cs => pure (String.ofList cs)
      | _ =>
        if (lastOf? os ["d", "f", "r"]).isSome then
          misuse t ("the argument " ++ Quoting.always a ++ " lacks a leading '+';\nwhen using " ++
            "an option to specify date(s), any non-option\nargument must be a format string " ++
            "beginning with '+'")
        else fail 1 ("invalid date " ++ Quoting.always a)
    | _ :: b :: _ => extra t b
  let now : Nat ← call .now
  let tell (time : Int) : Tool Unit :=
    put (String.ofList (Calendar.format (Calendar.momentOf time) format.toList) ++ "\n")
  let tellOf (text : String) : Tool Unit :=
    match Calendar.read? now text with
    | some time => tell time
    | none => do
      flush
      note ("invalid date " ++ Quoting.always text)
  match lastOf? os ["d", "f", "r"] with
  | some "d" => tellOf ((valueOf? os "d").getD "")
  | some "f" =>
    let name := (valueOf? os "f").getD ""
    match ← contents name with
    | .ok text => (Line.ofText '\n' text).forM fun l => tellOf l.text
    | .error e => fail 1 (Quoting.name name ++ ": " ++ e.words)
  | some _ =>
    let name := (valueOf? os "r").getD ""
    let r : Except Errno Facts ← call (.facts name true)
    match r with
    | .ok f => tell f.modified
    | .error e => fail 1 (Quoting.name name ++ ": " ++ e.words)
  | none => tell now

end Golden.Host.Tool
