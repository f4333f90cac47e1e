import Golden.CommandLine.Basic
import Golden.World

/-! # Messages for the operator

Events are shown on standard error, one on a line: its level and its message. Those of little weight
are shown for the categories that the operator asked for. Control characters that a terminal would
obey are spelled out. -/

namespace Golden.Console

/-- Whether a terminal may obey a character. -/
def isControl (c : Char) : Bool :=
  ['\x1b', '\x07', '\x08', '\x0c', '\x7f'].contains c || (0x80 ≤ c.toNat && c.toNat ≤ 0x9F)

/-- A character that a terminal may obey, spelled out. -/
def spellOut (c : Char) : List Char :=
  let digits := Nat.toDigits 16 c.toNat
  if c.toNat < 0x80 then '\\' :: 'x' :: (List.replicate (2 - digits.length) '0' ++ digits)
  else '\\' :: 'u' :: '\x7b' :: (digits ++ ['\x7d'])

/-- A text that a terminal shows as it is. -/
def harmless (text : String) : String :=
  String.ofList (text.toList.flatMap fun c => if isControl c then spellOut c else [c])

/-- The width of the column of levels. -/
def levelWidth : Nat := 5

/-- A message on a line. -/
def line (l : Level) (message : String) : String :=
  String.ofList (List.replicate (levelWidth - l.name.length) ' ') ++ l.name ++ " " ++
    harmless message ++ "\n"

/-- Whether the operator wants to see an event. To disable a category goes before enabling it. -/
def shows (c : CommandLine) (e : Event) : Bool :=
  let finest := if c.enabled.contains e.category then Level.debug else Level.info
  !c.disabled.contains e.category && e.level.rank ≤ finest.rank

/-- What is shown of an event. -/
def renderEvent (c : CommandLine) (e : Event) : Bytes :=
  if shows c e then utf8 (line e.level e.message) else []

/-- What is shown of a trace. -/
def render (c : CommandLine) : Trace → Bytes
  | .event e => renderEvent c e
  | .errors bs => bs
  | .phase old new => renderEvent c (.phase old new)

/-- What is shown of a trail. -/
def renderAll (c : CommandLine) (trail : List Trace) : Bytes := trail.flatMap (render c)

end Golden.Console
