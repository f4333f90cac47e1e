import Golden.Text.Utf8

/-! # Output streams

Everything that a run shows goes through one stream. Behind it is a sink, which may refuse. While a
capture is active, what is written is kept aside instead of going to the sink. There is at most one
capture at a time. -/

namespace Golden

/-- A place for output. Writing may take a part of the octets before it fails. -/
class Sink (ω : Type) where
  /-- Takes the octets. -/
  write : ω → Bytes → Except String Unit × ω
  /-- Passes on what was taken. -/
  flush : ω → Except String Unit × ω

/-- Why a capture did not begin. -/
inductive CaptureError where
  /-- There is one already. -/
  | alreadyActive
  /-- What was written before could not be passed on. -/
  | flush (reason : String)
  deriving DecidableEq, Inhabited

/-- The text of a capture error. -/
def CaptureError.message : CaptureError → String
  | alreadyActive => "standard output is already being captured"
  | flush reason => "failed to flush standard output before capturing: " ++ reason

/-- A stream: the sink behind it, and what the active capture has kept so far. -/
structure Stream (ω : Type) where
  sink : ω
  captured : Option Bytes


namespace Stream

variable {ω : Type}

/-- A stream into a sink, without a capture. -/
def ofSink (sink : ω) : Stream ω := ⟨sink, none⟩

/-- Whether a capture is active. -/
def isCapturing (s : Stream ω) : Bool := s.captured.isSome

/-- Writes the octets. -/
def write [Sink ω] (s : Stream ω) (bs : Bytes) : Except String Unit × Stream ω :=
  match s.captured with
  | some kept => (.ok (), { s with captured := some (kept ++ bs) })
  | none =>
    let (r, sink) := Sink.write s.sink bs
    (r, { s with sink })

/-- Passes on what was written. A capture has nothing to pass on. -/
def flush [Sink ω] (s : Stream ω) : Except String Unit × Stream ω :=
  match s.captured with
  | some _ => (.ok (), s)
  | none =>
    let (r, sink) := Sink.flush s.sink
    (r, { s with sink })

/-- Begins a capture. What was written before is passed on first. -/
def begin [Sink ω] (s : Stream ω) : Except CaptureError Unit × Stream ω :=
  match s.captured with
  | some _ => (.error .alreadyActive, s)
  | none =>
    match Sink.flush s.sink with
    | (.error reason, sink) => (.error (.flush reason), { s with sink })
    | (.ok (), sink) => (.ok (), ⟨sink, some []⟩)

/-- Ends the capture and returns what it kept. -/
def finish (s : Stream ω) : Bytes × Stream ω := (s.captured.getD [], { s with captured := none })

/-- The stream as a text. -/
def describe (s : Stream ω) : String :=
  "OutputStream \x7b capturing: " ++ toString s.isCapturing ++ ", .. \x7d"

end Stream

/-! ### Sinks in memory -/

/-- A sink that keeps everything. -/
structure Memory where
  contents : Bytes


instance : Sink Memory where
  write m bs := (.ok (), ⟨m.contents ++ bs⟩)
  flush m := (.ok (), m)

end Golden
