import Golden.Proofs.Unit.Frame

/-! # Captures of a stream

Whoever has a clone of a stream may write to it, flush it, and begin a capture; whoever has a
capture may finish it, or drop it. A session is any sequence of such operations. Its log says which
captures there were at each of them.

* `Session.perform`: one operation, as the actions on the world that it stands for.
* `Session.Sound`: what relates the state of a stream to the log, kept by every operation
  (`Session.Sound.perform`).
* `Session.lawful`: when captures begin, what they keep, and what goes to the sink, for all
  sessions. -/

namespace Golden.Stream

variable {σ ω : Type}

/-- What may be done with a stream, through any of its clones, and with a capture. The clones of a
stream share its state. A capture is known by the number of operations that went before it. -/
inductive Operation where
  | write (clone : Nat) (bs : Bytes)
  | flush (clone : Nat)
  | begin (clone : Nat)
  | finish (capture : Nat)
  | drop (capture : Nat)

/-- What comes of an operation. There may be no capture to finish or drop. -/
inductive Answer where
  | went (result : Except String Unit)
  | begun (result : Except CaptureError Unit)
  | kept (result : Except String Bytes)
  | dropped (result : Except String Unit)
  | absent
  deriving DecidableEq

/-- An operation, and the captures that there were before it. -/
structure Entry where
  operation : Operation
  held : List Nat

/-- What an operation writes. -/
def Entry.written (e : Entry) : Bytes :=
  match e.operation with
  | .write _ bs => bs
  | _ => []

/-- What is asked of a sink. -/
inductive Call where
  | write (bs : Bytes)
  | flush

/-- The sink after a call. -/
def Call.apply [Sink ω] (sink : ω) : Call → ω
  | write bs => (Sink.write sink bs).2
  | flush => (Sink.flush sink).2

/-- **The call of the sink that belongs to an operation**, if there was no capture. -/
def Entry.call? (e : Entry) : Option Call :=
  match e.held, e.operation with
  | [], .write _ bs => some (.write bs)
  | [], .flush _ | [], .begin _ => some .flush
  | _, _ => none

/-- A world with a stream, the captures that were begun and neither finished nor dropped, and what
was done so far. -/
structure Session (σ ω : Type) where
  world : World σ ω
  held : List Nat
  log : List Entry

namespace Session

/-! ### Operations -/

/-- A session with a new stream. -/
def start (host : σ) (sink : ω) : Session σ ω := ⟨.start host sink, [], []⟩

/-- The session after an operation. -/
def next (s : Session σ ω) (op : Operation) (world : World σ ω) (held : List Nat) : Session σ ω :=
  ⟨world, held, s.log ++ [⟨op, s.held⟩]⟩

/-- What was written since a capture began. -/
def since (s : Session σ ω) (capture : Nat) : Bytes :=
  (s.log.drop (capture + 1)).flatMap Entry.written

/-- Finishes a capture. As this is its end, it is given up as well. -/
def finishing : Run σ ω String Bytes := do
  let bs ← Run.finishCapture
  Run.releaseCapture
  return bs

/-- Does what an operation says. -/
def perform [Sink ω] (s : Session σ ω) (op : Operation) : Answer × Session σ ω :=
  match op with
  | .write _ bs => (.went (Run.write bs s.world).1, s.next op (Run.write bs s.world).2 s.held)
  | .flush _ => (.went (Run.flush s.world).1, s.next op (Run.flush s.world).2 s.held)
  | .begin _ => (.begun (Run.beginCapture s.world).1, s.next op (Run.beginCapture s.world).2
      (if (Run.beginCapture s.world).1.isOk then s.log.length :: s.held else s.held))
  | .finish k =>
    if k ∈ s.held then
      (.kept (finishing s.world).1, s.next op (finishing s.world).2 (s.held.erase k))
    else (.absent, s.next op s.world s.held)
  | .drop k =>
    if k ∈ s.held then
      (.dropped (Run.releaseCapture s.world).1,
        s.next op (Run.releaseCapture (ε := String) s.world).2 (s.held.erase k))
    else (.absent, s.next op s.world s.held)

/-- Does what the operations say, one after the other. -/
def run [Sink ω] (s : Session σ ω) (ops : List Operation) : Session σ ω :=
  ops.foldl (fun s op => (s.perform op).2) s

variable [Sink ω] {s : Session σ ω} {sink : ω} {ops : List Operation} {op : Operation}
  {w : World σ ω} {k : Nat}

/-! ### Streams -/

omit [Sink ω] in
/-- After a capture has been given up, the stream goes to the sink. -/
theorem stream_releaseCapture {ε : Type} (w : World σ ω) :
    (Run.releaseCapture w : Except ε Unit × World σ ω).2.stream = .ofSink w.stream.sink := by
  unfold Run.releaseCapture
  rw [Run.update_bind]
  rcases hs : w.stream with ⟨sink, _ | kept⟩
  · exact hs
  · change w.stream.finish.2 = _
    rw [hs]
    rfl

omit [Sink ω] in
theorem finishing_apply (w : World σ ω) : (finishing w).1 = .ok (w.stream.captured.getD []) ∧
    (finishing w).2.stream = .ofSink w.stream.sink :=
  ⟨rfl, rfl⟩

/-! ### What every operation keeps -/

/-- **The captures of a session**: none, and then the stream keeps nothing; or one, and then the
stream has kept what was written since, while there was no other. -/
inductive Holds (s : Session σ ω) : Prop where
  | none : s.held = [] → s.world.stream.captured = none → s.Holds
  | one (k clone : Nat) : s.held = [k] → s.log[k]? = some ⟨.begin clone, []⟩ →
    s.world.stream.captured = some (s.since k) → (∀ e ∈ s.log.drop (k + 1), e.held = [k]) →
    s.Holds

/-- **A sound session**: the log has all operations, and the sink has had the calls that belong to
them. -/
structure Sound (sink : ω) (ops : List Operation) (s : Session σ ω) : Prop where
  complete : s.log.map Entry.operation = ops
  offered : s.world.stream.sink = (s.log.filterMap Entry.call?).foldl Call.apply sink
  holds : s.Holds

omit [Sink ω] in
theorem since_next (hk : k < s.log.length) (held : List Nat) :
    (s.next op w held).since k = s.since k ++ Entry.written ⟨op, s.held⟩ := by
  rw [since, next, List.drop_append_of_le_length hk, List.flatMap_append]
  simp [since]

/-- A session stays sound if the sink has had the call that belongs to the operation. -/
theorem Sound.next {held : List Nat} (h : s.Sound sink ops)
    (hsink : w.stream.sink = (Entry.call? ⟨op, s.held⟩).elim s.world.stream.sink
      (Call.apply s.world.stream.sink))
    (hholds : (s.next op w held).Holds) : (s.next op w held).Sound sink (ops ++ [op]) where
  complete := by
    change (s.log ++ [_]).map Entry.operation = _
    rw [List.map_append, h.complete]
    rfl
  offered := by
    change w.stream.sink = ((s.log ++ [_]).filterMap Entry.call?).foldl Call.apply sink
    rw [hsink, List.filterMap_append, List.foldl_append, ← h.offered]
    cases hcall : Entry.call? ⟨op, s.held⟩ <;> simp [hcall]
  holds := hholds

omit [Sink ω] in
/-- The one capture goes on, and has kept what the operation wrote. -/
theorem Holds.goesOn {clone : Nat} (hheld : s.held = [k])
    (hbegan : s.log[k]? = some ⟨.begin clone, []⟩)
    (hsame : ∀ e ∈ s.log.drop (k + 1), e.held = [k])
    (hkept : w.stream.captured = some (s.since k ++ Entry.written ⟨op, s.held⟩)) :
    (s.next op w s.held).Holds := by
  obtain ⟨hk, -⟩ := List.getElem?_eq_some_iff.mp hbegan
  refine .one k clone hheld ?_ ?_ fun e he => ?_
  · change (s.log ++ [_])[k]? = _
    rw [List.getElem?_append_left hk]
    exact hbegan
  · rw [since_next hk]
    exact hkept
  · change e ∈ (s.log ++ [_]).drop (k + 1) at he
    rw [List.drop_append_of_le_length hk, List.mem_append] at he
    rcases he with he | he
    · exact hsame e he
    · rw [List.mem_singleton.mp he]
      exact hheld

/-! ### One operation -/

omit [Sink ω] in
/-- A capture that has just begun. -/
theorem Holds.begun {clone : Nat} (hheld : s.held = []) (hkept : w.stream.captured = some []) :
    (s.next (.begin clone) w [s.log.length]).Holds := by
  have hlog : (s.log ++ [(⟨.begin clone, s.held⟩ : Entry)]).drop (s.log.length + 1) = [] :=
    List.drop_eq_nil_of_le (by simp)
  refine .one s.log.length clone rfl ?_ ?_ fun e he => ?_
  · change (s.log ++ [_])[s.log.length]? = _
    simp [hheld]
  · rw [since, next, hlog]
    exact hkept
  · rw [next, hlog] at he
    cases he

/-- The session after an attempt to begin a capture. -/
theorem perform_begin (clone : Nat) : s.perform (.begin clone) =
    (.begun s.world.stream.begin.1, s.next (.begin clone) (Run.beginCapture s.world).2
      (if s.world.stream.begin.1.isOk then s.log.length :: s.held else s.held)) := by
  obtain ⟨hresult, -⟩ := Behaviour.beginCapture_apply s.world
  rw [perform, hresult]

/-- An attempt to begin a capture while there is none. -/
theorem Sound.begin (h : s.Sound sink ops) (hheld : s.held = [])
    (hnone : s.world.stream.captured = none) (clone : Nat) :
    (s.perform (.begin clone)).2.Sound sink (ops ++ [.begin clone]) := by
  obtain ⟨-, hstream⟩ := Behaviour.beginCapture_apply s.world
  have hcall : Entry.call? ⟨.begin clone, s.held⟩ = some .flush := by rw [hheld]; rfl
  rw [perform_begin]
  rw [begin_free hnone] at hstream ⊢
  rcases hflush : Sink.flush s.world.stream.sink with ⟨reason | _, x⟩ <;>
    rw [hflush] at hstream
  · refine h.next ?_ (.none hheld ?_)
    · rw [hstream, hcall]
      exact (congrArg Prod.snd hflush).symm
    · exact congrArg Stream.captured hstream
  · have hone : (if (Except.ok () : Except CaptureError Unit).isOk then s.log.length :: s.held
        else s.held) = [s.log.length] := by rw [hheld]; rfl
    dsimp only
    rw [hone]
    refine h.next ?_ (.begun hheld ?_)
    · rw [hstream, hcall]
      exact (congrArg Prod.snd hflush).symm
    · rw [hstream]

/-- An operation while there is no capture. -/
theorem Sound.perform_free (h : s.Sound sink ops) (hheld : s.held = [])
    (hnone : s.world.stream.captured = none) (op : Operation) :
    (s.perform op).2.Sound sink (ops ++ [op]) := by
  obtain ⟨⟨_, ⟨_, captured⟩, _, _, _, _, _⟩, held, log⟩ := s
  obtain rfl : held = [] := hheld
  obtain rfl : captured = none := hnone
  cases op with
  | begin clone => exact h.begin rfl rfl clone
  | write _ _ => exact h.next rfl (.none rfl rfl)
  | flush _ => exact h.next rfl (.none rfl rfl)
  | finish _ => exact h.next rfl (.none rfl rfl)
  | drop _ => exact h.next rfl (.none rfl rfl)

/-- An operation while there is a capture. -/
theorem Sound.perform_captured {clone : Nat} (h : s.Sound sink ops) (hheld : s.held = [k])
    (hbegan : s.log[k]? = some ⟨.begin clone, []⟩)
    (hsome : s.world.stream.captured = some (s.since k))
    (hsame : ∀ e ∈ s.log.drop (k + 1), e.held = [k]) (op : Operation) :
    (s.perform op).2.Sound sink (ops ++ [op]) := by
  have hcall : Entry.call? ⟨op, s.held⟩ = none := by rw [Entry.call?, hheld]
  have hnext {v : World σ ω} {held : List Nat} (hv : v.stream.sink = s.world.stream.sink)
      (hholds : (s.next op v held).Holds) : (s.next op v held).Sound sink (ops ++ [op]) :=
    h.next (by rw [hv, hcall]; rfl) hholds
  -- an operation that leaves the stream as it is, and the capture to itself
  have hidle {v : World σ ω} (hv : v.stream = s.world.stream)
      (hop : Entry.written ⟨op, s.held⟩ = []) :
      (s.next op v s.held).Sound sink (ops ++ [op]) := by
    refine hnext (by rw [hv]) (.goesOn hheld hbegan hsame ?_)
    rw [hv, hsome, hop, List.append_nil]
  have hover {v : World σ ω} (hv : v.stream = .ofSink s.world.stream.sink) :
      (s.next op v (s.held.erase k)).Sound sink (ops ++ [op]) := by
    refine hnext (by rw [hv]; rfl) (.none ?_ (congrArg Stream.captured hv))
    change s.held.erase k = []
    simp [hheld]
  have hmem {j : Nat} : j ∈ s.held ↔ j = k := by simp [hheld]
  cases op with
  | write clone bs =>
    have hwrite : s.world.stream.write bs =
        (.ok (), { s.world.stream with captured := some (s.since k ++ bs) }) := by
      rw [Stream.write, hsome]
    refine hnext ?_ (.goesOn hheld hbegan hsame ?_)
    · rw [Run.write_apply, hwrite]
    · rw [Run.write_apply, hwrite]
      rfl
  | flush clone =>
    refine hidle ?_ rfl
    rw [Run.flush_apply, Stream.flush, hsome]
  | begin clone =>
    obtain ⟨-, hstream⟩ := Behaviour.beginCapture_apply s.world
    rw [perform_begin, begin_captured hsome]
    rw [begin_captured hsome] at hstream
    exact hidle hstream rfl
  | finish j =>
    rw [perform]
    split_ifs with hj
    · obtain rfl := hmem.mp hj
      exact hover (finishing_apply s.world).2
    · exact hidle rfl rfl
  | drop j =>
    rw [perform]
    split_ifs with hj
    · obtain rfl := hmem.mp hj
      exact hover (stream_releaseCapture s.world)
    · exact hidle rfl rfl

/-- **Every operation keeps a session sound.** -/
theorem Sound.perform (h : s.Sound sink ops) (op : Operation) :
    (s.perform op).2.Sound sink (ops ++ [op]) := by
  cases h.holds with
  | none hheld hnone => exact h.perform_free hheld hnone op
  | one k clone hheld hbegan hsome hsame =>
    exact h.perform_captured hheld hbegan hsome hsame op

theorem sound_start (host : σ) : (start host sink).Sound sink [] :=
  ⟨rfl, rfl, .none rfl rfl⟩

/-- **A session stays sound**, whatever is done. -/
theorem Sound.run (h : s.Sound sink ops) (more : List Operation) :
    (s.run more).Sound sink (ops ++ more) := by
  induction more generalizing s ops with
  | nil =>
    rw [List.append_nil]
    exact h
  | cons op more ih =>
    rw [List.append_cons]
    exact ih (h.perform op)

/-! ### The law of captures -/

/-- **When captures begin, what they keep, and what goes to the sink.** -/
structure Lawful (sink : ω) (ops : List Operation) (s : Session σ ω) : Prop where
  /-- The log has all operations. -/
  complete : s.log.map Entry.operation = ops
  /-- There is at most one capture. -/
  single : s.held.length ≤ 1
  /-- It was begun by the operation with its number, when there was none. -/
  began (k : Nat) (hk : k ∈ s.held) : ∃ clone, s.log[k]? = some ⟨.begin clone, []⟩
  /-- The stream knows whether there is one. -/
  isCapturing : s.world.stream.isCapturing = true ↔ s.held ≠ []
  /-- A capture is refused as such if there is one. -/
  refused (clone : Nat) :
    (s.perform (.begin clone)).1 = .begun (.error .alreadyActive) ↔ s.held ≠ []
  /-- Otherwise it fails if the sink cannot be flushed. -/
  unflushed (hs : s.held = []) (clone : Nat) (reason : String) :
    (s.perform (.begin clone)).1 = .begun (.error (.flush reason)) ↔
      (Sink.flush s.world.stream.sink).1 = .error reason
  /-- If it fails, the captures are as before, and so is what was kept. -/
  unharmed (clone : Nat) (e : CaptureError) :
    (s.perform (.begin clone)).1 = .begun (.error e) →
      (s.perform (.begin clone)).2.held = s.held ∧
        (s.perform (.begin clone)).2.world.stream.captured = s.world.stream.captured
  /-- A capture that is finished has kept what was written since it began. -/
  kept (k : Nat) (hk : k ∈ s.held) : (s.perform (.finish k)).1 = .kept (.ok (s.since k))
  /-- The sink was offered what was written while there was no capture, and nothing else. -/
  offered : s.world.stream.sink = (s.log.filterMap Entry.call?).foldl Call.apply sink
  /-- None of what a capture keeps was offered. -/
  apart (k : Nat) (hk : k ∈ s.held) (e : Entry) (he : e ∈ s.log.drop (k + 1)) : e.call? = none

/-- An attempt to begin a capture that fails leaves things as they are. -/
theorem unharmed_of_begin (s : Session σ ω) (clone : Nat) (e : CaptureError)
    (he : (s.perform (.begin clone)).1 = .begun (.error e)) :
    (s.perform (.begin clone)).2.held = s.held ∧
      (s.perform (.begin clone)).2.world.stream.captured = s.world.stream.captured := by
  obtain ⟨-, hstream⟩ := Behaviour.beginCapture_apply s.world
  rw [perform_begin] at he ⊢
  have hbegin := Answer.begun.inj he
  constructor
  · rw [hbegin]
    rfl
  · exact (congrArg Stream.captured hstream).trans (captured_begin hbegin)

theorem Sound.toLawful (h : s.Sound sink ops) : s.Lawful sink ops := by
  cases h.holds with
  | none hheld hnone =>
    have hbegin := begin_free hnone
    exact {
      complete := h.complete
      single := by simp [hheld]
      began := fun k hk => by simp [hheld] at hk
      isCapturing := by simp [Stream.isCapturing, hnone, hheld]
      refused := fun clone => by
        rw [perform_begin, hbegin]
        rcases Sink.flush s.world.stream.sink with ⟨_ | _, _⟩ <;> simp [hheld]
      unflushed := fun _ clone reason => by
        rw [perform_begin, hbegin]
        rcases Sink.flush s.world.stream.sink with ⟨_ | _, _⟩ <;> simp
      unharmed := s.unharmed_of_begin
      kept := fun k hk => by simp [hheld] at hk
      offered := h.offered
      apart := fun k hk => by simp [hheld] at hk }
  | one k clone hheld hbegan hsome hsame =>
    have hbegin := begin_captured hsome
    exact {
      complete := h.complete
      single := by simp [hheld]
      began := fun j hj => by
        obtain rfl : j = k := by simpa [hheld] using hj
        exact ⟨clone, hbegan⟩
      isCapturing := by simp [Stream.isCapturing, hsome, hheld]
      refused := fun clone => by simp [perform_begin, hbegin, hheld]
      unflushed := fun hs => by simp [hheld] at hs
      unharmed := s.unharmed_of_begin
      kept := fun j hj => by
        obtain rfl : j = k := by simpa [hheld] using hj
        rw [Session.perform, if_pos hj, (finishing_apply s.world).1, hsome]
        rfl
      offered := h.offered
      apart := fun j hj e he => by
        obtain rfl : j = k := by simpa [hheld] using hj
        rw [Entry.call?, hsame e he] }

/-- **The law of captures** holds in all sessions. -/
theorem lawful (host : σ) (sink : ω) (ops : List Operation) :
    ((start host sink).run ops).Lawful sink ops :=
  ((sound_start host).run ops).toLawful

example : ((start () (⟨[]⟩ : Memory)).run [.write 0 [1], .begin 0, .write 1 [2], .begin 1,
    .write 0 [3]]).since 1 = [2, 3] := rfl

end Session

end Golden.Stream
