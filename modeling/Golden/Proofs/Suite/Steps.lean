import Golden.Proofs.Runner.Shows
import Golden.Proofs.Suite.Plan

/-! # The run of a suite, step by step

The loop over roots and the loop over tests as equations between actions in a given world, and the
run of a suite as four parts: what comes before the plan (`Suite.opening`), the plan, the tests, and
what comes after the last of them (`Suite.closing`). Nothing is loaded then any more: the summary is
written, and a memo is saved.

* `Suite.closing_apply`: what a run that ends well leaves.
* `Suite.closing_eq_ok`: if the sink is reliable, only the memo may fail. -/

namespace Golden

/-! ### Notes -/

/-- **Worlds that differ in notes** at most, that is, in the phase and the trail. -/
def World.Noted {σ ω : Type} (w v : World σ ω) : Prop := ∃ phase trail, v = { w with phase, trail }

namespace World.Noted

variable {σ ω : Type} {w v x : World σ ω}

theorem refl (w : World σ ω) : w.Noted w := ⟨w.phase, w.trail, rfl⟩

theorem trans (h : w.Noted v) (h' : v.Noted x) : w.Noted x := by
  obtain ⟨_, _, rfl⟩ := h
  obtain ⟨phase, trail, rfl⟩ := h'
  exact ⟨phase, trail, rfl⟩

theorem interrupt (h : w.Noted v) : v.interrupt = w.interrupt := by
  obtain ⟨_, _, rfl⟩ := h
  rfl

theorem told (h : w.Noted v) : w.Told v := by
  obtain ⟨phase, trail, rfl⟩ := h
  exact ⟨w.stream, phase, trail, w.leaked, rfl, rfl⟩

end World.Noted

namespace Suite

variable {σ ω : Type} [Sink ω] (s : Suite σ)

/-! ### Roots -/

omit [Sink ω] in
/-- The source file of a unit. -/
def source (u : UnitId) : Path := u.source s.config.discovery.extension

/-- The name of a test is shown before the test runs. -/
def announce (name : String) : Run σ ω RunError Unit := do
  if !s.options.quiet then
    Runner.say name
    Runner.flush

theorem shows_announce (name : String) :
    Runner.Shows (s.announce name : Run σ ω RunError Unit) (.ok ()) := by
  unfold announce
  split_ifs
  · exact (Runner.shows_say name).bind Runner.shows_flush
  · exact .pure ()

variable [FileSystem σ]

section Roots
variable {name : String} {root : Path} {roots : List Path} {records : List (UnitId × Outcome)}
  {found : Bool} {w : World σ ω}

theorem runIn_stopped (h : w.interrupt = true) :
    s.runIn name (root :: roots) records found w = (.ok (records, ⟨found, true⟩), w) := by
  rw [runIn, Run.update_bind, if_pos h]
  rfl

theorem runIn_missing (h : w.interrupt = false)
    (hs : FileSystem.has w.host (s.source ⟨name, root⟩) = false) :
    s.runIn name (root :: roots) records found w = s.runIn name roots records found w := by
  rw [runIn, Run.update_bind, if_neg (by simp [h]), Run.host_bind, if_neg]
  unfold source UnitId.source at hs
  simp [hs]

/-- A root that has the test: it is announced and runs. -/
theorem runIn_present (h : w.interrupt = false)
    (hs : FileSystem.has w.host (s.source ⟨name, root⟩) = true) :
    s.runIn name (root :: roots) records found w =
      (s.announce name >>= fun _ => Run.observe (s.runner.run ⟨name, root⟩) >>= fun
        | .ok outcome => s.runIn name roots (records ++ [(⟨name, root⟩, outcome)]) true
        | .error .interrupted => pure (records, ⟨true, true⟩)
        | .error e => throw e) w := by
  unfold source UnitId.source at hs
  rw [runIn, Run.update_bind, if_neg (by simp [h]), Run.host_bind, if_pos hs, announce]
  cases s.options.quiet with
  | true => rfl
  | false =>
    rw [if_pos (by simp), if_pos (by simp)]
    exact congrFun (bind_assoc _ _ _).symm w

/-- The world in which the runner gets a unit. -/
def announced (name : String) (w : World σ ω) : World σ ω := (s.announce name w).2

/-- What follows when the run of a unit returns an outcome. -/
theorem runIn_ran (h : w.interrupt = false)
    (hs : FileSystem.has w.host (s.source ⟨name, root⟩) = true)
    (ha : (s.announce name w).1 = .ok ()) {o : Outcome}
    (ho : (s.runner.run ⟨name, root⟩ (s.announced name w)).1 = .ok o) :
    s.runIn name (root :: roots) records found w =
      s.runIn name roots (records ++ [(⟨name, root⟩, o)]) true
        (s.runner.run ⟨name, root⟩ (s.announced name w)).2 := by
  unfold announced at ho ⊢
  rw [s.runIn_present h hs, Run.bind_ok ha, Run.observe_bind, ho]

/-- **A root that has the test**: if the loop gets to an end, the unit had an outcome, or it was
interrupted. -/
theorem runIn_present_ok (h : w.interrupt = false)
    (hs : FileSystem.has w.host (s.source ⟨name, root⟩) = true)
    {r : List (UnitId × Outcome) × Visit}
    (hr : (s.runIn name (root :: roots) records found w).1 = .ok r) :
    (s.announce name w).1 = .ok () ∧
      ((∃ o, (s.runner.run ⟨name, root⟩ (s.announced name w)).1 = .ok o) ∨
        (s.runner.run ⟨name, root⟩ (s.announced name w)).1 = .error .interrupted ∧
          r = (records, ⟨true, true⟩)) := by
  rw [s.runIn_present h hs] at hr
  obtain ⟨_, ha, hr⟩ := Run.bind_eq_ok.mp hr
  refine ⟨ha, ?_⟩
  unfold announced
  rw [Run.observe_bind] at hr
  cases hrun : (s.runner.run ⟨name, root⟩ (s.announce name w).2).1 with
  | ok o => exact Or.inl ⟨o, rfl⟩
  | error e =>
    rw [hrun] at hr
    cases e with
    | interrupted => exact Or.inr ⟨rfl, (Except.ok.inj hr).symm⟩
    | _ => cases hr

end Roots

/-! ### Tests -/

omit [FileSystem σ] [Sink ω] in
/-- A note about a test that no root has. -/
def remark (p : Plan) (name : String) (found : Bool) : Run σ ω RunError Unit := do
  if !found then
    Run.note (.testNotFound name p.explicit)

omit [FileSystem σ] [Sink ω] in
theorem ok_remark (p : Plan) (name : String) (found : Bool) (w : World σ ω) :
    (remark p name found w).1 = .ok () := by
  unfold remark
  split_ifs <;> rfl

omit [FileSystem σ] [Sink ω] in
theorem noted_remark (p : Plan) (name : String) (found : Bool) (w : World σ ω) :
    w.Noted (remark p name found w).2 := by
  unfold remark
  split_ifs
  · exact ⟨w.phase, _, rfl⟩
  · exact .refl w

omit [FileSystem σ] [Sink ω] in
theorem ok_advance (phase : Phase) (w : World σ ω) :
    (advance phase w : Except RunError Unit × World σ ω).1 = .ok () := rfl

omit [FileSystem σ] [Sink ω] in
theorem noted_advance (phase : Phase) (w : World σ ω) :
    w.Noted (advance phase w : Except RunError Unit × World σ ω).2 :=
  ⟨phase, _, rfl⟩

omit [FileSystem σ] in
theorem shows_remark (p : Plan) (name : String) (found : Bool) :
    Runner.Shows (remark p name found : Run σ ω RunError Unit) (.ok ()) :=
  .of_result fun w => ⟨ok_remark p name found w, (noted_remark p name found w).told⟩

omit [FileSystem σ] in
theorem shows_advance (phase : Phase) :
    Runner.Shows (advance phase : Run σ ω RunError Unit) (.ok ()) :=
  .of_result fun w => ⟨ok_advance phase w, (noted_advance phase w).told⟩

/-- A test is sought in its roots, and then the others follow. -/
theorem runTests_cons (p : Plan) (index : Nat) (name : String) (names : List String)
    (records : List (UnitId × Outcome)) :
    (s.runTests p index (name :: names) records : Run σ ω RunError Tally) =
      advance (.running index) >>= fun _ =>
        s.runIn name (candidates p name) records false >>= fun r =>
          if r.2.interrupted then pure ⟨r.1, true⟩
          else remark p name r.2.found >>= fun _ => s.runTests p (index + 1) names r.1 := by
  rw [runTests]
  refine congrArg (advance (.running index) >>= ·) (funext fun _ => ?_)
  refine congrArg (s.runIn name (candidates p name) records false >>= ·) (funext fun r => ?_)
  rcases r with ⟨records', ⟨found, interrupted⟩⟩
  cases found <;> cases interrupted <;> rfl

/-- **If the operator has asked to stop**, the loop over tests ends where a unit is sought, and only
notes are left. -/
theorem runTests_stopped (p : Plan) :
    ∀ (names : List String) (index : Nat) (records : List (UnitId × Outcome)) {w : World σ ω},
      w.interrupt = true → ∃ v, w.Noted v ∧
        s.runTests p index names records w = (.ok ⟨records, sought p names ≠ []⟩, v)
  | [], _, _, w, _ => ⟨w, .refl w, by simp [runTests, sought]⟩
  | name :: names, index, records, w, h => by
    have hadvance := noted_advance (.running index) w
    have hstop := hadvance.interrupt.trans h
    rw [runTests_cons, Run.bind_ok (ok_advance _ w), sought, List.flatMap_cons]
    cases candidates p name with
    | nil =>
      rw [runIn, Run.pure_bind_apply, if_neg (by simp), Run.bind_ok (ok_remark p name false _)]
      have hremark := noted_remark p name false
        (advance (.running index) w : Except RunError Unit × World σ ω).2
      obtain ⟨v, hv, hrest⟩ := runTests_stopped p names (index + 1) records
        (hremark.interrupt.trans hstop)
      exact ⟨v, hadvance.trans (hremark.trans hv), hrest⟩
    | cons root roots =>
      rw [Run.bind_ok (congrArg Prod.fst (s.runIn_stopped hstop)), s.runIn_stopped hstop]
      exact ⟨_, hadvance, by simp⟩

/-! ### Whole runs -/

omit [FileSystem σ] in
/-- What comes before the plan. -/
def opening : Run σ ω RunError Unit := do
  Run.mapError .configuration (Run.ofResult s.options.validate)
  if s.options.findLeaks && s.detector.isNone then
    Runner.say "No leak detector available, disabling findleaks."
  advance .discovering

omit [FileSystem σ] in
theorem shows_opening : Runner.Shows (s.opening : Run σ ω RunError Unit)
    (s.options.validate.mapError .configuration) := by
  unfold opening
  cases s.options.validate with
  | error e => exact .throw _
  | ok _ =>
    refine Runner.Shows.bind (.pure ()) ?_
    split_ifs
    · exact (Runner.shows_say _).bind (shows_advance _)
    · exact shows_advance _

/-- What goes before the tests leads to the plan and only tells something. -/
theorem plan_opening (w : World σ ω) : (s.plan (s.opening w).2).1 = s.planned w.host ∧
    w.Told (s.plan (s.opening w).2).2 := by
  have htold := s.shows_opening.told w
  obtain ⟨t, ht⟩ := s.plan_apply (s.opening w : Except RunError Unit × World σ ω).2
  rw [ht, htold.host]
  exact ⟨rfl, htold.trans ⟨_, _, t, _, rfl, by rw [htold.host]⟩⟩

omit [FileSystem σ] in
/-- What the operator is told about a result. -/
def summarize (result : SuiteResult) : Run σ ω RunError Unit := do
  if result.interrupted then
    Run.note .interrupted
  advance .reporting
  Runner.sayText (Summary.text s.manner (.ofPlatform s.config.platform) result)
  Runner.flush

omit [FileSystem σ] in
theorem shows_summarize (result : SuiteResult) :
    Runner.Shows (s.summarize result : Run σ ω RunError Unit) (.ok ()) := by
  have hrest : Runner.Shows (σ := σ) (ω := ω) (advance .reporting >>= fun _ =>
      Runner.sayText (Summary.text s.manner (.ofPlatform s.config.platform) result) >>= fun _ =>
        Runner.flush) (.ok ()) :=
    (shows_advance _).bind ((Runner.shows_sayText _).bind Runner.shows_flush)
  unfold summarize
  split_ifs
  · exact (Runner.shows_leave _).bind hrest
  · exact hrest

omit [Sink ω] in
/-- Saves a memo of a result if one is wanted. -/
def keepMemo (result : SuiteResult) : Run σ ω RunError Unit :=
  match s.options.memo with
  | some path => saveMemo (.ofResult result) path
  | none => pure ()

omit [Sink ω] in
/-- The files after the memo of a result has been saved, if one is wanted. -/
def recorded (result : SuiteResult) (host : σ) : Except FileSystemError Unit × σ :=
  match s.options.memo with
  | none => (.ok (), host)
  | some path => FileSystem.write host path (utf8 (Memo.ofResult result).render)

omit [Sink ω] in
theorem keepMemo_apply (result : SuiteResult) (w : World σ ω) :
    ∃ t, s.keepMemo result w = ((s.recorded result w.host).1.mapError .fileSystem,
      { w with host := (s.recorded result w.host).2, trail := t }) := by
  unfold keepMemo recorded
  cases s.options.memo with
  | none => exact ⟨w.trail, rfl⟩
  | some path =>
    dsimp only
    rw [saveMemo, Run.bind_apply, Run.mapError_apply]
    cases FileSystem.write w.host path (utf8 (Memo.ofResult result).render) with
    | mk r host => cases r <;> exact ⟨_, rfl⟩

/-- The result of a tally in a run with the given plan. -/
def resultOf (p : Plan) (tally : Tally) : SuiteResult :=
  (tally.result (1 < p.roots.length)).sorted

/-- What comes after the last test. -/
def closing (result : SuiteResult) : Run σ ω RunError SuiteResult := do
  if result.interrupted then
    Run.note .interrupted
  advance .reporting
  Runner.sayText (Summary.text s.manner (.ofPlatform s.config.platform) result)
  Runner.flush
  if let some path := s.options.memo then
    saveMemo (.ofResult result) path
  advance .done
  return result

theorem closing_eq (result : SuiteResult) : (s.closing result : Run σ ω RunError SuiteResult) =
    s.summarize result >>= fun _ => s.keepMemo result >>= fun _ => advance .done >>= fun _ =>
      pure result := by
  unfold closing summarize keepMemo
  cases result.interrupted <;> cases s.options.memo <;>
    simp only [if_true, if_false, Bool.false_eq_true, bind_assoc, pure_bind]

/-- **The run of a suite** in four parts. -/
theorem run_eq : (s.run : Run σ ω RunError SuiteResult) =
    s.opening >>= fun _ => s.plan >>= fun p => s.runTests p 0 p.tests [] >>= fun tally =>
      advance .reconciling >>= fun _ => s.closing (resultOf p tally) := by
  unfold run opening
  rw [bind_assoc]
  refine congrArg (_ >>= ·) (funext fun _ => ?_)
  cases s.options.findLeaks && s.detector.isNone with
  | true =>
    rw [if_pos rfl, if_pos rfl, bind_assoc]
    rfl
  | false => rfl

/-- The parts of a run that returns a result. -/
theorem run_eq_ok {w : World σ ω} {result : SuiteResult} (h : (s.run w).1 = .ok result) :
    ∃ p tally, (s.opening w).1 = .ok () ∧ (s.plan (s.opening w).2).1 = .ok p ∧
      (s.runTests p 0 p.tests [] (s.plan (s.opening w).2).2).1 = .ok tally ∧
      result = resultOf p tally := by
  rw [run_eq] at h
  obtain ⟨_, h1, h⟩ := Run.bind_eq_ok.mp h
  obtain ⟨p, h2, h⟩ := Run.bind_eq_ok.mp h
  obtain ⟨tally, h3, h⟩ := Run.bind_eq_ok.mp h
  obtain ⟨_, -, h⟩ := Run.bind_eq_ok.mp h
  rw [closing_eq] at h
  obtain ⟨_, -, h⟩ := Run.bind_eq_ok.mp h
  obtain ⟨_, -, h⟩ := Run.bind_eq_ok.mp h
  obtain ⟨_, -, h⟩ := Run.bind_eq_ok.mp h
  exact ⟨p, tally, h1, h2, h3, (Except.ok.inj h).symm⟩

section Closing
variable {s}

/-! ### The summary -/

omit [Sink ω] [FileSystem σ] in
/-- What is written about a result. -/
def summary (s : Suite σ) (result : SuiteResult) : String :=
  Summary.text s.manner (.ofPlatform s.config.platform) result

omit [Sink ω] [FileSystem σ] in
/-- The line about an interruption. -/
def interruptedLine (s : Suite σ) : String :=
  s.manner.painter.paint .notice "Interrupted; results are partial." ++ "\n"

omit [FileSystem σ] in
/-- The stream takes the summary of the result. -/
def Takes (s : Suite σ) (result : SuiteResult) (stream : Stream ω) : Prop :=
  (stream.write (utf8 (s.summary result))).1 = .ok () ∧
    (stream.write (utf8 (s.summary result))).2.flush.1 = .ok ()

omit [FileSystem σ] in
/-- The stream when it has taken the summary of the result. -/
def summarized (s : Suite σ) (result : SuiteResult) (stream : Stream ω) : Stream ω :=
  (stream.write (utf8 (s.summary result))).2.flush.2

omit [Sink ω] [FileSystem σ] in
/-- The summary of an interrupted run begins with the line about it. -/
theorem summary_of_interrupted {result : SuiteResult} (h : result.interrupted = true) :
    ∃ rest, s.summary result = s.interruptedLine ++ rest := by
  unfold summary Summary.text Summary.lines Summary.interruptedLines
  rw [if_pos h]
  exact ⟨_, String.join_cons⟩

omit [FileSystem σ] in
theorem takes_of_reliable (hr : Sink.Reliable ω) (result : SuiteResult) (stream : Stream ω) :
    s.Takes result stream :=
  ⟨hr.stream_write _ _, hr.stream_flush _⟩

omit [FileSystem σ] in
/-- The summary is the last that is written. -/
theorem summarize_apply {result : SuiteResult} {w : World σ ω} (h : s.Takes result w.stream) :
    (s.summarize result w).1 = .ok () ∧
      (s.summarize result w).2.stream = s.summarized result w.stream := by
  obtain ⟨hwrite, hflush⟩ := h
  have hlast (v : World σ ω) (hv : v.stream = w.stream) :
      ((Runner.sayText (s.summary result) >>= fun _ => Runner.flush) v).1 = .ok () ∧
      ((Runner.sayText (s.summary result) >>= fun _ => Runner.flush) v).2.stream =
        s.summarized result w.stream := by
    rw [← hv] at hwrite hflush ⊢
    have hsay : (Runner.sayText (s.summary result) v).1 = .ok () := by
      rw [Runner.sayText, Run.mapError_apply, Run.write_apply, hwrite]
      rfl
    rw [Run.bind_ok hsay, Runner.flush, Run.mapError_apply, Run.flush_apply]
    refine ⟨?_, rfl⟩
    change Except.mapError _ (v.stream.write (utf8 (s.summary result))).2.flush.1 = _
    rw [hflush]
    rfl
  unfold summarize
  split_ifs
  · rw [Run.note_bind]
    exact hlast { w with phase := .reporting, trail := _ } rfl
  · exact hlast { w with phase := .reporting, trail := _ } rfl

/-! ### The whole end -/

theorem modules_closing (result : SuiteResult) (w : World σ ω) :
    (s.closing result w).2.modules = w.modules := by
  have hsummary := ((s.shows_summarize result).told w).modules
  have hkeep : (s.keepMemo result (s.summarize result w).2).2.modules = w.modules := by
    obtain ⟨t, ht⟩ := s.keepMemo_apply result (s.summarize result w).2
    rw [ht]
    exact hsummary
  rw [closing_eq]
  exact Run.bind_snd (P := fun v => v.modules = w.modules) hsummary fun _ _ =>
    Run.bind_snd (P := fun v => v.modules = w.modules) hkeep fun _ _ => hkeep

/-- **A run ends well** if the stream takes the summary and the memo can be saved. -/
theorem closing_apply {result : SuiteResult} {w : World σ ω} (h : s.Takes result w.stream)
    (hmemo : (s.recorded result w.host).1 = .ok ()) :
    (s.closing result w).1 = .ok result ∧
      (s.closing result w).2.stream = s.summarized result w.stream ∧
      (s.closing result w).2.host = (s.recorded result w.host).2 := by
  obtain ⟨hsummary, hstream⟩ := summarize_apply h
  have hhost := ((s.shows_summarize result).told w).host
  obtain ⟨t, ht⟩ := s.keepMemo_apply result (s.summarize result w).2
  have hkeep : (s.keepMemo result (s.summarize result w).2).1 = .ok () := by
    rw [ht, hhost, hmemo]
    rfl
  rw [closing_eq, Run.bind_ok hsummary, Run.bind_ok hkeep, ht, hhost]
  exact ⟨rfl, hstream, rfl⟩

/-- A run whose sink is reliable ends well if the memo can be saved. -/
theorem closing_eq_ok (hr : Sink.Reliable ω) (result : SuiteResult) (w : World σ ω) :
    (s.closing result w).1 = .ok result ↔ (s.recorded result w.host).1 = .ok () := by
  obtain ⟨t, ht⟩ := s.keepMemo_apply result (s.summarize result w).2
  have hhost := ((s.shows_summarize result).told w).host
  rw [closing_eq, Run.bind_ok ((s.shows_summarize result).sure hr w), Run.bind_apply, ht, hhost]
  cases (s.recorded result w.host).1 with
  | error e => simp [Except.mapError]
  | ok _ => simp [Except.mapError]; rfl

end Closing

end Suite

end Golden
