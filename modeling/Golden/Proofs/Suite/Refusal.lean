import Golden.Proofs.Runner.Ends
import Golden.Proofs.Suite.Steps

/-! # Refused options

A run checks the options of its suite before all else. No later step refuses them, so that an error
of that kind tells that nothing has happened yet.

* `Runner.Accepts`: an action whose error is never a refusal of options.
* `Suite.run_of_invalid`: a run with options that do not go together leaves the world as it was.
* `Suite.run_eq_configuration`: a run refuses options exactly if they do not go together. -/

namespace Golden

variable {σ ω ε α β : Type}

namespace Runner

/-- **An action that does not refuse options.** -/
def Accepts (x : Run σ ω RunError α) : Prop := ∀ w c, (x w).1 ≠ .error (.configuration c)

namespace Accepts

/-- An action that does not fail. -/
theorem of_ok {x : Run σ ω RunError α} (h : ∀ w, ∃ a, (x w).1 = .ok a) : Accepts x := by
  intro w c hc
  obtain ⟨a, ha⟩ := h w
  rw [ha] at hc
  cases hc

theorem pure (a : α) : Accepts (pure a : Run σ ω RunError α) := of_ok fun _ => ⟨a, rfl⟩

theorem bind {x : Run σ ω RunError α} {f : α → Run σ ω RunError β} (hx : Accepts x)
    (hf : ∀ a, Accepts (f a)) : Accepts (x >>= f) :=
  fun w c => Run.bind_ne_error (hx w c) fun a _ => hf a _ c

/-- An action whose failures are renamed to something else. -/
theorem mapError {f : ε → RunError} (hf : ∀ e c, f e ≠ .configuration c) (x : Run σ ω ε α) :
    Accepts (Run.mapError f x) := by
  intro w c hc
  rw [Run.mapError_apply] at hc
  cases hx : (x w).1 with
  | ok a =>
    rw [hx] at hc
    cases hc
  | error e =>
    rw [hx] at hc
    exact hf e c (Except.error.inj hc)

/-- What only shows something does not refuse options, if its result does not. -/
theorem of_shows [Sink ω] {x : Run σ ω RunError α} {f : Except RunError α} (h : Shows x f)
    (hf : ∀ c, f ≠ .error (.configuration c)) : Accepts x := by
  intro w c hc
  rcases h.result w with hresult | ⟨reason, hresult⟩
  · exact hf c (hresult.symm.trans hc)
  · rw [hresult] at hc
    cases hc

end Accepts

/-! ### Units -/

variable [Sink ω] {r : Runner σ} {u : UnitId}

theorem accepts_execute : Accepts (r.execute u : Run σ ω RunError _) := by
  intro w c
  rcases execute_cases r u w with ⟨v, hv⟩ | ⟨-, e, -, he⟩
  · obtain ⟨⟨output, hend⟩, -⟩ := hv.execute
    simp [hend]
  · simp [he]

theorem spoken_accepts : Spoken fun {α} (x : Run σ ω RunError α) => Accepts x where
  pure := .pure
  bind := .bind
  sayText _ := .mapError (by simp) _
  flush := .mapError (by simp) _

theorem accepts_report (signal : Signal) : Accepts (r.report u signal : Run σ ω RunError _) :=
  spoken_accepts.report (fun _ _ h => nomatch Except.error.inj h) r u signal

theorem accepts_scan : Accepts (r.scan : Run σ ω RunError Unit) := by
  intro w c
  rcases (r.scan_spec w).2.1 with h | ⟨reason, h⟩ <;> simp [h]

variable [FileSystem σ]

theorem accepts_generate (output : Bytes) :
    Accepts (generate u output : Run σ ω RunError Outcome) :=
  spoken_accepts.generate (.of_ok fun w => ⟨w.host, rfl⟩) <|
    writeGolden_of (fun hx hy => hx.bind fun _ => hy) (fun _ => .mapError (by simp) _)
      (fun _ => .of_ok fun _ => ⟨(), rfl⟩) u output

theorem accepts_compare (output : Bytes) :
    Accepts (r.compare u output : Run σ ω RunError Outcome) := by
  intro w c
  rw [compare_apply]
  cases expected w.host u with
  | error e => simp
  | ok golden => exact Accepts.of_shows (shows_judge r u output golden) (by simp) w c

theorem accepts_settle (output : Option Bytes) :
    Accepts (r.settle u output : Run σ ω RunError Outcome) := by
  cases output with
  | none => exact .pure _
  | some output =>
    dsimp only [settle]
    split_ifs
    · exact accepts_generate output
    · exact accepts_compare output

theorem accepts_classify : Accepts (r.classify u : Run σ ω RunError Outcome) := by
  refine Accepts.bind accepts_execute fun x => ?_
  rcases x with ⟨signal | _, output⟩
  · exact accepts_report signal
  · exact accepts_settle output

/-- **The run of a unit** does not refuse options. -/
theorem accepts_run (r : Runner σ) (u : UnitId) : Accepts (r.run u : Run σ ω RunError Outcome) := by
  intro w c
  have hclass := accepts_classify (r := r) (u := u) (ready u w) c
  by_cases h : (r.classify u (ready u w)).1 = .error .interrupted
  · obtain ⟨t, ht⟩ := conclude_apply u (ready u w).modules.names (.error .interrupted)
      (r.classify u (ready u w)).2
    rw [run_apply, h]
    dsimp only
    rw [ht]
    simp
  · rw [run_of_ne h]
    refine Run.bind_ne_error (accepts_scan _ c) fun _ _ => ?_
    obtain ⟨t, ht⟩ := conclude_apply u (ready u w).modules.names (r.classify u (ready u w)).1
      (r.scan (r.classify u (ready u w)).2).2
    rw [ht]
    exact hclass

end Runner

namespace Suite

open Runner (Accepts)

variable [Sink ω] [FileSystem σ] (s : Suite σ)

/-! ### Loops -/

theorem accepts_runIn (name : String) : ∀ (roots : List Path)
    (records : List (UnitId × Outcome)) (found : Bool),
    Accepts (s.runIn name roots records found : Run σ ω RunError _)
  | [], records, found => .pure _
  | root :: roots, records, found => by
    intro w c
    cases hstop : w.interrupt with
    | true =>
      rw [s.runIn_stopped hstop]
      simp
    | false =>
      cases hs : FileSystem.has w.host (s.source ⟨name, root⟩) with
      | false =>
        rw [s.runIn_missing hstop hs]
        exact accepts_runIn name roots records found w c
      | true =>
        rw [s.runIn_present hstop hs]
        refine Run.bind_ne_error ?_ fun _ _ => ?_
        · exact Accepts.of_shows (s.shows_announce name) (by simp) w c
        have hunit := Runner.accepts_run s.runner ⟨name, root⟩ (s.announce name w).2 c
        rw [Run.observe_bind]
        cases hrun : (s.runner.run ⟨name, root⟩ (s.announce name w).2).1 with
        | ok o => exact accepts_runIn name roots _ true _ c
        | error e =>
          rw [hrun] at hunit
          cases e with
          | interrupted => simp
          | _ => exact fun h => hunit (congrArg Except.error (Except.error.inj h))

theorem accepts_runTests (p : Plan) : ∀ (names : List String) (index : Nat)
    (records : List (UnitId × Outcome)),
    Accepts (s.runTests p index names records : Run σ ω RunError Tally)
  | [], _, _ => .pure _
  | name :: names, index, records => by
    rw [runTests_cons]
    refine Accepts.bind (.of_ok fun w => ⟨(), ok_advance _ w⟩) fun _ => ?_
    refine Accepts.bind (s.accepts_runIn name _ records false) fun r => ?_
    split_ifs
    · exact .pure _
    · exact Accepts.bind (.of_ok fun w => ⟨(), ok_remark p name _ w⟩) fun _ =>
        accepts_runTests p names _ _

/-! ### Whole runs -/

omit [Sink ω] in
theorem accepts_plan : Accepts (s.plan : Run σ ω RunError Plan) := by
  intro w c
  obtain ⟨t, ht⟩ := s.plan_apply w
  rw [ht, planned]
  cases s.selectedAt w.host <;> simp

theorem accepts_closing (result : SuiteResult) :
    Accepts (s.closing result : Run σ ω RunError SuiteResult) := by
  rw [closing_eq]
  refine Accepts.bind (.of_shows (s.shows_summarize result) (by simp)) fun _ => ?_
  refine Accepts.bind (fun w c => ?_) fun _ => ?_
  · obtain ⟨t, ht⟩ := s.keepMemo_apply result w
    rw [ht]
    cases (s.recorded result w.host).1 <;> simp [Except.mapError]
  · exact Accepts.bind (.of_ok fun w => ⟨(), ok_advance _ w⟩) fun _ => .pure _

variable {s} {c : ConfigError}

/-- **A run whose options do not go together** does nothing. -/
theorem run_of_invalid (h : s.options.validate = .error c) (w : World σ ω) :
    s.run w = (.error (.configuration c), w) := by
  rw [run, h]
  rfl

/-- **A run refuses options exactly if they do not go together.** -/
theorem run_eq_configuration {w : World σ ω} :
    (s.run w).1 = .error (.configuration c) ↔ s.options.validate = .error c := by
  refine ⟨fun h => ?_, fun h => congrArg Prod.fst (run_of_invalid h w)⟩
  cases hvalid : s.options.validate with
  | error c' =>
    rw [run_of_invalid hvalid w] at h
    cases h
    rfl
  | ok _ =>
    have hopening : Accepts (s.opening : Run σ ω RunError Unit) :=
      .of_shows s.shows_opening fun c => by simp [hvalid, Except.mapError]
    have haccepts : Accepts (s.run : Run σ ω RunError SuiteResult) := by
      rw [run_eq]
      refine hopening.bind fun _ => s.accepts_plan.bind fun p => ?_
      refine (s.accepts_runTests p p.tests 0 []).bind fun tally => ?_
      exact Accepts.bind (.of_ok fun w => ⟨(), ok_advance _ w⟩) fun _ => s.accepts_closing _
    exact absurd h (haccepts w c)

end Suite

end Golden
