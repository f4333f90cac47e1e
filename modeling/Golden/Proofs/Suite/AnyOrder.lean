import Golden.Proofs.Suite.Steps
import Golden.Proofs.Suite.Isolated

/-! # The order of the tests does not matter

A run whose runner is isolating tells what its units do when each of them runs alone
(`Suite.run_isolated`). The order in which they run is not part of that.

* `Suite.resultOf_reordered`: the result is the same in any order.
* `Suite.run_shuffled`: a run in random order returns the same result, and delivers the same. -/

namespace Golden.Suite

open scoped List

variable {σ ω : Type} [FileSystem σ] {s : Suite σ} {E : σ → σ → Prop}

/-! ### The tally -/

section Tally
variable [Sink ω] {w : World σ ω} {p p' : Plan}

/-- Every unit that is sought has an outcome if its source is there. Nothing is sought if the
operator has asked to stop. -/
def Ready (s : Suite σ) (w : World σ ω) (p : Plan) : Prop :=
  w.interrupt = false → ∀ u ∈ sought p p.tests, s.Goes w u

/-- The tally of a run, as it can be told at its beginning. -/
def tallyAt (s : Suite σ) (w : World σ ω) (p : Plan) : Tally :=
  if w.interrupt then ⟨[], p.tests ≠ [] ∧ p.roots ≠ []⟩ else ⟨s.yield w (sought p p.tests), false⟩

theorem ready_of_runTests (hi : s.runner.Isolating E) (hr : Sink.Reliable ω) {w₀ : World σ ω}
    (h₀ : w₀.AtRest) (hw : w₀.Undisturbed E w) {tally : Tally}
    (h : (s.runTests p 0 p.tests [] w).1 = .ok tally) : s.Ready w₀ p :=
  fun hgo => goes_of_runTests hi hr h₀ hgo hw h

theorem runTests_of_ready (hi : s.runner.Isolating E) (hr : Sink.Reliable ω) {w₀ : World σ ω}
    (h₀ : w₀.AtRest) (hw : w₀.Undisturbed E w) (h : s.Ready w₀ p) :
    (s.runTests p 0 p.tests [] w).1 = .ok (s.tallyAt w₀ p) ∧
      w₀.Undisturbed E (s.runTests p 0 p.tests [] w).2 := by
  unfold tallyAt
  cases hstop : w₀.interrupt with
  | true =>
    obtain ⟨v, hv, hrun⟩ := s.runTests_stopped p p.tests 0 [] (hw.interrupt.trans hstop)
    rw [hrun]
    refine ⟨?_, hw.told hv.told⟩
    simp [sought_eq_nil]
  | false => exact runTests_of_goes hi hr h₀ hstop 0 [] hw (h hstop)

/-! ### The same tests in another order -/

/-- The tests of the one plan are those of the other, in any order. -/
structure Reordered (p p' : Plan) : Prop where
  tests : p.tests ~ p'.tests
  roots : p.roots = p'.roots
  oneOnly : p.oneOnly = p'.oneOnly

omit [FileSystem σ] [Sink ω] in
theorem Reordered.sought (h : Reordered p p') : sought p p.tests ~ sought p' p'.tests := by
  have hcandidates (name : String) : candidates p name = candidates p' name := by
    unfold candidates
    rw [h.roots, h.oneOnly]
  unfold Suite.sought
  simp only [hcandidates]
  exact h.tests.flatMap_right _

theorem Reordered.ready (h : Reordered p p') (hp : s.Ready w p) : s.Ready w p' :=
  fun hgo u hu => hp hgo u (h.sought.mem_iff.mpr hu)

/-- Only a unit itself is the same among those that are sought. -/
theorem eq_of_mem_sought (hd : Selection.Distinct p.roots) {names : List String} {u v : UnitId}
    (hu : u ∈ sought p names) (hv : v ∈ sought p names) (h : u.same v = true) : u = v := by
  have hroot {u : UnitId} (hu : u ∈ sought p names) : u.root ∈ p.roots := by
    obtain ⟨name, -, hu⟩ := List.mem_flatMap.mp hu
    obtain ⟨root, hroot, rfl⟩ := List.mem_map.mp hu
    unfold candidates at hroot
    split_ifs at hroot
    · exact List.mem_of_mem_take hroot
    · exact hroot
  rw [UnitId.same, Bool.and_eq_true, decide_eq_true_eq] at h
  rcases u with ⟨name, root⟩
  rcases v with ⟨name', root'⟩
  obtain ⟨rfl, hroots⟩ := h
  obtain rfl := hd.eq_of_same (hroot hu) (hroot hv) hroots
  rfl

/-- **The result does not depend on the order.** -/
theorem resultOf_reordered (h : Reordered p p') (hd : Selection.Distinct p.roots) :
    resultOf p (s.tallyAt w p) = resultOf p' (s.tallyAt w p') := by
  have hrecords : (s.tallyAt w p).records ~ (s.tallyAt w p').records := by
    unfold tallyAt
    split_ifs
    · exact List.Perm.refl _
    · exact h.sought.filterMap _
  have hinterrupted : (s.tallyAt w p).interrupted = (s.tallyAt w p').interrupted := by
    have htests : p.tests = [] ↔ p'.tests = [] :=
      ⟨fun e => (e ▸ h.tests).nil_eq.symm, fun e => (e ▸ h.tests).eq_nil⟩
    unfold tallyAt
    split_ifs
    · simp [htests, h.roots]
    · rfl
  have hmem : ∀ e ∈ (s.tallyAt w p).records, e.1 ∈ sought p p.tests := by
    intro e he
    unfold tallyAt at he
    split_ifs at he
    · cases he
    · exact mem_of_mem_yield he
  have hunits (k : Section) :
      (resultOf p (s.tallyAt w p)).units k = (resultOf p' (s.tallyAt w p')).units k := by
    rw [units_resultOf, units_resultOf]
    refine UnitId.sort_congr ((hrecords.filter _).map _) fun u hu v hv => ?_
    obtain ⟨e, he, rfl⟩ := List.mem_map.mp hu
    obtain ⟨e', he', rfl⟩ := List.mem_map.mp hv
    exact eq_of_mem_sought hd (hmem e (List.mem_of_mem_filter he))
      (hmem e' (List.mem_of_mem_filter he'))
  have hseveral : (resultOf p (s.tallyAt w p)).severalRoots =
      (resultOf p' (s.tallyAt w p')).severalRoots := by
    change (Tally.result _ _).severalRoots = (Tally.result _ _).severalRoots
    rw [Tally.severalRoots_result, Tally.severalRoots_result, h.roots]
  have hstop : (resultOf p (s.tallyAt w p)).interrupted =
      (resultOf p' (s.tallyAt w p')).interrupted := hinterrupted
  rw [SuiteResult.mk.injEq]
  exact ⟨hunits .good, hunits .bad, hunits .skipped, hstop, hseveral⟩

end Tally

/-! ### The end of a run -/

/-- What a run leaves in the end: the summary was the last that it wrote, and the memo is saved in
files that look like those before the run. -/
structure Delivers (s : Suite σ) (E : σ → σ → Prop) (result : SuiteResult)
    (w v : World σ Memory) : Prop where
  summary : utf8 (Summary.text s.manner (.ofPlatform s.config.platform) result) <:+
    v.stream.sink.contents
  memo : ∃ host, E w.host host ∧ s.recorded result host = (.ok (), v.host)

theorem delivers_closing {result : SuiteResult} {w₀ w : World σ Memory} (hw : w.Open)
    (hfiles : E w₀.host w.host) (h : (s.closing result w).1 = .ok result) :
    s.Delivers E result w₀ (s.closing result w).2 := by
  have hmemo := (closing_eq_ok Memory.reliable result w).mp h
  obtain ⟨-, hstream, hhost⟩ :=
    closing_apply (takes_of_reliable Memory.reliable result w.stream) hmemo
  have hsummary : s.summarized result w.stream =
      .ofSink ⟨w.stream.sink.contents ++ utf8 (s.summary result)⟩ := by
    rw [hw.stream_eq]
    rfl
  refine ⟨?_, w.host, hfiles, Prod.ext hmemo hhost.symm⟩
  rw [hstream, hsummary]
  exact List.suffix_append _ _

/-! ### Whole runs -/

/-- All that has to go well in a run, as it can be told at its beginning. -/
structure Prospect [Sink ω] (s : Suite σ) (w : World σ ω) (p : Plan) : Prop where
  valid : s.options.validate = .ok ()
  planned : s.planned w.host = .ok p
  ready : s.Ready w p
  memo : (s.recorded (resultOf p (s.tallyAt w p)) w.host).1 = .ok ()

theorem recorded_agree (hc : FileSystem.Congruence E) (result : SuiteResult) {host host' : σ}
    (h : E host host') : (s.recorded result host).1 = (s.recorded result host').1 ∧
      E (s.recorded result host).2 (s.recorded result host').2 := by
  unfold recorded
  cases s.options.memo with
  | none => exact ⟨rfl, h⟩
  | some path => exact hc.write h _ _

/-- Runs that deliver the same leave files that look the same. -/
theorem Delivers.files (hc : FileSystem.Congruence E) {result : SuiteResult}
    {w v v' : World σ Memory} (h : s.Delivers E result w v) (h' : s.Delivers E result w v') :
    E v.host v'.host := by
  obtain ⟨host, hhost, hrecorded⟩ := h.memo
  obtain ⟨host', hhost', hrecorded'⟩ := h'.memo
  have hfiles := hc.equivalence.trans (hc.equivalence.symm hhost) hhost'
  have hagree := (recorded_agree (s := s) hc result hfiles).2
  rwa [hrecorded, hrecorded'] at hagree

section Whole
variable {w : World σ Memory} {result : SuiteResult}

/-- The world is not disturbed before the tests. -/
theorem undisturbed_plan (hi : s.runner.Isolating E) (hw : w.AtRest) :
    w.Undisturbed E (s.plan (s.opening w).2).2 := by
  have hbegin : w.Undisturbed E w := ⟨hw, hi.files.equivalence.refl _, rfl⟩
  exact hbegin.told (s.plan_opening w).2

/-- The last part of a run whose units are ready. -/
theorem run_of_ready (hi : s.runner.Isolating E) (hw : w.AtRest)
    (hvalid : s.options.validate = .ok ()) {p : Plan} (hplan : s.planned w.host = .ok p)
    (hready : s.Ready w p) :
    ∃ v, w.Undisturbed E v ∧ s.run w = s.closing (resultOf p (s.tallyAt w p)) v := by
  have hopening : (s.opening w).1 = .ok () := by
    rw [s.shows_opening.sure Memory.reliable w, hvalid]
    rfl
  have hplanned := (s.plan_opening w).1
  obtain ⟨hrun, hend⟩ :=
    runTests_of_ready hi Memory.reliable hw (undisturbed_plan hi hw) hready
  refine ⟨_, hend.told ((shows_advance .reconciling).told _), ?_⟩
  rw [run_eq, Run.bind_ok hopening, Run.bind_ok (hplanned.trans hplan), Run.bind_ok hrun,
    Run.bind_ok ((shows_advance _).sure Memory.reliable _)]

/-- **The result of a run** of an isolating runner can be told at its beginning. -/
theorem run_isolated (hi : s.runner.Isolating E) (hw : w.AtRest) :
    (s.run w).1 = .ok result ↔ ∃ p, s.Prospect w p ∧ resultOf p (s.tallyAt w p) = result := by
  constructor
  · intro h
    obtain ⟨p, tally, hopening, hplan, hrun, hresult⟩ := s.run_eq_ok h
    have hvalid : s.options.validate = .ok () := by
      have := s.shows_opening.eq_of_ok hopening
      cases hv : s.options.validate with
      | error e =>
        rw [hv] at this
        cases this
      | ok _ => rfl
    have hplanned := (s.plan_opening w).1
    have hmiddle := undisturbed_plan hi hw
    rw [hplan] at hplanned
    have hready := ready_of_runTests hi Memory.reliable hw hmiddle hrun
    have htally := (runTests_of_ready hi Memory.reliable hw hmiddle hready).1
    obtain rfl := Except.ok.inj (hrun.symm.trans htally)
    obtain ⟨v, hv, hend⟩ := run_of_ready hi hw hvalid hplanned.symm hready
    rw [hend, hresult, closing_eq_ok Memory.reliable] at h
    refine ⟨p, ⟨hvalid, hplanned.symm, hready, ?_⟩, hresult.symm⟩
    rw [(recorded_agree hi.files _ hv.files).1, h]
  · rintro ⟨p, hp, rfl⟩
    obtain ⟨v, hv, hend⟩ := run_of_ready hi hw hp.valid hp.planned hp.ready
    rw [hend, closing_eq_ok Memory.reliable, ← (recorded_agree hi.files _ hv.files).1, hp.memo]

theorem delivers_run (hi : s.runner.Isolating E) (hw : w.AtRest)
    (h : (s.run w).1 = .ok result) : s.Delivers E result w (s.run w).2 := by
  obtain ⟨p, hp, rfl⟩ := (run_isolated hi hw).mp h
  obtain ⟨v, hv, hend⟩ := run_of_ready hi hw hp.valid hp.planned hp.ready
  rw [hend] at h ⊢
  exact delivers_closing hv.atRest.isOpen hv.files h

end Whole

/-! ### Random order -/

/-- The suite, with its tests in random order. -/
def shuffled (s : Suite σ) (seed : Option Nat) (entropy : Nat) : Suite σ :=
  { s with options := { s.options with randomize := true, seed }, entropy }

/-- The plan in random order. -/
theorem planned_shuffled (horder : s.options.randomize = false) {host : σ} {p : Plan}
    (h : s.planned host = .ok p) (seed : Option Nat) (entropy : Nat) :
    ∃ p', (s.shuffled seed entropy).planned host = .ok p' ∧ Reordered p p' ∧
      Selection.Distinct p.roots := by
  unfold planned at h ⊢
  have hselected : (s.shuffled seed entropy).selectedAt host = s.selectedAt host := rfl
  rw [hselected]
  cases htests : s.selectedAt host with
  | error e =>
    rw [htests] at h
    cases h
  | ok tests =>
    rw [htests] at h
    obtain rfl := Except.ok.inj h
    refine ⟨_, rfl, ⟨?_, rfl, rfl⟩, s.distinct_rootsAt host⟩
    have hordered : s.ordered tests = tests := by
      unfold ordered
      rw [if_neg (by simp [horder])]
    change s.ordered tests ~ Shuffle.shuffle tests _
    rw [hordered]
    exact (Shuffle.shuffle_perm tests _).symm

/-- **The order of the tests does not matter**: a run in random order returns the same result as
one that is not, and leaves the same summary and the same memo, in files that look the same. -/
theorem run_shuffled (hi : s.runner.Isolating E) (horder : s.options.randomize = false)
    {w : World σ Memory} (hw : w.AtRest) {result : SuiteResult} (h : (s.run w).1 = .ok result)
    (seed : Option Nat) (entropy : Nat) :
    ((s.shuffled seed entropy).run w).1 = .ok result ∧
    s.Delivers E result w (s.run w).2 ∧
    s.Delivers E result w ((s.shuffled seed entropy).run w).2 ∧
    E (s.run w).2.host ((s.shuffled seed entropy).run w).2.host := by
  have hi' : (s.shuffled seed entropy).runner.Isolating E := hi
  obtain ⟨p, hp, rfl⟩ := (run_isolated hi hw).mp h
  obtain ⟨p', hplanned, hreordered, hdistinct⟩ :=
    planned_shuffled horder hp.planned seed entropy
  have hresult : resultOf p (s.tallyAt w p) = resultOf p' (s.tallyAt w p') :=
    resultOf_reordered hreordered hdistinct
  have hmemo := hp.memo
  rw [hresult] at hmemo
  have hprospect : (s.shuffled seed entropy).Prospect w p' :=
    ⟨hp.valid, hplanned, hreordered.ready hp.ready, hmemo⟩
  have h' := (run_isolated hi' hw).mpr ⟨p', hprospect, hresult.symm⟩
  have hd := delivers_run hi hw h
  obtain ⟨hsummary, hkept⟩ := delivers_run hi' hw h'
  have hd' : s.Delivers E (resultOf p (s.tallyAt w p)) w
      ((s.shuffled seed entropy).run w).2 := ⟨hsummary, hkept⟩
  exact ⟨h', hd, hd', hd.files hi.files hd'⟩

theorem isolating_sample : sample.runner.Isolating Eq where
  compares := rfl
  closed := by
    refine Registry.closed_loader fun e he c => ?_
    simp only [List.mem_cons, List.not_mem_nil, or_false] at he
    rcases he with rfl | rfl <;> exact id
  calm := by
    refine Registry.calm_loader (fun e he c => ?_) fun e he c => ?_
    · simp only [List.mem_cons, List.not_mem_nil, or_false] at he
      rcases he with rfl | rfl <;> exact id
    · simp only [List.mem_cons, List.not_mem_nil, or_false] at he
      rcases he with rfl | rfl
      · trivial
      · exact Signal.noConfusion
  tests := Registry.testsOnly_loader (by decide +kernel)
  files := FileSystem.congruence_eq
  spares := fun _ h => by cases h

/-- The small suite in random order. -/
theorem run_shuffled_sample :
    ((sample.shuffled (some 7) 0).run sampleWorld).1 = .ok sampleResult ∧
    sample.Delivers Eq sampleResult sampleWorld (sample.run sampleWorld).2 ∧
    sample.Delivers Eq sampleResult sampleWorld
      ((sample.shuffled (some 7) 0).run sampleWorld).2 ∧
    (sample.run sampleWorld).2.host = ((sample.shuffled (some 7) 0).run sampleWorld).2.host := by
  have hw : sampleWorld.AtRest := World.atRest_start _ _
  have h : (sample.run sampleWorld).1 = .ok sampleResult := by decide +kernel
  exact run_shuffled isolating_sample rfl hw h (some 7) 0

end Golden.Suite
