import Golden.Proofs.Suite.Steps
import Golden.Proofs.Suite.Turns

/-! # Interrupted runs

A run is cut in two ways: the run of a unit ends with an interruption, or the operator asks to stop,
which the loop over roots finds out before the next unit. Either way the loops end with the records
of the turns so far (`Suite.runIn_cut`, `Suite.runTests_cut`), and what comes after the tests goes
on as if they were all.

* `Suite.run_cut`: an interrupted run keeps what is complete, and concludes with it. -/

namespace Golden

/-- Where a member of a concatenation stands: in the second part or in the first one. -/
theorem append_eq_append_cons {α : Type} {as bs cs ds : List α} {x : α}
    (h : as ++ bs = cs ++ x :: ds) : (∃ cs', cs = as ++ cs' ∧ bs = cs' ++ x :: ds) ∨
      ∃ ds', as = cs ++ x :: ds' ∧ ds = ds' ++ bs := by
  rcases List.append_eq_append_iff.mp h with h | ⟨part, has, h⟩
  · exact Or.inl h
  · rcases List.append_eq_cons_iff.mp h.symm with ⟨rfl, hbs⟩ | ⟨ds', rfl, hds⟩
    · exact Or.inl ⟨[], by simpa using has.symm, hbs⟩
    · exact Or.inr ⟨ds', has, hds⟩

namespace Suite

variable {σ ω : Type} [Sink ω] [FileSystem σ] {s : Suite σ}

/-! ### Cuts -/

/-- **The turn cuts the run.** -/
inductive Cuts (s : Suite σ) (t : Turn σ ω) : Prop where
  /-- The unit is interrupted. -/
  | interrupted : s.ending t = .error .interrupted → s.Cuts t
  /-- The unit has an outcome, and the operator has asked to stop before it was there. -/
  | stopped (o : Outcome) : s.ending t = .ok o → (s.after t).interrupt = true → s.Cuts t

/-- Whether a run that is cut counts as interrupted: if the unit has an outcome, only if there was
more to do. -/
def cutShort (s : Suite σ) (t : Turn σ ω) (more : Bool) : Bool :=
  match s.ending t with
  | .ok _ => more
  | .error _ => true

theorem cutShort_eq_false {t : Turn σ ω} {more : Bool} :
    s.cutShort t more = false ↔ (∃ o, s.ending t = .ok o) ∧ more = false := by
  unfold cutShort
  cases s.ending t <;> simp

theorem cutShort_mono {t : Turn σ ω} {more more' : Bool} (h : more = true → more' = true)
    (hshort : s.cutShort t more = true) : s.cutShort t more' = true := by
  unfold cutShort at hshort ⊢
  cases hending : s.ending t with
  | ok _ =>
    rw [hending] at hshort
    exact h hshort
  | error _ => rfl

section Roots
variable {name : String} {ahead : List UnitId}

/-- **A cut in the loop over roots.** It ends there, with the records of the turns so far. -/
theorem runIn_cut : ∀ {roots : List Path} (records : List (UnitId × Outcome)) (found : Bool)
    {w : World σ ω} {earlier : List (Turn σ ω)} {t : Turn σ ω} {later : List (Turn σ ω)},
    s.turnsIn name ahead roots w = earlier ++ t :: later → s.Cuts t →
      later = [] ∧ ∃ rest : List Path, t.ahead = rest.map (⟨name, ·⟩) ++ ahead ∧
        s.runIn name roots records found w =
          (.ok (records ++ s.recordsOf (earlier ++ [t]), ⟨true, s.cutShort t (rest ≠ [])⟩),
            s.after t)
  | [], _, _, _, earlier, t, later, h, _ => by
    simp [turnsIn] at h
  | root :: roots, records, found, w, earlier, t, later, h, hcut => by
    obtain ⟨ts, end', hts, hend, hvisit⟩ := s.visit name ahead root roots records found w
    rw [hend]
    rw [hts] at h
    cases hvisit with
    | stopped _ => simp at h
    | missing => exact runIn_cut records found h hcut
    | refused e v => simp at h
    | ran o ho =>
      cases earlier with
      | nil =>
        obtain ⟨rfl, rfl⟩ := List.cons.inj h
        cases hcut with
        | interrupted he => cases ho.symm.trans he
        | stopped _ _ hstop =>
          refine ⟨turnsIn_stopped hstop, roots, rfl, ?_⟩
          rw [List.nil_append, recordsOf_cons_ok s ho, cutShort, ho]
          cases roots with
          | nil => rfl
          | cons root' roots => exact s.runIn_stopped hstop
      | cons first earlier =>
        obtain ⟨rfl, hrest⟩ := List.cons.inj h
        obtain ⟨rfl, rest, hahead, hrun⟩ := runIn_cut (records ++ [(⟨name, root⟩, o)]) true hrest hcut
        refine ⟨rfl, rest, hahead, ?_⟩
        rw [hrun, List.cons_append, recordsOf_cons_ok s ho, List.append_assoc]
        rfl
    | interrupted he =>
      cases earlier with
      | nil =>
        obtain ⟨rfl, rfl⟩ := List.cons.inj h
        refine ⟨rfl, roots, rfl, ?_⟩
        rw [List.nil_append, recordsOf_cons_error s he, cutShort, he]
        exact congrArg (fun l => (Except.ok (l, _), _)) (List.append_nil records).symm
      | cons first earlier => simp at h
    | failed e hne he =>
      cases earlier with
      | nil =>
        obtain ⟨rfl, rfl⟩ := List.cons.inj h
        cases hcut with
        | interrupted hi => exact absurd (Except.error.inj (he.symm.trans hi)) hne
        | stopped o ho _ => cases he.symm.trans ho
      | cons first earlier => simp at h

/-- In the loop over roots, every turn but the last had an outcome. -/
theorem ok_of_turnsIn : ∀ {roots : List Path} {w : World σ ω} {earlier : List (Turn σ ω)}
    {t : Turn σ ω} {later : List (Turn σ ω)},
    s.turnsIn name ahead roots w = earlier ++ t :: later →
      ∀ x ∈ earlier, ∃ o, s.ending x = .ok o
  | [], _, _, _, _, h => by
    simp [turnsIn] at h
  | _ :: _, _, [], _, _, _ => by
    simp
  | root :: roots, w, first :: earlier, t, later, h => by
    obtain ⟨ts, end', hts, -, hvisit⟩ := s.visit name ahead root roots [] false w
    rw [hts] at h
    cases hvisit with
    | stopped _ => simp at h
    | missing => exact ok_of_turnsIn h
    | refused e v => simp at h
    | ran o ho =>
      obtain ⟨rfl, hrest⟩ := List.cons.inj h
      exact List.forall_mem_cons.mpr ⟨⟨o, ho⟩, ok_of_turnsIn hrest⟩
    | interrupted _ => simp at h
    | failed _ _ _ => simp at h

end Roots

section Tests
variable {p : Plan}

theorem turnsOf_stopped : ∀ {names : List String} {index : Nat}
    {records : List (UnitId × Outcome)} {w : World σ ω}, w.interrupt = true →
      s.turnsOf p index names records w = []
  | [], _, _, _, _ => rfl
  | name :: names, index, records, w, h => by
    have hreached : (reached index w).interrupt = true := h
    obtain ⟨ts, end', hts, -, hpass⟩ := s.pass p index name names records w
    rw [hts]
    cases hpass with
    | failed e v _ => exact turnsIn_stopped hreached
    | interrupted r v _ _ => exact turnsIn_stopped hreached
    | passed r v hr hi =>
      rw [turnsIn_stopped hreached, List.nil_append]
      refine turnsOf_stopped ((noted_remark p name r.2.found v).interrupt.trans ?_)
      cases hcandidates : candidates p name with
      | nil =>
        rw [hcandidates] at hr
        cases hr
        exact hreached
      | cons root roots =>
        rw [hcandidates, s.runIn_stopped hreached] at hr
        cases hr
        cases hi

/-- **A cut in the loop over tests.** It ends there, with the records of the turns so far, and only
notes are left after the last turn. -/
theorem runTests_cut : ∀ {names : List String} {index : Nat} {records : List (UnitId × Outcome)}
    {w : World σ ω} {earlier : List (Turn σ ω)} {t : Turn σ ω} {later : List (Turn σ ω)},
    s.turnsOf p index names records w = earlier ++ t :: later → s.Cuts t →
      later = [] ∧ ∃ v, (s.after t).Noted v ∧ s.runTests p index names records w =
        (.ok ⟨records ++ s.recordsOf (earlier ++ [t]), s.cutShort t (t.ahead ≠ [])⟩, v)
  | [], _, _, _, _, _, _, h, _ => by
    simp [turnsOf] at h
  | name :: names, index, records, w, earlier, t, later, h, hcut => by
    obtain ⟨ts, end', hts, hend, hpass⟩ := s.pass p index name names records w
    rw [hend]
    rw [hts] at h
    cases hpass with
    | failed e v hr =>
      obtain ⟨-, rest, -, hrun⟩ := runIn_cut records false h hcut
      cases hr.symm.trans hrun
    | interrupted r v hr hi =>
      obtain ⟨rfl, rest, hahead, hrun⟩ := runIn_cut records false h hcut
      cases hr.symm.trans hrun
      refine ⟨rfl, s.after t, .refl _, ?_⟩
      have hmore : s.cutShort t (t.ahead ≠ []) = true := by
        refine cutShort_mono (fun hrest => ?_) hi
        simp [hahead, of_decide_eq_true hrest]
      rw [hmore]
    | passed r v hr hi =>
      have hroots : r.1 = records ++ s.recordsOf
          (s.turnsIn name (sought p names) (candidates p name) (reached index w)) :=
        records_runIn (congrArg Prod.fst hr)
      rcases append_eq_append_cons h with ⟨earlier', rfl, hnext⟩ | ⟨later', hturns, rfl⟩
      · obtain ⟨rfl, v', hv', hrun⟩ := runTests_cut hnext hcut
        refine ⟨rfl, v', hv', ?_⟩
        rw [hrun, hroots, List.append_assoc, List.append_assoc, ← recordsOf_append]
      · -- The last turn of this test: the loop over tests goes on, and finds that it has to stop.
        obtain ⟨rfl, rest, hahead, hrun⟩ := runIn_cut records false hturns hcut
        cases hr.symm.trans hrun
        obtain ⟨⟨o, ho⟩, hrest⟩ := cutShort_eq_false.mp hi
        have hstop : (s.after t).interrupt = true := by
          cases hcut with
          | interrupted he => cases ho.symm.trans he
          | stopped _ _ hstop => exact hstop
        have hremark := noted_remark p name true (s.after t)
        obtain ⟨v', hv', hrun'⟩ := s.runTests_stopped p names (index + 1)
          (records ++ s.recordsOf (earlier ++ [t])) (hremark.interrupt.trans hstop)
        refine ⟨?_, v', hremark.trans hv', ?_⟩
        · rw [turnsOf_stopped (hremark.interrupt.trans hstop), List.append_nil]
        · obtain rfl : rest = [] := by simpa using hrest
          rw [hrun', cutShort, ho, hahead]
          rfl

/-- In the loop over tests, every turn but the last had an outcome. -/
theorem ok_of_turnsOf : ∀ {names : List String} {index : Nat} {records : List (UnitId × Outcome)}
    {w : World σ ω} {earlier : List (Turn σ ω)} {t : Turn σ ω} {later : List (Turn σ ω)},
    s.turnsOf p index names records w = earlier ++ t :: later →
      ∀ x ∈ earlier, ∃ o, s.ending x = .ok o
  | [], _, _, _, _, _, _, h => by
    simp [turnsOf] at h
  | name :: names, index, records, w, earlier, t, later, h => by
    obtain ⟨ts, end', hts, -, hpass⟩ := s.pass p index name names records w
    rw [hts] at h
    cases hpass with
    | failed e v _ => exact ok_of_turnsIn h
    | interrupted r v _ _ => exact ok_of_turnsIn h
    | passed r v hr hi =>
      rcases append_eq_append_cons h with ⟨earlier', rfl, hnext⟩ | ⟨later', hturns, rfl⟩
      · exact List.forall_mem_append.mpr
          ⟨ok_of_runIn (congrArg Prod.fst hr) hi, ok_of_turnsOf hnext⟩
      · exact ok_of_turnsIn hturns

end Tests

/-! ### The end of a run -/

/-- **How a run ends** that begins in `w` and in which no unit runs any more in the world `v`:
nothing more is loaded, the summary of an interrupted run is headed by the line about it, and if the
stream takes the summary and the memo can be saved, the run returns its result. -/
structure Concludes (s : Suite σ) (w v : World σ ω) (result : SuiteResult) : Prop where
  modules : (s.run w).2.modules = v.modules
  headed : result.interrupted = true → ∃ rest, s.summary result = s.interruptedLine ++ rest
  returned : s.Takes result v.stream → (s.recorded result v.host).1 = .ok () →
    (s.run w).1 = .ok result ∧ (s.run w).2.stream = s.summarized result v.stream ∧
      (s.run w).2.host = (s.recorded result v.host).2

/-- A run concludes where its loop over tests ends. -/
theorem concludes_of_runTests {w v v' : World σ ω} {p : Plan} {tally : Tally}
    (hopening : (s.opening w).1 = .ok ()) (hplan : (s.plan (s.opening w).2).1 = .ok p)
    (hv : v.Noted v')
    (hrun : s.runTests p 0 p.tests [] (s.plan (s.opening w).2).2 = (.ok tally, v')) :
    s.Concludes w v (resultOf p tally) := by
  obtain ⟨phase, trail, hnoted⟩ := hv.trans (noted_advance .reconciling v')
  have hclosing : s.run w = s.closing (resultOf p tally) { v with phase, trail } := by
    rw [run_eq, Run.bind_ok hopening, Run.bind_ok hplan, Run.bind_ok (congrArg Prod.fst hrun),
      hrun, Run.bind_ok (ok_advance _ _), hnoted]
  refine ⟨?_, summary_of_interrupted, fun hstream hmemo => ?_⟩
  · rw [hclosing]
    exact modules_closing _ _
  · rw [hclosing]
    exact closing_apply hstream hmemo

/-! ### Interrupted runs -/

/-- **The result reflects the turns**: each of them has an outcome, and the lists of the result are
the units with outcomes of their kind, in ascending order. -/
def Reflects (s : Suite σ) (ts : List (Turn σ ω)) (result : SuiteResult) : Prop :=
  ∃ records : List (UnitId × Outcome),
    List.Forall₂ (fun t e => e.1 = t.unit ∧ s.ending t = .ok e.2) ts records ∧
      ∀ k, result.units k = UnitId.sort (ofKind k records)

theorem reflects_resultOf {ts : List (Turn σ ω)} (h : ∀ t ∈ ts, ∃ o, s.ending t = .ok o)
    (p : Plan) (interrupted : Bool) :
    s.Reflects ts (resultOf p ⟨s.recordsOf ts, interrupted⟩) := by
  refine ⟨s.recordsOf ts, ?_, fun k => units_resultOf p _ k⟩
  induction ts with
  | nil => exact .nil
  | cons t ts ih =>
    obtain ⟨⟨o, ho⟩, hts⟩ := List.forall_mem_cons.mp h
    rw [recordsOf_cons_ok s ho]
    exact .cons ⟨rfl, ho⟩ (ih hts)

/-- If the operator has asked to stop, no unit runs. -/
theorem turns_stopped {w : World σ ω} (h : w.interrupt = true) : s.turns w = [] := by
  refine List.eq_nil_iff_forall_not_mem.mpr fun t ht => ?_
  obtain ⟨-, p, -, ht⟩ := planned_of_turns ht
  rw [turnsOf_stopped ((s.plan_opening w).2.interrupt.trans h)] at ht
  cases ht

/-- **A run that is cut by a turn**: it is the last one, and the run concludes with the outcomes so
far. -/
theorem concludes_cut {w : World σ ω} {earlier : List (Turn σ ω)} {t : Turn σ ω}
    {later : List (Turn σ ω)} (h : s.turns w = earlier ++ t :: later) (hcut : s.Cuts t) :
    later = [] ∧ (∀ x ∈ earlier, ∃ o, s.ending x = .ok o) ∧
      ∃ p, s.Concludes w (s.after t)
        (resultOf p ⟨s.recordsOf (earlier ++ [t]), s.cutShort t (t.ahead ≠ [])⟩) := by
  have ht : t ∈ s.turns w := by simp [h]
  obtain ⟨hopening, p, hplan, -⟩ := planned_of_turns ht
  rw [turns_of_planned hopening hplan] at h
  obtain ⟨hlast, v, hv, hrun⟩ := runTests_cut h hcut
  rw [List.nil_append] at hrun
  exact ⟨hlast, ok_of_turnsOf h, p, concludes_of_runTests hopening hplan hv hrun⟩

/-- **A run that is stopped before it begins** concludes without any outcome, if it gets to its
tests. -/
theorem concludes_stopped {w : World σ ω} {p : Plan} (hstop : w.interrupt = true)
    (hopening : (s.opening w).1 = .ok ()) (hplan : s.planned w.host = .ok p) :
    s.Concludes w (s.opening w).2 (resultOf p ⟨[], sought p p.tests ≠ []⟩) := by
  obtain ⟨hplanned, htold⟩ := s.plan_opening w
  obtain ⟨t, ht⟩ := s.plan_apply (s.opening w : Except RunError Unit × World σ ω).2
  have hnoted : (s.opening w).2.Noted (s.plan (s.opening w).2).2 := by
    rw [ht]
    exact ⟨_, t, rfl⟩
  obtain ⟨v, hv, hrun⟩ := s.runTests_stopped p p.tests 0 [] (htold.interrupt.trans hstop)
  exact concludes_of_runTests hopening (hplanned.trans hplan) (hnoted.trans hv) hrun

/-- **An interrupted run keeps what is complete.** If a unit is interrupted, it is the last one, and
the result reflects those before it. If the operator asks to stop while a unit runs to its outcome,
that unit is the last one, the result reflects it too, and the run counts as interrupted if anything
was ahead of it. If the operator has asked before, no unit runs. All the same, a run that gets to
its tests concludes with the result. -/
theorem run_cut (s : Suite σ) (w : World σ ω) :
    (∀ earlier t later, s.turns w = earlier ++ t :: later →
      s.ending t = .error .interrupted →
      later = [] ∧ ∃ result, s.Reflects earlier result ∧ result.interrupted = true ∧
        s.Concludes w (s.after t) result) ∧
    (∀ earlier t later o, s.turns w = earlier ++ t :: later →
      s.ending t = .ok o → (s.after t).interrupt = true →
      later = [] ∧ (∃ p, s.planned w.host = .ok p ∧ t.unit :: t.ahead <:+ sought p p.tests) ∧
        ∃ result, s.Reflects (earlier ++ [t]) result ∧
          (result.interrupted = true ↔ t.ahead ≠ []) ∧ s.Concludes w (s.after t) result) ∧
    (w.interrupt = true → s.turns w = [] ∧
      ∀ p, (s.opening w).1 = .ok () → s.planned w.host = .ok p →
        ∃ result, s.Reflects ([] : List (Turn σ ω)) result ∧
          (result.interrupted = true ↔ sought p p.tests ≠ []) ∧
          s.Concludes w (s.opening w).2 result) := by
  refine ⟨fun earlier t later h he => ?_, fun earlier t later o h ho hstop => ?_, fun hstop => ?_⟩
  · obtain ⟨hlast, hok, p, hconcludes⟩ := concludes_cut h (.interrupted he)
    have hrecords : s.recordsOf (earlier ++ [t]) = s.recordsOf earlier := by
      rw [recordsOf_append, recordsOf_cons_error s he]
      exact List.append_nil _
    have hshort : s.cutShort t (t.ahead ≠ []) = true := by rw [cutShort, he]
    rw [hrecords, hshort] at hconcludes
    exact ⟨hlast, _, reflects_resultOf hok p true, rfl, hconcludes⟩
  · obtain ⟨hlast, hok, p, hconcludes⟩ := concludes_cut h (.stopped o ho hstop)
    have hall : ∀ x ∈ earlier ++ [t], ∃ o, s.ending x = .ok o :=
      List.forall_mem_append.mpr ⟨hok, by simpa using ⟨o, ho⟩⟩
    have hplace := suffix_of_turns (s := s) (w := w) (t := t) (by simp [h])
    refine ⟨hlast, hplace, _, reflects_resultOf hall p _, ?_, hconcludes⟩
    change s.cutShort t (t.ahead ≠ []) = true ↔ _
    rw [cutShort, ho, decide_eq_true_eq]
  · refine ⟨turns_stopped hstop, fun p hopening hplan => ?_⟩
    refine ⟨_, reflects_resultOf (by simp) p _, ?_, concludes_stopped hstop hopening hplan⟩
    change decide (sought p p.tests ≠ []) = true ↔ _
    rw [decide_eq_true_eq]

/-- Three tests that are there, the second of which behaves as given. -/
def threeTests (second : Behaviour Shelf) : Suite Shelf :=
  { sample with
    options := { Options.none with tests := ["test_a", "test_b", "test_c"] }
    loader := Registry.loader
      ⟨[("test_a", fun _ => .done), ("test_b", fun _ => second), ("test_c", fun _ => .done)]⟩ }

/-- The world in which the three tests run. -/
def threeTestsWorld : World Shelf Memory :=
  .start ⟨[(⟨"t/test_a.py"⟩, []), (⟨"t/test_b.py"⟩, []), (⟨"t/test_c.py"⟩, [])]⟩ .empty

/-- The second test is interrupted, or it asks to stop, or the operator has asked before. -/
theorem run_cut_threeTests :
    (∃ t₀ t₁ result, (threeTests (.raise .interrupt)).turns threeTestsWorld = [t₀, t₁] ∧
      (threeTests (.raise .interrupt)).Reflects [t₀] result ∧ result.interrupted = true ∧
      (threeTests (.raise .interrupt)).Concludes threeTestsWorld
        ((threeTests (.raise .interrupt)).after t₁) result) ∧
    (∃ t₀ t₁ result, (threeTests (.interrupt .done)).turns threeTestsWorld = [t₀, t₁] ∧
      (threeTests (.interrupt .done)).Reflects [t₀, t₁] result ∧
      (result.interrupted = true ↔ t₁.ahead ≠ []) ∧
      (threeTests (.interrupt .done)).Concludes threeTestsWorld
        ((threeTests (.interrupt .done)).after t₁) result) ∧
    ∃ result, (threeTests .done).turns { threeTestsWorld with interrupt := true } = [] ∧
      result.interrupted = true ∧
      (threeTests .done).Concludes { threeTestsWorld with interrupt := true }
        ((threeTests .done).opening { threeTestsWorld with interrupt := true }).2 result := by
  refine ⟨?_, ?_, ?_⟩
  · have hlength : ((threeTests (.raise .interrupt)).turns threeTestsWorld).length = 2 := by
      decide +kernel
    have hendings : ((threeTests (.raise .interrupt)).turns threeTestsWorld).map
        (threeTests (.raise .interrupt)).ending = [.ok .passed, .error .interrupted] := by
      decide +kernel
    obtain ⟨t₀, t₁, hturns⟩ := List.length_eq_two.mp hlength
    simp only [hturns, List.map_cons, List.map_nil, List.cons.injEq] at hendings
    obtain ⟨-, he, -⟩ := hendings
    obtain ⟨-, result, h⟩ :=
      (run_cut (threeTests (.raise .interrupt)) threeTestsWorld).1 [t₀] t₁ [] hturns he
    exact ⟨t₀, t₁, result, hturns, h⟩
  · have hlength : ((threeTests (.interrupt .done)).turns threeTestsWorld).length = 2 := by
      decide +kernel
    have hendings : ((threeTests (.interrupt .done)).turns threeTestsWorld).map (fun t =>
        ((threeTests (.interrupt .done)).ending t,
          ((threeTests (.interrupt .done)).after t).interrupt)) =
          [(.ok .passed, false), (.ok .passed, true)] := by
      decide +kernel
    obtain ⟨t₀, t₁, hturns⟩ := List.length_eq_two.mp hlength
    simp only [hturns, List.map_cons, List.map_nil, List.cons.injEq, Prod.mk.injEq] at hendings
    obtain ⟨-, ⟨ho, hstop⟩, -⟩ := hendings
    obtain ⟨-, -, result, h⟩ := (run_cut (threeTests (.interrupt .done)) threeTestsWorld).2.1
      [t₀] t₁ [] .passed hturns ho hstop
    exact ⟨t₀, t₁, result, hturns, h⟩
  · obtain ⟨hturns, hconcludes⟩ :=
      (run_cut (threeTests .done) { threeTestsWorld with interrupt := true }).2.2 rfl
    obtain ⟨result, -, hinterrupted, h⟩ := hconcludes
      ⟨["test_a", "test_b", "test_c"], [⟨"t"⟩], [], true⟩ (by decide +kernel) (by decide +kernel)
    exact ⟨result, hturns, hinterrupted.mpr (by decide), h⟩

/-- A run that does not get to its tests fails, also if the operator has asked to stop: here the
options do not go together. -/
theorem run_refused :
    let s := { threeTests .done with
      options := { Options.none with verbose := 1, generate := true, tests := ["test_a"] } }
    let w := { threeTestsWorld with interrupt := true }
    s.turns w = [] ∧
      (∀ result, s.Takes result w.stream ∧ (s.recorded result w.host).1 = .ok ()) ∧
      ∀ result, (s.run w).1 ≠ .ok result := by
  intro s w
  have herror : (s.run w).1 = .error (.configuration .generateVerbose) := by decide +kernel
  refine ⟨turns_stopped rfl, fun result => ⟨⟨rfl, rfl⟩, rfl⟩, fun result h => ?_⟩
  cases herror.symm.trans h

end Suite

end Golden
