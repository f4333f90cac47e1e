import Golden.Proofs.Suite.History
import Golden.Proofs.Suite.Turns

/-! # The units that are executed

The units that a run executes are among those that are sought, in the same order
(`Suite.sublist_ran`). If the run is not interrupted and sources neither appear nor disappear, they
are those that have a source (`Suite.ran_eq`). -/

namespace Golden.Suite

variable {σ ω : Type} [Sink ω] [FileSystem σ] {s : Suite σ} {p : Plan} {w : World σ ω}
  {result : SuiteResult}

/-- **The units that a run executes**, in order. -/
def ran (s : Suite σ) (w : World σ ω) : List UnitId := (s.turns w).map Turn.unit

/-! ### What is sought -/

open scoped List

theorem sublist_turnsIn {name : String} {later : List UnitId} : ∀ {roots : List Path}
    {w : World σ ω}, (s.turnsIn name later roots w).map Turn.unit <+ roots.map (⟨name, ·⟩)
  | [], _ => .slnil
  | root :: roots, w => by
    obtain ⟨ts, end', hts, -, hvisit⟩ := s.visit name later root roots [] false w
    rw [hts]
    cases hvisit with
    | stopped _ => exact List.nil_sublist _
    | missing => exact sublist_turnsIn.cons _
    | refused e v => exact List.nil_sublist _
    | ran o ho => exact sublist_turnsIn.cons_cons _
    | interrupted _ => exact (List.nil_sublist _).cons_cons _
    | failed e _ _ => exact (List.nil_sublist _).cons_cons _

theorem sublist_turnsOf : ∀ {names : List String} {index : Nat}
    {records : List (UnitId × Outcome)} {w : World σ ω},
    (s.turnsOf p index names records w).map Turn.unit <+ sought p names
  | [], _, _, _ => .slnil
  | name :: names, index, records, w => by
    have hsought : sought p (name :: names) =
        (candidates p name).map (⟨name, ·⟩) ++ sought p names := List.flatMap_cons
    obtain ⟨ts, end', hts, -, hpass⟩ := s.pass p index name names records w
    rw [hts, hsought]
    cases hpass with
    | failed e v _ => exact sublist_turnsIn.trans (List.sublist_append_left _ _)
    | interrupted r v _ _ => exact sublist_turnsIn.trans (List.sublist_append_left _ _)
    | passed r v _ _ =>
      rw [List.map_append]
      exact sublist_turnsIn.append sublist_turnsOf

/-- **The units that are executed** are among those that are sought, in the same order. -/
theorem sublist_ran (h : (s.run w).1 = .ok result) : ∃ tests, s.selectedAt w.host = .ok tests ∧
    s.ran w <+ s.stations w.host (s.ordered tests) := by
  obtain ⟨p, tally, hopening, hplan, -, -⟩ := s.run_eq_ok h
  obtain ⟨tests, htests, rfl⟩ := s.planned_eq_ok ((s.plan_opening w).1.symm.trans hplan)
  refine ⟨tests, htests, ?_⟩
  rw [ran, turns_of_planned hopening hplan]
  exact sublist_turnsOf

/-! ### What has an outcome -/

/-- The units that have an outcome are among those that are executed. -/
theorem sublist_recordsOf : ∀ ts : List (Turn σ ω),
    (s.recordsOf ts).map Prod.fst <+ ts.map Turn.unit
  | [] => .slnil
  | t :: ts => by
    have ih := sublist_recordsOf ts
    cases ht : s.ending t with
    | ok o =>
      rw [recordsOf_cons_ok s ht]
      exact ih.cons_cons _
    | error e =>
      rw [recordsOf_cons_error s ht]
      exact ih.cons _

theorem map_recordsOf : ∀ {ts : List (Turn σ ω)}, (∀ t ∈ ts, ∃ o, s.ending t = .ok o) →
    (s.recordsOf ts).map Prod.fst = ts.map Turn.unit
  | [], _ => rfl
  | t :: ts, h => by
    obtain ⟨⟨o, ho⟩, hts⟩ := List.forall_mem_cons.mp h
    rw [recordsOf_cons_ok s ho, List.map_cons, map_recordsOf hts]
    rfl

/-- If the loop over tests goes to its end, every turn of it had an outcome. -/
theorem ok_of_runTests : ∀ {names : List String} {index : Nat}
    {records : List (UnitId × Outcome)} {w : World σ ω} {tally : Tally},
    (s.runTests p index names records w).1 = .ok tally → tally.interrupted = false →
      ∀ t ∈ s.turnsOf p index names records w, ∃ o, s.ending t = .ok o
  | [], _, _, _, _, _, _ => fun _ ht => absurd ht List.not_mem_nil
  | name :: names, index, records, w, tally, h, hi => by
    obtain ⟨ts, end', hts, hend, hpass⟩ := s.pass p index name names records w
    rw [hend] at h
    rw [hts]
    cases hpass with
    | failed e v _ => cases h
    | interrupted r v _ _ =>
      cases h
      cases hi
    | passed r v hr hvisit =>
      exact List.forall_mem_append.mpr
        ⟨ok_of_runIn (congrArg Prod.fst hr) hvisit, ok_of_runTests h hi⟩

/-- **The lists of the result** hold the units whose outcome belongs to them, ascending. -/
theorem units_run (h : (s.run w).1 = .ok result) (k : Section) :
    result.units k = UnitId.sort (ofKind k (s.recordsOf (s.turns w))) := by
  obtain ⟨p, tally, hopening, hplan, hrun, rfl⟩ := s.run_eq_ok h
  rw [units_resultOf, records_runTests hrun, List.nil_append, turns_of_planned hopening hplan]

/-- The units in the result are those that have an outcome. -/
theorem perm_units (h : (s.run w).1 = .ok result) :
    result.good ++ result.bad ++ result.skipped ~ (s.recordsOf (s.turns w)).map Prod.fst := by
  have hkinds (k : Section) : result.units k ~ ofKind k (s.recordsOf (s.turns w)) := by
    rw [units_run h]
    exact UnitId.sort_perm _
  exact (((hkinds .good).append (hkinds .bad)).append (hkinds .skipped)).trans (ofKind_perm _)

/-- **A run that is not interrupted executes every unit that has a source**, if sources neither
appear nor disappear. -/
theorem ran_eq (h : (s.run w).1 = .ok result) (hi : result.interrupted = false)
    (hsteady : s.Steady w) : ∃ tests, s.selectedAt w.host = .ok tests ∧
      s.ran w = (s.stations w.host (s.ordered tests)).filter
        fun u => FileSystem.has w.host (s.source u) := by
  obtain ⟨p, tally, hopening, hplan, hrun, rfl⟩ := s.run_eq_ok h
  obtain ⟨hhistory, hunits⟩ := runTests_history hrun hi
  have hrecords := records_runTests hrun
  rw [← history_of_planned hplan] at hhistory hunits
  rw [← turns_of_planned hopening hplan] at hrecords
  obtain ⟨tests, htests, rfl⟩ := s.planned_eq_ok ((s.plan_opening w).1.symm.trans hplan)
  have hok : ∀ t ∈ s.turns w, ∃ o, s.ending t = .ok o := by
    rw [turns_of_planned hopening hplan]
    exact ok_of_runTests hrun hi
  refine ⟨tests, htests, ?_⟩
  calc s.ran w
    _ = (s.recordsOf (s.turns w)).map Prod.fst := (map_recordsOf hok).symm
    _ = (executed (s.history w)).map Prod.fst := by
      rw [← List.nil_append (s.recordsOf _), ← hrecords, hhistory, List.nil_append]
    _ = ((s.history w).map Prod.fst).filter fun u => FileSystem.has w.host (s.source u) :=
      map_executed _ hsteady
    _ = _ := by
      rw [hunits]
      rfl

end Golden.Suite
