import Golden.Proofs.Suite.Results

/-! # The turns of a run

The units that a run executes, in order, each with the world in which the runner gets it and with
the units that are still to be sought after it (`Suite.turns`). A unit has its turn also if its run
ends with an error; then it is the last one.

* `Suite.visit`: what the loop over roots does at a root, and which turn it takes there.
* `Suite.records_runTests`: the records of the loops are the outcomes of the turns.
* `Suite.suffix_of_turns`: every unit that has its turn was selected.
* `Suite.mem_units`: every unit in the result has had its turn. -/

namespace Golden

/-- **A turn of a unit**: the world in which the runner gets it, and the units that are still to be
sought after it. -/
structure Turn (σ ω : Type) where
  unit : UnitId
  world : World σ ω
  ahead : List UnitId

namespace Suite

variable {σ ω : Type} [Sink ω] [FileSystem σ] (s : Suite σ)

/-! ### Turns -/

/-- How the run of a unit ends in its turn. -/
def ending (t : Turn σ ω) : Except RunError Outcome := (s.runner.run t.unit t.world).1

/-- The world after a turn. -/
def after (t : Turn σ ω) : World σ ω := (s.runner.run t.unit t.world).2

/-- The outcomes of turns. -/
def recordsOf (ts : List (Turn σ ω)) : List (UnitId × Outcome) :=
  ts.filterMap fun t => (s.ending t).toOption.map (t.unit, ·)

theorem recordsOf_cons_ok {t : Turn σ ω} {o : Outcome} (h : s.ending t = .ok o)
    (ts : List (Turn σ ω)) : s.recordsOf (t :: ts) = (t.unit, o) :: s.recordsOf ts := by
  simp [recordsOf, h, Except.toOption]

theorem recordsOf_cons_error {t : Turn σ ω} {e : RunError} (h : s.ending t = .error e)
    (ts : List (Turn σ ω)) : s.recordsOf (t :: ts) = s.recordsOf ts := by
  simp [recordsOf, h, Except.toOption]

theorem recordsOf_append (ts us : List (Turn σ ω)) :
    s.recordsOf (ts ++ us) = s.recordsOf ts ++ s.recordsOf us :=
  List.filterMap_append

omit [FileSystem σ] in
/-- The turn of a test in a root that has it. Other roots and the units in `later` follow. -/
def turnAt (name : String) (later : List UnitId) (root : Path) (roots : List Path)
    (w : World σ ω) : Turn σ ω :=
  ⟨⟨name, root⟩, s.announced name w, roots.map (⟨name, ·⟩) ++ later⟩

/-- The turns of a test in the given roots. The units in `later` are sought after that. -/
def turnsIn (name : String) (later : List UnitId) : List Path → World σ ω → List (Turn σ ω)
  | [], _ => []
  | root :: roots, w =>
    if w.interrupt then []
    else if FileSystem.has w.host (s.source ⟨name, root⟩) then
      match (s.announce name w).1 with
      | .error _ => []
      | .ok _ =>
        let t := s.turnAt name later root roots w
        t :: match s.ending t with
          | .ok _ => turnsIn name later roots (s.after t)
          | .error _ => []
    else turnsIn name later roots w

omit [Sink ω] [FileSystem σ] in
/-- The world in which the test at a position is sought. -/
def reached (index : Nat) (w : World σ ω) : World σ ω :=
  (advance (.running index) w : Except RunError Unit × World σ ω).2

/-- The turns of the given tests. Whether there are more after those of the first test is for the
loop over its roots to say. -/
def turnsOf (p : Plan) :
    Nat → List String → List (UnitId × Outcome) → World σ ω → List (Turn σ ω)
  | _, [], _, _ => []
  | index, name :: names, records, w =>
    s.turnsIn name (sought p names) (candidates p name) (reached index w) ++
      match s.runIn name (candidates p name) records false (reached index w) with
      | (.error _, _) => []
      | (.ok (records, visit), v) =>
        if visit.interrupted then []
        else turnsOf p (index + 1) names records (remark p name visit.found v).2

/-- **The turns of a run.** -/
def turns (w : World σ ω) : List (Turn σ ω) :=
  match (s.opening w).1, (s.plan (s.opening w).2).1 with
  | .ok _, .ok p => s.turnsOf p 0 p.tests [] (s.plan (s.opening w).2).2
  | _, _ => []

/-! ### The loop over roots -/

section Roots
variable {s} {name : String} {later : List UnitId}

theorem turnsIn_stopped {roots : List Path} {w : World σ ω} (h : w.interrupt = true) :
    s.turnsIn name later roots w = [] := by
  cases roots with
  | nil => rfl
  | cons root roots => rw [turnsIn, if_pos h]

/-- **What the loop over roots does at a root**: the turns that it takes from there on, and how it
ends. -/
inductive Visits (s : Suite σ) (name : String) (later : List UnitId) (root : Path)
    (roots : List Path) (records : List (UnitId × Outcome)) (found : Bool) (w : World σ ω) :
    List (Turn σ ω) → Except RunError (List (UnitId × Outcome) × Visit) × World σ ω → Prop where
  /-- The operator has asked to stop. -/
  | stopped : w.interrupt = true →
    s.Visits name later root roots records found w [] (.ok (records, ⟨found, true⟩), w)
  /-- The test is not there. -/
  | missing : s.Visits name later root roots records found w (s.turnsIn name later roots w)
    (s.runIn name roots records found w)
  /-- The test cannot be announced. -/
  | refused (e : RunError) (v : World σ ω) :
    s.Visits name later root roots records found w [] (.error e, v)
  /-- The unit has an outcome. -/
  | ran (o : Outcome) : s.ending (s.turnAt name later root roots w) = .ok o →
    s.Visits name later root roots records found w
      (s.turnAt name later root roots w ::
        s.turnsIn name later roots (s.after (s.turnAt name later root roots w)))
      (s.runIn name roots (records ++ [(⟨name, root⟩, o)]) true
        (s.after (s.turnAt name later root roots w)))
  /-- The unit is interrupted. -/
  | interrupted : s.ending (s.turnAt name later root roots w) = .error .interrupted →
    s.Visits name later root roots records found w [s.turnAt name later root roots w]
      (.ok (records, ⟨true, true⟩), s.after (s.turnAt name later root roots w))
  /-- The run of the unit fails. -/
  | failed (e : RunError) : e ≠ .interrupted →
    s.ending (s.turnAt name later root roots w) = .error e →
    s.Visits name later root roots records found w [s.turnAt name later root roots w]
      (.error e, s.after (s.turnAt name later root roots w))

theorem visit (s : Suite σ) (name : String) (later : List UnitId) (root : Path)
    (roots : List Path) (records : List (UnitId × Outcome)) (found : Bool) (w : World σ ω) :
    ∃ ts r, s.turnsIn name later (root :: roots) w = ts ∧
      s.runIn name (root :: roots) records found w = r ∧
      s.Visits name later root roots records found w ts r := by
  refine ⟨_, _, rfl, rfl, ?_⟩
  cases hstop : w.interrupt with
  | true =>
    rw [turnsIn_stopped hstop, s.runIn_stopped hstop]
    exact .stopped hstop
  | false =>
    rw [turnsIn, if_neg (by simp [hstop])]
    cases hs : FileSystem.has w.host (s.source ⟨name, root⟩) with
    | false =>
      rw [s.runIn_missing hstop hs, if_neg (by simp)]
      exact .missing
    | true =>
      rw [s.runIn_present hstop hs, if_pos rfl, Run.bind_apply]
      cases ha : (s.announce name w).1 with
      | error e => exact .refused e _
      | ok _ =>
        dsimp only
        rw [Run.observe_bind]
        have hending : s.ending (s.turnAt name later root roots w) =
            (s.runner.run ⟨name, root⟩ (s.announce name w).2).1 := rfl
        rw [hending]
        cases he : (s.runner.run ⟨name, root⟩ (s.announce name w).2).1 with
        | ok o => exact .ran o he
        | error e =>
          cases e with
          | interrupted => exact .interrupted he
          | _ => exact .failed _ (by simp) he

/-- The records of the loop over roots are the outcomes of its turns. -/
theorem records_runIn : ∀ {roots : List Path} {records : List (UnitId × Outcome)} {found : Bool}
    {w : World σ ω} {r : List (UnitId × Outcome) × Visit},
    (s.runIn name roots records found w).1 = .ok r →
      r.1 = records ++ s.recordsOf (s.turnsIn name later roots w)
  | [], records, found, w, r, h => by
    cases h
    exact (List.append_nil records).symm
  | root :: roots, records, found, w, r, h => by
    obtain ⟨ts, end', hts, hend, hvisit⟩ := s.visit name later root roots records found w
    rw [hend] at h
    rw [hts]
    cases hvisit with
    | stopped _ =>
      cases h
      exact (List.append_nil records).symm
    | missing => exact records_runIn h
    | refused e v => cases h
    | ran o ho =>
      rw [records_runIn h, recordsOf_cons_ok s ho, List.append_assoc]
      rfl
    | interrupted he =>
      cases h
      rw [recordsOf_cons_error s he]
      exact (List.append_nil records).symm
    | failed e _ he => cases h

/-- If the loop over roots goes to its end, every turn of it had an outcome. -/
theorem ok_of_runIn : ∀ {roots : List Path} {records : List (UnitId × Outcome)} {found : Bool}
    {w : World σ ω} {r : List (UnitId × Outcome) × Visit},
    (s.runIn name roots records found w).1 = .ok r → r.2.interrupted = false →
      ∀ t ∈ s.turnsIn name later roots w, ∃ o, s.ending t = .ok o
  | [], _, _, _, _, _, _ => fun _ ht => absurd ht List.not_mem_nil
  | root :: roots, records, found, w, r, h, hi => by
    obtain ⟨ts, end', hts, hend, hvisit⟩ := s.visit name later root roots records found w
    rw [hend] at h
    rw [hts]
    cases hvisit with
    | stopped _ =>
      cases h
      cases hi
    | missing => exact ok_of_runIn h hi
    | refused e v => cases h
    | ran o ho => exact List.forall_mem_cons.mpr ⟨⟨o, ho⟩, ok_of_runIn h hi⟩
    | interrupted he =>
      cases h
      cases hi
    | failed e _ he => cases h

theorem suffix_of_turnsIn : ∀ {roots : List Path} {w : World σ ω} {t : Turn σ ω},
    t ∈ s.turnsIn name later roots w →
      t.unit :: t.ahead <:+ roots.map (⟨name, ·⟩) ++ later
  | [], w, t, h => absurd h List.not_mem_nil
  | root :: roots, w, t, h => by
    have hnext {v : World σ ω} (h : t ∈ s.turnsIn name later roots v) :
        t.unit :: t.ahead <:+ (root :: roots).map (⟨name, ·⟩) ++ later :=
      (suffix_of_turnsIn h).trans (List.suffix_cons _ _)
    obtain ⟨ts, end', hts, -, hvisit⟩ := s.visit name later root roots [] false w
    rw [hts] at h
    cases hvisit with
    | stopped _ => cases h
    | missing => exact hnext h
    | refused e v => cases h
    | ran o ho =>
      rcases List.mem_cons.mp h with rfl | h
      · exact List.suffix_refl _
      · exact hnext h
    | interrupted _ =>
      obtain rfl := List.mem_singleton.mp h
      exact List.suffix_refl _
    | failed _ _ _ =>
      obtain rfl := List.mem_singleton.mp h
      exact List.suffix_refl _

end Roots

/-! ### The loop over tests -/

section Tests
variable {s} {p : Plan}

/-- **What the loop over tests does with a test**: the turns that it takes from there on, and how it
ends. -/
inductive Passes (s : Suite σ) (p : Plan) (index : Nat) (name : String) (names : List String)
    (records : List (UnitId × Outcome)) (w : World σ ω) :
    List (Turn σ ω) → Except RunError Tally × World σ ω → Prop where
  /-- The loop over the roots of the test fails. -/
  | failed (e : RunError) (v : World σ ω) :
    s.runIn name (candidates p name) records false (reached index w) = (.error e, v) →
    s.Passes p index name names records w
      (s.turnsIn name (sought p names) (candidates p name) (reached index w)) (.error e, v)
  /-- It is interrupted. -/
  | interrupted (r : List (UnitId × Outcome) × Visit) (v : World σ ω) :
    s.runIn name (candidates p name) records false (reached index w) = (.ok r, v) →
    r.2.interrupted = true → s.Passes p index name names records w
      (s.turnsIn name (sought p names) (candidates p name) (reached index w)) (.ok ⟨r.1, true⟩, v)
  /-- It goes to its end. -/
  | passed (r : List (UnitId × Outcome) × Visit) (v : World σ ω) :
    s.runIn name (candidates p name) records false (reached index w) = (.ok r, v) →
    r.2.interrupted = false → s.Passes p index name names records w
      (s.turnsIn name (sought p names) (candidates p name) (reached index w) ++
        s.turnsOf p (index + 1) names r.1 (remark p name r.2.found v).2)
      (s.runTests p (index + 1) names r.1 (remark p name r.2.found v).2)

theorem pass (s : Suite σ) (p : Plan) (index : Nat) (name : String) (names : List String)
    (records : List (UnitId × Outcome)) (w : World σ ω) :
    ∃ ts r, s.turnsOf p index (name :: names) records w = ts ∧
      s.runTests p index (name :: names) records w = r ∧
      s.Passes p index name names records w ts r := by
  refine ⟨_, _, rfl, rfl, ?_⟩
  have hreached : (advance (.running index) w : Except RunError Unit × World σ ω).2 =
      reached index w := rfl
  rw [turnsOf, runTests_cons, Run.bind_ok (ok_advance _ w), hreached, Run.bind_apply]
  cases h : s.runIn name (candidates p name) records false (reached index w) with
  | mk result v =>
    cases result with
    | error e =>
      dsimp only
      rw [List.append_nil]
      exact .failed e v h
    | ok r =>
      dsimp only
      cases hi : r.2.interrupted with
      | true =>
        rw [if_pos rfl, if_pos rfl, List.append_nil]
        exact .interrupted r v h hi
      | false =>
        rw [if_neg (by simp), if_neg (by simp), Run.bind_ok (ok_remark p name r.2.found v)]
        exact .passed r v h hi

/-- The records of the loop over tests are the outcomes of its turns. -/
theorem records_runTests : ∀ {names : List String} {index : Nat}
    {records : List (UnitId × Outcome)} {w : World σ ω} {tally : Tally},
    (s.runTests p index names records w).1 = .ok tally →
      tally.records = records ++ s.recordsOf (s.turnsOf p index names records w)
  | [], index, records, w, tally, h => by
    cases h
    exact (List.append_nil records).symm
  | name :: names, index, records, w, tally, h => by
    obtain ⟨ts, end', hts, hend, hpass⟩ := s.pass p index name names records w
    rw [hend] at h
    rw [hts]
    cases hpass with
    | failed e v _ => cases h
    | interrupted r v hr _ =>
      cases h
      exact records_runIn (congrArg Prod.fst hr)
    | passed r v hr _ =>
      have hroots : r.1 = records ++ s.recordsOf
          (s.turnsIn name (sought p names) (candidates p name) (reached index w)) :=
        records_runIn (congrArg Prod.fst hr)
      rw [records_runTests h, hroots, recordsOf_append, List.append_assoc]

theorem suffix_of_turnsOf : ∀ {names : List String} {index : Nat}
    {records : List (UnitId × Outcome)} {w : World σ ω} {t : Turn σ ω},
    t ∈ s.turnsOf p index names records w → t.unit :: t.ahead <:+ sought p names
  | [], _, _, _, _, h => absurd h List.not_mem_nil
  | name :: names, index, records, w, t, h => by
    have hsought : sought p (name :: names) =
        (candidates p name).map (⟨name, ·⟩) ++ sought p names := List.flatMap_cons
    obtain ⟨ts, end', hts, -, hpass⟩ := s.pass p index name names records w
    rw [hts] at h
    rw [hsought]
    cases hpass with
    | failed e v _ => exact suffix_of_turnsIn h
    | interrupted r v _ _ => exact suffix_of_turnsIn h
    | passed r v _ _ =>
      rcases List.mem_append.mp h with h | h
      · exact suffix_of_turnsIn h
      · exact (suffix_of_turnsOf h).trans (List.suffix_append _ _)

end Tests

/-! ### Whole runs -/

section Whole
variable {s} {w : World σ ω}

/-- The turns of a run are those of its loop over tests, if it gets there. -/
theorem turns_of_planned {p : Plan} (hopening : (s.opening w).1 = .ok ())
    (hplan : (s.plan (s.opening w).2).1 = .ok p) :
    s.turns w = s.turnsOf p 0 p.tests [] (s.plan (s.opening w).2).2 := by
  unfold turns
  rw [hopening, hplan]

/-- A run in which a unit has its turn has a plan. -/
theorem planned_of_turns {t : Turn σ ω} (h : t ∈ s.turns w) :
    (s.opening w).1 = .ok () ∧ ∃ p, (s.plan (s.opening w).2).1 = .ok p ∧
      t ∈ s.turnsOf p 0 p.tests [] (s.plan (s.opening w).2).2 := by
  unfold turns at h
  cases hopening : (s.opening w).1 with
  | error e =>
    rw [hopening] at h
    cases h
  | ok _ =>
    cases hplan : (s.plan (s.opening w).2).1 with
    | error e =>
      rw [hopening, hplan] at h
      cases h
    | ok p =>
      rw [hopening, hplan] at h
      exact ⟨rfl, p, rfl, h⟩

/-- **Every unit that has its turn was selected**, and what is ahead of it comes after it. -/
theorem suffix_of_turns {t : Turn σ ω} (h : t ∈ s.turns w) :
    ∃ p, s.planned w.host = .ok p ∧ t.unit :: t.ahead <:+ sought p p.tests := by
  obtain ⟨-, p, hplan, ht⟩ := planned_of_turns h
  exact ⟨p, (s.plan_opening w).1.symm.trans hplan, suffix_of_turnsOf ht⟩

/-- **Every unit in the result has had its turn.** -/
theorem mem_units {result : SuiteResult} (h : (s.run w).1 = .ok result) {k : Section} {u : UnitId}
    (hu : u ∈ result.units k) : ∃ t ∈ s.turns w, t.unit = u := by
  obtain ⟨p, tally, hopening, hplan, hrun, rfl⟩ := s.run_eq_ok h
  rw [units_resultOf] at hu
  obtain ⟨e, he, rfl⟩ := List.mem_map.mp ((UnitId.sort_perm _).mem_iff.mp hu)
  have hrecords := List.mem_of_mem_filter he
  rw [records_runTests hrun, List.nil_append] at hrecords
  obtain ⟨t, ht, hte⟩ := List.mem_filterMap.mp hrecords
  obtain ⟨o, -, rfl⟩ := Option.map_eq_some_iff.mp hte
  refine ⟨t, ?_, rfl⟩
  rw [turns_of_planned hopening hplan]
  exact ht

end Whole

end Suite

end Golden
