import Golden.Proofs.Runner.Ends
import Golden.Proofs.Suite.Interruption

/-! # The phases of a run

The phases are ordered by their rank, and those of one rank by the position of the test
(`Phase.precedes_iff`). A run changes its phase in a few places only. What it does in between, and
that is above all to run units, leaves the phase as it is (`goes_loadAndRun`, `Runner.goes_run`,
`Suite.goes_plan`), so that the phases of a run are put together from those of its parts
(`Run.Follows`).

* `Phase.pairwise_sequence`: the phases of a run are in ascending order.
* `Run.Follows.bind`: the phases of a sequence of actions. A failure cuts them short.
* `Suite.follows_runTests`: the loop over tests goes through their positions, up to the last test or
  to the one at which it is interrupted.
* `Suite.run_onward`: a run only moves forward, and if it ends well it goes through all phases. -/

namespace Golden

namespace Phase

/-! ### The order of phases -/

/-- The position of a test among phases of the same rank. -/
def position : Phase → Nat
  | running i => i
  | _ => 0

theorem precedes_iff {p q : Phase} : p.precedes q = true ↔
    p.rank < q.rank ∨ p.rank = q.rank ∧ p.position < q.position := by
  cases p <;> cases q <;> simp [precedes, rank, position]

theorem eq_of_rank {p q : Phase} (h : p.rank = q.rank) (h' : p.position = q.position) : p = q := by
  cases p <;> cases q <;> simp_all [rank, position]

theorem precedes_irrefl (p : Phase) : p.precedes p = false := by
  rw [Bool.eq_false_iff, Ne, precedes_iff]
  omega

theorem precedes_trans {p q r : Phase} (h : p.precedes q = true) (h' : q.precedes r = true) :
    p.precedes r = true := by
  rw [precedes_iff] at *
  omega

/-- **Of two different phases** exactly one precedes the other. -/
theorem precedes_iff_not {p q : Phase} (h : p ≠ q) :
    p.precedes q = true ↔ q.precedes p = false := by
  have hne : ¬ (p.rank = q.rank ∧ p.position = q.position) := fun ⟨h1, h2⟩ => h (eq_of_rank h1 h2)
  rw [Bool.eq_false_iff, Ne, precedes_iff, precedes_iff]
  omega

theorem precedes_of_rank {p q : Phase} (h : p.rank < q.rank) : p.precedes q = true :=
  precedes_iff.mpr (Or.inl h)

/-- **The phases of a run** in which it gets to `n` tests. -/
def sequence (n : Nat) : List Phase :=
  parsingOptions :: discovering ::
    ((List.range n).map running ++ [reconciling, reporting, done])

theorem pairwise_sequence (n : Nat) : (sequence n).Pairwise fun p q => p.precedes q = true := by
  have htests : ((List.range n).map running).Pairwise fun p q => p.precedes q = true := by
    rw [List.pairwise_map]
    exact List.pairwise_lt_range.imp fun h => by simpa [precedes] using h
  have hrank : ∀ p ∈ (List.range n).map running, p.rank = 2 := by simp [rank]
  have hbegin : ∀ p ∈ [parsingOptions, discovering], p.rank < 2 := by simp [rank]
  have hend : ∀ p ∈ [reconciling, reporting, done], 2 < p.rank := by simp [rank]
  change ([parsingOptions, discovering] ++ _).Pairwise _
  refine List.pairwise_append.mpr ⟨by decide, List.pairwise_append.mpr ⟨htests, by decide,
    fun p hp q hq => precedes_of_rank ?_⟩, fun p hp q hq => precedes_of_rank ?_⟩
  · rw [hrank p hp]
    exact hend q hq
  · refine (hbegin p hp).trans_le ?_
    rcases List.mem_append.mp hq with hq | hq
    · exact (hrank q hq).ge
    · exact (hend q hq).le

end Phase

/-! ### Phases gone through -/

section Lists
variable {α : Type}

/-- The neighbours in a list that is put together from two. -/
theorem zip_cons_append (a : α) (as bs : List α) :
    (a :: (as ++ bs)).zip (as ++ bs) = (a :: as).zip as ++ (as.getLastD a :: bs).zip bs := by
  induction as generalizing a with
  | nil => rfl
  | cons a' as ih =>
    rw [List.cons_append, List.zip_cons_cons, ih, List.zip_cons_cons, List.getLastD_cons,
      List.cons_append]

/-- Neighbours in a list are related if any two members are. -/
theorem forall_mem_zip {R : α → α → Prop} {a : α} {as : List α} (h : (a :: as).Pairwise R) :
    ∀ c ∈ (a :: as).zip as, R c.1 c.2 := by
  induction as generalizing a with
  | nil => simp
  | cons a' as ih =>
    rw [List.pairwise_cons] at h
    rw [List.zip_cons_cons]
    exact List.forall_mem_cons.mpr ⟨h.1 a' List.mem_cons_self, ih h.2⟩

end Lists

variable {σ ω ε α β : Type}

/-- **A run has gone through phases** from one world to another: after the phase of the first world
these, one after the other. -/
def World.Goes (w : World σ ω) (ps : List Phase) (v : World σ ω) : Prop :=
  v.phase = ps.getLastD w.phase ∧ v.changes = w.changes ++ (w.phase :: ps).zip ps

namespace World

variable {w v x : World σ ω} {ps qs : List Phase}

theorem Goes.refl (w : World σ ω) : w.Goes [] w := ⟨rfl, (List.append_nil _).symm⟩

theorem Goes.trans (h : w.Goes ps v) (h' : v.Goes qs x) : w.Goes (ps ++ qs) x := by
  obtain ⟨hphase, hchanges⟩ := h
  obtain ⟨hphase', hchanges'⟩ := h'
  refine ⟨?_, ?_⟩
  · rw [hphase', hphase]
    cases qs <;> simp [List.getLastD_eq_getLast?]
  · rw [hchanges', hchanges, hphase, List.append_assoc, zip_cons_append]

theorem changes_note (w : World σ ω) (e : Event) :
    ({ w with trail := w.trail ++ [.event e] } : World σ ω).changes = w.changes := by
  simp [changes, Trace.change?]

theorem changes_complain (w : World σ ω) (bs : Bytes) :
    ({ w with trail := w.trail ++ [.errors bs] } : World σ ω).changes = w.changes := by
  simp [changes, Trace.change?]

theorem goes_advance (next : Phase) (w : World σ ω) :
    w.Goes [next] (Suite.advance next w : Except ε Unit × World σ ω).2 := by
  refine ⟨rfl, ?_⟩
  change (w.trail ++ [Trace.phase w.phase next]).filterMap Trace.change? = _
  rw [List.filterMap_append]
  rfl

end World

namespace Run

variable {w v : World σ ω} {ps qs : List Phase}

/-- **An action goes through phases**, or through the first of them if it fails. -/
def Follows (w : World σ ω) (ps : List Phase) (r : Except ε α × World σ ω) : Prop :=
  ∃ qs, qs <+: ps ∧ w.Goes qs r.2 ∧ ∀ a, r.1 = .ok a → qs = ps

theorem Follows.ok (h : w.Goes ps v) (a : α) : Follows w ps ((.ok a, v) : Except ε α × World σ ω) :=
  ⟨ps, List.prefix_refl _, h, fun _ _ => rfl⟩

theorem Follows.error (w : World σ ω) (ps : List Phase) (e : ε) :
    Follows w ps ((.error e, w) : Except ε α × World σ ω) :=
  ⟨[], List.nil_prefix, .refl w, fun _ h => by cases h⟩

theorem Follows.append {r : Except ε α × World σ ω} (h : w.Goes ps v) (hr : Follows v qs r) :
    Follows w (ps ++ qs) r := by
  obtain ⟨qs', hqs, hgoes, hok⟩ := hr
  exact ⟨ps ++ qs', (List.prefix_append_right_inj ps).mpr hqs, h.trans hgoes,
    fun a ha => congrArg (ps ++ ·) (hok a ha)⟩

/-- **Phases of a sequence.** -/
theorem Follows.bind {x : Run σ ω ε α} {f : α → Run σ ω ε β} (hx : Follows w ps (x w))
    (hf : ∀ a, (x w).1 = .ok a → Follows (x w).2 qs (f a (x w).2)) :
    Follows w (ps ++ qs) ((x >>= f) w) := by
  obtain ⟨ps', hps, hgoes, hok⟩ := hx
  cases h : (x w).1 with
  | error e =>
    rw [bind_error h]
    exact ⟨ps', hps.trans (List.prefix_append _ _), hgoes, fun _ h => by cases h⟩
  | ok a =>
    rw [bind_ok h]
    obtain rfl := hok a h
    exact Follows.append hgoes (hf a h)

/-- An action that leaves the phase as it is. -/
theorem Follows.of_keeps {x : Run σ ω ε α} (h : Keeps (w.Goes []) x) : Follows w [] (x w) :=
  ⟨[], List.prefix_refl _, h w (.refl w), fun _ _ => rfl⟩

theorem follows_advance (next : Phase) (w : World σ ω) :
    Follows w [next] (Suite.advance next w : Except ε Unit × World σ ω) := by
  have hgoes : w.Goes [next] (Suite.advance next w : Except ε Unit × World σ ω).2 :=
    w.goes_advance next
  exact .ok hgoes ()

end Run

/-! ### Units -/

section Units
variable {w₀ : World σ ω} {ps : List Phase}

theorem silent_goes : Run.Silent (w₀.Goes ps) :=
  ⟨fun _ _ h => h, fun w e h => ⟨h.1, (w.changes_note e).trans h.2⟩,
    fun w bs h => ⟨h.1, (w.changes_complain bs).trans h.2⟩⟩

theorem goes_note (e : Event) : Run.Keeps (w₀.Goes ps) (Run.note e : Run σ ω ε Unit) :=
  fun w hw => silent_goes.note w e hw

theorem goes_notes {κ : Type} (f : κ → Event) (xs : List κ) :
    Run.Keeps (w₀.Goes ps) (xs.forM fun x => Run.note (f x) : Run σ ω ε PUnit) := by
  induction xs with
  | nil => exact Run.keeps_pure _
  | cons x xs ih => exact (goes_note _).bind fun _ => ih

theorem goes_forget (name : String) :
    Run.Keeps (w₀.Goes ps) (Run.forget name : Run σ ω ε Unit) := by
  unfold Run.forget
  refine Run.Keeps.bind (fun w hw => hw) fun table => ?_
  split_ifs
  · exact Run.Keeps.bind (fun w hw => hw) fun _ => goes_note _
  · exact Run.keeps_pure _

variable [Sink ω]

/-- **The load of a unit** leaves the phase as it is. -/
theorem goes_loadAndRun (s : Surroundings σ) (u : UnitId) :
    Run.Keeps (w₀.Goes ps) (s.loadAndRun u : Run σ ω Signal Unit) :=
  Surroundings.keeps_loadAndRun silent_goes (fun _ _ h => h) (fun _ _ _ _ h => h)
    (fun _ _ _ h => h) (fun _ _ h => h) (fun _ _ t _ c => Behaviour.Every.trivial (t c)) u

namespace Runner

variable {r : Runner σ} {u : UnitId}

theorem tolerant_goes : Tolerant (w₀.Goes ps) :=
  ⟨fun _ _ h => h, fun _ _ h => h, fun _ h => h, fun w e h => silent_goes.note w e h⟩

theorem goes_scan : Run.Keeps (w₀.Goes ps) (r.scan : Run σ ω RunError Unit) := by
  have hwarn (found : List String) (line : String) : Run.Keeps (w₀.Goes ps)
      (say line >>= fun _ => Run.update fun w => ((), { w with leaked := w.leaked ++ found }) :
        Run σ ω RunError Unit) :=
    (keeps_say tolerant_goes line).bind fun _ w hw => hw
  unfold scan
  cases r.detector with
  | none => exact Run.keeps_pure _
  | some d =>
    refine Run.Keeps.bind (fun w hw => hw) fun found => ?_
    split_ifs
    · exact (goes_notes _ _).bind fun _ => hwarn found _
    · exact hwarn found _
    · exact (goes_notes _ _).bind fun _ => Run.keeps_pure _
    · exact Run.keeps_pure _

omit [Sink ω] in
theorem goes_conclude (before : List String) (outcome : Except RunError Outcome) :
    Run.Keeps (w₀.Goes ps) (conclude u before outcome : Run σ ω RunError Outcome) := by
  have hend : Run.Keeps (w₀.Goes ps) (Run.ofResult outcome : Run σ ω RunError Outcome) :=
    fun _ hw => hw
  unfold conclude
  refine Run.Keeps.bind (fun w hw => hw) fun unloaded => ?_
  cases outcome with
  | error e =>
    split_ifs
    · exact (goes_note _).bind fun _ => hend
    · exact hend
  | ok o =>
    split_ifs
    · exact (goes_note _).bind fun _ => (goes_note _).bind fun _ => hend
    · exact (goes_note _).bind fun _ => hend

variable [FileSystem σ]

/-- **The run of a unit** leaves the phase as it is, in whichever way it ends. -/
theorem goes_run : Run.Keeps (w₀.Goes ps) (r.run u : Run σ ω RunError Outcome) := by
  intro w hw
  have hready : w₀.Goes ps (ready u w) := goes_forget u.name w hw
  have hclass : w₀.Goes ps (r.classify u (ready u w)).2 := tolerant_goes.classify
    (keeps_execute silent_goes (goes_loadAndRun r.surroundings u) _ hready)
  rw [run_apply]
  split
  · exact goes_conclude _ _ _ hclass
  · exact (goes_scan.bind fun _ => goes_conclude _ _) _ hclass

end Runner

end Units

namespace Suite

/-! ### What is to be run -/

section Plan
variable [FileSystem σ] {w₀ : World σ ω} {ps : List Phase}

theorem goes_discoverAll (extension : String) (standard excluded : List String) :
    ∀ (roots : List Path) (found : List String), Run.Keeps (w₀.Goes ps)
      (Selection.discoverAll extension standard excluded found roots :
        Run σ ω FileSystemError (List String))
  | [], _ => Run.keeps_pure _
  | root :: roots, _ => by
    have hdiscover : Run.Keeps (w₀.Goes ps)
        (Selection.discover root extension standard excluded : Run σ ω FileSystemError _) :=
      Run.Keeps.bind (fun w hw => hw) fun _ => Run.Keeps.bind (fun w hw => hw) fun _ =>
        (goes_note _).bind fun _ => Run.keeps_pure _
    exact hdiscover.bind fun _ => goes_discoverAll extension standard excluded roots _

theorem goes_select (s : Suite σ) (roots : List Path) :
    Run.Keeps (w₀.Goes ps) (s.select roots : Run σ ω RunError (List String)) := by
  unfold select
  by_cases h : s.names.named ≠ []
  · rw [if_pos h]
    exact Run.keeps_pure _
  · rw [if_neg h]
    exact fun w hw => ((goes_discoverAll _ _ _ roots []).bind fun _ => Run.keeps_pure _) w hw

omit [FileSystem σ] in
theorem goes_order (s : Suite σ) (tests : List String) :
    Run.Keeps (w₀.Goes ps) (s.order tests : Run σ ω RunError (List String)) := by
  unfold order
  split_ifs
  · exact (goes_note _).bind fun _ => Run.keeps_pure _
  · exact Run.keeps_pure _

/-- **The plan** is made in one phase. -/
theorem goes_plan (s : Suite σ) : Run.Keeps (w₀.Goes ps) (s.plan : Run σ ω RunError Plan) := by
  have hroots : Run.Keeps (w₀.Goes ps) (Selection.roots s.config.discovery.searchPath
      s.options.broad : Run σ ω RunError (List Path)) :=
    Run.Keeps.bind (fun w hw => hw) fun _ => (goes_notes _ _).bind fun _ => Run.keeps_pure _
  have hrest (roots : List Path) (f : List String → Plan) : Run.Keeps (w₀.Goes ps)
      (s.select roots >>= fun tests => s.order tests >>= fun tests => pure (f tests) :
        Run σ ω RunError Plan) :=
    (goes_select s roots).bind fun tests => (goes_order s tests).bind fun _ => Run.keeps_pure _
  unfold plan
  refine hroots.bind fun roots => ?_
  split_ifs
  · exact (goes_note _).bind fun _ => hrest roots _
  · exact hrest roots _

end Plan

/-! ### Tests -/

section Tests
variable [FileSystem σ] [Sink ω] {s : Suite σ} {w₀ : World σ ω} {ps : List Phase}

omit [FileSystem σ] in
theorem goes_announce (name : String) :
    Run.Keeps (w₀.Goes ps) (s.announce name : Run σ ω RunError Unit) := by
  unfold announce
  split_ifs
  · exact (Runner.keeps_say Runner.tolerant_goes _).bind fun _ =>
      Runner.keeps_flush Runner.tolerant_goes
  · exact Run.keeps_pure _

omit [FileSystem σ] [Sink ω] in
theorem goes_remark (p : Plan) (name : String) (found : Bool) :
    Run.Keeps (w₀.Goes ps) (remark p name found : Run σ ω RunError Unit) := by
  unfold remark
  split_ifs
  · exact goes_note _
  · exact Run.keeps_pure _

/-- **The loop over roots** goes on in one phase. -/
theorem goes_runIn (name : String) :
    ∀ (roots : List Path) (records : List (UnitId × Outcome)) (found : Bool),
      Run.Keeps (w₀.Goes ps) (s.runIn name roots records found : Run σ ω RunError _)
  | [], _, _ => Run.keeps_pure _
  | root :: roots, records, found => fun w hw => by
    cases hstop : w.interrupt with
    | true =>
      rw [s.runIn_stopped hstop]
      exact hw
    | false =>
      cases hs : FileSystem.has w.host (s.source ⟨name, root⟩) with
      | false =>
        rw [s.runIn_missing hstop hs]
        exact goes_runIn name roots records found w hw
      | true =>
        have hrun : Run.Keeps (w₀.Goes ps)
            (Run.observe (s.runner.run ⟨name, root⟩) : Run σ ω RunError _) :=
          fun v hv => Runner.goes_run v hv
        rw [s.runIn_present hstop hs]
        refine (Run.Keeps.bind (goes_announce name) fun _ => hrun.bind fun r => ?_) w hw
        cases r with
        | ok o => exact goes_runIn name roots _ true
        | error e => cases e <;> exact fun _ hv => hv

/-- **A loop over tests is cut at a position**: the tests before it are gone through, and while the
test there is sought in its roots, it is found that the run is interrupted. -/
def CutAt (s : Suite σ) (p : Plan) (index : Nat) (names : List String)
    (records : List (UnitId × Outcome)) (w : World σ ω) (m : Nat) : Prop :=
  ∃ name before v r, names[m]? = some name ∧
    s.runTests p index (names.take m) records w = (.ok ⟨before, false⟩, v) ∧
    (s.runIn name (candidates p name) before false (reached (index + m) v)).1 = .ok r ∧
    r.2.interrupted = true

/-- **How many tests a loop gets to**, and whether it is cut: all of them, or those up to the one
where it is cut. -/
inductive GetsTo (s : Suite σ) (p : Plan) (index : Nat) (names : List String)
    (records : List (UnitId × Outcome)) (w : World σ ω) : Nat → Bool → Prop where
  | all : s.GetsTo p index names records w names.length false
  | cut {m : Nat} : s.CutAt p index names records w m →
    s.GetsTo p index names records w (m + 1) true

section Passed
variable {p : Plan} {index : Nat} {name : String} {names : List String}
  {records : List (UnitId × Outcome)} {w v : World σ ω} {r : List (UnitId × Outcome) × Visit}
  (hr : s.runIn name (candidates p name) records false (reached index w) = (.ok r, v))
  (hi : r.2.interrupted = false)
include hr hi

theorem runTests_passed : s.runTests p index (name :: names) records w =
    s.runTests p (index + 1) names r.1 (remark p name r.2.found v).2 := by
  have hreached : (advance (.running index) w : Except RunError Unit × World σ ω).2 =
      reached index w := rfl
  rw [runTests_cons, Run.bind_ok (ok_advance _ w), hreached, Run.bind_ok (congrArg Prod.fst hr), hr,
    if_neg (by simp [hi]), Run.bind_ok (ok_remark p name r.2.found v)]

/-- A test that is passed is one more. -/
theorem GetsTo.cons {n : Nat} {cut : Bool}
    (h : s.GetsTo p (index + 1) names r.1 (remark p name r.2.found v).2 n cut) :
    s.GetsTo p index (name :: names) records w (n + 1) cut := by
  cases h with
  | all => exact .all
  | @cut m h =>
    obtain ⟨test, before, x, visit, htest, hbefore, hvisit, hcut⟩ := h
    refine .cut ⟨test, before, x, visit, htest, ?_, ?_, hcut⟩
    · rw [List.take_succ_cons, runTests_passed hr hi]
      exact hbefore
    · rw [Nat.add_comm m 1, ← Nat.add_assoc]
      exact hvisit

end Passed

/-- **The loop over tests goes through their positions.** If it fails, these are the first of the
phases that there would have been. -/
theorem follows_runTests (p : Plan) : ∀ (names : List String) (index : Nat)
    (records : List (UnitId × Outcome)) (w : World σ ω),
    ∃ n cut, s.GetsTo p index names records w n cut ∧
      Run.Follows w ((List.range' index n).map .running) (s.runTests p index names records w) ∧
      ∀ tally, (s.runTests p index names records w).1 = .ok tally → tally.interrupted = cut
  | [], index, records, w => by
    refine ⟨0, false, .all, .ok (.refl w) _, fun tally h => ?_⟩
    cases h
    rfl
  | name :: names, index, records, w => by
    have hreached : w.Goes [.running index] (reached index w) := w.goes_advance _
    have hroots := goes_runIn (s := s) name (candidates p name) records false _ hreached
    obtain ⟨ts, end', -, hend, hpass⟩ := s.pass p index name names records w
    rw [hend]
    cases hpass with
    | failed e v hr =>
      rw [hr] at hroots
      exact ⟨_, false, .all, .append hroots (.error v _ e), fun _ h => by cases h⟩
    | interrupted r v hr hi =>
      rw [hr] at hroots
      refine ⟨1, true, .cut (m := 0) ⟨name, records, w, r, rfl, rfl, congrArg Prod.fst hr, hi⟩,
        .ok hroots _, fun tally h => ?_⟩
      cases h
      rfl
    | passed r v hr hi =>
      rw [hr] at hroots
      obtain ⟨n, cut, hn, hrest, hcut⟩ :=
        follows_runTests p names (index + 1) r.1 (remark p name r.2.found v).2
      refine ⟨n + 1, cut, hn.cons hr hi, ?_, hcut⟩
      rw [List.range'_succ, List.map_cons]
      exact .append (goes_remark p name r.2.found v hroots) hrest

end Tests

/-! ### Whole runs -/

section Whole
variable [FileSystem σ] [Sink ω] (s : Suite σ)

omit [FileSystem σ] in
theorem follows_opening (w : World σ ω) : Run.Follows w [.discovering] (s.opening w) := by
  unfold opening
  cases s.options.validate with
  | error e => exact .error w _ _
  | ok _ =>
    rw [Run.bind_ok (by rfl)]
    split_ifs
    · exact Run.Follows.bind (.of_keeps (Runner.keeps_say Runner.tolerant_goes _))
        fun _ _ => Run.follows_advance _ _
    · exact Run.follows_advance _ _

theorem follows_closing (result : SuiteResult) (w : World σ ω) :
    Run.Follows w [.reporting, .done] (s.closing result w) := by
  have hsummary : Run.Follows w [.reporting] (s.summarize result w) := by
    have hwrite (v : World σ ω) : Run.Follows v [] ((Runner.sayText
        (Summary.text s.manner (.ofPlatform s.config.platform) result) >>= fun _ =>
          Runner.flush : Run σ ω RunError Unit) v) :=
      .of_keeps ((Runner.keeps_sayText Runner.tolerant_goes _).bind fun _ =>
        Runner.keeps_flush Runner.tolerant_goes)
    unfold summarize
    split_ifs
    · exact Run.Follows.bind (.of_keeps (goes_note _)) fun _ _ =>
        Run.Follows.bind (Run.follows_advance _ _) fun _ _ => hwrite _
    · exact Run.Follows.bind (Run.follows_advance _ _) fun _ _ => hwrite _
  have hmemo (v : World σ ω) : Run.Follows v [] (s.keepMemo result v) := by
    unfold keepMemo
    cases s.options.memo with
    | none => exact .ok (.refl v) ()
    | some path =>
      exact .of_keeps (Run.Keeps.bind (fun x hx => hx) fun _ => goes_note _)
  rw [closing_eq]
  exact Run.Follows.bind hsummary fun _ _ => Run.Follows.bind (hmemo _) fun _ _ =>
    Run.Follows.bind (Run.follows_advance _ _) fun _ _ => .ok (.refl _) result

/-- **The run is interrupted while at a test.** -/
def InterruptedAt (w : World σ ω) (p : Plan) (m : Nat) : Prop :=
  s.CutAt p 0 p.tests [] (s.plan (s.opening w).2).2 m

variable {s}

theorem CutAt.lt {p : Plan} {index : Nat} {names : List String}
    {records : List (UnitId × Outcome)} {w : World σ ω} {m : Nat}
    (h : s.CutAt p index names records w m) : m < names.length := by
  obtain ⟨name, _, _, _, hname, -⟩ := h
  exact (List.getElem?_eq_some_iff.mp hname).1

/-- A run that cannot be planned does not get to any test. -/
theorem follows_run_of_error {w : World σ ω} {e : RunError} (h : s.planned w.host = .error e) :
    Run.Follows w (Phase.sequence 0).tail (s.run w) := by
  have hplan : (s.plan (s.opening w).2).1 = .error e := (s.plan_opening w).1.trans h
  have hgoes : (s.opening w).2.Goes [] (s.plan (s.opening w).2).2 := goes_plan s _ (.refl _)
  rw [run_eq]
  refine (s.follows_opening w).bind fun _ _ => ?_
  rw [Run.bind_error hplan]
  exact Run.Follows.append hgoes (.error _ _ e)

/-- **A run goes through the phases** of the tests that it gets to. -/
theorem follows_run_of_planned {w : World σ ω} {p : Plan} (h : s.planned w.host = .ok p) :
    ∃ n cut, s.GetsTo p 0 p.tests [] (s.plan (s.opening w).2).2 n cut ∧
      Run.Follows w (Phase.sequence n).tail (s.run w) ∧
      ∀ result, (s.run w).1 = .ok result → result.interrupted = cut := by
  have hplan : (s.plan (s.opening w).2).1 = .ok p := (s.plan_opening w).1.trans h
  obtain ⟨n, cut, hn, htests, hcut⟩ :=
    follows_runTests p p.tests 0 [] (s.plan (s.opening w).2).2
  have hgoes : (s.opening w).2.Goes [] (s.plan (s.opening w).2).2 := goes_plan s _ (.refl _)
  rw [← List.range_eq_range'] at htests
  refine ⟨n, cut, hn, ?_, fun result hresult => ?_⟩
  · have hrest := Run.Follows.append hgoes (htests.bind fun tally _ =>
      (Run.follows_advance .reconciling _).bind fun _ _ => s.follows_closing (resultOf p tally) _)
    rw [run_eq]
    refine (s.follows_opening w).bind fun _ _ => ?_
    rw [Run.bind_ok hplan]
    exact hrest
  · obtain ⟨p', tally, -, hplan', htally, rfl⟩ := s.run_eq_ok hresult
    obtain rfl : p = p' := Except.ok.inj (hplan.symm.trans hplan')
    exact hcut tally htally

/-- **A run only moves forward.** Of two phases exactly one precedes the other, unless they are the
same, and a phase that precedes another precedes what this one precedes. Whichever way a run ends,
every phase of it precedes the next. If it returns a result, its phases are those of a run that gets
to all selected tests, or to those up to the one while at which it is interrupted. If it fails, they
are the first of such phases. -/
theorem run_onward (s : Suite σ) {w : World σ ω} (h : w.phase = .parsingOptions) :
    (∀ p : Phase, p.precedes p = false) ∧
    (∀ p q r : Phase, p.precedes q = true → q.precedes r = true → p.precedes r = true) ∧
    (∀ p q : Phase, p ≠ q → (p.precedes q = true ↔ q.precedes p = false)) ∧
    ∃ phases, w.Goes phases (s.run w).2 ∧
      (∀ c ∈ (w.phase :: phases).zip phases, c.1.precedes c.2 = true) ∧
      (∀ result, (s.run w).1 = .ok result → ∃ p n, s.planned w.host = .ok p ∧
        w.phase :: phases = Phase.sequence n ∧
        (result.interrupted = false → n = p.tests.length) ∧
        (result.interrupted = true → ∃ m < p.tests.length, n = m + 1 ∧ s.InterruptedAt w p m)) ∧
      ∀ e, (s.run w).1 = .error e → ∃ n, w.phase :: phases <+: Phase.sequence n ∧
        (∀ e', s.planned w.host = .error e' → n = 0) ∧
        ∀ p, s.planned w.host = .ok p →
          n = p.tests.length ∨ ∃ m < p.tests.length, n = m + 1 ∧ s.InterruptedAt w p m := by
  refine ⟨Phase.precedes_irrefl, fun _ _ _ => Phase.precedes_trans,
    fun _ _ => Phase.precedes_iff_not, ?_⟩
  have hforward {n : Nat} {phases : List Phase} (hphases : phases <+: (Phase.sequence n).tail) :
      w.phase :: phases <+: Phase.sequence n ∧
        ∀ c ∈ (w.phase :: phases).zip phases, c.1.precedes c.2 = true := by
    have hfirst : w.phase :: phases <+: Phase.sequence n :=
      List.cons_prefix_cons.mpr ⟨h, hphases⟩
    exact ⟨hfirst, forall_mem_zip ((Phase.pairwise_sequence n).sublist hfirst.sublist)⟩
  cases hplanned : s.planned w.host with
  | error e =>
    obtain ⟨phases, hphases, hgoes, -⟩ := follows_run_of_error hplanned
    obtain ⟨hfirst, hzip⟩ := hforward hphases
    refine ⟨phases, hgoes, hzip, fun result hresult => ?_, fun _ _ =>
      ⟨0, hfirst, fun _ _ => rfl, fun _ hp => by cases hp⟩⟩
    obtain ⟨p, -, -, hplan, -⟩ := s.run_eq_ok hresult
    cases hplanned.symm.trans ((s.plan_opening w).1.symm.trans hplan)
  | ok p =>
    obtain ⟨n, cut, hn, ⟨phases, hphases, hgoes, hall⟩, hcut⟩ := follows_run_of_planned hplanned
    obtain ⟨hfirst, hzip⟩ := hforward hphases
    refine ⟨phases, hgoes, hzip, fun result hresult => ?_, fun _ _ => ⟨n, hfirst, ?_, ?_⟩⟩
    · refine ⟨p, n, rfl, ?_, fun hi => ?_, fun hi => ?_⟩
      · rw [h, hall result hresult]
        rfl
      · cases hn with
        | all => rfl
        | cut _ => cases hi.symm.trans (hcut result hresult)
      · cases hn with
        | all => cases hi.symm.trans (hcut result hresult)
        | @cut m hm => exact ⟨m, hm.lt, rfl, hm⟩
    · exact fun _ he => by cases he
    · rintro _ ⟨⟩
      cases hn with
      | all => exact Or.inl rfl
      | @cut m hm => exact Or.inr ⟨m, hm.lt, rfl, hm⟩

/-- Of three tests the second is interrupted: the run is not at the third, but it comes to its
end. -/
theorem run_onward_threeTests :
    let s := threeTests (.raise .interrupt)
    let p : Plan := ⟨["test_a", "test_b", "test_c"], [⟨"t"⟩], [], true⟩
    threeTestsWorld.phase = .parsingOptions ∧ s.planned threeTestsWorld.host = .ok p ∧
      (∃ result, (s.run threeTestsWorld).1 = .ok result ∧ result.interrupted = true) ∧
      s.InterruptedAt threeTestsWorld p 1 ∧
      threeTestsWorld.Goes (Phase.sequence 2).tail (s.run threeTestsWorld).2 := by
  intro s p
  have hplanned : s.planned threeTestsWorld.host = .ok p := by decide +kernel
  have hchanges : (s.run threeTestsWorld).2.changes.length = 6 := by decide +kernel
  have hrun : ∃ result, (s.run threeTestsWorld).1 = .ok result ∧ result.interrupted = true :=
    ⟨⟨[⟨"test_a", ⟨"t"⟩⟩], [], [], true, false⟩, by decide +kernel, rfl⟩
  obtain ⟨result, hresult, hi⟩ := hrun
  obtain ⟨-, -, -, phases, hgoes, -, hok, -⟩ := run_onward s (w := threeTestsWorld) rfl
  obtain ⟨p', n, hp', hphases, -, hcut⟩ := hok result hresult
  obtain rfl : p = p' := Except.ok.inj (hplanned.symm.trans hp')
  obtain ⟨m, -, rfl, hm⟩ := hcut hi
  have hlength : phases.length = 6 := by
    rw [← hchanges, hgoes.2]
    simp [threeTestsWorld, World.start, World.changes]
  have hone : m = 1 := by
    have hall := congrArg List.length hphases
    simp only [Phase.sequence, List.length_cons, List.length_append, List.length_map,
      List.length_range, List.length_nil] at hall
    omega
  subst hone
  obtain rfl : phases = (Phase.sequence 2).tail := congrArg List.tail hphases
  exact ⟨rfl, hplanned, ⟨result, hresult, hi⟩, hm, hgoes⟩

end Whole

end Suite

end Golden
