import Golden.Proofs.Files
import Golden.Proofs.Runner.Outcomes

/-! # Expected outputs, written and compared

A run that generates writes the output of each unit to its file of expected output, unless there is
no such file and the output is what is expected anyhow. Either way, the output is what is expected
from then on (`Runner.Adopted`), so that a run which compares finds the same outcomes.

* `Runner.generated_run`: the outcome of a unit, in view of the files that its run leaves.
* `Runner.runAll_twice`: a round that compares has the outcomes of the round that generated. -/

namespace Golden.Runner

variable {σ ω : Type} [FileSystem σ] {r : Runner σ} {u : UnitId} {output : Bytes}

/-! ### Expected outputs -/

/-- The output is what is expected, and other files are as they were before. -/
structure Adopted (u : UnitId) (output : Bytes) (before after : σ) : Prop where
  expected : expected after u = .ok output
  others : ∀ q : Path, q.Apart u.goldenPath → FileSystem.read after q = FileSystem.read before q

/-- The files after the expected output of a unit has been written. -/
def stored (u : UnitId) (output : Bytes) (host : σ) : Except FileSystemError Unit × σ :=
  match u.goldenPath.parent? with
  | none => FileSystem.write host u.goldenPath output
  | some directory =>
    match FileSystem.makeDirectories host directory with
    | (.error e, host) => (.error e, host)
    | (.ok (), host) => FileSystem.write host u.goldenPath output

theorem writeGolden_apply (u : UnitId) (output : Bytes) (w : World σ ω) :
    ∃ t, writeGolden u output w = ((stored u output w.host).1.mapError .fileSystem,
      { w with host := (stored u output w.host).2, trail := t }) := by
  have hwrite (v : World σ ω) : ∃ t,
      (Run.mapError .fileSystem (writeGolden.changeHost fun s =>
        FileSystem.write s u.goldenPath output) >>= fun _ =>
          Run.note (.wroteGolden u.goldenPath) : Run σ ω RunError Unit) v =
        ((FileSystem.write v.host u.goldenPath output).1.mapError .fileSystem,
          { v with host := (FileSystem.write v.host u.goldenPath output).2, trail := t }) := by
    rw [Run.bind_apply, Run.mapError_apply, writeGolden.changeHost]
    cases FileSystem.write v.host u.goldenPath output with
    | mk result host => cases result <;> exact ⟨_, rfl⟩
  unfold writeGolden stored
  cases u.goldenPath.parent? with
  | none => exact hwrite w
  | some directory =>
    dsimp only
    rw [Run.bind_apply, Run.mapError_apply, writeGolden.changeHost]
    cases FileSystem.makeDirectories w.host directory with
    | mk result host =>
      cases result with
      | error e => exact ⟨w.trail, rfl⟩
      | ok _ => exact hwrite { w with host }

/-- What has been written is expected. -/
theorem adopted_stored (hf : FileSystem.Faithful σ) {host : σ}
    (h : (stored u output host).1 = .ok ()) : Adopted u output host (stored u output host).2 := by
  have hwrite (s : σ) (h : (FileSystem.write s u.goldenPath output).1 = .ok ()) :
      Adopted u output s (FileSystem.write s u.goldenPath output).2 := by
    refine ⟨?_, hf.others s _ _ h⟩
    unfold expected
    rw [hf.written s _ _ h]
  unfold stored at h ⊢
  cases hparent : u.goldenPath.parent? with
  | none =>
    rw [hparent] at h
    exact hwrite host h
  | some directory =>
    rw [hparent] at h
    dsimp only at h ⊢
    cases hmake : FileSystem.makeDirectories host directory with
    | mk result middle =>
      rw [hmake] at h
      cases result with
      | error e => cases h
      | ok _ =>
        have hmade : (FileSystem.makeDirectories host directory).1 = .ok () := by rw [hmake]
        have hmiddle := hf.directories host directory hmade
        rw [hmake] at hmiddle
        obtain ⟨hexpected, hothers⟩ := hwrite middle h
        exact ⟨hexpected, fun q hq => (hothers q hq).trans (hmiddle q (hq.parent hparent))⟩

/-- The output becomes what is expected, and nothing else changes but what is for the operator. -/
def Adopts (u : UnitId) (output : Bytes) (w v : World σ ω) : Prop :=
  Adopted u output w.host v.host ∧ ∃ host, World.Told { w with host } v

theorem Adopts.of_told {w v x : World σ ω} (h : w.Told v) (hv : Adopts u output v x) :
    Adopts u output w x := by
  obtain ⟨hadopted, host, htold⟩ := hv
  obtain ⟨stream, phase, trail, leaked, hstream, rfl⟩ := h
  exact ⟨hadopted, host, World.Told.trans ⟨stream, phase, trail, leaked, hstream, rfl⟩ htold⟩

theorem adopts_writeGolden (hf : FileSystem.Faithful σ) {w : World σ ω}
    (h : (writeGolden u output w).1 = .ok ()) :
    Adopts u output w (writeGolden u output w).2 := by
  obtain ⟨t, ht⟩ := writeGolden_apply u output w
  rw [ht] at h ⊢
  cases hstored : (stored u output w.host).1 with
  | error e =>
    rw [hstored] at h
    cases h
  | ok _ =>
    exact ⟨adopted_stored hf hstored, (stored u output w.host).2, w.stream, w.phase, t, w.leaked,
      rfl, rfl⟩

variable [Sink ω] {w : World σ ω}

/-- **The output of a unit becomes what is expected**, whether it is written or not. -/
theorem generate_spec (hf : FileSystem.Faithful σ) {o : Outcome}
    (h : (generate u output w).1 = .ok o) :
    o = .passed ∧ Adopts u output w (generate u output w).2 := by
  have hwrite (v : World σ ω) (hv : w.Told v)
      (h : ((writeGolden u output >>= fun _ => pure .passed : Run σ ω RunError Outcome) v).1 =
        .ok o) : o = .passed ∧ Adopts u output w
          ((writeGolden u output >>= fun _ => pure .passed : Run σ ω RunError Outcome) v).2 := by
    obtain ⟨_, hw, ho⟩ := Run.bind_eq_ok.mp h
    rw [Run.bind_ok hw]
    exact ⟨(Except.ok.inj ho).symm, .of_told hv (adopts_writeGolden hf hw)⟩
  unfold generate at h ⊢
  split_ifs at h ⊢ with hbase
  · rw [Run.host_bind] at h ⊢
    split_ifs at h ⊢ with hhas
    · obtain ⟨_, hsay, hrest⟩ := Run.bind_eq_ok.mp h
      rw [Run.bind_ok hsay]
      exact hwrite _ ((shows_say _).told w) hrest
    · obtain ⟨p, hread⟩ := hf.absent w.host u.goldenPath (by simpa using hhas)
      refine ⟨(Except.ok.inj h).symm, ⟨?_, fun _ _ => rfl⟩, w.host, .refl _⟩
      rw [hbase, Run.pure_apply, expected, hread]
  · exact hwrite w (.refl w) h

/-! ### Runs of a unit -/

/-- The outcome of a unit whose run generates is that of a comparison afterwards. -/
theorem classify_generate (hf : FileSystem.Faithful σ) (hgen : r.settings.generate = true)
    (hverbose : r.settings.verbose = 0) (hw : w.Open) {o : Outcome}
    (h : (r.classify u w).1 = .ok o) :
    ∃ x, (r.execute u w).1 = .ok x ∧ finding u (r.classify u w).2.host x = .ok o ∧
      (x.1 = .ok () → o = .passed) ∧
      (∀ q : Path, q.Apart u.goldenPath → FileSystem.read (r.classify u w).2.host q =
        FileSystem.read (r.execute u w).2.host q) ∧
      ∃ host, World.Told { (r.execute u w).2 with host } (r.classify u w).2 := by
  obtain ⟨x, hx⟩ := execute_of_classify h
  refine ⟨x, hx, ?_⟩
  rw [classify_apply, hx] at h ⊢
  rcases x with ⟨signal | _, output⟩
  · dsimp only at h ⊢
    have htold := (shows_report r u signal).told (r.execute u w).2
    refine ⟨(shows_report r u signal).eq_of_ok h, fun hx => ?_, fun q _ => ?_,
      (r.execute u w).2.host, htold⟩
    · cases hx
    · rw [htold.host]
  · have houtput : output = some ((r.loaded u w).2.stream.captured.getD []) := by
      have := congrArg Prod.snd (execute_spec hw hx).1
      rwa [if_pos hverbose] at this
    subst houtput
    dsimp only [settle] at h ⊢
    rw [if_pos hgen] at h ⊢
    obtain ⟨rfl, hadopted, htold⟩ := generate_spec hf h
    refine ⟨?_, fun _ => rfl, hadopted.others, htold⟩
    unfold finding
    rw [hadopted.expected]
    simp [verdict]

/-- The detector does not change what is in the files. -/
def Unobtrusive (r : Runner σ) : Prop :=
  ∀ d, r.detector = some d → d.Spares FileSystem.SameContents

theorem searched_contents (h : r.Unobtrusive) (host : σ) :
    FileSystem.SameContents host (r.searched host) :=
  searched_spared (fun _ _ => rfl) h host

/-- What is known of a unit that ended as given, and of what its run in the world `w` has left, if
the run generates. -/
structure Generated (r : Runner σ) (u : UnitId) (w : World σ ω)
    (x : Except Signal Unit × Option Bytes) (o : Outcome) : Prop where
  ended : (r.execute u (ready u w)).1 = .ok x
  found : finding u (r.run u w).2.host x = .ok o
  passed : x.1 = .ok () → o = .passed
  others : ∀ q : Path, q.Apart u.goldenPath →
    FileSystem.read (r.run u w).2.host q = FileSystem.read w.host q
  isOpen : (r.run u w).2.Open
  modules : (r.run u w).2.modules =
    ((r.execute u (ready u w)).2.modules.unloadNew (ready u w).modules.names).2

/-- **The outcome of a unit whose run generates** is the one that its run is found to have in the
files that it leaves. Other expected outputs are left alone. -/
theorem generated_run (hf : FileSystem.Faithful σ) (hgen : r.settings.generate = true)
    (hverbose : r.settings.verbose = 0) (hl : r.loader.Closed) (hd : r.Unobtrusive) (hw : w.Open)
    {o : Outcome} (h : (r.run u w).1 = .ok o) : ∃ x, r.Generated u w x o := by
  obtain ⟨hclass, -⟩ := run_eq_ok.mp h
  have hready := open_ready (u := u) hw
  obtain ⟨x, hx, hfinding, hpassed, hothers, host, htold⟩ :=
    classify_generate hf hgen hverbose hready hclass
  have hexecute : (r.execute u (ready u w)).2.host = w.host := by
    rw [execute_host hl, host_ready]
  obtain ⟨t, ht⟩ := run_snd h
  obtain ⟨hscan, -⟩ := r.scan_spec (r.classify u (ready u w)).2
  have hhost : (r.run u w).2.host = r.searched (r.classify u (ready u w)).2.host := by
    rw [ht]
    exact hscan.host
  have hcontents := searched_contents hd (r.classify u (ready u w)).2.host
  refine ⟨x, hx, ?_, hpassed, fun q hq => ?_, ?_, ?_⟩
  · rw [hhost, ← finding_congr (hcontents u.goldenPath)]
    exact hfinding
  · rw [hhost, ← hcontents q, hothers q hq, hexecute]
  · rw [ht]
    exact hscan.isOpen (htold.isOpen (open_execute hready hx))
  · rw [ht]
    exact congrArg (fun m => (ModuleTable.unloadNew m _).2) (hscan.modules.trans htold.modules)

/-- A unit that fails when expected outputs are generated does so by itself. -/
theorem failure_of_generated {x : Except Signal Unit × Option Bytes} {reason : String}
    (hw : (ready u w).Open) (h : r.Generated u w x (.failed reason)) :
    (r.loaded u (ready u w)).1 = .error (.failure reason) := by
  rw [← congrArg Prod.fst (execute_spec hw h.ended).1]
  have hfound := h.found
  rcases x with ⟨signal | _, output⟩
  · cases signal <;> simp_all [finding, Signal.outcome]
  · cases h.passed rfl

/-! ### Two rounds -/

/-- **Two rounds**: one runner writes expected outputs, and another one compares with them what the
same closed units put out under the same circumstances. -/
structure Rounds (r r' : Runner σ) : Prop where
  generates : r.settings.generate = true
  compares : r'.settings.generate = false
  captures : r.settings.verbose = 0
  surroundings : r.surroundings = r'.surroundings
  closed : r.loader.Closed
  faithful : FileSystem.Faithful σ
  unobtrusive : r.Unobtrusive
  unobtrusive' : r'.Unobtrusive

section Rounds
variable {τ : Type} [Sink τ] {r' : Runner σ} {w' : World σ τ}

theorem Rounds.generated (hr : r.Rounds r') (hw : w.Open) {o : Outcome}
    (h : (r.run u w).1 = .ok o) : ∃ x, r.Generated u w x o :=
  generated_run hr.faithful hr.generates hr.captures hr.closed hr.unobtrusive hw h

omit [FileSystem σ] [Sink ω] [Sink τ] in
theorem matched_ready (hw : w.Matched w') : (ready u w).Matched (ready u w') := by
  obtain ⟨t, ht⟩ := ready_eq u w
  obtain ⟨t', ht'⟩ := ready_eq u w'
  rw [ht, ht']
  exact ⟨hw.modules.erase u.name, hw.left, hw.right⟩

/-- **A unit in two rounds**: if the second round finds what the first one left, it has the same
outcome. -/
theorem run_again (hr : r.Rounds r') (hw : w.Matched w') {o : Outcome}
    (h : (r.run u w).1 = .ok o)
    (hgolden : FileSystem.read (r.run u w).2.host u.goldenPath =
      FileSystem.read w'.host u.goldenPath) :
    (∀ o', (r'.run u w').1 = .ok o' → o' = o ∧ (r.run u w).2.Matched (r'.run u w').2 ∧
      FileSystem.SameContents w'.host (r'.run u w').2.host) ∧
    (Sink.Reliable τ → (r'.run u w').1 = .ok o) := by
  obtain ⟨x, hx, hfinding, -, -, hopen, hmodules⟩ := hr.generated hw.left h
  have hready := matched_ready (u := u) hw
  have hclosed' : r'.loader.Closed := by
    have : r.loader = r'.loader := congrArg Surroundings.loader hr.surroundings
    exact this ▸ hr.closed
  have hagree {x'} (hx' : (r'.execute u (ready u w')).1 = .ok x') :=
    execute_agree hr.surroundings hr.closed (Or.inl hr.captures) hready hx hx'
  have hfinding' {x'} (hx' : (r'.execute u (ready u w')).1 = .ok x') :
      finding u (r'.execute u (ready u w')).2.host x' = .ok o := by
    rw [execute_host hclosed', host_ready, ← finding_congr hgolden, ← (hagree hx').1]
    exact hfinding
  refine ⟨fun o' ho' => ?_, fun hrel => ?_⟩
  · obtain ⟨⟨x', hx', hfound⟩, hopen', hhost, -, hmodules'⟩ := run_spec hr.compares hw.right ho'
    obtain ⟨-, hmatched⟩ := hagree hx'
    refine ⟨Except.ok.inj (hfound.symm.trans (hfinding' hx')), ⟨?_, hopen, hopen'⟩, ?_⟩
    · rw [hmodules, hmodules', ← hready.modules.names]
      exact hmatched.modules.unloadNew _
    · rw [hhost, execute_host hclosed', host_ready]
      exact searched_contents hr.unobtrusive' _
  · obtain ⟨x', hx'⟩ := execute_sure (r := r') (u := u) hrel hready.right
    exact run_of_finding hr.compares hrel hx' (hfinding' hx')

end Rounds

/-! ### Lists of units -/

/-- Runs units one after the other. -/
def runAll (r : Runner σ) (us : List UnitId) : Run σ ω RunError (List Outcome) := us.mapM r.run

theorem runAll_cons (r : Runner σ) (u : UnitId) (us : List UnitId) :
    (r.runAll (u :: us) : Run σ ω RunError (List Outcome)) =
      r.run u >>= fun o => r.runAll us >>= fun outcomes => pure (o :: outcomes) :=
  List.mapM_cons

/-- A run of several units that returns outcomes, taken apart. -/
theorem runAll_cons_eq_ok {us : List UnitId} {outcomes : List Outcome}
    (h : (r.runAll (u :: us) w).1 = .ok outcomes) :
    ∃ o rest, (r.run u w).1 = .ok o ∧ (r.runAll us (r.run u w).2).1 = .ok rest ∧
      outcomes = o :: rest ∧ (r.runAll (u :: us) w).2 = (r.runAll us (r.run u w).2).2 := by
  rw [runAll_cons] at h ⊢
  obtain ⟨o, ho, h⟩ := Run.bind_eq_ok.mp h
  obtain ⟨rest, hrest, h⟩ := Run.bind_eq_ok.mp h
  rw [Run.bind_ok ho, Run.bind_ok hrest]
  exact ⟨o, rest, ho, hrest, (Except.ok.inj h).symm, rfl⟩

section All
variable {τ : Type} [Sink τ] {r' : Runner σ}

/-- A round that generates leaves all files alone that are apart from expected outputs. -/
theorem runAll_others (hr : r.Rounds r') : ∀ {us : List UnitId} {w : World σ ω}
    {outcomes : List Outcome}, w.Open → (r.runAll us w).1 = .ok outcomes →
    ∀ q : Path, (∀ u ∈ us, q.Apart u.goldenPath) →
      FileSystem.read (r.runAll us w).2.host q = FileSystem.read w.host q
  | [], _, _, _, _, _, _ => rfl
  | u :: us, w, outcomes, hw, h, q, hq => by
    obtain ⟨o, rest, ho, hrest, -, hend⟩ := runAll_cons_eq_ok h
    obtain ⟨x, hgenerated⟩ := hr.generated hw ho
    obtain ⟨hu, hus⟩ := List.forall_mem_cons.mp hq
    rw [hend, runAll_others hr hgenerated.isOpen hrest q hus, hgenerated.others q hu]

/-- The expected outputs of the units lie apart from each other. -/
def GoldenApart (us : List UnitId) : Prop :=
  us.Pairwise fun u v => u.goldenPath.Apart v.goldenPath

instance (us : List UnitId) : Decidable (GoldenApart us) :=
  inferInstanceAs (Decidable (List.Pairwise _ _))

theorem runAll_again (hr : r.Rounds r') : ∀ {us : List UnitId} {w : World σ ω} {w' : World σ τ}
    {outcomes : List Outcome}, GoldenApart us → w.Matched w' →
    (r.runAll us w).1 = .ok outcomes →
    FileSystem.SameContents (r.runAll us w).2.host w'.host →
    (∀ outcomes', (r'.runAll us w').1 = .ok outcomes' → outcomes' = outcomes) ∧
    (Sink.Reliable τ → (r'.runAll us w').1 = .ok outcomes)
  | [], _, _, _, _, _, h, _ => by
    obtain rfl := Except.ok.inj h
    exact ⟨fun _ h' => (Except.ok.inj h').symm, fun _ => rfl⟩
  | u :: us, w, w', outcomes, hapart, hw, h, hsame => by
    obtain ⟨hu, hus⟩ := List.pairwise_cons.mp hapart
    obtain ⟨o, rest, ho, hrest, rfl, hend⟩ := runAll_cons_eq_ok h
    obtain ⟨x, hgenerated⟩ := hr.generated hw.left ho
    rw [hend] at hsame
    -- The expected output of the unit stays as it is while the other units run.
    have hgolden : FileSystem.read (r.run u w).2.host u.goldenPath =
        FileSystem.read w'.host u.goldenPath := by
      rw [← hsame, runAll_others hr hgenerated.isOpen hrest _ hu]
    obtain ⟨hagain, hsure⟩ := run_again hr hw ho hgolden
    refine ⟨fun outcomes' h' => ?_, fun hrel => ?_⟩
    · obtain ⟨o', rest', ho', hrest', rfl, -⟩ := runAll_cons_eq_ok h'
      obtain ⟨rfl, hmatched, hcontents⟩ := hagain o' ho'
      obtain ⟨ih, -⟩ := runAll_again hr hus hmatched hrest (hsame.trans hcontents)
      rw [ih rest' hrest']
    · have ho' := hsure hrel
      obtain ⟨-, hmatched, hcontents⟩ := hagain o ho'
      obtain ⟨-, ih⟩ := runAll_again hr hus hmatched hrest (hsame.trans hcontents)
      rw [runAll_cons, Run.bind_ok ho', Run.bind_ok (ih hrel)]
      rfl

/-- A unit that fails in a round that generates does so by itself. -/
theorem failed_of_runAll (hr : r.Rounds r') : ∀ {us : List UnitId} {w : World σ ω}
    {outcomes : List Outcome}, w.Open → (r.runAll us w).1 = .ok outcomes →
    ∀ e ∈ us.zip outcomes, ∀ reason, e.2 = .failed reason →
      ∃ v : World σ ω, (r.surroundings.loadAndRun e.1 v).1 = .error (.failure reason)
  | [], _, _, _, _, e, he, _, _ => by cases he
  | u :: us, w, outcomes, hw, h, e, he, reason, hreason => by
    obtain ⟨o, rest, ho, hrest, rfl, -⟩ := runAll_cons_eq_ok h
    obtain ⟨x, hgenerated⟩ := hr.generated hw ho
    rw [List.zip_cons_cons] at he
    rcases List.mem_cons.mp he with rfl | he
    · obtain rfl : o = .failed reason := hreason
      exact ⟨_, failure_of_generated (open_ready hw) hgenerated⟩
    · exact failed_of_runAll hr hgenerated.isOpen hrest e he reason hreason

omit [Sink τ] in
/-- The files that a round leaves. -/
def filesAfter (r : Runner σ) (us : List UnitId) (host : σ) (sink : ω) : σ :=
  (r.runAll us (.start host sink)).2.host

/-- **A round that compares finds the outcomes of the round that generated**, from the files that
the latter has left. No comparison fails: whatever unit fails does so by itself. -/
theorem runAll_twice (hr : r.Rounds r') {us : List UnitId} (hapart : GoldenApart us) {host : σ}
    {sink : ω} {outcomes : List Outcome} (h : (r.runAll us (.start host sink)).1 = .ok outcomes)
    (sink' : τ) :
    (∀ outcomes', (r'.runAll us (.start (r.filesAfter us host sink) sink')).1 = .ok outcomes' →
      outcomes' = outcomes) ∧
    (Sink.Reliable τ →
      (r'.runAll us (.start (r.filesAfter us host sink) sink')).1 = .ok outcomes) ∧
    ∀ e ∈ us.zip outcomes, ∀ reason, e.2 = .failed reason →
      ∃ v : World σ ω, (r.surroundings.loadAndRun e.1 v).1 = .error (.failure reason) := by
  have hw : (World.start host sink).Matched (World.start (r.filesAfter us host sink) sink') :=
    ⟨⟨rfl, rfl⟩, rfl, rfl⟩
  obtain ⟨hagain, hsure⟩ := runAll_again hr hapart hw h fun _ => rfl
  exact ⟨hagain, hsure, failed_of_runAll hr hw.left h⟩

end All

/-! ### Two tests and a helper -/

/-- Two tests that load a helper, which writes a line when it is loaded for the first time. -/
def helped : Registry Shelf :=
  ⟨[("helper", fun _ => .print "ready" .done), ("test_a", fun _ => .require "helper" .done),
    ("test_b", fun _ => .require "helper" .done)]⟩

/-- A runner of these tests. -/
def helpedRunner (generate : Bool) : Runner Shelf where
  loader := helped.loader
  settings := { (default : Settings) with generate }
  detector := none

/-- The two tests. -/
def helpedUnits : List UnitId := [⟨"test_a", ⟨"t"⟩⟩, ⟨"test_b", ⟨"t"⟩⟩]

theorem closed_helped : helped.loader.Closed := by
  refine Registry.closed_loader fun e he c => ?_
  simp only [helped, List.mem_cons, List.not_mem_nil, or_false] at he
  rcases he with rfl | rfl | rfl <;>
  · refine ⟨id, fun r => ?_⟩
    cases r <;> exact id

theorem rounds_helped : (helpedRunner true).Rounds (helpedRunner false) where
  generates := rfl
  compares := rfl
  captures := rfl
  surroundings := rfl
  closed := closed_helped
  faithful := Shelf.faithful
  unobtrusive := fun _ h => by cases h
  unobtrusive' := fun _ h => by cases h

/-- Only the first of the tests writes what is not expected anyhow. -/
theorem runAll_twice_helped :
    (∀ outcomes, ((helpedRunner false).runAll helpedUnits
      (World.start ((helpedRunner true).filesAfter helpedUnits .empty Memory.empty)
        Memory.empty)).1 = .ok outcomes → outcomes = [.passed, .passed]) ∧
    (Sink.Reliable Memory → ((helpedRunner false).runAll helpedUnits
      (World.start ((helpedRunner true).filesAfter helpedUnits .empty Memory.empty)
        Memory.empty)).1 = .ok [.passed, .passed]) ∧
    ∀ e ∈ helpedUnits.zip [Outcome.passed, .passed], ∀ reason, e.2 = .failed reason →
      ∃ v : World Shelf Memory, ((helpedRunner true).surroundings.loadAndRun e.1 v).1 =
        .error (.failure reason) := by
  have hapart : GoldenApart helpedUnits := by decide +kernel
  have h : ((helpedRunner true).runAll helpedUnits (World.start .empty Memory.empty)).1 =
      .ok [.passed, .passed] := by decide +kernel
  exact runAll_twice rounds_helped hapart h Memory.empty

end Golden.Runner
