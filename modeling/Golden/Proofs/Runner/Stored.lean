import Golden.Proofs.Runner.Ends
import Golden.Proofs.Runner.Generate
import Golden.Proofs.Unit.Written

/-! # Which files a run touches

Units may do anything to the files. A run itself does nothing to them, except that it stores the
output of a unit that has ended well as its expected output, and then only if it is to generate
expected outputs (`Runner.Yields`). A detector may do something when it looks for leftovers.

* `Runner.output_eq`: captured output is the name of the unit on a line, and what was written.
* `Runner.generate_cases`: whether output is stored when expected outputs are generated.
* `Runner.host_classify`: what lies around the run once the outcome of a unit has been found.
* `Runner.run_stores`: which files a run touches, at every end. -/

namespace Golden.Runner

variable {σ ω : Type} [Sink ω] {r : Runner σ} {u : UnitId} {w : World σ ω} {output : Bytes}

/-! ### Output -/

/-- **The output of a unit** is its name on a line, and then what was written while it was loaded
and run. -/
theorem output_eq {result : Except Signal Unit}
    (h : (r.execute u w).1 = .ok (result, some output)) :
    output = utf8 u.baseline ++ r.surroundings.written u (begun u w) := by
  obtain ⟨hverbose, hopen, hflush⟩ := captured_of_output h
  rw [execute_captured r u hverbose hopen hflush] at h
  have hkept := Surroundings.keeps_loadAndRun_written r.surroundings u (begun u w) _ rfl
  rw [hkept] at h
  cases h
  rfl

/-- Up to the end of a unit, nothing is lost that the units maintain. -/
theorem has_execute {P : σ → Prop} (hl : r.loader.Maintains P) (h : P w.host) :
    P (r.execute u w).2.host := by
  rcases execute_cases r u w with ⟨v, hv⟩ | ⟨-, e, -, he⟩
  · have hhost : v.host = w.host := by cases hv <;> rfl
    obtain ⟨-, stream, hend, -⟩ := hv.execute
    rw [hend]
    have hv : v.Has P := by rwa [World.Has, hhost]
    exact hl.keeps_loadAndRun (s := r.surroundings) u v hv
  · rw [he]
    exact h

/-! ### Outcomes -/

variable [FileSystem σ]

/-- **A file of expected output is needed**, unless the output is expected anyhow. A file that is
there already is kept up to date. -/
def Needed (u : UnitId) (output : Bytes) (host : σ) : Prop :=
  output = utf8 u.baseline → FileSystem.has host u.goldenPath = true

instance (u : UnitId) (output : Bytes) (host : σ) : Decidable (Needed u output host) :=
  inferInstanceAs (Decidable (_ → _))

/-- The files when the output of a unit has taken the place of what was expected. -/
def keep (u : UnitId) (output : Bytes) (host : σ) : Except FileSystemError Unit × σ :=
  if Needed u output host then stored u output host else (.ok (), host)

theorem keep_of_needed {host : σ} (h : Needed u output host) :
    keep u output host = stored u output host :=
  if_pos h

theorem keep_of_not_needed {host : σ} (h : ¬ Needed u output host) :
    keep u output host = (.ok (), host) :=
  if_neg h

/-- **The output of a unit is kept**, unless the sink refuses a line for the operator. There is one
only if output is stored that is expected anyhow. -/
theorem generate_cases (u : UnitId) (output : Bytes) (w : World σ ω) :
    ((generate u output w).1 =
        ((keep u output w.host).1.mapError .fileSystem).map (fun _ => .passed) ∧
      (generate u output w).2.host = (keep u output w.host).2) ∨
    (∃ reason, (generate u output w).1 = .error (.io reason)) ∧
      (generate u output w).2.host = w.host ∧ output = utf8 u.baseline ∧ ¬ Sink.Reliable ω := by
  have hwrite (v : World σ ω) :
      let write : Run σ ω RunError Outcome := writeGolden u output >>= fun _ => pure .passed
      (write v).1 = ((stored u output v.host).1.mapError .fileSystem).map (fun _ => .passed) ∧
        (write v).2.host = (stored u output v.host).2 := by
    obtain ⟨t, ht⟩ := writeGolden_apply u output v
    intro write
    simp only [write, Run.bind_apply, ht]
    cases (stored u output v.host).1 <;> exact ⟨rfl, rfl⟩
  unfold generate
  by_cases hbase : output = utf8 u.baseline
  · rw [if_pos hbase, Run.host_bind]
    by_cases hhas : FileSystem.has w.host u.goldenPath = true
    · rw [if_pos hhas, keep_of_needed fun _ => hhas]
      -- the line for the operator comes first, and the sink may refuse it
      set line := "output file " ++ u.goldenPath.spelling ++
        " is no longer needed; consider removing it"
      have hsay := shows_say (σ := σ) (ω := ω) line
      have hhost : (say line w).2.host = w.host := (hsay.told w).host
      rcases hsay.result w with h | ⟨reason, h⟩
      · rw [Run.bind_ok h, ← hhost]
        exact Or.inl (hwrite _)
      · rw [Run.bind_error h]
        refine Or.inr ⟨⟨reason, rfl⟩, hhost, hbase, fun hr => ?_⟩
        cases (hsay.sure hr w).symm.trans h
    · rw [if_neg hhas, keep_of_not_needed fun h => hhas (h hbase)]
      exact Or.inl ⟨rfl, rfl⟩
  · rw [if_neg hbase, keep_of_needed fun h => absurd h hbase]
    exact Or.inl (hwrite w)

/-- **The run has output to store**: it generates expected outputs, the unit has ended without a
signal, its output was captured, and a file is needed. -/
structure Yields (r : Runner σ) (u : UnitId) (w : World σ ω) (output : Bytes) : Prop where
  generates : r.settings.generate = true
  captures : r.settings.verbose = 0
  ended : (r.execute u w).1 = .ok (.ok (), some output)
  needed : Needed u output (r.execute u w).2.host

/-- How the outcome of a unit is found that has output to store. -/
theorem Yields.classify_eq (h : r.Yields u w output) :
    r.classify u w = generate u output (r.execute u w).2 := by
  rw [classify_apply, h.ended]
  dsimp only [settle]
  rw [if_pos h.generates]

/-- **Output is stored for units that pass**, unless the files or the sink refuse. -/
theorem Yields.result (h : r.Yields u w output) : (r.classify u w).1 = .ok .passed ∨
    (∃ e, (r.classify u w).1 = .error (.fileSystem e)) ∨
    ∃ reason, (r.classify u w).1 = .error (.io reason) := by
  rw [h.classify_eq]
  rcases generate_cases u output (r.execute u w).2 with ⟨hresult, -⟩ | ⟨hio, -⟩
  · rw [hresult]
    cases (keep u output (r.execute u w).2.host).1 with
    | ok _ => exact Or.inl rfl
    | error e => exact Or.inr (Or.inl ⟨e, rfl⟩)
  · exact Or.inr (Or.inr hio)

/-- The output is stored, if nothing has to be said that the sink may refuse. -/
theorem Yields.stores (h : r.Yields u w output)
    (hfirm : Sink.Reliable ω ∨ output ≠ utf8 u.baseline) :
    (r.classify u w).2.host = (stored u output (r.execute u w).2.host).2 := by
  rw [h.classify_eq]
  rcases generate_cases u output (r.execute u w).2 with ⟨-, hhost⟩ | ⟨-, -, hbase, hsink⟩
  · rw [hhost, keep_of_needed h.needed]
  · exact (hfirm.elim hsink fun hne => hne hbase).elim

/-- **What lies around the run when the outcome of a unit has been found**: what the unit has left,
unless there is output to store. -/
theorem host_classify (r : Runner σ) (u : UnitId) (w : World σ ω) :
    (r.classify u w).2.host = (r.execute u w).2.host ∨ ∃ output, r.Yields u w output ∧
      (r.classify u w).2.host = (stored u output (r.execute u w).2.host).2 := by
  rw [classify_apply]
  cases hx : (r.execute u w).1 with
  | error e => exact Or.inl rfl
  | ok x =>
    rcases x with ⟨signal | _, _ | output⟩
    · exact Or.inl ((shows_report r u signal).told _).host
    · exact Or.inl ((shows_report r u signal).told _).host
    · exact Or.inl rfl
    · dsimp only [settle]
      split_ifs with hgen
      · rcases generate_cases u output (r.execute u w).2 with ⟨-, hhost⟩ | ⟨-, hhost, -⟩
        · rw [hhost, keep]
          split_ifs with hneeded
          · exact Or.inr ⟨output, ⟨hgen, (captured_of_output hx).1, hx, hneeded⟩, rfl⟩
          · exact Or.inl rfl
        · exact Or.inl hhost
      · rw [compare_apply]
        cases expected (r.execute u w).2.host u with
        | error e => exact Or.inl rfl
        | ok golden => exact Or.inl ((shows_judge r u output golden).told _).host

/-! ### Whole runs -/

/-- A run is interrupted exactly if no outcome is found for this reason. -/
theorem run_interrupted_iff : (r.run u w).1 = .error .interrupted ↔
    (r.classify u (ready u w)).1 = .error .interrupted := by
  refine ⟨not_imp_not.mp run_ne_interrupted, fun h => ?_⟩
  obtain ⟨t, ht⟩ := run_of_scanned (r := r) (w := w) fun hne => absurd h hne
  rw [ht]
  exact h

/-- A unit whose output is stored has passed, and has not been interrupted. -/
theorem Yields.run (h : r.Yields u (ready u w) output) :
    (r.run u w).1 ≠ .error .interrupted ∧ ∀ o, (r.run u w).1 = .ok o → o = .passed := by
  rw [Ne, run_interrupted_iff]
  constructor
  · rcases h.result with hp | ⟨e, he⟩ | ⟨reason, he⟩ <;> simp [*]
  · intro o ho
    have hclass := (run_eq_ok.mp ho).1
    rcases h.result with hp | ⟨e, he⟩ | ⟨reason, he⟩
    · exact Except.ok.inj (hclass.symm.trans hp)
    · cases hclass.symm.trans he
    · cases hclass.symm.trans he

/-- The end of a run does nothing to the files, unless a detector does when it looks for
leftovers. -/
theorem host_run (r : Runner σ) (u : UnitId) (w : World σ ω) : (r.run u w).2.host =
    if (r.run u w).1 = .error .interrupted then (r.classify u (ready u w)).2.host
    else r.searched (r.classify u (ready u w)).2.host := by
  have hend : (r.run u w).2.host = (r.scanned u w).host := by
    by_cases h : r.Scanned u w
    · obtain ⟨t, ht⟩ := run_of_scanned h
      rw [ht]
    · rw [run_of_not_scanned h]
  rw [hend]
  split_ifs with hi
  · rw [scanned_of_interrupted (run_interrupted_iff.mp hi)]
  · rw [scanned_of_ne (mt run_interrupted_iff.mpr hi)]
    exact (r.scan_spec _).1.host

/-- **Which files a run touches**, whatever it returns. Until the unit has ended, these are the
files that the unit touches, or those that it loads. Then at most its output is stored, which is its
name on a line and what was written meanwhile. A run that is not to generate expected outputs does
not even do that, nor does a run whose unit does not pass. The detector, if any, comes last. -/
theorem run_stores (r : Runner σ) (u : UnitId) (w : World σ ω) :
    let ended := (r.execute u (ready u w)).2.host
    let settled := (r.classify u (ready u w)).2.host
    (∀ P : σ → Prop, r.loader.Maintains P → P w.host → P ended) ∧
    (settled = ended ∨ ∃ output, r.Yields u (ready u w) output ∧
      settled = (stored u output ended).2) ∧
    (∀ output, r.Yields u (ready u w) output →
      output = utf8 u.baseline ++ r.surroundings.written u (begun u (ready u w)) ∧
      (Sink.Reliable ω ∨ output ≠ utf8 u.baseline → settled = (stored u output ended).2)) ∧
    (r.settings.generate = false ∨ (∃ o, (r.run u w).1 = .ok o ∧ o ≠ .passed) ∨
      (r.run u w).1 = .error .interrupted → settled = ended) ∧
    (r.run u w).2.host =
      if (r.run u w).1 = .error .interrupted then settled else r.searched settled := by
  intro ended settled
  have hcases := host_classify r u (ready u w)
  refine ⟨fun P hl hP => has_execute hl ?_, hcases,
    fun output hy => ⟨output_eq hy.ended, hy.stores⟩, fun h => ?_, host_run r u w⟩
  · obtain ⟨t, ht⟩ := ready_eq u w
    rwa [ht]
  · refine hcases.resolve_right fun ⟨output, hy, _⟩ => ?_
    obtain ⟨hinterrupted, hpassed⟩ := hy.run
    rcases h with hgen | ⟨o, ho, hne⟩ | hi
    · cases hgen.symm.trans hy.generates
    · exact hne (hpassed o ho)
    · exact hinterrupted hi

/-- A test that loads a helper has output to store, because the helper writes a line. -/
example : (helpedRunner true).Yields ⟨"test_a", ⟨"t"⟩⟩
    (ready ⟨"test_a", ⟨"t"⟩⟩ (World.start .empty Memory.empty)) (utf8 "test_a\nready\n") where
  generates := rfl
  captures := rfl
  ended := by decide +kernel
  needed := by decide +kernel

end Golden.Runner
