import Golden.Proofs.Runner.Containment
import Golden.Proofs.Runner.Loaded

/-! # Tidying up

When the outcome of a unit has been found, a run looks for leftovers, tells the operator if there
are any, keeps them in mind, and unloads new tests (`Runner.Tidied`). But if the operator cannot be
told, the run ends there: the leftovers are lost, the tests stay loaded, and the error of the sink
takes the place of whatever has come of the unit.

* `Runner.leaked_classify`: up to the search for leftovers, none are kept in mind.
* `Runner.scan_leaked`: leftovers are kept in mind once the operator has been told.
* `Runner.run_tidied`: a run tidies up exactly if the operator can be told.
* `Runner.run_untidied`: a run that does not. -/

namespace Golden

variable {σ ω : Type}

/-- What is kept in mind of leftovers. -/
def World.Recalls (items : List String) (w : World σ ω) : Prop := w.leaked = items

variable [Sink ω] {items : List String}

/-! ### Units -/

omit [Sink ω] in
theorem World.silent_recalls : Run.Silent (World.Recalls (σ := σ) (ω := ω) items) :=
  ⟨fun _ _ h => h, fun _ _ h => h, fun _ _ h => h⟩

/-- The load of a unit has nothing to do with what is kept in mind. -/
theorem Surroundings.recalls_loadAndRun (s : Surroundings σ) (u : UnitId) :
    Run.Keeps (World.Recalls items) (s.loadAndRun u : Run σ ω Signal Unit) :=
  keeps_loadAndRun World.silent_recalls (fun _ _ h => h) (fun _ _ _ _ h => h) (fun _ _ _ h => h)
    (fun _ _ h => h) (fun _ _ t _ c => Behaviour.Every.trivial (t c)) u

namespace Runner

variable {r : Runner σ} {u : UnitId} {w : World σ ω}

theorem tolerant_recalls : Tolerant (World.Recalls (σ := σ) (ω := ω) items) :=
  ⟨fun _ _ h => h, fun _ _ h => h, fun _ h => h, fun _ _ h => h⟩

variable [FileSystem σ]

/-- **Up to the search for leftovers**, none are kept in mind. -/
theorem leaked_classify (r : Runner σ) (u : UnitId) (w : World σ ω) :
    (r.classify u w).2.leaked = w.leaked :=
  tolerant_recalls.classify
    (keeps_execute World.silent_recalls (r.surroundings.recalls_loadAndRun u) w rfl)

/-! ### Leftovers -/

section Leftovers
omit [FileSystem σ]

/-- **An action that keeps items in mind** if it goes well, and none otherwise. -/
def Recalled (x : Run σ ω RunError PUnit) (found : List String) : Prop :=
  ∀ w, ((x w).1 = .ok ⟨⟩ → (x w).2.leaked = w.leaked ++ found) ∧
    ((x w).1 ≠ .ok ⟨⟩ → (x w).2.leaked = w.leaked)

omit [Sink ω] in
theorem recalled_pure : Recalled (pure ⟨⟩ : Run σ ω RunError PUnit) [] :=
  fun _ => ⟨fun _ => (List.append_nil _).symm, fun h => absurd rfl h⟩

omit [Sink ω] in
theorem recalled_notes {x : Run σ ω RunError PUnit} {found : List String} (items : List String)
    (h : Recalled x found) :
    Recalled ((items.forM fun item => Run.note (.leaked item)) >>= fun _ => x) found := by
  intro w
  obtain ⟨t, ht⟩ := Run.forM_note (ε := RunError) Event.leaked items w
  rw [Run.bind_apply, ht]
  exact h { w with trail := t }

/-- Once the operator has been told of items, they are kept in mind. -/
theorem recalled_say (line : String) (found : List String) :
    Recalled (σ := σ) (ω := ω) (say line >>= fun _ =>
      Run.update fun w => ((), { w with leaked := w.leaked ++ found })) found := by
  intro w
  have htold : (say line w : Except RunError Unit × World σ ω).2.Recalls w.leaked :=
    keeps_say tolerant_recalls line w rfl
  cases hsay : (say line w : Except RunError Unit × World σ ω).1 with
  | ok _ =>
    rw [Run.bind_ok hsay]
    exact ⟨fun _ => congrArg (· ++ found) htold, fun h => absurd rfl h⟩
  | error e =>
    rw [Run.bind_error hsay]
    exact ⟨fun h => absurd h (by simp), fun _ => htold⟩

/-- **Leftovers are kept in mind** if the search for them goes well. -/
theorem scan_leaked (r : Runner σ) (w : World σ ω) :
    ((r.scan w).1 = .ok () → (r.scan w).2.leaked = w.leaked ++ r.leftovers w.host) ∧
      ((r.scan w).1 ≠ .ok () → (r.scan w).2.leaked = w.leaked) := by
  unfold scan leftovers
  cases r.detector with
  | none => exact recalled_pure w
  | some d =>
    simp only [Run.update_bind]
    split_ifs with hannounces hfound hfound
    · exact recalled_notes _ (recalled_say _ _) _
    · rw [not_not.mp hfound]
      exact recalled_notes _ recalled_pure _
    · exact recalled_say _ _ _
    · rw [not_not.mp hfound]
      exact recalled_pure _

end Leftovers

/-! ### Whole runs -/

/-- What the detector reports in a run. It is not asked if the run is interrupted. -/
def reported (r : Runner σ) (u : UnitId) (w : World σ ω) : List String :=
  match (r.classify u (ready u w)).1 with
  | .error .interrupted => []
  | _ => r.leftovers (r.classify u (ready u w)).2.host

theorem reported_of_ne (h : (r.classify u (ready u w)).1 ≠ .error .interrupted) :
    r.reported u w = r.leftovers (r.classify u (ready u w)).2.host := by
  unfold reported
  split
  · exact absurd ‹_› h
  · rfl

/-- Whether the operator can be told of what was reported. -/
def warned (r : Runner σ) (u : UnitId) (w : World σ ω) : Except RunError Unit :=
  (warn r.settings (r.reported u w) (r.classify u (ready u w)).2).1

/-- **The run tidies up.** Of the tests, none is loaded that was not before; what the detector has
reported is kept in mind; and if no outcome was found because of an error, this is returned. -/
structure Tidied (r : Runner σ) (u : UnitId) (w : World σ ω) : Prop where
  unloaded : ∀ n ∈ (r.run u w).2.modules.names, ModuleTable.looksLikeTest n = true →
    n ∈ w.modules.names
  recalled : (r.run u w).2.leaked = w.leaked ++ r.reported u w
  error : ∀ e, (r.classify u (ready u w)).1 = .error e → (r.run u w).1 = .error e

/-- A search for leftovers fails only if the operator cannot be told. -/
theorem scanned_iff : r.Scanned u w ↔ r.warned u w = .ok () := by
  by_cases hi : (r.classify u (ready u w)).1 = .error .interrupted
  · have hreported : r.reported u w = [] := by rw [reported, hi]
    rw [warned, hreported]
    exact ⟨fun _ => rfl, fun _ h => absurd hi h⟩
  · rw [warned, reported_of_ne hi, ← (r.scan_warns _).1]
    exact ⟨fun h => h hi, fun h _ => h⟩

theorem leaked_scanned : (r.Scanned u w → (r.scanned u w).leaked = w.leaked ++ r.reported u w) ∧
    (¬ r.Scanned u w → (r.scanned u w).leaked = w.leaked) := by
  have hready : (ready u w).leaked = w.leaked := by
    obtain ⟨t, ht⟩ := ready_eq u w
    rw [ht]
  have hclass := (leaked_classify r u (ready u w)).trans hready
  by_cases hi : (r.classify u (ready u w)).1 = .error .interrupted
  · have hreported : r.reported u w = [] := by rw [reported, hi]
    rw [scanned_of_interrupted hi, hreported, List.append_nil]
    exact ⟨fun _ => hclass, fun _ => hclass⟩
  · obtain ⟨hok, hno⟩ := r.scan_leaked (r.classify u (ready u w)).2
    rw [scanned_of_ne hi, reported_of_ne hi, ← hclass]
    exact ⟨fun h => hok (h hi), fun h => hno fun hs => h fun _ => hs⟩

/-- A run that is not kept from its end tidies up. -/
theorem tidied_of_scanned (h : r.Scanned u w) : r.Tidied u w := by
  obtain ⟨t, ht⟩ := run_of_scanned h
  refine ⟨fun n hn htest => ?_, ?_, fun e he => ?_⟩
  · rw [ht] at hn
    obtain ⟨v, hv, rfl⟩ := List.mem_map.mp hn
    obtain ⟨-, hl | hold⟩ := ModuleTable.mem_unloadNew.mp hv
    · cases hl.symm.trans htest
    · obtain ⟨v', hv', hname⟩ := List.mem_map.mp hold
      exact hname ▸ ModuleTable.mem_names (mem_entries_ready.mp hv').1
  · rw [ht]
    exact leaked_scanned.1 h
  · rw [ht]
    exact he

/-- **A run tidies up exactly if the operator can be told** of what the detector has reported. If
not, the error of the sink is returned, whatever has come of the unit, nothing is kept in mind, and
all units are loaded whose loads were completed. -/
theorem run_tidied (r : Runner σ) (u : UnitId) (w : World σ ω) :
    (r.Tidied u w ↔ r.warned u w = .ok ()) ∧
      ∀ e, r.warned u w = .error e →
        r.reported u w ≠ [] ∧ (r.run u w).1 = .error e ∧ (r.run u w).2.leaked = w.leaked ∧
          (r.run u w).2.modules = (r.execute u (ready u w)).2.modules := by
  have hfails (e : RunError) (he : r.warned u w = .error e) :
      r.reported u w ≠ [] ∧ (r.run u w).1 = .error e ∧ (r.run u w).2.leaked = w.leaked ∧
        (r.run u w).2.modules = (r.execute u (ready u w)).2.modules := by
    have hs : ¬ r.Scanned u w := fun hs => by cases he.symm.trans (scanned_iff.mp hs)
    refine ⟨fun hnone => ?_, ?_, ?_, ?_⟩
    · rw [warned, hnone] at he
      cases he
    · have hi : (r.classify u (ready u w)).1 ≠ .error .interrupted :=
        fun hi => hs fun h => absurd hi h
      have hscan : (r.scan (r.classify u (ready u w)).2).1 = .error e := by
        rw [(r.scan_warns _).1, ← reported_of_ne hi]
        exact he
      rw [run_of_ne hi, Run.bind_error hscan]
    · rw [run_of_not_scanned hs]
      exact leaked_scanned.2 hs
    · rw [run_of_not_scanned hs]
      exact settled_scanned.modules
  refine ⟨⟨fun htidied => ?_, fun hok => tidied_of_scanned (scanned_iff.mpr hok)⟩, hfails⟩
  cases hwarned : r.warned u w with
  | ok _ => rfl
  | error e =>
    obtain ⟨hreported, -, hleaked, -⟩ := hfails e hwarned
    exact absurd (List.self_eq_append_right.mp (hleaked.symm.trans htidied.recalled)) hreported

/-- With a sink that refuses nothing, every run tidies up. -/
theorem tidied_of_reliable (hr : Sink.Reliable ω) (r : Runner σ) (u : UnitId) (w : World σ ω) :
    r.Tidied u w :=
  tidied_of_scanned fun _ => (r.scan_spec _).2.2 hr

/-! ### A sink that refuses -/

/-- A sink that is full. -/
inductive Full where
  | full

instance : Sink Full where
  write sink _ := (.error "sink full", sink)
  flush sink := (.ok (), sink)

/-- Files none of which can be used. -/
inductive Broken where
  | broken

instance : FileSystem Broken where
  list _ p := .error (.operationFailed .list p "broken")
  has _ _ := true
  isDirectory _ _ := false
  read _ p := .error (.operationFailed .read p "broken")
  write s p _ := (.error (.operationFailed .write p "broken"), s)
  makeDirectories s p := (.error (.operationFailed .createDirectory p "broken"), s)

/-- A runner of a test that does nothing, with a detector that reports an item. -/
def leakyRunner : Runner Broken where
  loader := Registry.loader ⟨[("test_a", fun _ => .done)]⟩
  settings := default
  detector := some ⟨fun s => (["x"], s), false⟩

/-- **A run that does not tidy up.** The expected output of the test cannot be read, and the
operator cannot be told of the item. So the item is lost, the test stays loaded, and the error is
that of the sink. -/
theorem run_untidied :
    let u : UnitId := ⟨"test_a", ⟨"t"⟩⟩
    let w : World Broken Full := .start .broken .full
    ¬ leakyRunner.Tidied u w ∧
      (leakyRunner.classify u (ready u w)).1 =
        .error (.fileSystem (.operationFailed .read ⟨"t/output/test_a"⟩ "broken")) ∧
      (leakyRunner.run u w).1 = .error (.io "sink full") ∧
      leakyRunner.reported u w = ["x"] ∧ (leakyRunner.run u w).2.leaked = [] ∧
      w.modules.names = [] ∧ (leakyRunner.run u w).2.modules.names = ["test_a"] := by
  intro u w
  have hclass : (leakyRunner.classify u (ready u w)).1 =
      .error (.fileSystem (.operationFailed .read ⟨"t/output/test_a"⟩ "broken")) := by
    decide +kernel
  have hrun : (leakyRunner.run u w).1 = .error (.io "sink full") := by decide +kernel
  refine ⟨fun h => ?_, hclass, hrun, by decide +kernel, by decide +kernel, rfl, by decide +kernel⟩
  cases (h.error _ hclass).symm.trans hrun

end Runner

end Golden
