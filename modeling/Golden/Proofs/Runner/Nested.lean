import Golden.Proofs.Runner.Loaded
import Golden.Proofs.Unit.Moments
import Mathlib.Data.List.Dedup
import Mathlib.Data.List.Perm.Subperm

/-! # Loads that nest

While a unit is run, loads nest in its load. The moments of a run are those of the test that the
unit is, from the world in which its load begins.

* `Surroundings.after_unlimited`: a limit that is never reached does not matter.
* `Runner.run_ends`: the units of a registry come to an end, whatever they import, and loads nest no
  deeper than there are names.
* `Runner.orderly_execute`, `Runner.since_run`: what a run leaves of its loads in the table.
* `Runner.loaded_once`: no name is loaded twice in a run, and what is not a test is not loaded again
  by a later one. -/

namespace Golden

variable {σ ω : Type}

/-! ### Limits -/

section Limits
variable [Sink ω] {s : Surroundings σ} {u : UnitId} {w : World σ ω}

theorem Course.next_unlimited {c : Course σ ω} {limit : Nat} (h : c.waiting.length < limit) :
    c.next s (some limit) = c.next s none := by
  have hask (name : String) (next : Option Signal → Behaviour σ) :
      c.ask s (some limit) name next = c.ask s none name next := by
    have hsome : ∀ n ∈ some limit, c.waiting.length < n := by simpa using h
    have hnone : ∀ n ∈ (none : Option Nat), c.waiting.length < n := by simp
    rw [ask, ask, if_pos hsome, if_pos hnone]
  unfold Course.next
  split
  · rw [hask]
  · rfl

/-- **A limit that is never reached does not matter.** -/
theorem Surroundings.after_unlimited {limit : Nat}
    (h : ∀ n, (s.after none u w n).units.length ≤ limit) (n : Nat) :
    s.after (some limit) u w n = s.after none u w n := by
  induction n with
  | zero => rfl
  | succ n ih =>
    rw [after, after, ih]
    have hn := h n
    cases hm : s.after none u w n with
    | ended result v => rfl
    | underWay c =>
      rw [hm] at hn
      have hlength : c.waiting.length + 1 ≤ limit := by
        simpa [Moment.units, Course.units] using hn
      exact Course.next_unlimited hlength

end Limits

/-! ### Registries -/

namespace Registry

variable {g : Registry σ} {u : UnitId} {us : List UnitId}

/-- What a registry finds is registered. -/
theorem mem_of_finds (h : g.loader.Finds u) : u.name ∈ g.names := by
  obtain ⟨host, t, ht⟩ := h
  exact List.mem_map_of_mem (mem_of_find ht)

/-- Registered units of different names are no more than there are names. -/
theorem length_le (hd : (us.map UnitId.name).Nodup) (h : ∀ u ∈ us, g.loader.Finds u) :
    us.length ≤ g.names.dedup.length := by
  have hsub : us.map UnitId.name ⊆ g.names.dedup := by
    intro n hn
    obtain ⟨u, hu, rfl⟩ := List.mem_map.mp hn
    exact List.mem_dedup.mpr (mem_of_finds (h u hu))
  calc us.length = (us.map UnitId.name).length := (List.length_map _).symm
    _ ≤ g.names.dedup.length := (hd.subperm hsub).length_le

theorem length_dedup_le : g.names.dedup.length ≤ g.loader.nesting :=
  (List.dedup_sublist g.names).length_le.trans_eq (List.length_map _)

end Registry

/-! ### The moments of a run -/

namespace Runner

open ModuleTable (completions since)

variable [Sink ω] {r : Runner σ} {u : UnitId} {w x : World σ ω}

/-- **At every moment of a run the table is in order.** -/
theorem Enters.orderly (h : r.Enters u (ready u w) x) (hw : w.modules.loading = [])
    (limit : Option Nat) (n : Nat) :
    (ready u w).modules.Orderly (r.surroundings.after limit u x n).units
      (r.surroundings.after limit u x n).world.modules := by
  have hloading : x.modules.loading = [] := by
    rw [h.modules, modules_ready]
    exact hw
  have hnames : u.name ∉ x.modules.names := h.modules ▸ (unknown_ready hw).1
  rw [← h.modules]
  exact Surroundings.orderly_after hloading hnames n

/-- Of the units that are under way, none has been loaded in the run. -/
theorem Enters.not_mem_units (h : r.Enters u (ready u w) x) (hw : w.modules.loading = [])
    (limit : Option Nat) {k n : Nat} (hk : k ≤ n) {name : String}
    (hname : name ∈ (r.surroundings.after limit u x k).world.modules.completions
      (ready u w).modules) :
    name ∉ (r.surroundings.after limit u x n).units.map UnitId.name := by
  have hsteps : (r.surroundings.after limit u x k).world.modules.steps <+:
      (r.surroundings.after limit u x n).world.modules.steps := by
    induction hk with
    | refl => exact List.prefix_rfl
    | step _ ih => exact ih.trans (Moment.move_next r.surroundings limit _).steps
  have horderly := h.orderly hw limit n
  intro hmem
  obtain ⟨v, hv, rfl⟩ := List.mem_map.mp hmem
  exact horderly.pending v hv (horderly.loaded _ (ModuleTable.completions_subset hsteps _ hname))

/-- **What the execution of a unit leaves in the table.** -/
theorem orderly_execute (hw : w.modules.loading = []) :
    (ready u w).modules.Orderly [] (r.execute u (ready u w)).2.modules := by
  rcases execute_cases r u (ready u w) with ⟨x, hx⟩ | ⟨-, e, -, he⟩
  · obtain ⟨n, hn⟩ := r.surroundings.after_eq_ended u x
    obtain ⟨-, stream, hend, -⟩ := hx.execute
    have horderly := hx.orderly hw (some r.surroundings.loader.nesting) n
    rw [hn] at horderly
    rw [hend]
    exact horderly
  · rw [he]
    refine .start ?_
    rw [modules_ready]
    exact hw

/-- **Captured output, step by step**: the name of the unit, and what is written at every moment up
to the end. -/
theorem Enters.output_eq (h : r.Enters u w x) {result : Except Signal Unit} {output : Bytes}
    (hend : (r.execute u w).1 = .ok (result, some output)) :
    ∃ n v, r.surroundings.after (some r.loader.nesting) u x n = .ended result v ∧
      output = utf8 u.baseline ++ (List.range n).flatMap fun i =>
        (r.surroundings.after (some r.loader.nesting) u x i).writes := by
  cases h with
  | free hverbose =>
    rw [execute_free r u hverbose] at hend
    cases hend
  | captured hverbose hopen hflush =>
    rw [execute_captured r u hverbose hopen hflush] at hend
    cases hend
    obtain ⟨n, hn⟩ := r.surroundings.after_eq_ended u (begun u w)
    have hkept : (begun u w).stream.captured = some (utf8 u.baseline) := rfl
    obtain ⟨-, hcaptured⟩ := r.surroundings.captured_after
      (some r.surroundings.loader.nesting) (u := u) hkept n
    refine ⟨n, _, hn, ?_⟩
    rw [hn] at hcaptured
    change (r.surroundings.loadAndRun u (begun u w)).2.stream.captured = _ at hcaptured
    rw [hcaptured]
    rfl

variable [FileSystem σ]

/-- A run leaves no marks. -/
theorem loading_run (hw : w.modules.loading = []) : (r.run u w).2.modules.loading = [] := by
  have hscanned : (r.scanned u w).modules.loading = [] := by
    rw [(evolves_run hw).loading, modules_ready]
    exact hw
  rcases modules_run r u w with hm | hm <;> rw [hm] <;> exact hscanned

/-! ### Termination -/

/-- **The loads of a moment nest as they may**: the marks are those of the units under way, which
have different names, all of them among the given ones, and are not more than these. -/
structure Nested (names : List String) (m : Moment σ ω) : Prop where
  marks : m.world.modules.loading = m.units.map UnitId.name
  distinct : (m.units.map UnitId.name).Nodup
  registered : ∀ v ∈ m.units, v.name ∈ names
  depth : m.units.length ≤ names.dedup.length

omit [FileSystem σ] in
theorem Enters.nested {g : Registry σ} (h : r.Enters u (ready u w) x) (hr : r.loader = g.loader)
    (hw : w.modules.loading = []) (limit : Option Nat) (n : Nat) :
    Nested g.names (r.surroundings.after limit u x n) := by
  have horderly := h.orderly hw limit n
  have hfinds : ∀ v ∈ (r.surroundings.after limit u x n).units, g.loader.Finds v :=
    hr ▸ r.surroundings.finds_after n
  exact ⟨horderly.loading, horderly.distinct, fun v hv => Registry.mem_of_finds (hfinds v hv),
    Registry.length_le horderly.distinct hfinds⟩

/-- **The units of a registry come to an end**, whatever they import, although no limit is set on
how deep loads may nest. Either the output cannot be captured and nothing is loaded, or the load of
the unit ends after so many steps, and the run goes on with what has come of it. At every moment the
loads nest no deeper than there are registered names. There are no marks before and after the
load. -/
theorem run_ends {g : Registry σ} (hr : r.loader = g.loader) (hw : w.modules.loading = []) :
    ((∃ e, r.execute u (ready u w) =
        (.error (.capture e), { ready u w with stream := w.stream.begin.2 })) ∨
      ∃ x, r.Enters u (ready u w) x ∧ ∃ n result v output stream,
        r.surroundings.after none u x n = .ended result v ∧
          r.execute u (ready u w) = (.ok (result, output), { v with stream })) ∧
    (∀ x, r.Enters u (ready u w) x → ∀ n, Nested g.names (r.surroundings.after none u x n)) ∧
    (ready u w).modules.loading = [] ∧ (r.run u w).2.modules.loading = [] := by
  refine ⟨?_, fun x hx n => hx.nested hr hw none n, ?_, loading_run hw⟩
  · rcases execute_cases r u (ready u w) with ⟨x, hx⟩ | ⟨-, e, -, he⟩
    · obtain ⟨n, hn⟩ := r.surroundings.after_eq_ended u x
      obtain ⟨⟨output, hresult⟩, stream, hend, -⟩ := hx.execute
      -- the loader has a limit, but it is not reached
      have hnesting : g.names.dedup.length ≤ r.surroundings.loader.nesting :=
        Registry.length_dedup_le.trans_eq (congrArg Loader.nesting hr).symm
      rw [Surroundings.after_unlimited fun m => (hx.nested hr hw none m).depth.trans hnesting] at hn
      exact Or.inr ⟨x, hx, n, _, _, output, stream, hn, Prod.ext hresult hend⟩
    · rw [stream_ready] at he
      exact Or.inl ⟨e, he⟩
  · rw [modules_ready]
    exact hw

/-- The end of a helper that fails, and of those that it loads. -/
theorem run_ends_tangled :
    ((∃ e, tangledRunner.execute ⟨"bad", ⟨"t"⟩⟩ (ready ⟨"bad", ⟨"t"⟩⟩ tangledWorld) =
        (.error (.capture e), { ready ⟨"bad", ⟨"t"⟩⟩ tangledWorld with
          stream := tangledWorld.stream.begin.2 })) ∨
      ∃ x, tangledRunner.Enters ⟨"bad", ⟨"t"⟩⟩ (ready ⟨"bad", ⟨"t"⟩⟩ tangledWorld) x ∧
        ∃ n result v output stream,
          tangledRunner.surroundings.after none ⟨"bad", ⟨"t"⟩⟩ x n = .ended result v ∧
            tangledRunner.execute ⟨"bad", ⟨"t"⟩⟩ (ready ⟨"bad", ⟨"t"⟩⟩ tangledWorld) =
              (.ok (result, output), { v with stream })) ∧
    (∀ x, tangledRunner.Enters ⟨"bad", ⟨"t"⟩⟩ (ready ⟨"bad", ⟨"t"⟩⟩ tangledWorld) x → ∀ n,
      Nested tangled.names (tangledRunner.surroundings.after none ⟨"bad", ⟨"t"⟩⟩ x n)) ∧
    (ready ⟨"bad", ⟨"t"⟩⟩ tangledWorld).modules.loading = [] ∧
    (tangledRunner.run ⟨"bad", ⟨"t"⟩⟩ tangledWorld).2.modules.loading = [] :=
  run_ends rfl (by decide +kernel)

/-! ### Many runs -/

/-- **Further runs** of units, one after the other. Between the runs anything may change but the
table. -/
inductive Onward (r : Runner σ) (w : World σ ω) : List UnitId → World σ ω → Prop where
  | here {v : World σ ω} : v.modules = w.modules → r.Onward w [] v
  | run {us : List UnitId} {u : UnitId} {v x : World σ ω} : r.Onward w us v →
    x.modules = (r.run u v).2.modules → r.Onward w (us ++ [u]) x

/-- The steps that a run takes are those of its loads. -/
theorem steps_run (r : Runner σ) (u : UnitId) (w : World σ ω) :
    (r.run u w).2.modules.steps = (r.execute u (ready u w)).2.modules.steps := by
  have hscanned := (settled_scanned (r := r) (u := u) (w := w)).modules
  rcases modules_run r u w with hm | hm
  · rw [hm, hscanned]
  · rw [hm, hscanned]
    rfl

theorem since_run (r : Runner σ) (u : UnitId) (w : World σ ω) :
    (r.run u w).2.modules.since w.modules =
      (r.execute u (ready u w)).2.modules.since (ready u w).modules := by
  rw [since, steps_run, since, modules_ready]
  rfl

/-- What has been loaded stays until its name is run itself. -/
theorem mem_names_run (hw : w.modules.loading = []) {name : String} (hn : name ∈ w.modules.names)
    (hne : name ≠ u.name) : name ∈ (r.run u w).2.modules.names := by
  obtain ⟨v, hv, rfl⟩ := List.mem_map.mp hn
  have hready : v ∈ (ready u w).modules.entries := mem_entries_ready.mpr ⟨hv, hne⟩
  have hscanned : v ∈ (r.scanned u w).modules.entries :=
    ((evolves_run hw).entries v).mpr (Or.inl hready)
  rcases modules_run r u w with hm | hm <;> rw [hm]
  · exact ModuleTable.mem_names hscanned
  · exact ModuleTable.mem_names (ModuleTable.mem_unloadNew.mpr
      ⟨hscanned, Or.inr (ModuleTable.mem_names hready)⟩)

/-- What has been loaded in a run, and is not a test, is loaded after the run. -/
theorem mem_names_of_completed (hw : w.modules.loading = []) {name : String}
    (hn : name ∈ (r.run u w).2.modules.completions w.modules)
    (htest : ModuleTable.looksLikeTest name = false) : name ∈ (r.run u w).2.modules.names := by
  rw [completions, since_run] at hn
  have hexecute := (orderly_execute hw).loaded name hn
  rw [← settled_scanned.modules] at hexecute
  obtain ⟨v, hv, rfl⟩ := List.mem_map.mp hexecute
  rcases modules_run r u w with hm | hm <;> rw [hm]
  · exact ModuleTable.mem_names hv
  · exact ModuleTable.mem_names (ModuleTable.mem_unloadNew.mpr ⟨hv, Or.inl htest⟩)

/-- **What has been loaded is not loaded again** until its name is run itself. -/
theorem Onward.kept {us : List UnitId} {v : World σ ω} (h : r.Onward w us v)
    (hw : w.modules.loading = []) {name : String} (hn : name ∈ w.modules.names)
    (hne : ∀ u ∈ us, u.name ≠ name) : v.modules.loading = [] ∧ name ∈ v.modules.names := by
  induction h with
  | here hv =>
    rw [hv]
    exact ⟨hw, hn⟩
  | run _ hx ih =>
    obtain ⟨hloading, hnames⟩ := ih fun u hu => hne u (List.mem_append_left _ hu)
    rw [hx]
    exact ⟨loading_run hloading, mem_names_run hloading hnames (hne _ (by simp)).symm⟩

/-- No load begins of a unit that is loaded before the run, unless it is run itself. -/
theorem not_began (hw : w.modules.loading = []) {name : String} (hn : name ∈ w.modules.names)
    (hne : u.name ≠ name) {b : UnitId}
    (hb : .began b ∈ (r.run u w).2.modules.since w.modules) : b.name ≠ name := by
  rw [since_run] at hb
  rintro rfl
  obtain ⟨v, hv, hvb⟩ := List.mem_map.mp hn
  have hready : v ∈ (ready u w).modules.entries := mem_entries_ready.mpr ⟨hv, hvb ▸ hne.symm⟩
  exact (orderly_execute hw).began b hb (hvb ▸ ModuleTable.mem_names hready)

/-- **A name is loaded once** in the run of the unit, and not again after it. -/
structure LoadsOnce (r : Runner σ) (u : UnitId) (w : World σ ω) : Prop where
  /-- Of the units that are under way at a moment, no two have one name. -/
  distinct : ∀ x, r.Enters u (ready u w) x → ∀ limit n,
    ((r.surroundings.after limit u x n).units.map UnitId.name).Nodup
  /-- None of them has a name whose load has been completed before. -/
  behind : ∀ x, r.Enters u (ready u w) x → ∀ limit n, ∀ k ≤ n,
    ∀ name ∈ (r.surroundings.after limit u x k).world.modules.completions w.modules,
      name ∉ (r.surroundings.after limit u x n).units.map UnitId.name
  /-- Captured output is the name of the unit, and what is written moment by moment. -/
  output : ∀ x, r.Enters u (ready u w) x → ∀ result output,
    (r.execute u (ready u w)).1 = .ok (result, some output) →
      ∃ n v, r.surroundings.after (some r.loader.nesting) u x n = .ended result v ∧
        output = utf8 u.baseline ++ (List.range n).flatMap fun i =>
          (r.surroundings.after (some r.loader.nesting) u x i).writes
  /-- No two loads of one name are completed. -/
  once : ((r.run u w).2.modules.completions w.modules).Nodup
  /-- What has been loaded and is not a test is not loaded again by a later run `v`, if it has not
  been run itself since. -/
  later : ∀ us v y, r.Onward (r.run u w).2 us y →
    ∀ name ∈ (r.run u w).2.modules.completions w.modules,
      ModuleTable.looksLikeTest name = false → (∀ u' ∈ us, u'.name ≠ name) → v.name ≠ name →
        ∀ b, .began b ∈ (r.run v y).2.modules.since y.modules → b.name ≠ name

/-- **In the run of whatever unit a name is loaded once**, whichever runs there were before. -/
theorem loaded_once {P : UnitId → World σ ω → Prop} {us : List UnitId} (hpast : r.Past P us w) :
    r.LoadsOnce u w := by
  have hw := hpast.tidy.1
  refine ⟨fun x hx limit n => (hx.orderly hw limit n).distinct, fun x hx limit n k hk name hn => ?_,
    fun x hx result output hend => hx.output_eq hend, ?_, fun us v y hy name hn htest hus hv => ?_⟩
  · refine hx.not_mem_units hw limit hk ?_
    rw [modules_ready]
    exact hn
  · rw [completions, since_run]
    exact (orderly_execute hw).once
  · obtain ⟨hloading, hnames⟩ := hy.kept (loading_run hw) (mem_names_of_completed hw hn htest) hus
    exact fun b hb => not_began hloading hnames hv hb

/-- Loads in the run of the second test. -/
theorem loaded_once_tangled : tangledRunner.LoadsOnce ⟨"test_b", ⟨"t"⟩⟩ tangledWorld := by
  have hstart : tangledRunner.Past (fun _ _ => True) [] (World.start .empty Memory.empty) :=
    .start rfl
  have hpast : tangledRunner.Past (fun _ _ => True) [⟨"test_a", ⟨"t"⟩⟩] tangledWorld := by
    unfold tangledWorld
    exact hstart.run True.intro rfl
  exact loaded_once hpast

/-- One helper is loaded in the run of the first test, although it is asked for twice, and one in
the run of the second. -/
example : tangledWorld.modules.completions .empty = ["right", "left"] ∧
    (tangledRunner.run ⟨"test_b", ⟨"t"⟩⟩ tangledWorld).2.modules.completions
      tangledWorld.modules = ["self", "test_b"] := by
  decide +kernel

end Runner

end Golden
