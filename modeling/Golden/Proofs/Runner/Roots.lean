import Golden.Proofs.Runner.Loaded

/-! # Units of several roots

A unit asks for others by name and gets those from its own root. The table of units has one unit
for a name, whatever its root, and units that do not look like tests stay loaded from run to run. So
a unit of one root may find a unit of another one in the place of its neighbour.

* `Runner.recorded`: which unit is loaded under a name when the import of that name has gone well.
* `Runner.stray_helper`: two runs in two roots, the second of which gets a unit of the first. -/

namespace Golden.Runner

variable {σ ω : Type} [Sink ω] [FileSystem σ] {r : Runner σ} {P : UnitId → World σ ω → Prop}
  {us : List UnitId} {u : UnitId} {w : World σ ω} {q : Request σ ω}

/-! ### One request -/

omit [FileSystem σ] in
/-- After a request the table has grown, since the run began, by units from the root of the unit. -/
theorem grows_answer (hq : r.Requests u w q) : w.modules.Grows (r.loader.FindsIn u.root)
    (r.surroundings.answer q).2.modules := by
  obtain ⟨x, hx, hq⟩ := hq
  have hanswer := Surroundings.grows_importing (s := r.surroundings) q.depth q.importer q.name
    q.world
  rw [hq.root] at hanswer
  have hgrows := hq.grows.trans hanswer
  rwa [hx.modules] at hgrows

omit [FileSystem σ] in
theorem root_of_requests (hq : r.Requests u w q) : q.importer.root = u.root := by
  obtain ⟨x, -, hq⟩ := hq
  exact hq.root

omit [FileSystem σ] in
/-- After a request that goes well, the name is loaded, unless it is being loaded. -/
theorem mem_names_answer {s : Surroundings σ} (hok : (s.answer q).1 = .ok ())
    (hn : q.name ∉ q.world.modules.loading) : q.name ∈ (s.answer q).2.modules.names := by
  have hevolves := Surroundings.evolves_importing (s := s) q.depth q.importer q.name q.world
  by_cases hloaded : q.name ∈ q.world.modules.names
  · obtain ⟨v, hv, hvn⟩ := List.mem_map.mp hloaded
    exact hvn ▸ ModuleTable.mem_names ((hevolves.entries v).mpr (Or.inl hv))
  · have hyields : s.Yields q q.unit := ⟨q, .refl, ⟨⟨hloaded, hn⟩, hok⟩, rfl⟩
    exact ModuleTable.mem_names ((hevolves.entries q.unit).mpr (Or.inr hyields))

/-! ### All requests of all runs -/

/-- **Which unit is loaded under a name** when the import of that name has gone well, and the name
is not being loaded. There is one such unit. It is the one from the root of the importer, or one
that was loaded in an earlier run. It is the one from the root of the importer exactly if no unit of
that name was left from another root; so it is if all earlier runs were in that root. -/
theorem recorded (hpast : r.Past P us w) (hq : r.Requests u (ready u w) q)
    (hok : (r.surroundings.answer q).1 = .ok ()) (hn : q.name ∉ q.world.modules.loading) :
    ∃ e, (∀ v, v ∈ (r.surroundings.answer q).2.modules.entries ∧ v.name = q.name ↔ v = e) ∧
      (e = q.unit ∧ r.loader.Finds e ∨
        e ∈ w.modules.entries ∧ ∃ v ∈ us, r.loader.FindsIn v.root e) ∧
      (e = q.unit ↔ ∀ v ∈ (ready u w).modules.entries, v.name = q.name →
        v.root = q.importer.root) ∧
      ((∀ v ∈ us, v.root = q.importer.root) → e = q.unit) := by
  have hgrows := grows_answer hq
  have hroot := root_of_requests hq
  have hnodup := hgrows.nodup (nodup_ready hpast.tidy.2)
  obtain ⟨e, he, hen⟩ := List.mem_map.mp (mem_names_answer hok hn)
  have hunique {v : UnitId} (hv : v ∈ (r.surroundings.answer q).2.modules.entries)
      (hvn : v.name = q.name) : v = e :=
    ModuleTable.eq_of_name_eq hnodup hv he (hvn.trans hen.symm)
  have hunit (hr : e.root = q.importer.root) : e = q.unit := by
    rw [Request.unit, ← hen, ← hr]
  have hexactly : e = q.unit ↔ ∀ v ∈ (ready u w).modules.entries, v.name = q.name →
      v.root = q.importer.root := by
    constructor
    · intro heq v hv hvn
      rw [hunique (hgrows.kept v hv) hvn, heq]
      rfl
    · intro hleft
      rcases hgrows.added e he with hold | ⟨hr, -⟩
      · exact hunit (hleft e hold hen)
      · exact hunit (hr.trans hroot.symm)
  refine ⟨e, fun v => ⟨fun ⟨hv, hvn⟩ => hunique hv hvn, ?_⟩, ?_, hexactly, fun hus => ?_⟩
  · rintro rfl
    exact ⟨he, hen⟩
  · rcases hgrows.added e he with hold | ⟨hr, hfinds⟩
    · have hold := (mem_entries_ready.mp hold).1
      exact Or.inr ⟨hold, hpast.root hold⟩
    · exact Or.inl ⟨hunit (hr.trans hroot.symm), hfinds⟩
  · refine hexactly.mpr fun v hv _ => ?_
    obtain ⟨v', hv', hr, -⟩ := hpast.root (mem_entries_ready.mp hv).1
    exact hr.trans (hus v' hv')

/-! ### Two roots and a helper -/

/-- Two tests that load a helper. -/
def twoRoots : Registry Shelf :=
  ⟨[("helper", fun _ => .done), ("test_x", fun _ => .require "helper" .done),
    ("test_y", fun _ => .require "helper" .done)]⟩

/-- A runner of these tests. -/
def twoRootsRunner : Runner Shelf := ⟨twoRoots.loader, default, none⟩

/-- The world after the run of the first test, in the root `a`. -/
def twoRootsWorld : World Shelf Memory :=
  (twoRootsRunner.run ⟨"test_x", ⟨"a"⟩⟩ (.start .empty Memory.empty)).2

/-- The second test, in the root `b`. -/
def secondTest : UnitId := ⟨"test_y", ⟨"b"⟩⟩

/-- The second test asks for the helper. -/
def strayRequest : Request Shelf Memory where
  depth := 3
  importer := secondTest
  name := "helper"
  world := (twoRootsRunner.surroundings.opening secondTest (fun _ => .require "helper" .done)
    (begun secondTest (ready secondTest twoRootsWorld))).world

theorem past_twoRoots :
    twoRootsRunner.Past (fun _ _ => True) [⟨"test_x", ⟨"a"⟩⟩] twoRootsWorld := by
  have hstart : twoRootsRunner.Past (fun _ _ => True) [] (World.start .empty Memory.empty) :=
    .start rfl
  unfold twoRootsWorld
  exact hstart.run True.intro rfl

theorem requests_stray :
    twoRootsRunner.Requests secondTest (ready secondTest twoRootsWorld) strayRequest := by
  have hopen : (ready secondTest twoRootsWorld).Open := by
    unfold World.Open
    decide +kernel
  refine ⟨begun secondTest (ready secondTest twoRootsWorld), .captured rfl hopen rfl, ?_⟩
  exact ⟨_, "helper", _, .load rfl, .now, .refl⟩

/-- **The helper that the second test gets** is the one from the root of the first. -/
theorem stray_helper :
    twoRootsRunner.Requests secondTest (ready secondTest twoRootsWorld) strayRequest ∧
      (twoRootsRunner.surroundings.answer strayRequest).1 = .ok () ∧
      strayRequest.name ∉ strayRequest.world.modules.loading ∧
      strayRequest.unit = ⟨"helper", ⟨"b"⟩⟩ ∧
      (twoRootsRunner.surroundings.answer strayRequest).2.modules.entries =
        [⟨"helper", ⟨"a"⟩⟩] := by
  refine ⟨requests_stray, ?_, ?_, ?_, ?_⟩ <;> decide +kernel

/-- It is the one that was left. -/
theorem recorded_stray : ∃ e,
    (∀ v, v ∈ (twoRootsRunner.surroundings.answer strayRequest).2.modules.entries ∧
      v.name = strayRequest.name ↔ v = e) ∧
    (e = strayRequest.unit ∧ twoRootsRunner.loader.Finds e ∨ e ∈ twoRootsWorld.modules.entries ∧
      ∃ v ∈ [(⟨"test_x", ⟨"a"⟩⟩ : UnitId)], twoRootsRunner.loader.FindsIn v.root e) ∧
    (e = strayRequest.unit ↔ ∀ v ∈ (ready secondTest twoRootsWorld).modules.entries,
      v.name = strayRequest.name → v.root = strayRequest.importer.root) ∧
    ((∀ v ∈ [(⟨"test_x", ⟨"a"⟩⟩ : UnitId)], v.root = strayRequest.importer.root) →
      e = strayRequest.unit) := by
  have hok : (twoRootsRunner.surroundings.answer strayRequest).1 = .ok () := by decide +kernel
  have hn : strayRequest.name ∉ strayRequest.world.modules.loading := by decide +kernel
  exact recorded past_twoRoots requests_stray hok hn

end Golden.Runner
