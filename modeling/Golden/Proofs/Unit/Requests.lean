import Golden.Proofs.Unit.Stages
import Mathlib.Logic.Relation

/-! # Requests for units

While a unit is loaded and run it asks for other units, and these ask for more while they are being
loaded. A request says who asks for what, and in what world; its answer is what the import gives.

* `Surroundings.Causes`: the request leads to a load in which the other request is made.
* `Surroundings.Requests`: what is asked for while a test is loaded and run, by whatever unit.
* `Surroundings.evolves_importing`, `Surroundings.evolves_loadAndRun`: the units that are loaded at
  the end are those that were, and those whose loads were completed.
* `Surroundings.Requests.grows`, `Surroundings.Requests.root`: units come from the root of the test,
  at every moment. -/

namespace Golden

variable {σ ω : Type}

/-- The loader finds the unit, at some time. -/
def Loader.Finds (l : Loader σ) (u : UnitId) : Prop := ∃ host t, (l.load u host).1 = .ok t

/-- The loader finds the unit, and it is one of the root. -/
def Loader.FindsIn (l : Loader σ) (root : Path) (u : UnitId) : Prop := u.root = root ∧ l.Finds u

/-- A request for a unit. At most `depth` loads may nest in each other to answer it. -/
structure Request (σ ω : Type) where
  depth : Nat
  importer : UnitId
  name : String
  world : World σ ω

/-- The unit asked for is one from the root of the importer. -/
def Request.unit (q : Request σ ω) : UnitId := ⟨q.name, q.importer.root⟩

namespace Surroundings

open Relation

/-- How a unit that has been found begins to load. -/
def opening (s : Surroundings σ) (u : UnitId) (t : TestUnit σ) (w : World σ ω) : Stage σ ω where
  rest := t (s.context u)
  held := false
  world := { w with
    host := (s.loader.load u w.host).2
    modules := w.modules.beginLoading u }

variable [Sink ω] {s : Surroundings σ} {q q' : Request σ ω} {u v : UnitId} {name : String}
  {w : World σ ω}

/-! ### Requests and what they cause -/

/-- What comes of a request. -/
def answer (s : Surroundings σ) (q : Request σ ω) : Except Signal Unit × World σ ω :=
  s.importing q.depth q.importer q.name q.world

/-- **The request leads to a load that is completed.** -/
def Completes (s : Surroundings σ) (q : Request σ ω) : Prop :=
  q.world.modules.Unknown q.name ∧ (s.answer q).1 = .ok ()

/-- **The unit asked for makes another request**, while it is being loaded. -/
inductive Causes (s : Surroundings σ) : Request σ ω → Request σ ω → Prop where
  | mk {depth : Nat} {u : UnitId} {name : String} {w : World σ ω} {t : TestUnit σ} {n : String}
    {v : World σ ω} : w.modules.Unknown name → (s.loader.load ⟨name, u.root⟩ w.host).1 = .ok t →
    (s.opening ⟨name, u.root⟩ t w).Asks (s.importing depth ⟨name, u.root⟩) n v →
    s.Causes ⟨depth + 1, u, name, w⟩ ⟨depth, ⟨name, u.root⟩, n, v⟩

/-- The load of the unit is completed in the course of the request. -/
def Yields (s : Surroundings σ) (q : Request σ ω) (v : UnitId) : Prop :=
  ∃ q', ReflTransGen s.Causes q q' ∧ s.Completes q' ∧ q'.unit = v

theorem yields_iff : s.Yields q v ↔
    (s.Completes q ∧ q.unit = v) ∨ ∃ q₁, s.Causes q q₁ ∧ s.Yields q₁ v := by
  constructor
  · rintro ⟨q', hq, hc⟩
    rcases hq.cases_head with rfl | ⟨q₁, h₁, h⟩
    · exact Or.inl hc
    · exact Or.inr ⟨q₁, h₁, q', h, hc⟩
  · rintro (hc | ⟨q₁, h₁, q', h, hc⟩)
    · exact ⟨q, .refl, hc⟩
    · exact ⟨q', .head h₁ h, hc⟩

theorem causes_iff {depth : Nat} {t : TestUnit σ}
    (hu : w.modules.Unknown name) (ht : (s.loader.load ⟨name, u.root⟩ w.host).1 = .ok t) :
    s.Causes ⟨depth + 1, u, name, w⟩ q' ↔ ∃ n v, q' = ⟨depth, ⟨name, u.root⟩, n, v⟩ ∧
      (s.opening ⟨name, u.root⟩ t w).Asks (s.importing depth ⟨name, u.root⟩) n v := by
  constructor
  · intro h
    cases h with
    | @mk _ _ _ _ t' n v _ ht' ha =>
      cases ht.symm.trans ht'
      exact ⟨n, v, rfl, ha⟩
  · rintro ⟨n, v, rfl, ha⟩
    exact .mk hu ht ha

/-! ### Where units come from -/

/-- All requests that a request leads to are for units from one root. -/
theorem Causes.root (h : s.Causes q q') : q'.importer.root = q.importer.root := by
  cases h
  rfl

theorem root_of_causes (h : ReflTransGen s.Causes q q') :
    q'.importer.root = q.importer.root := by
  induction h with
  | refl => rfl
  | tail _ h ih => exact h.root.trans ih

/-- A load is completed only if the loader finds the unit. -/
theorem Completes.finds (h : s.Completes q) : s.loader.FindsIn q.importer.root q.unit := by
  obtain ⟨depth, u, name, w⟩ := q
  obtain ⟨hu, hok⟩ := h
  refine ⟨rfl, w.host, ?_⟩
  have hnew := ModuleTable.unknown_iff.mp hu
  cases depth with
  | zero =>
    rw [answer, importing_zero s hnew] at hok
    cases hok
  | succ depth =>
    rw [answer, importing_succ s hnew] at hok
    obtain ⟨t, ht, -⟩ := Run.bind_eq_ok.mp hok
    exact ⟨t, ht⟩

theorem Yields.finds (h : s.Yields q v) : s.loader.FindsIn q.importer.root v := by
  obtain ⟨q', hq, hc, rfl⟩ := h
  rw [← root_of_causes hq]
  exact hc.finds

/-! ### Loads -/

omit [Sink ω] in
/-- A load, and the note that is made of it. -/
theorem evolves_load {α : Type} {S : UnitId → Prop} {act : Run σ ω Signal α}
    {rest : α → Run σ ω Signal Unit} (hu : w.modules.Unknown u.name)
    (hact : (w.modules.beginLoading u).Evolves S
      (act { w with modules := w.modules.beginLoading u }).2.modules)
    (hrest : ∀ a v, (rest a v).1 = .ok () ∧ (rest a v).2.modules = v.modules.insert u) :
    w.modules.Evolves (fun v => v = u ∧ ((whileLoading u act >>= rest) w).1 = .ok () ∨ S v)
      ((whileLoading u act >>= rest) w).2.modules := by
  rw [Run.bind_apply, whileLoading_apply]
  dsimp only
  cases (act { w with modules := w.modules.beginLoading u }).1 with
  | error e => exact (hact.failed hu).congr fun v => by simp
  | ok a =>
    dsimp only
    rw [(hrest _ _).1, (hrest _ _).2]
    exact (hact.completed hu).congr fun v => by simp

/-- A request that is refused leads to no loads. -/
theorem not_yields (hc : ¬ s.Completes q) (hq : ∀ q₁, ¬ s.Causes q q₁) : ¬ s.Yields q v := by
  rw [yields_iff]
  rintro (⟨h, -⟩ | ⟨q₁, h, -⟩)
  · exact hc h
  · exact hq q₁ h

/-- The import of a unit that is found. -/
theorem importing_found {depth : Nat} {t : TestUnit σ} (hu : w.modules.Unknown name)
    (ht : (s.loader.load ⟨name, u.root⟩ w.host).1 = .ok t) :
    s.importing (depth + 1) u name w = (whileLoading ⟨name, u.root⟩
        ((t (s.context ⟨name, u.root⟩)).perform (s.importing depth ⟨name, u.root⟩) false) >>=
      fun _ => Run.note (.imported u.name name) >>= fun _ =>
        Run.changeModules (·.insert ⟨name, u.root⟩))
      { w with host := (s.loader.load ⟨name, u.root⟩ w.host).2 } := by
  rw [importing_succ s (ModuleTable.unknown_iff.mp hu)]
  exact Run.bind_ok ht _

/-- **An import loads the units whose loads are completed** in its course, and no others. -/
theorem evolves_importing : ∀ (depth : Nat) (u : UnitId) (name : String) (w : World σ ω),
    w.modules.Evolves (s.Yields ⟨depth, u, name, w⟩) (s.importing depth u name w).2.modules
  | depth, u, name, w => by
    by_cases h : (w.modules.contains name || w.modules.isLoading name) = true
    · have hu : ¬ w.modules.Unknown name := fun hu => ModuleTable.unknown_iff.mp hu h
      rw [importing_of_known s h]
      refine .refl fun v => not_yields (fun hc => hu hc.1) fun q₁ hq => ?_
      cases hq
      contradiction
    have hu : w.modules.Unknown name := ModuleTable.unknown_iff.mpr h
    cases depth with
    | zero =>
      have hend := importing_zero s (u := u) h
      rw [hend]
      refine .refl fun v => not_yields (fun hc => ?_) fun q₁ hq => by cases hq
      have hok := hc.2
      rw [answer, hend] at hok
      cases hok
    | succ depth =>
      cases ht : (s.loader.load ⟨name, u.root⟩ w.host).1 with
      | error e =>
        have hend : s.importing (depth + 1) u name w =
            (.error e, { w with host := (s.loader.load ⟨name, u.root⟩ w.host).2 }) := by
          rw [importing_succ s h]
          exact Run.bind_error ht _
        rw [hend]
        refine .refl fun v => not_yields (fun hc => ?_) fun q₁ hq => ?_
        · have hok := hc.2
          rw [answer, hend] at hok
          cases hok
        · cases hq with
          | mk _ ht' _ => cases ht.symm.trans ht'
      | ok t =>
        have hstages := (s.opening ⟨name, u.root⟩ t w).evolves_result fun n v =>
          evolves_importing depth ⟨name, u.root⟩ n v
        have hload : s.importing (depth + 1) u name w = _ := importing_found hu ht
        rw [hload]
        refine ModuleTable.Evolves.congr (evolves_load
          (w := { w with host := (s.loader.load ⟨name, u.root⟩ w.host).2 })
          hu hstages fun _ _ => ⟨rfl, rfl⟩) fun v => ?_
        rw [← hload, yields_iff]
        constructor
        · rintro (⟨hc, rfl⟩ | ⟨q₁, hq, hv⟩)
          · exact Or.inl ⟨rfl, hc.2⟩
          · obtain ⟨n, x, rfl, ha⟩ := (causes_iff hu ht).mp hq
            exact Or.inr ⟨n, x, ha, hv⟩
        · rintro (⟨rfl, hok⟩ | ⟨n, x, ha, hv⟩)
          · exact Or.inl ⟨⟨hu, hok⟩, rfl⟩
          · exact Or.inr ⟨_, (causes_iff hu ht).mpr ⟨n, x, rfl, ha⟩, hv⟩

/-! ### Tests -/

/-- **What a test does**: it loads, and then it runs the entry point that it offers. -/
inductive Enacts (s : Surroundings σ) (u : UnitId) (w : World σ ω) : Stage σ ω → Prop where
  | load {t : TestUnit σ} : (s.loader.load u w.host).1 = .ok t → s.Enacts u w (s.opening u t w)
  | entry {t : TestUnit σ} {entry : Behaviour σ} : (s.loader.load u w.host).1 = .ok t →
    ((s.opening u t w).result (s.importing s.loader.nesting u)).1 = .ok (some entry) →
    s.Enacts u w ⟨entry, false, ((s.opening u t w).result (s.importing s.loader.nesting u)).2⟩

/-- **The requests in the course of a test**: its own, and those that they lead to. -/
def Requests (s : Surroundings σ) (u : UnitId) (w : World σ ω) (q : Request σ ω) : Prop :=
  ∃ st name v, s.Enacts u w st ∧ st.Asks (s.importing s.loader.nesting u) name v ∧
    ReflTransGen s.Causes ⟨s.loader.nesting, u, name, v⟩ q

theorem enacts_iff {t : TestUnit σ} {st : Stage σ ω} (ht : (s.loader.load u w.host).1 = .ok t) :
    s.Enacts u w st ↔ st = s.opening u t w ∨ ∃ entry,
      ((s.opening u t w).result (s.importing s.loader.nesting u)).1 = .ok (some entry) ∧
      st = ⟨entry, false, ((s.opening u t w).result (s.importing s.loader.nesting u)).2⟩ := by
  constructor
  · intro h
    cases h with
    | load ht' =>
      cases ht.symm.trans ht'
      exact Or.inl rfl
    | entry ht' he =>
      cases ht.symm.trans ht'
      exact Or.inr ⟨_, he, rfl⟩
  · rintro (rfl | ⟨entry, he, rfl⟩)
    · exact .load ht
    · exact .entry ht he

/-- The load of the unit is completed while the test is at the stage or later, besides its own. -/
def YieldsAt (s : Surroundings σ) (u : UnitId) (st : Stage σ ω) (v : UnitId) : Prop :=
  ∃ name x, st.Asks (s.importing s.loader.nesting u) name x ∧
    s.Yields ⟨s.loader.nesting, u, name, x⟩ v

theorem yieldsAt_iff : (∃ st, s.Enacts u w st ∧ s.YieldsAt u st v) ↔
    ∃ q, s.Requests u w q ∧ s.Completes q ∧ q.unit = v := by
  constructor
  · rintro ⟨st, hst, name, x, ha, q, hq, hc⟩
    exact ⟨q, ⟨st, name, x, hst, ha, hq⟩, hc⟩
  · rintro ⟨q, ⟨st, name, x, hst, ha, hq⟩, hc⟩
    exact ⟨st, hst, name, x, ha, q, hq, hc⟩

theorem evolves_stage (u : UnitId) (st : Stage σ ω) : st.world.modules.Evolves (s.YieldsAt u st)
    (st.result (s.importing s.loader.nesting u)).2.modules :=
  st.evolves_result fun name x => evolves_importing s.loader.nesting u name x

/-- What a test comes to: its load, and the entry point that it offers. -/
theorem whole_opening (u : UnitId) (t : TestUnit σ) (w : World σ ω) :
    s.whole u t (s.opening u t w).world =
      match (s.opening u t w).result (s.importing s.loader.nesting u) with
      | (.error e, v) => (.error e, v)
      | (.ok none, v) => (.ok (), v)
      | (.ok (some entry), v) =>
        match (⟨entry, false, v⟩ : Stage σ ω).result (s.importing s.loader.nesting u) with
        | (.error e, x) => (.error e, x)
        | (.ok _, x) => (.ok (), x) := by
  have hload : (t (s.context u)).perform (s.importing s.loader.nesting u) false
      (s.opening u t w).world = (s.opening u t w).result (s.importing s.loader.nesting u) := rfl
  rw [whole, Run.bind_apply, hload]
  rcases (s.opening u t w).result (s.importing s.loader.nesting u) with ⟨_ | _ | entry, v⟩
  · rfl
  · rfl
  · dsimp only [Stage.result]
    rw [Run.bind_apply]
    rcases entry.perform (s.importing s.loader.nesting u) false v with ⟨_ | _, x⟩ <;> rfl

/-- The world after a test: the one after its load, or the one after its entry point. -/
theorem whole_snd (u : UnitId) (t : TestUnit σ) (w : World σ ω) :
    (s.whole u t (s.opening u t w).world).2 =
      match (s.opening u t w).result (s.importing s.loader.nesting u) with
      | (.ok (some entry), v) =>
        ((⟨entry, false, v⟩ : Stage σ ω).result (s.importing s.loader.nesting u)).2
      | (_, v) => v := by
  rw [whole_opening]
  rcases (s.opening u t w).result (s.importing s.loader.nesting u) with ⟨_ | _ | entry, v⟩
  · rfl
  · rfl
  · dsimp only
    rcases (⟨entry, false, v⟩ : Stage σ ω).result (s.importing s.loader.nesting u) with
      ⟨_ | _, x⟩ <;> rfl

/-- What a test loads besides itself. -/
theorem evolves_whole {t : TestUnit σ} (ht : (s.loader.load u w.host).1 = .ok t) :
    (w.modules.beginLoading u).Evolves
      (fun v => ∃ q, s.Requests u w q ∧ s.Completes q ∧ q.unit = v)
      (s.whole u t (s.opening u t w).world).2.modules := by
  have hload := evolves_stage (s := s) u (s.opening u t w)
  have hstages {st : Stage σ ω} : s.Enacts u w st ↔ _ := enacts_iff ht
  rw [whole_snd]
  rcases hx : (s.opening u t w).result (s.importing s.loader.nesting u) with ⟨e | _ | entry, x⟩ <;>
    rw [hx] at hload
  · refine hload.congr fun v => ?_
    simp [← yieldsAt_iff, hstages, hx]
  · refine hload.congr fun v => ?_
    simp [← yieldsAt_iff, hstages, hx]
  · refine (hload.trans (evolves_stage u ⟨entry, false, x⟩)).congr fun v => ?_
    simp [← yieldsAt_iff, hstages, hx]

/-- A test that is not found makes no requests. -/
theorem not_requests {e : Signal} (he : (s.loader.load u w.host).1 = .error e) :
    ¬ s.Requests u w q := by
  rintro ⟨st, _, _, hst, -, -⟩
  cases hst with
  | load ht => cases he.symm.trans ht
  | entry ht _ => cases he.symm.trans ht

/-- **The load of the unit is completed in the course of a test**: that of the test itself, or one
that was asked for. -/
def Loads (s : Surroundings σ) (u : UnitId) (w : World σ ω) (v : UnitId) : Prop :=
  v = u ∧ (s.loadAndRun u w).1 = .ok () ∨ ∃ q, s.Requests u w q ∧ s.Completes q ∧ q.unit = v

/-- **A test loads the units whose loads are completed** in its course, and no others. -/
theorem evolves_loadAndRun (hu : w.modules.Unknown u.name) :
    w.modules.Evolves (s.Loads u w) (s.loadAndRun u w).2.modules := by
  cases ht : (s.loader.load u w.host).1 with
  | error e =>
    have hend : s.loadAndRun u w = (.error e, { w with host := (s.loader.load u w.host).2 }) := by
      rw [loadAndRun_eq]
      exact Run.bind_error ht _
    rw [hend]
    refine .refl fun v => ?_
    simp [Loads, hend, not_requests ht]
  | ok t =>
    have hload : s.loadAndRun u w = (whileLoading u (s.whole u t) >>= fun _ =>
        Run.changeModules (·.insert u)) { w with host := (s.loader.load u w.host).2 } := by
      rw [loadAndRun_eq]
      exact Run.bind_ok ht _
    unfold Loads
    rw [hload]
    exact evolves_load (w := { w with host := (s.loader.load u w.host).2 }) hu
      (evolves_whole ht) fun _ _ => ⟨rfl, rfl⟩

/-- What a test loads comes from its root. -/
theorem Loads.finds (h : s.Loads u w v) : s.loader.FindsIn u.root v := by
  rcases h with ⟨rfl, hok⟩ | ⟨q, hq, hc, rfl⟩
  · obtain ⟨t, ht, -⟩ := Run.bind_eq_ok.mp hok
    exact ⟨rfl, w.host, t, ht⟩
  · obtain ⟨st, name, x, -, -, hcauses⟩ := hq
    rw [← root_of_causes hcauses]
    exact hc.finds

/-! ### At every moment -/

theorem grows_importing (depth : Nat) (u : UnitId) (name : String) (w : World σ ω) :
    w.modules.Grows (s.loader.FindsIn u.root) (s.importing depth u name w).2.modules :=
  (evolves_importing depth u name w).grows fun _ hv => hv.finds

theorem Causes.grows (h : s.Causes q q') :
    q.world.modules.Grows (s.loader.FindsIn q.importer.root) q'.world.modules := by
  cases h with
  | @mk depth u name w t n v hu ht ha =>
    have hopening : w.modules.Grows (s.loader.FindsIn u.root)
        (s.opening ⟨name, u.root⟩ t w).world.modules := .of_entries_eq rfl
    exact hopening.trans (ha.grows (grows_importing depth ⟨name, u.root⟩))

/-- When a request is made, the table has grown by units from one root. -/
theorem grows_of_causes (h : ReflTransGen s.Causes q q') :
    q.world.modules.Grows (s.loader.FindsIn q.importer.root) q'.world.modules := by
  induction h with
  | refl => exact .of_entries_eq rfl
  | tail h h' ih =>
    have hlast := h'.grows
    rw [root_of_causes h] at hlast
    exact ih.trans hlast

theorem Enacts.grows {st : Stage σ ω} (h : s.Enacts u w st) :
    w.modules.Grows (s.loader.FindsIn u.root) st.world.modules := by
  cases h with
  | load _ => exact .of_entries_eq rfl
  | @entry t entry ht he =>
    have hopening : w.modules.Grows (s.loader.FindsIn u.root)
        (s.opening u t w).world.modules := .of_entries_eq rfl
    refine hopening.trans ((evolves_stage u _).grows fun v hv => ?_)
    obtain ⟨name, x, -, hyields⟩ := hv
    exact hyields.finds

/-- **All importers come from the root of the test.** -/
theorem Requests.root (h : s.Requests u w q) : q.importer.root = u.root := by
  obtain ⟨st, name, v, -, -, hq⟩ := h
  exact root_of_causes hq

/-- **When a unit is asked for**, the table has grown by units from the root of the test. -/
theorem Requests.grows (h : s.Requests u w q) :
    w.modules.Grows (s.loader.FindsIn u.root) q.world.modules := by
  obtain ⟨st, name, v, hst, ha, hq⟩ := h
  exact hst.grows.trans ((ha.grows (grows_importing s.loader.nesting u)).trans
    (grows_of_causes hq))

end Surroundings

end Golden
