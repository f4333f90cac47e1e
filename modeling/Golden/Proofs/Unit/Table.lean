import Golden.ModuleTable
import Mathlib.Data.List.Infix
import Mathlib.Data.List.Nodup

/-! # The table of units, load by load

A load marks its unit, lets it do what it does, takes the mark back, and notes the unit if all went
well; loads of other units may nest in it.

* `ModuleTable.Evolves`: what any number of loads does to the table. The marks are the same as
  before, and the units whose loads were completed are loaded besides those that were. They were
  neither loaded nor marked before.
* `Evolves.trans`: loads that follow each other.
* `Evolves.failed`, `Evolves.completed`: loads that nest in a load.
* `ModuleTable.Grows`: what can be said of the table also in the midst of loads.
* `ModuleTable.Move`, `ModuleTable.Orderly`: the beginnings and ends of loads, one after the other,
  and what is so at every moment between them (`Orderly.move`). -/

namespace Golden.ModuleTable

variable {t t' t'' : ModuleTable} {u v : UnitId} {name : String} {P S S' : UnitId → Prop}

/-! ### Entries -/

/-- The name is neither loaded nor being loaded. -/
def Unknown (t : ModuleTable) (name : String) : Prop := name ∉ t.names ∧ name ∉ t.loading

theorem unknown_iff : t.Unknown name ↔ ¬ (t.contains name || t.isLoading name) = true := by
  simp [Unknown, contains, isLoading]

theorem mem_names (h : u ∈ t.entries) : u.name ∈ t.names := List.mem_map_of_mem h

/-- A unit with a new name is added to the others. -/
theorem insertEntry_perm : ∀ {vs : List UnitId}, u.name ∉ vs.map UnitId.name →
    (insertEntry u vs).Perm (u :: vs)
  | [], _ => .refl _
  | v :: vs, h => by
    have hv : u.name ≠ v.name := fun he => h (he ▸ List.mem_map_of_mem List.mem_cons_self)
    have hvs : u.name ∉ vs.map UnitId.name := fun hm => h (List.mem_cons_of_mem _ hm)
    rw [insertEntry, if_neg hv]
    split_ifs
    · exact .refl _
    · exact ((insertEntry_perm hvs).cons v).trans (.swap u v vs)

/-- What was loaded before stays, and so does what does not look like a test. -/
theorem mem_unloadNew {before : List String} : v ∈ (t.unloadNew before).2.entries ↔
    v ∈ t.entries ∧ (looksLikeTest v.name = false ∨ v.name ∈ before) := by
  rw [unloadNew, List.mem_filter]
  simp [isNewTest]

/-- Two units of one name are not loaded together. -/
theorem eq_of_name_eq (h : t.names.Nodup) (hu : u ∈ t.entries) (hv : v ∈ t.entries)
    (hn : u.name = v.name) : u = v :=
  List.inj_on_of_nodup_map h hu hv hn

/-! ### Whole loads -/

/-- **What loads do to a table**: the marks stay as they were, and the units in `S` are loaded
besides those that were. They were unknown before. -/
structure Evolves (S : UnitId → Prop) (t t' : ModuleTable) : Prop where
  loading : t'.loading = t.loading
  entries : ∀ u, u ∈ t'.entries ↔ u ∈ t.entries ∨ S u
  fresh : ∀ u, S u → t.Unknown u.name
  nodup : t.names.Nodup → t'.names.Nodup

namespace Evolves

/-- No loads. -/
theorem refl (h : ∀ u, ¬ S u) : t.Evolves S t :=
  ⟨rfl, fun u => by simp [h u], fun u hu => absurd hu (h u), id⟩

theorem congr (h : t.Evolves S t') (hS : ∀ u, S' u ↔ S u) : t.Evolves S' t' :=
  ⟨h.loading, fun u => by rw [h.entries, hS], fun u hu => h.fresh u ((hS u).mp hu), h.nodup⟩

/-- Loads that follow each other. -/
theorem trans (h : t.Evolves S t') (h' : t'.Evolves S' t'') :
    t.Evolves (fun u => S u ∨ S' u) t'' where
  loading := h'.loading.trans h.loading
  entries u := by rw [h'.entries, h.entries, or_assoc]
  fresh u hu := by
    rcases hu with hu | hu
    · exact h.fresh u hu
    · obtain ⟨hnames, hloading⟩ := h'.fresh u hu
      refine ⟨fun hn => hnames ?_, h.loading ▸ hloading⟩
      obtain ⟨v, hv, hvn⟩ := List.mem_map.mp hn
      exact hvn ▸ mem_names ((h.entries v).mpr (Or.inl hv))
  nodup := h'.nodup ∘ h.nodup

theorem loading_begun (hu : t.Unknown u.name) :
    (t.beginLoading u).loading = u.name :: t.loading := by
  have : t.isLoading u.name = false := by simpa [isLoading] using hu.2
  rw [beginLoading, this]
  rfl

theorem loading_finished (hu : t.Unknown u.name) (h : (t.beginLoading u).Evolves S t')
    (ok : Bool) : (t'.finishLoading u ok).loading = t.loading := by
  change List.filter _ t'.loading = _
  rw [h.loading, loading_begun hu, List.filter_cons_of_neg (by simp)]
  refine List.filter_eq_self.mpr fun n hn => ?_
  have : n ≠ u.name := fun he => hu.2 (he ▸ hn)
  simpa using this

/-- What is unknown while a unit is being loaded was unknown before, and is not that unit. -/
theorem fresh_begun (hu : t.Unknown u.name) (h : (t.beginLoading u).Evolves S t') (hv : S v) :
    t.Unknown v.name ∧ v.name ≠ u.name := by
  obtain ⟨hnames, hloading⟩ := h.fresh v hv
  rw [loading_begun hu, List.mem_cons, not_or] at hloading
  exact ⟨⟨hnames, hloading.2⟩, hloading.1⟩

/-- Loads that nest in a load that fails. -/
theorem failed (hu : t.Unknown u.name) (h : (t.beginLoading u).Evolves S t') :
    t.Evolves S (t'.finishLoading u false) where
  loading := loading_finished hu h false
  entries := h.entries
  fresh _ hv := (fresh_begun hu h hv).1
  nodup := h.nodup

/-- The unit that is being loaded is not loaded by others. -/
theorem not_mem_names (hu : t.Unknown u.name) (h : (t.beginLoading u).Evolves S t') :
    u.name ∉ t'.names := by
  intro hn
  obtain ⟨v, hv, hvu⟩ := List.mem_map.mp hn
  rcases (h.entries v).mp hv with hv | hv
  · exact hu.1 (hvu ▸ mem_names hv)
  · exact (fresh_begun hu h hv).2 hvu

/-- Loads that nest in a load that goes well. -/
theorem completed (hu : t.Unknown u.name) (h : (t.beginLoading u).Evolves S t') :
    t.Evolves (fun v => v = u ∨ S v) ((t'.finishLoading u true).insert u) where
  loading := loading_finished hu h true
  entries v := by
    change v ∈ insertEntry u t'.entries ↔ _
    rw [(insertEntry_perm (not_mem_names hu h)).mem_iff, List.mem_cons, h.entries, or_left_comm]
    rfl
  fresh v hv := by
    rcases hv with rfl | hv
    · exact hu
    · exact (fresh_begun hu h hv).1
  nodup hd := by
    have hperm := (insertEntry_perm (not_mem_names hu h)).map UnitId.name
    exact hperm.nodup_iff.mpr (List.nodup_cons.mpr ⟨not_mem_names hu h, h.nodup hd⟩)

end Evolves

/-! ### The midst of loads -/

/-- **A table that has grown** by units that satisfy `P`, whatever is marked in it. -/
structure Grows (P : UnitId → Prop) (t t' : ModuleTable) : Prop where
  kept : ∀ u ∈ t.entries, u ∈ t'.entries
  added : ∀ u ∈ t'.entries, u ∈ t.entries ∨ P u
  nodup : t.names.Nodup → t'.names.Nodup

namespace Grows

theorem of_entries_eq (h : t'.entries = t.entries) : t.Grows P t' :=
  ⟨fun _ hu => h ▸ hu, fun _ hu => Or.inl (h ▸ hu), fun hd => by rwa [names, h]⟩

theorem trans (h : t.Grows P t') (h' : t'.Grows P t'') : t.Grows P t'' where
  kept u hu := h'.kept u (h.kept u hu)
  added u hu := by
    rcases h'.added u hu with hu | hu
    · exact h.added u hu
    · exact Or.inr hu
  nodup := h'.nodup ∘ h.nodup

end Grows

theorem Evolves.grows (h : t.Evolves S t') (hS : ∀ u, S u → P u) : t.Grows P t' where
  kept u hu := (h.entries u).mpr (Or.inl hu)
  added u hu := ((h.entries u).mp hu).imp_right (hS u)
  nodup := h.nodup

/-! ### Step by step -/

/-- The table when a load has ended. The mark is taken back, and the unit is loaded if all went
well. -/
def endLoading (t : ModuleTable) (u : UnitId) (ok : Bool) : ModuleTable :=
  if ok then (t.finishLoading u true).insert u else t.finishLoading u false

/-- **A step of a test, as the table sees it**: a load begins or ends, or neither. The units under
way before and after the step are given innermost first. -/
inductive Move : List UnitId → ModuleTable → List UnitId → ModuleTable → Prop where
  | stay {us : List UnitId} {t : ModuleTable} : Move us t us t
  | began {us : List UnitId} {t : ModuleTable} {u : UnitId} : t.Unknown u.name →
    Move us t (u :: us) (t.beginLoading u)
  | ended {us : List UnitId} {t : ModuleTable} {u : UnitId} (ok : Bool) :
    Move (u :: us) t us (t.endLoading u ok)

/-- The name of the unit whose load was completed in the step, if one was. -/
def completed? : LoadStep → Option String
  | .completed u => some u.name
  | _ => none

/-- The steps that were taken since the table was `t₀`. -/
def since (t t₀ : ModuleTable) : List LoadStep := t.steps.drop t₀.steps.length

/-- The names of the units whose loads were completed since the table was `t₀`. -/
def completions (t t₀ : ModuleTable) : List String := (t.since t₀).filterMap completed?

theorem mem_names_insert (h : u.name ∉ t.names) {n : String} :
    n ∈ (t.insert u).names ↔ n = u.name ∨ n ∈ t.names := by
  have hperm := (insertEntry_perm h).map UnitId.name
  rw [names, insert, hperm.mem_iff, List.map_cons, List.mem_cons]
  rfl

/-- A load that ends well adds the unit to those that are loaded. -/
theorem mem_names_endLoading (h : u.name ∉ t.names) (ok : Bool) {n : String} :
    n ∈ (t.endLoading u ok).names ↔ ok = true ∧ n = u.name ∨ n ∈ t.names := by
  cases ok with
  | false => exact ⟨Or.inr, fun hn => hn.resolve_left (by simp)⟩
  | true =>
    have hinsert : n ∈ (t.endLoading u true).names ↔ n = u.name ∨ n ∈ t.names :=
      mem_names_insert (t := t.finishLoading u true) h
    rw [hinsert, and_iff_right rfl]

theorem steps_endLoading (ok : Bool) : (t.endLoading u ok).steps =
    t.steps ++ [if ok then .completed u else .failed u] := by
  cases ok <;> rfl

/-- The record of the steps only grows. -/
theorem Move.steps {us us' : List UnitId} (h : Move us t us' t') : t.steps <+: t'.steps := by
  cases h with
  | stay => exact List.prefix_rfl
  | began _ => exact List.prefix_append _ _
  | ended ok =>
    rw [steps_endLoading]
    exact List.prefix_append _ _

/-- What has been completed stays so. -/
theorem completions_subset (h : t.steps <+: t'.steps) (t₀ : ModuleTable) :
    t.completions t₀ ⊆ t'.completions t₀ :=
  ((h.drop t₀.steps.length).filterMap completed?).subset

theorem loading_endLoading (ok : Bool) :
    (t.endLoading u ok).loading = t.loading.filter (· ≠ u.name) := by
  cases ok <;> rfl

/-- **The table in the midst of a test**, which began when the table was `t₀`. The units under way
are those that are marked. They have different names, and none of them is loaded. What was loaded at
the beginning still is, and what has been loaded since then. No unit has been loaded twice since
then, and no load has begun of one that was loaded before. -/
structure Orderly (t₀ : ModuleTable) (us : List UnitId) (t : ModuleTable) : Prop where
  loading : t.loading = us.map UnitId.name
  distinct : (us.map UnitId.name).Nodup
  pending : ∀ u ∈ us, u.name ∉ t.names
  kept : ∀ n ∈ t₀.names, n ∈ t.names
  steps : t₀.steps <+: t.steps
  loaded : ∀ n ∈ t.completions t₀, n ∈ t.names
  once : (t.completions t₀).Nodup
  began : ∀ u, .began u ∈ t.since t₀ → u.name ∉ t₀.names

namespace Orderly

variable {t₀ : ModuleTable} {us us' : List UnitId}

/-- Before the test begins. -/
theorem start (h : t₀.loading = []) : t₀.Orderly [] t₀ where
  loading := h
  distinct := List.nodup_nil
  pending _ hu := nomatch hu
  kept _ hn := hn
  steps := List.prefix_rfl
  loaded _ hn := by simp [completions, since] at hn
  once := by simp [completions, since]
  began _ hu := by simp [since] at hu

theorem since_append (h : t₀.Orderly us t) {step : LoadStep}
    (hsteps : t'.steps = t.steps ++ [step]) : t'.since t₀ = t.since t₀ ++ [step] := by
  rw [since, hsteps, List.drop_append_of_le_length h.steps.length_le, since]

/-- A load begins. -/
theorem begins (h : t₀.Orderly us t) (hu : t.Unknown u.name) :
    t₀.Orderly (u :: us) (t.beginLoading u) := by
  have hsince : (t.beginLoading u).since t₀ = t.since t₀ ++ [.began u] := h.since_append rfl
  have hcompletions : (t.beginLoading u).completions t₀ = t.completions t₀ := by
    rw [completions, hsince, List.filterMap_append]
    exact List.append_nil _
  have hnew : u.name ∉ us.map UnitId.name := h.loading ▸ hu.2
  refine ⟨?_, List.nodup_cons.mpr ⟨hnew, h.distinct⟩, ?_, h.kept,
    h.steps.trans (List.prefix_append _ _), ?_, ?_, ?_⟩
  · rw [Evolves.loading_begun hu, h.loading, List.map_cons]
  · intro v hv
    rcases List.mem_cons.mp hv with rfl | hv
    · exact hu.1
    · exact h.pending v hv
  · rw [hcompletions]
    exact h.loaded
  · rw [hcompletions]
    exact h.once
  · intro v hv
    rw [hsince, List.mem_append, List.mem_singleton] at hv
    rcases hv with hv | hv
    · exact h.began v hv
    · cases hv
      exact fun hn => hu.1 (h.kept _ hn)

/-- A load ends, well or not. -/
theorem ends (h : t₀.Orderly (u :: us) t) (ok : Bool) : t₀.Orderly us (t.endLoading u ok) := by
  obtain ⟨hnew, hdistinct⟩ := List.nodup_cons.mp h.distinct
  have hpending := h.pending u List.mem_cons_self
  have hsince := h.since_append (t.steps_endLoading (u := u) ok)
  have hnames {n : String} := mem_names_endLoading (n := n) hpending ok
  have hcompletions : (t.endLoading u ok).completions t₀ =
      t.completions t₀ ++ if ok then [u.name] else [] := by
    rw [completions, hsince, List.filterMap_append]
    cases ok <;> rfl
  refine ⟨?_, hdistinct, ?_, fun n hn => hnames.mpr (.inr (h.kept n hn)), ?_, ?_, ?_, ?_⟩
  · rw [loading_endLoading, h.loading, List.map_cons, List.filter_cons_of_neg (by simp)]
    refine List.filter_eq_self.mpr fun n hn => ?_
    have : n ≠ u.name := fun he => hnew (he ▸ hn)
    simpa using this
  · intro v hv hn
    rcases hnames.mp hn with ⟨-, hn⟩ | hn
    · exact hnew (hn ▸ List.mem_map_of_mem hv)
    · exact h.pending v (List.mem_cons_of_mem _ hv) hn
  · rw [steps_endLoading]
    exact h.steps.trans (List.prefix_append _ _)
  · intro n hn
    rw [hcompletions, List.mem_append] at hn
    rcases hn with hn | hn
    · exact hnames.mpr (.inr (h.loaded n hn))
    · cases ok
      · cases hn
      · exact hnames.mpr (.inl ⟨rfl, List.mem_singleton.mp hn⟩)
  · rw [hcompletions]
    cases ok
    · simpa using h.once
    · -- a unit that is under way was not loaded, let alone since the beginning
      refine List.nodup_append.mpr ⟨h.once, List.nodup_singleton _, ?_⟩
      intro n hn m hm hnm
      cases List.mem_singleton.mp hm
      exact hpending (hnm ▸ h.loaded n hn)
  · intro v hv
    rw [hsince, List.mem_append, List.mem_singleton] at hv
    rcases hv with hv | hv
    · exact h.began v hv
    · cases ok <;> cases hv

/-- **Every step of a test leaves the table in order.** -/
theorem move (h : t₀.Orderly us t) (hm : Move us t us' t') : t₀.Orderly us' t' := by
  cases hm with
  | stay => exact h
  | began hu => exact h.begins hu
  | ended ok => exact h.ends ok

end Orderly

end Golden.ModuleTable
