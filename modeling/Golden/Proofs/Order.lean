import Golden.UnitId
import Mathlib.Data.String.Basic
import Mathlib.Tactic.Common

/-! # The order of units

Components are ordered strictly and totally, and so are lists of them. Units are ordered by name and
then by the components of their root; only units that are the same come both before each other.

* `UnitId.le_trans`, `UnitId.le_total`, `UnitId.same_of_le`: this is an order up to sameness.
* `UnitId.ascending_sort`, `UnitId.sort_perm`: sorting loses nothing, and leads to an ascending list.
* `UnitId.sort_congr`: units of which no two are the same can be sorted in one way only. -/

namespace Golden

/-! ### Components -/

namespace Component

theorem lt_irrefl (a : Component) : lt a a = false := by
  cases a <;> simp [lt]

theorem lt_name {a b : String} : lt (name a) (name b) = true ↔ a < b := by
  rw [lt, decide_eq_true_eq]

theorem lt_trans {a b c : Component} (hab : lt a b = true) (hbc : lt b c = true) :
    lt a c = true := by
  cases a <;> cases b <;> cases c <;> first
    | exact lt_name.mpr ((lt_name.mp hab).trans (lt_name.mp hbc))
    | simp [lt] at hab hbc ⊢

theorem lt_or_eq_or_gt (a b : Component) : lt a b = true ∨ a = b ∨ lt b a = true := by
  cases a <;> cases b <;> first
    | simp only [lt_name, name.injEq]
      exact lt_trichotomy _ _
    | simp [lt]

end Component

/-! ### Paths -/

namespace Path

theorem before_cons {a b : Component} {as bs : List Component} :
    before (a :: as) (b :: bs) = true ↔
      Component.lt a b = true ∨ a = b ∧ before as bs = true := by
  simp [before]

theorem before_irrefl : ∀ as : List Component, before as as = false
  | [] => rfl
  | a :: as => by simp [before, Component.lt_irrefl, before_irrefl as]

theorem before_trans : ∀ {as bs cs : List Component},
    before as bs = true → before bs cs = true → before as cs = true
  | _, [], _, h, _ => by simp [before] at h
  | _, _ :: _, [], _, h => by simp [before] at h
  | [], _ :: _, _ :: _, _, _ => rfl
  | a :: as, b :: bs, c :: cs, h, h' => by
    rw [before_cons] at h h' ⊢
    rcases h with h | ⟨rfl, h⟩
    · rcases h' with h' | ⟨rfl, -⟩
      · exact Or.inl (Component.lt_trans h h')
      · exact Or.inl h
    · rcases h' with h' | ⟨rfl, h'⟩
      · exact Or.inl h'
      · exact Or.inr ⟨rfl, before_trans h h'⟩

theorem before_or_eq_or_after : ∀ as bs : List Component,
    before as bs = true ∨ as = bs ∨ before bs as = true
  | [], [] => Or.inr (Or.inl rfl)
  | [], _ :: _ => Or.inl rfl
  | _ :: _, [] => Or.inr (Or.inr rfl)
  | a :: as, b :: bs => by
    rw [before_cons, before_cons]
    rcases Component.lt_or_eq_or_gt a b with h | rfl | h
    · exact Or.inl (Or.inl h)
    · rcases before_or_eq_or_after as bs with h | rfl | h
      · exact Or.inl (Or.inr ⟨rfl, h⟩)
      · exact Or.inr (Or.inl rfl)
      · exact Or.inr (Or.inr (Or.inr ⟨rfl, h⟩))
    · exact Or.inr (Or.inr (Or.inl h))

/-- `a` comes before `b` or is the same, as a statement about their components. -/
theorem le_iff {a b : Path} : a.le b = true ↔
    before a.components b.components = true ∨ a.components = b.components := by
  unfold le
  rcases before_or_eq_or_after a.components b.components with h | h | h
  · have : before b.components a.components = false := by
      by_contra hba
      have := before_trans h (by simpa using hba)
      simp [before_irrefl] at this
    simp [h, this]
  · simp [h, before_irrefl]
  · have : before a.components b.components ≠ true := by
      intro hab
      simpa [before_irrefl] using before_trans hab h
    have hne : a.components ≠ b.components := by
      intro heq
      rw [heq, before_irrefl] at h
      simp at h
    simp [h, this, hne]

theorem le_trans {a b c : Path} (hab : a.le b = true) (hbc : b.le c = true) : a.le c = true := by
  rw [le_iff] at hab hbc ⊢
  rcases hab with hab | hab
  · rcases hbc with hbc | hbc
    · exact Or.inl (before_trans hab hbc)
    · exact Or.inl (hbc ▸ hab)
  · exact hab ▸ hbc

theorem le_total (a b : Path) : a.le b = true ∨ b.le a = true := by
  rw [le_iff, le_iff]
  rcases before_or_eq_or_after a.components b.components with h | h | h
  · exact Or.inl (Or.inl h)
  · exact Or.inl (Or.inr h)
  · exact Or.inr (Or.inl h)

/-- Paths that come before each other are the same. -/
theorem same_of_le {a b : Path} (hab : a.le b = true) (hba : b.le a = true) : a.same b = true := by
  rw [le_iff] at hab hba
  rcases hab with hab | hab
  · rcases hba with hba | hba
    · simpa [before_irrefl] using before_trans hab hba
    · simp [same, hba]
  · simp [same, hab]

end Path

/-! ### Units -/

namespace UnitId

theorem le_iff {u v : UnitId} : u.le v = true ↔
    u.name < v.name ∨ u.name = v.name ∧ u.root.le v.root = true := by
  simp only [le, Bool.or_eq_true, Bool.and_eq_true, decide_eq_true_eq]

theorem le_trans (u v x : UnitId) (huv : u.le v = true) (hvx : v.le x = true) :
    u.le x = true := by
  rw [le_iff] at huv hvx ⊢
  rcases huv with h | ⟨h, hr⟩
  · rcases hvx with h' | ⟨h', -⟩
    · exact Or.inl (h.trans h')
    · exact Or.inl (h' ▸ h)
  · rcases hvx with h' | ⟨h', hr'⟩
    · exact Or.inl (h ▸ h')
    · exact Or.inr ⟨h.trans h', Path.le_trans hr hr'⟩

theorem le_total (u v : UnitId) : (u.le v || v.le u) = true := by
  rw [Bool.or_eq_true, le_iff, le_iff]
  rcases lt_trichotomy u.name v.name with h | h | h
  · exact Or.inl (Or.inl h)
  · rcases Path.le_total u.root v.root with hr | hr
    · exact Or.inl (Or.inr ⟨h, hr⟩)
    · exact Or.inr (Or.inr ⟨h.symm, hr⟩)
  · exact Or.inr (Or.inl h)

/-- Units that come before each other are the same. -/
theorem same_of_le {u v : UnitId} (huv : u.le v = true) (hvu : v.le u = true) :
    u.same v = true := by
  rw [le_iff] at huv hvu
  rcases huv with h | ⟨h, hr⟩
  · rcases hvu with h' | ⟨h', -⟩
    · exact absurd (h.trans h') (lt_irrefl _)
    · exact absurd (h' ▸ h) (lt_irrefl _)
  · rcases hvu with h' | ⟨-, hr'⟩
    · exact absurd (h ▸ h') (lt_irrefl _)
    · simp [same, h, Path.same_of_le hr hr']

/-- Ascending units. -/
def Ascending (us : List UnitId) : Prop := us.Pairwise fun u v => u.le v = true

theorem sort_perm (us : List UnitId) : (sort us).Perm us := List.mergeSort_perm us le

theorem ascending_sort (us : List UnitId) : Ascending (sort us) :=
  List.pairwise_mergeSort le_trans le_total us

/-- **There is one ascending order** of units of which no two are the same. -/
theorem sort_congr {us vs : List UnitId} (h : us.Perm vs)
    (hd : ∀ u ∈ us, ∀ v ∈ us, u.same v = true → u = v) : sort us = sort vs := by
  refine List.Perm.eq_of_pairwise ?_ (ascending_sort us) (ascending_sort vs)
    ((sort_perm us).trans (h.trans (sort_perm vs).symm))
  intro u v hu hv huv hvu
  have hu := (sort_perm us).mem_iff.mp hu
  have hv := h.mem_iff.mpr ((sort_perm vs).mem_iff.mp hv)
  exact hd u hu v hv (same_of_le huv hvu)

end UnitId

end Golden
