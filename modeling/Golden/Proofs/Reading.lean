import Mathlib.Tactic.Common

/-! # Results, and the first that fails

What is read is a result or an error. The result of several readings, one after another, is known
from the results of each (`Except.bind_eq_ok`, `Except.bind_eq_error`).

A list is refused because of the first member that does not have some property `P`. Members that
have it are passed over one by one (`exists_first_of`), and one that does not have it ends the
search (`exists_first_of_not`). -/

namespace Golden

section Results
variable {ε δ α β : Type} {x : Except ε α}

theorem Except.bind_eq_ok {f : α → Except ε β} {b : β} :
    (x >>= f) = .ok b ↔ ∃ a, x = .ok a ∧ f a = .ok b := by
  cases x <;> simp [bind, Except.bind]

theorem Except.bind_eq_error {f : α → Except ε β} {e : ε} :
    (x >>= f) = .error e ↔ x = .error e ∨ ∃ a, x = .ok a ∧ f a = .error e := by
  cases x <;> simp [bind, Except.bind]

theorem Except.map_eq_ok {f : α → β} {b : β} : x.map f = .ok b ↔ ∃ a, x = .ok a ∧ f a = b := by
  cases x <;> simp [Except.map]

theorem Except.map_eq_error {f : α → β} {e : ε} : x.map f = .error e ↔ x = .error e := by
  cases x <;> simp [Except.map]

theorem Except.mapError_eq_ok {g : ε → δ} {a : α} : x.mapError g = .ok a ↔ x = .ok a := by
  cases x <;> simp [Except.mapError]

theorem Except.mapError_eq_error {g : ε → δ} {d : δ} :
    x.mapError g = .error d ↔ ∃ e, x = .error e ∧ g e = d := by
  cases x <;> simp [Except.mapError]

end Results

section First
variable {α : Type} {P : α → Prop} {Q : List α → α → Prop} {x : α}

theorem exists_first_of_not (hx : ¬ P x) (xs : List α) :
    (∃ front y back, x :: xs = front ++ y :: back ∧ (∀ z ∈ front, P z) ∧ Q front y) ↔ Q [] x := by
  constructor
  · rintro ⟨front, y, back, heq, hfront, hQ⟩
    cases front with
    | nil =>
      obtain ⟨rfl, -⟩ := List.cons.inj heq
      exact hQ
    | cons z front =>
      obtain ⟨rfl, -⟩ := List.cons.inj heq
      exact absurd (hfront x List.mem_cons_self) hx
  · exact fun hQ => ⟨[], x, xs, rfl, List.forall_mem_nil P, hQ⟩

theorem exists_first_of (hx : P x) (hQ : ¬ Q [] x) (xs : List α) :
    (∃ front y back, x :: xs = front ++ y :: back ∧ (∀ z ∈ front, P z) ∧ Q front y) ↔
      ∃ front y back, xs = front ++ y :: back ∧ (∀ z ∈ front, P z) ∧ Q (x :: front) y := by
  constructor
  · rintro ⟨front, y, back, heq, hfront, hy⟩
    cases front with
    | nil =>
      obtain ⟨rfl, -⟩ := List.cons.inj heq
      exact absurd hy hQ
    | cons z front =>
      obtain ⟨rfl, rfl⟩ := List.cons.inj heq
      exact ⟨front, y, back, rfl, (List.forall_mem_cons.mp hfront).2, hy⟩
  · rintro ⟨front, y, back, rfl, hfront, hy⟩
    exact ⟨x :: front, y, back, rfl, List.forall_mem_cons.mpr ⟨hx, hfront⟩, hy⟩

end First

end Golden
