import Golden.Proofs.Files
import Golden.Proofs.Order
import Golden.Proofs.Suite.Steps

/-! # Results

A result holds every unit that has run, in the list that its outcome belongs to (`Outcome.kind`).

* `Suite.units_resultOf`: the lists of a result, as parts of the records.
* `Suite.sample`: a small suite, for illustration. -/

namespace Golden

/-- The list of a result that an outcome belongs to. -/
def Outcome.kind : Outcome → Section
  | .passed => .good
  | .failed _ | .crashed .. => .bad
  | .skipped _ => .skipped

namespace SuiteResult

/-- The units of one kind. -/
def units (r : SuiteResult) : Section → List UnitId
  | .good => r.good
  | .bad => r.bad
  | .skipped => r.skipped

theorem units_record (r : SuiteResult) (u : UnitId) (o : Outcome) (k : Section) :
    (r.record u o).units k = if o.kind = k then r.units k ++ [u] else r.units k := by
  cases o <;> cases k <;> rfl

theorem severalRoots_record (r : SuiteResult) (u : UnitId) (o : Outcome) :
    (r.record u o).severalRoots = r.severalRoots := by
  cases o <;> rfl

theorem units_sorted (r : SuiteResult) (k : Section) :
    r.sorted.units k = UnitId.sort (r.units k) := by
  cases k <;> rfl

/-- Whether a run was successful is told by the bad units. -/
theorem exitCode_eq_one (r : SuiteResult) : r.exitCode = 1 ↔ r.bad ≠ [] := by
  unfold exitCode isSuccess
  by_cases h : r.bad = [] <;> simp [h]

end SuiteResult

/-- The units among records that have an outcome of one kind. -/
def ofKind (k : Section) (records : List (UnitId × Outcome)) : List UnitId :=
  (records.filter fun e => e.2.kind = k).map Prod.fst

theorem ofKind_cons (k : Section) (e : UnitId × Outcome) (records : List (UnitId × Outcome)) :
    ofKind k (e :: records) =
      if e.2.kind = k then e.1 :: ofKind k records else ofKind k records := by
  unfold ofKind
  by_cases h : e.2.kind = k <;> simp [h]

theorem ofKind_ne_nil {k : Section} {records : List (UnitId × Outcome)} :
    ofKind k records ≠ [] ↔ ∃ e ∈ records, e.2.kind = k := by
  simp [ofKind, List.filter_eq_nil_iff]

open scoped List in
/-- **No record is lost** when records are told apart by kind. -/
theorem ofKind_perm : ∀ records : List (UnitId × Outcome),
    ofKind .good records ++ ofKind .bad records ++ ofKind .skipped records ~ records.map Prod.fst
  | [] => List.Perm.refl _
  | e :: records => by
    have ih := (ofKind_perm records).cons e.1
    rw [List.map_cons, ofKind_cons, ofKind_cons, ofKind_cons]
    cases e.2.kind with
    | good => exact ih
    | bad => exact (List.perm_middle.append_right _).trans ih
    | skipped => exact List.perm_middle.trans ih

namespace Tally

theorem units_foldl (k : Section) :
    ∀ (records : List (UnitId × Outcome)) (r : SuiteResult),
      (records.foldl (fun r e => r.record e.1 e.2) r).units k = r.units k ++ ofKind k records
  | [], r => by simp [ofKind]
  | e :: records, r => by
    rw [List.foldl_cons, units_foldl k records, SuiteResult.units_record, ofKind_cons]
    split_ifs
    · rw [List.append_assoc, List.singleton_append]
    · rfl

/-- The units of one kind in the result of a tally. -/
theorem units_result (t : Tally) (several : Bool) (k : Section) :
    (t.result several).units k = ofKind k t.records := by
  have h := units_foldl k t.records (SuiteResult.empty several)
  have hempty : (SuiteResult.empty several).units k = [] := by cases k <;> rfl
  rw [hempty, List.nil_append] at h
  rw [← h]
  cases k <;> rfl

theorem severalRoots_result (t : Tally) (several : Bool) :
    (t.result several).severalRoots = several := by
  suffices h : ∀ (records : List (UnitId × Outcome)) (r : SuiteResult),
      (records.foldl (fun r e => r.record e.1 e.2) r).severalRoots = r.severalRoots from
    h t.records _
  intro records
  induction records with
  | nil => exact fun _ => rfl
  | cons e records ih =>
    intro r
    rw [List.foldl_cons, ih, SuiteResult.severalRoots_record]

end Tally

namespace Suite

/-- **The units of one kind** in the result of a run: those whose outcome was of that kind, in
ascending order. -/
theorem units_resultOf (p : Plan) (t : Tally) (k : Section) :
    (resultOf p t).units k = UnitId.sort (ofKind k t.records) := by
  rw [resultOf, SuiteResult.units_sorted, Tally.units_result]

/-! ### A small suite -/

/-- Three tests are asked for. One of them fails, and of another one there is no source. -/
def sample : Suite Shelf where
  options := { Options.none with tests := ["test_b", "test_c", "test_a"], memo := some ⟨"memo"⟩ }
  config := ⟨⟨[⟨"t"⟩], "py", [], []⟩, defaultPlatform⟩
  loader := Registry.loader
    ⟨[("test_a", fun _ => .done), ("test_b", fun _ => .raise (.failure "no"))]⟩
  detector := none
  entropy := 0

/-- The world in which the small suite runs. -/
def sampleWorld : World Shelf Memory :=
  .start ⟨[(⟨"t/test_a.py"⟩, []), (⟨"t/test_b.py"⟩, [])]⟩ .empty

/-- The result of the small suite. -/
def sampleResult : SuiteResult where
  good := [⟨"test_a", ⟨"t"⟩⟩]
  bad := [⟨"test_b", ⟨"t"⟩⟩]
  skipped := []
  interrupted := false
  severalRoots := false

end Suite

end Golden
