import Golden.Proofs.Files
import Golden.Proofs.Runner.Stored

/-! # Outputs that are kept, one after the other

A round that generates expected outputs keeps the output of every unit that ends well
(`Runner.keepAll`). Whether a file is needed may depend on what was kept before, because a file that
is there is kept up to date.

A second round may therefore store outputs that the first one did not: an output that is expected
anyhow, where another unit has the same file and came later. But then the second round comes to that
unit as well, and whatever is stored last in a file is the same in both rounds.

* `Runner.contents_keepAll`, `Runner.has_keepAll`: what a round leaves in the files.
* `Runner.stored_of_stores`: a file that was stored can be stored again.
* `Runner.Resumes`: how far a second round is behind the first one. `Runner.Resumes.next` takes both
  of them to the next output.
* `Runner.keepAll_again`: a second round goes well and changes nothing. -/

namespace Golden.Runner

open FileSystem

variable {σ : Type} [FileSystem σ] {u v : UnitId} {output output' : Bytes} {s t n : σ}
  {es : List (UnitId × Bytes)} {p q : Path}

/-! ### One output -/

/-- The files with the directory for the expected output of a unit. -/
def prepared (u : UnitId) (s : σ) : Except FileSystemError Unit × σ :=
  match u.goldenPath.parent? with
  | none => (.ok (), s)
  | some d => makeDirectories s d

/-- An output is stored if its directory can be created and its file can be written. -/
theorem stored_eq (u : UnitId) (output : Bytes) (s : σ) : stored u output s =
    match (prepared u s).1 with
    | .error e => (.error e, (prepared u s).2)
    | .ok () => write (prepared u s).2 u.goldenPath output := by
  unfold stored prepared
  cases u.goldenPath.parent? with
  | none => rfl
  | some d =>
    dsimp only
    rcases makeDirectories s d with ⟨_ | _, m⟩ <;> rfl

theorem stored_eq_ok : (stored u output s).1 = .ok () ↔ (prepared u s).1 = .ok () ∧
    (write (prepared u s).2 u.goldenPath output).1 = .ok () := by
  rw [stored_eq]
  cases (prepared u s).1 <;> simp

theorem stored_snd (h : (stored u output s).1 = .ok ()) :
    (stored u output s).2 = (write (prepared u s).2 u.goldenPath output).2 := by
  rw [stored_eq, (stored_eq_ok.mp h).1]

theorem later_prepared (h : (prepared u s).1 = .ok ()) : Later s (prepared u s).2 := by
  unfold prepared at h ⊢
  cases hparent : u.goldenPath.parent? with
  | none => exact .refl
  | some d =>
    rw [hparent] at h
    exact .single (.makeDirectories h)

/-- What happens to the files when an output is kept goes well, if the whole does. -/
theorem later_keep (h : (keep u output s).1 = .ok ()) : Later s (keep u output s).2 := by
  by_cases hneeded : Needed u output s
  · rw [keep_of_needed hneeded] at h ⊢
    obtain ⟨hprepared, hwrite⟩ := stored_eq_ok.mp h
    rw [stored_snd h]
    exact .tail (later_prepared hprepared) (.write hwrite)
  · rw [keep_of_not_needed hneeded]
    exact .refl

section Lasting
variable (hl : Lasting σ)
include hl

/-- What has been stored is in the file, and nothing else has changed. -/
theorem contents_stored (h : (stored u output s).1 = .ok ()) (q : Path) :
    contents (stored u output s).2 q =
      if u.goldenPath.same q then some output else contents s q := by
  obtain ⟨hprepared, hwrite⟩ := stored_eq_ok.mp h
  rw [stored_snd h]
  split_ifs with hq
  · rw [contents, hl.written _ _ _ hwrite q hq]
    rfl
  · rw [hl.others _ _ _ hwrite q hq]
    unfold prepared at hprepared ⊢
    cases hparent : u.goldenPath.parent? with
    | none => rfl
    | some d =>
      rw [hparent] at hprepared
      exact hl.files s d hprepared q

theorem has_stored_same (h : (stored u output s).1 = .ok ()) (hp : u.goldenPath.same p) :
    has (stored u output s).2 p := by
  rw [stored_snd h]
  exact hl.shown _ _ _ (stored_eq_ok.mp h).2 p hp

theorem has_stored_apart (h : (stored u output s).1 = .ok ()) (hp : p.Apart u.goldenPath) :
    has (stored u output s).2 p = has s p := by
  obtain ⟨hprepared, hwrite⟩ := stored_eq_ok.mp h
  rw [stored_snd h, hl.apart _ _ _ hwrite p hp]
  unfold prepared at hprepared ⊢
  cases hparent : u.goldenPath.parent? with
  | none => rfl
  | some d =>
    rw [hparent] at hprepared
    exact hl.directories s d hprepared p (hp.parent hparent)

/-- The directory can be created again. -/
theorem prepared_again (h : (prepared u s).1 = .ok ()) (ht : Later (prepared u s).2 t)
    (hsame : u.goldenPath.same v.goldenPath) : (prepared v t).1 = .ok () := by
  have hsame' : v.goldenPath.same u.goldenPath := by simpa [Path.same, eq_comm] using hsame
  unfold prepared at h ht ⊢
  cases hv : v.goldenPath.parent? with
  | none => rfl
  | some e =>
    obtain ⟨d, hu, hde⟩ := Path.parent_same hsame' hv
    rw [hu] at h ht
    exact hl.remakable s d h t ht e hde

/-- **What has been stored once can be stored again**, and so can any other output in the same
file. -/
theorem stored_again (h : (stored u output s).1 = .ok ()) (ht : Later (stored u output s).2 t)
    (hsame : u.goldenPath.same v.goldenPath) : (stored v output' t).1 = .ok () := by
  obtain ⟨hprepared, hwrite⟩ := stored_eq_ok.mp h
  rw [stored_snd h] at ht
  have hagain := prepared_again hl hprepared (.trans (.single (.write hwrite)) ht) hsame
  refine stored_eq_ok.mpr ⟨hagain, ?_⟩
  exact hl.rewritable _ _ _ hwrite _ (.trans ht (later_prepared hagain)) _ hsame _

end Lasting

/-! ### Many outputs -/

/-- Keeps the outputs of units one after the other. -/
def keepAll : List (UnitId × Bytes) → σ → Except FileSystemError Unit × σ
  | [], s => (.ok (), s)
  | e :: es, s =>
    match (keep e.1 e.2 s).1 with
    | .error x => (.error x, (keep e.1 e.2 s).2)
    | .ok () => keepAll es (keep e.1 e.2 s).2

theorem keepAll_cons_eq_ok : (keepAll ((u, output) :: es) s).1 = .ok () ↔
    (keep u output s).1 = .ok () ∧ (keepAll es (keep u output s).2).1 = .ok () := by
  rw [keepAll]
  cases (keep u output s).1 <;> simp

theorem keepAll_cons_snd (h : (keep u output s).1 = .ok ()) :
    (keepAll ((u, output) :: es) s).2 = (keepAll es (keep u output s).2).2 := by
  rw [keepAll, h]

theorem later_keepAll : ∀ {es : List (UnitId × Bytes)} {s : σ}, (keepAll es s).1 = .ok () →
    Later s (keepAll es s).2
  | [], _, _ => .refl
  | (u, output) :: es, s, h => by
    obtain ⟨hkeep, hrest⟩ := keepAll_cons_eq_ok.mp h
    rw [keepAll_cons_snd hkeep]
    exact .trans (later_keep hkeep) (later_keepAll hrest)

/-- **The path is stored** when outputs are kept one after the other. -/
def Stores : List (UnitId × Bytes) → σ → Path → Prop
  | [], _, _ => False
  | e :: es, s, p =>
    (Needed e.1 e.2 s ∧ e.1.goldenPath.same p) ∨ Stores es (keep e.1 e.2 s).2 p

theorem Stores.congr (hpq : p.same q) : ∀ {es : List (UnitId × Bytes)} {s : σ},
    Stores es s p → Stores es s q
  | _ :: _, _, .inl ⟨hneeded, hp⟩ => by
    refine .inl ⟨hneeded, ?_⟩
    simp only [Path.same, decide_eq_true_eq] at hp hpq ⊢
    exact hp.trans hpq
  | _ :: _, _, .inr h => .inr (Stores.congr hpq h)

/-- A path is level with the files of the units: it leads to one of them, or lies apart. -/
def Level (es : List (UnitId × Bytes)) (p : Path) : Prop :=
  ∀ e ∈ es, e.1.goldenPath.same p ∨ p.Apart e.1.goldenPath

section Lasting
variable (hl : Lasting σ)
include hl

/-- A file that is not stored stays as it is. -/
theorem contents_keepAll : ∀ {es : List (UnitId × Bytes)} {s : σ}, (keepAll es s).1 = .ok () →
    ¬ Stores es s q → contents (keepAll es s).2 q = contents s q
  | [], _, _, _ => rfl
  | (u, output) :: es, s, h, hq => by
    obtain ⟨hkeep, hrest⟩ := keepAll_cons_eq_ok.mp h
    obtain ⟨hhere, hlater⟩ := not_or.mp hq
    rw [keepAll_cons_snd hkeep, contents_keepAll hrest hlater]
    by_cases hneeded : Needed u output s
    · rw [keep_of_needed hneeded] at hkeep ⊢
      rw [contents_stored hl hkeep, if_neg fun hsame => hhere ⟨hneeded, hsame⟩]
    · rw [keep_of_not_needed hneeded]

/-- **A file is there after a round** if it was there before, or has been stored. -/
theorem has_keepAll : ∀ {es : List (UnitId × Bytes)} {s : σ}, (keepAll es s).1 = .ok () →
    Level es p → (has (keepAll es s).2 p = true ↔ has s p = true ∨ Stores es s p)
  | [], _, _, _ => by simp [keepAll, Stores]
  | (u, output) :: es, s, h, hp => by
    obtain ⟨hkeep, hrest⟩ := keepAll_cons_eq_ok.mp h
    obtain ⟨hu, hes⟩ := List.forall_mem_cons.mp hp
    have hhere : has (keep u output s).2 p = true ↔
        has s p = true ∨ Needed u output s ∧ u.goldenPath.same p := by
      by_cases hneeded : Needed u output s
      · rw [keep_of_needed hneeded] at hkeep ⊢
        rcases hu with hsame | hapart
        · simp [has_stored_same hl hkeep hsame, hneeded, hsame]
        · simp [has_stored_apart hl hkeep hapart, hapart.symm.not_same]
      · simp [keep_of_not_needed hneeded, hneeded]
    rw [keepAll_cons_snd hkeep, has_keepAll hrest hes, hhere, Stores, or_assoc]

/-- **A file that has been stored can be stored again** after the round, at any time. -/
theorem stored_of_stores : ∀ {es : List (UnitId × Bytes)} {s : σ}, (keepAll es s).1 = .ok () →
    Stores es s v.goldenPath → Later (keepAll es s).2 t → (stored v output' t).1 = .ok ()
  | (u, output) :: es, s, h, hstores, ht => by
    obtain ⟨hkeep, hrest⟩ := keepAll_cons_eq_ok.mp h
    rw [keepAll_cons_snd hkeep] at ht
    rcases hstores with ⟨hneeded, hsame⟩ | hstores
    · have hlater := Relation.ReflTransGen.trans (later_keepAll hrest) ht
      rw [keep_of_needed hneeded] at hkeep hlater
      exact stored_again hl hkeep hlater hsame
    · exact stored_of_stores hrest hstores ht

end Lasting

/-! ### A second round -/

/-- **A second round, taken up in the midst.** The first round went on from `s` with the outputs
`es` and left `n`. The second one goes on with the same outputs from `t`, where the files are what
the first round has left, except for those that the rest of the first round stores. -/
structure Resumes (es : List (UnitId × Bytes)) (s n t : σ) : Prop where
  level : ∀ e ∈ es, Level es e.1.goldenPath
  ok : (keepAll es s).1 = .ok ()
  ended : (keepAll es s).2 = n
  later : Later n t
  present : ∀ e ∈ es, has t e.1.goldenPath = has n e.1.goldenPath
  same : ∀ q, ¬ Stores es s q → contents t q = contents n q

section Lasting
variable (hl : Lasting σ)
include hl

namespace Resumes

/-- After the first round, a file is there if it was there before, or has been stored. -/
theorem has_iff (h : Resumes es s n t) (hp : Level es p) :
    has n p = true ↔ has s p = true ∨ Stores es s p := by
  rw [← h.ended]
  exact has_keepAll hl h.ok hp

/-- What is stored in the second round has been stored in the first one, now or later. -/
theorem stores (h : Resumes ((u, output) :: es) s n t) (hneeded : Needed u output t) :
    Stores ((u, output) :: es) s u.goldenPath := by
  obtain ⟨hlevel, -⟩ := List.forall_mem_cons.mp h.level
  obtain ⟨hpresent, -⟩ := List.forall_mem_cons.mp h.present
  by_cases hfirst : Needed u output s
  · exact .inl ⟨hfirst, by simp [Path.same]⟩
  · obtain ⟨hbase, habsent⟩ := Classical.not_imp.mp hfirst
    exact ((h.has_iff hl hlevel).mp (hpresent ▸ hneeded hbase)).resolve_left habsent

/-- What is not stored in the second round was not stored in the first one, either: the file would
be there. -/
theorem not_needed (h : Resumes ((u, output) :: es) s n t) (hneeded : ¬ Needed u output t) :
    ¬ Needed u output s := by
  intro hfirst
  obtain ⟨hlevel, -⟩ := List.forall_mem_cons.mp h.level
  obtain ⟨hpresent, -⟩ := List.forall_mem_cons.mp h.present
  obtain ⟨hbase, habsent⟩ := Classical.not_imp.mp hneeded
  exact habsent (hpresent.trans ((h.has_iff hl hlevel).mpr (.inl (hfirst hbase))))

theorem stored_ok (h : Resumes ((u, output) :: es) s n t) (hneeded : Needed u output t) :
    (stored u output t).1 = .ok () :=
  stored_of_stores hl h.ok (h.stores hl hneeded) (h.ended ▸ h.later)

theorem keep_ok (h : Resumes ((u, output) :: es) s n t) : (keep u output t).1 = .ok () := by
  by_cases hneeded : Needed u output t
  · rw [keep_of_needed hneeded]
    exact h.stored_ok hl hneeded
  · rw [keep_of_not_needed hneeded]

/-- Files are there after an output has been kept if they were there after the first round. -/
theorem has_keep (h : Resumes ((u, output) :: es) s n t) {e : UnitId × Bytes} (he : e ∈ es) :
    has (keep u output t).2 e.1.goldenPath = has n e.1.goldenPath := by
  have hpresent := h.present e (List.mem_cons_of_mem _ he)
  by_cases hneeded : Needed u output t
  · have hlevel := h.level e (List.mem_cons_of_mem _ he)
    have hstored := h.stored_ok hl hneeded
    rw [keep_of_needed hneeded]
    rcases hlevel (u, output) List.mem_cons_self with hsame | hapart
    · rw [has_stored_same hl hstored hsame,
        (h.has_iff hl hlevel).mpr (.inr ((h.stores hl hneeded).congr hsame))]
    · rw [has_stored_apart hl hstored hapart, hpresent]
  · rw [keep_of_not_needed hneeded, hpresent]

/-- Files that the rest of the first round does not store are what it has left. -/
theorem contents_keep (h : Resumes ((u, output) :: es) s n t)
    (hq : ¬ Stores es (keep u output s).2 q) :
    contents (keep u output t).2 q = contents n q := by
  obtain ⟨hkeep, hrest⟩ := keepAll_cons_eq_ok.mp h.ok
  by_cases hneeded : Needed u output t
  · rw [keep_of_needed hneeded, contents_stored hl (h.stored_ok hl hneeded)]
    split_ifs with hsame
    · -- nothing is stored in this file later, so that it was stored now
      have hfirst : Needed u output s := by
        rcases h.stores hl hneeded with ⟨hfirst, -⟩ | hlater
        · exact hfirst
        · exact absurd (hlater.congr hsame) hq
      rw [← h.ended, keepAll_cons_snd hkeep, contents_keepAll hl hrest hq, keep_of_needed hfirst,
        contents_stored hl (keep_of_needed hfirst ▸ hkeep), if_pos hsame]
    · exact h.same q (not_or.mpr ⟨fun hhere => hsame hhere.2, hq⟩)
  · have hfirst := h.not_needed hl hneeded
    rw [keep_of_not_needed hneeded]
    exact h.same q (not_or.mpr ⟨fun hhere => hfirst hhere.1, hq⟩)

/-- **Both rounds go on** behind the next output. -/
theorem next (h : Resumes ((u, output) :: es) s n t) :
    Resumes es (keep u output s).2 n (keep u output t).2 := by
  obtain ⟨hkeep, hrest⟩ := keepAll_cons_eq_ok.mp h.ok
  obtain ⟨-, hlevel⟩ := List.forall_mem_cons.mp h.level
  refine ⟨fun e he => (List.forall_mem_cons.mp (hlevel e he)).2, hrest, ?_,
    .trans h.later (later_keep (h.keep_ok hl)), fun e he => h.has_keep hl he,
    fun q hq => h.contents_keep hl hq⟩
  rw [← keepAll_cons_snd hkeep, h.ended]

/-- **The rest of the second round** goes well and leaves what the first round has left. -/
theorem keepAll_eq : ∀ {es : List (UnitId × Bytes)} {s n t : σ}, Resumes es s n t →
    (keepAll es t).1 = .ok () ∧ ∀ q, contents (keepAll es t).2 q = contents n q
  | [], _, _, _, h => ⟨rfl, fun q => h.same q id⟩
  | (u, output) :: es, s, n, t, h => by
    rw [keepAll_cons_eq_ok, keepAll_cons_snd (h.keep_ok hl), and_assoc]
    exact ⟨h.keep_ok hl, keepAll_eq (h.next hl)⟩

end Resumes

/-- **A second round goes well and changes nothing.** -/
theorem keepAll_again (hlevel : ∀ e ∈ es, Level es e.1.goldenPath) (h : (keepAll es s).1 = .ok ()) :
    (keepAll es (keepAll es s).2).1 = .ok () ∧
      ∀ q, contents (keepAll es (keepAll es s).2).2 q = contents (keepAll es s).2 q :=
  Resumes.keepAll_eq hl ⟨hlevel, h, rfl, .refl, fun _ _ => rfl, fun _ _ => rfl⟩

end Lasting

end Golden.Runner
