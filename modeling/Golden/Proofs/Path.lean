import Golden.Path
import Mathlib.Data.List.Infix
import Mathlib.Tactic.Common

/-! # Paths within each other

A path lies within another if it names that and more. Spelling pieces and cutting the text gives
the pieces back (`Path.splitOn_spell`), so that what the parent of a path names is known from its
pieces.

* `Path.components_of_parent`, `Path.parent_within`: what the parent of a path names, so that the
  path lies within it.
* `Path.parent_same`: paths that are the same have parents that are the same.
* `Path.components_join`: what a name in a directory leads to.
* `Path.Apart`: neither of two paths lies within the other. -/

namespace Golden.Path

/-! ### Pieces -/

/-- No piece has the character at which the text is cut. -/
theorem not_mem_of_mem_splitOn {sep : Char} :
    ∀ {cs p : List Char}, p ∈ cs.splitOn sep → sep ∉ p
  | [], p, hp => by
    rw [List.splitOn_nil, List.mem_singleton] at hp
    rw [hp]
    exact List.not_mem_nil
  | c :: cs, p, hp => by
    obtain ⟨q, qs, hqs⟩ := List.exists_cons_of_ne_nil (List.splitOn_ne_nil sep cs)
    rw [List.splitOn_cons_eq_if_modifyHead] at hp
    split_ifs at hp with hc
    · rcases List.mem_cons.mp hp with rfl | hp
      · exact List.not_mem_nil
      · exact not_mem_of_mem_splitOn hp
    · rw [hqs, List.modifyHead_cons] at hp
      rcases List.mem_cons.mp hp with rfl | hp
      · have hq : sep ∉ q := not_mem_of_mem_splitOn (hqs ▸ List.mem_cons_self)
        rw [List.mem_cons, not_or]
        exact ⟨fun h => hc (beq_iff_eq.mpr h.symm), hq⟩
      · exact not_mem_of_mem_splitOn (hqs ▸ List.mem_cons_of_mem q hp)

/-- **Cutting undoes spelling.** -/
theorem splitOn_spell {ps : List (List Char)} (hne : ps ≠ []) (h : ∀ p ∈ ps, '/' ∉ p) :
    (spell ps).splitOn '/' = ps :=
  List.splitOn_intercalate '/' h hne

/-! ### What pieces name -/

/-- What a path with the given pieces names. -/
def namedBy : List (List Char) → List Component
  | [] => []
  | [[]] => []
  | [] :: body => .root :: bodyComponents body
  | ['.'] :: body => .current :: bodyComponents body
  | body => bodyComponents body

theorem components_eq (p : Path) : p.components = namedBy (p.spelling.toList.splitOn '/') := rfl

/-- What is spelled with the pieces names the same as they do. -/
theorem bodyComponents_spell {ps : List (List Char)} (h : ∀ p ∈ ps, '/' ∉ p) :
    bodyComponents ((spell ps).splitOn '/') = bodyComponents ps := by
  cases ps with
  | nil => rfl
  | cons p ps => rw [splitOn_spell (by simp) h]

theorem namedBy_root {ps : List (List Char)} (h : ps ≠ []) :
    namedBy ([] :: ps) = .root :: bodyComponents ps := by
  cases ps with
  | nil => exact absurd rfl h
  | cons p ps => rfl

theorem namedBy_current (ps : List (List Char)) :
    namedBy (['.'] :: ps) = .current :: bodyComponents ps := rfl

theorem namedBy_body {p : List Char} (hp : p ≠ []) (hd : p ≠ ['.']) (ps : List (List Char)) :
    namedBy (p :: ps) = bodyComponents (p :: ps) := by
  unfold namedBy
  split <;> simp_all

/-- What is spelled with a beginning of the pieces, when they say nothing of the root. -/
theorem namedBy_spell {ps qs : List (List Char)} (h : qs <+: ps) (hslash : ∀ q ∈ qs, '/' ∉ q)
    (hroot : ∀ body, ps ≠ [] :: body) (hcurrent : ∀ body, ps ≠ ['.'] :: body) :
    namedBy ((spell qs).splitOn '/') = bodyComponents qs := by
  cases qs with
  | nil => rfl
  | cons q qs =>
    cases ps with
    | nil => cases List.prefix_nil.mp h
    | cons q' body =>
      obtain ⟨rfl, -⟩ := List.cons_prefix_cons.mp h
      rw [splitOn_spell (by simp) hslash,
        namedBy_body (fun e => hroot body (e ▸ rfl)) fun e => hcurrent body (e ▸ rfl)]

theorem namedBy_self {ps : List (List Char)} (hroot : ∀ body, ps ≠ [] :: body)
    (hcurrent : ∀ body, ps ≠ ['.'] :: body) : namedBy ps = bodyComponents ps := by
  cases ps with
  | nil => rfl
  | cons p ps =>
    exact namedBy_body (fun e => hroot ps (e ▸ rfl)) (fun e => hcurrent ps (e ▸ rfl)) ps

theorem bodyComponents_ne_root (ps : List (List Char)) : bodyComponents ps ≠ [.root] := by
  intro h
  have hmem : Component.root ∈ bodyComponents ps := by simp [h]
  obtain ⟨p, -, hp⟩ := List.mem_map.mp hmem
  unfold component at hp
  split_ifs at hp

/-! ### Parents -/

theorem trimPieces_begin (ps : List (List Char)) : trimPieces ps <+: ps := by
  rw [trimPieces, ← List.reverse_suffix, List.reverse_reverse]
  exact List.dropWhile_suffix _

theorem parentPieces_begin {ps qs : List (List Char)} (h : parentPieces ps = some qs) :
    qs <+: ps := by
  unfold parentPieces at h
  cases hlast : (trimPieces ps).reverse with
  | nil =>
    rw [hlast] at h
    cases h
  | cons last rest =>
    rw [hlast] at h
    obtain rfl := Option.some.inj h
    have hrest : rest.reverse <+: trimPieces ps := by
      rw [← List.reverse_suffix, List.reverse_reverse, hlast]
      exact List.suffix_cons _ _
    exact (trimPieces_begin _).trans (hrest.trans (trimPieces_begin ps))

theorem slash_not_mem_parentPieces {ps qs : List (List Char)} (h : parentPieces ps = some qs)
    (hslash : ∀ p ∈ ps, '/' ∉ p) : ∀ q ∈ qs, '/' ∉ q :=
  fun q hq => hslash q ((parentPieces_begin h).subset hq)

theorem isVoid_of_trim {ps rest : List (List Char)} {last : List Char}
    (h : (trimPieces ps).reverse = last :: rest) : isVoid last = false := by
  rw [trimPieces, List.reverse_reverse] at h
  have := List.head?_dropWhile_not isVoid ps.reverse
  rw [h] at this
  simpa using this

/-- What is void at the end does not matter. -/
theorem bodyComponents_trim (ps : List (List Char)) :
    bodyComponents (trimPieces ps) = bodyComponents ps := by
  have hvoid : ∀ qs : List (List Char),
      (qs.dropWhile isVoid).filter (fun p => !isVoid p) = qs.filter fun p => !isVoid p := by
    intro qs
    induction qs with
    | nil => rfl
    | cons q qs ih =>
      by_cases hq : isVoid q = true
      · rw [List.dropWhile_cons_of_pos hq, ih, List.filter_cons_of_neg (by simp [hq])]
      · rw [List.dropWhile_cons_of_neg hq]
  rw [bodyComponents, bodyComponents, trimPieces, List.filter_reverse, hvoid,
    List.filter_reverse, List.reverse_reverse]

/-- The pieces without the last component name the components without the last one. -/
theorem bodyComponents_parent {ps qs : List (List Char)} (h : parentPieces ps = some qs) :
    bodyComponents qs = (bodyComponents ps).dropLast ∧ bodyComponents ps ≠ [] := by
  unfold parentPieces at h
  cases hlast : (trimPieces ps).reverse with
  | nil =>
    rw [hlast] at h
    cases h
  | cons last rest =>
    rw [hlast] at h
    obtain rfl := Option.some.inj h
    have htrim : trimPieces ps = rest.reverse ++ [last] := by
      rw [← List.reverse_reverse (trimPieces ps), hlast, List.reverse_cons]
    have hbody : bodyComponents ps = bodyComponents rest.reverse ++ [component last] := by
      rw [← bodyComponents_trim, htrim]
      simp [bodyComponents, isVoid_of_trim hlast]
    rw [bodyComponents_trim, hbody, List.dropLast_concat]
    exact ⟨rfl, by simp⟩

theorem bodyComponents_no_parent {ps : List (List Char)} (h : parentPieces ps = none) :
    bodyComponents ps = [] := by
  unfold parentPieces at h
  cases hlast : (trimPieces ps).reverse with
  | nil =>
    rw [← bodyComponents_trim, List.reverse_eq_nil_iff.mp hlast]
    rfl
  | cons last rest =>
    rw [hlast] at h
    cases h

/-- **The parent of a path** names all its components but the last. -/
theorem components_of_parent {p d : Path} (h : p.parent? = some d) :
    d.components = p.components.dropLast ∧ p.components ≠ [] ∧ p.components ≠ [.root] := by
  have hslash : ∀ q ∈ p.spelling.toList.splitOn '/', '/' ∉ q := fun q => not_mem_of_mem_splitOn
  rw [components_eq p, components_eq d]
  unfold parent? at h
  split at h
  · cases h
  · cases h
  · rename_i body hne hps
    rw [hps] at hslash ⊢
    obtain ⟨qs, hqs, rfl⟩ := Option.map_eq_some_iff.mp h
    obtain ⟨hbody, hsome⟩ := bodyComponents_parent hqs
    have hslash' := slash_not_mem_parentPieces hqs (List.forall_mem_cons.mp hslash).2
    have hpieces : ('/' :: spell qs).splitOn '/' = [] :: (spell qs).splitOn '/' := rfl
    rw [String.toList_ofList, hpieces, namedBy_root (List.splitOn_ne_nil _ _),
      namedBy_root fun e => hne e, bodyComponents_spell hslash', hbody,
      List.dropLast_cons_of_ne_nil hsome]
    exact ⟨rfl, by simp, by simpa using hsome⟩
  · rename_i body hps
    rw [hps] at hslash ⊢
    rw [namedBy_current]
    split at h
    · rename_i hqs
      obtain rfl := Option.some.inj h
      rw [bodyComponents_no_parent hqs]
      exact ⟨rfl, by simp, by simp⟩
    · rename_i hqs
      obtain rfl := Option.some.inj h
      obtain ⟨hbody, hsome⟩ := bodyComponents_parent hqs
      rw [List.dropLast_cons_of_ne_nil hsome, ← hbody]
      exact ⟨rfl, by simp, by simp⟩
    · rename_i qs _ hqs
      obtain rfl := Option.some.inj h
      obtain ⟨hbody, hsome⟩ := bodyComponents_parent hqs
      have hslash' := slash_not_mem_parentPieces hqs (List.forall_mem_cons.mp hslash).2
      have hpieces : ('.' :: '/' :: spell qs).splitOn '/' = ['.'] :: (spell qs).splitOn '/' := rfl
      rw [String.toList_ofList, hpieces, namedBy_current, bodyComponents_spell hslash', hbody,
        List.dropLast_cons_of_ne_nil hsome]
      exact ⟨rfl, by simp, by simp⟩
  · rename_i hroot hcurrent
    obtain ⟨qs, hqs, rfl⟩ := Option.map_eq_some_iff.mp h
    obtain ⟨hbody, hsome⟩ := bodyComponents_parent hqs
    have hslash' := slash_not_mem_parentPieces hqs hslash
    rw [String.toList_ofList, namedBy_spell (parentPieces_begin hqs) hslash' hroot hcurrent,
      namedBy_self hroot hcurrent, hbody]
    exact ⟨rfl, hsome, bodyComponents_ne_root _⟩

/-- Only the empty path and the root have no parent. -/
theorem components_of_no_parent {p : Path} (h : p.parent? = none) :
    p.components = [] ∨ p.components = [.root] := by
  rw [components_eq]
  unfold parent? at h
  split at h
  · exact absurd ‹_› (List.splitOn_ne_nil _ _)
  · rename_i hps
    exact Or.inl (by rw [hps]; rfl)
  · rename_i body hne hps
    rw [hps, namedBy_root fun e => hne e,
      bodyComponents_no_parent (Option.map_eq_none_iff.mp h)]
    exact Or.inr rfl
  · split at h <;> cases h
  · rename_i hroot hcurrent
    rw [namedBy_self hroot hcurrent, bodyComponents_no_parent (Option.map_eq_none_iff.mp h)]
    exact Or.inl rfl

/-- **Paths that are the same have parents that are the same**, or none. -/
theorem parent_same {p q d : Path} (h : p.same q = true) (hd : p.parent? = some d) :
    ∃ e, q.parent? = some e ∧ e.same d = true := by
  have heq : p.components = q.components := by simpa [same] using h
  obtain ⟨hparent, hne, hroot⟩ := components_of_parent hd
  cases hq : q.parent? with
  | none =>
    rcases components_of_no_parent hq with h | h
    · exact absurd (heq.trans h) hne
    · exact absurd (heq.trans h) hroot
  | some e =>
    refine ⟨e, rfl, ?_⟩
    rw [same, decide_eq_true_iff, hparent, heq]
    exact (components_of_parent hq).1

/-- A path lies within its parent. -/
theorem parent_within {p d : Path} (h : p.parent? = some d) : d.components <+: p.components := by
  rw [(components_of_parent h).1]
  exact List.dropLast_prefix _

/-! ### Names -/

/-- The text is a name: by itself, it is a path with this one component. -/
def IsName (e : String) : Prop := (⟨e⟩ : Path).components = [.name e]

theorem mem_namedBy {n : String} : ∀ {ps : List (List Char)}, Component.name n ∈ namedBy ps →
    n.toList ∈ ps ∧ isVoid n.toList = false ∧ n.toList ≠ ['.', '.'] := by
  have hbody {ps : List (List Char)} (h : Component.name n ∈ bodyComponents ps) :
      n.toList ∈ ps ∧ isVoid n.toList = false ∧ n.toList ≠ ['.', '.'] := by
    obtain ⟨p, hp, hn⟩ := List.mem_map.mp h
    obtain ⟨hmem, hvoid⟩ := List.mem_filter.mp hp
    unfold component at hn
    split_ifs at hn with hup
    obtain rfl := Component.name.inj hn
    rw [String.toList_ofList]
    exact ⟨hmem, by simpa using hvoid, hup⟩
  intro ps h
  unfold namedBy at h
  split at h
  · cases h
  · cases h
  · have h' := hbody ((List.mem_cons.mp h).resolve_left (by simp))
    exact ⟨List.mem_cons_of_mem _ h'.1, h'.2⟩
  · have h' := hbody ((List.mem_cons.mp h).resolve_left (by simp))
    exact ⟨List.mem_cons_of_mem _ h'.1, h'.2⟩
  · exact hbody h

theorem isName_iff {e : String} : IsName e ↔
    '/' ∉ e.toList ∧ isVoid e.toList = false ∧ e.toList ≠ ['.', '.'] := by
  constructor
  · intro h
    have hmem : Component.name e ∈ namedBy (e.toList.splitOn '/') := by
      rw [← components_eq ⟨e⟩, h]
      exact List.mem_singleton_self _
    obtain ⟨hpiece, hvoid, hup⟩ := mem_namedBy hmem
    exact ⟨not_mem_of_mem_splitOn hpiece, hvoid, hup⟩
  · rintro ⟨hslash, hvoid, hup⟩
    have hne : e.toList ≠ [] ∧ e.toList ≠ ['.'] := by
      simpa [isVoid] using hvoid
    rw [IsName, components_eq, List.splitOn_eq_singleton hslash, namedBy_body hne.1 hne.2]
    simp [bodyComponents, hvoid, component, hup]

/-- What a path names last, if anything, is a name. -/
theorem isName_of_mem {n : String} {p : Path} (h : Component.name n ∈ p.components) : IsName n := by
  obtain ⟨hpiece, hvoid, hup⟩ := mem_namedBy (components_eq p ▸ h)
  exact isName_iff.mpr ⟨not_mem_of_mem_splitOn hpiece, hvoid, hup⟩

theorem bodyComponents_concat {e : String} (h : IsName e) (ps : List (List Char)) :
    bodyComponents (ps ++ [e.toList]) = bodyComponents ps ++ [.name e] := by
  obtain ⟨-, hvoid, hup⟩ := isName_iff.mp h
  simp [bodyComponents, hvoid, component, hup]

theorem bodyComponents_concat_void (ps : List (List Char)) :
    bodyComponents (ps ++ [[]]) = bodyComponents ps := by
  simp [bodyComponents, isVoid]

/-- A name after a separator comes after what is named before it. -/
theorem namedBy_concat {e : String} (h : IsName e) {ps : List (List Char)} (hne : ps ≠ []) :
    namedBy (ps ++ [e.toList]) = namedBy (ps ++ [[]]) ++ [.name e] := by
  cases ps with
  | nil => exact absurd rfl hne
  | cons p body =>
    rw [List.cons_append, List.cons_append]
    by_cases hp : p = []
    · subst hp
      rw [namedBy_root (by simp), namedBy_root (by simp), bodyComponents_concat h,
        bodyComponents_concat_void, List.cons_append]
    · by_cases hd : p = ['.']
      · subst hd
        rw [namedBy_current, namedBy_current, bodyComponents_concat h, bodyComponents_concat_void,
          List.cons_append]
      · rw [namedBy_body hp hd, namedBy_body hp hd, ← List.cons_append, ← List.cons_append,
          bodyComponents_concat h, bodyComponents_concat_void]

/-- A separator at the end says nothing, unless nothing comes before it. -/
theorem namedBy_concat_void {ps : List (List Char)} (hne : ps ≠ []) (hempty : ps ≠ [[]]) :
    namedBy (ps ++ [[]]) = namedBy ps := by
  cases ps with
  | nil => exact absurd rfl hne
  | cons p body =>
    rw [List.cons_append]
    by_cases hp : p = []
    · subst hp
      have hbody : body ≠ [] := fun hb => hempty (by rw [hb])
      rw [namedBy_root (by simp), namedBy_root hbody, bodyComponents_concat_void]
    · by_cases hd : p = ['.']
      · subst hd
        rw [namedBy_current, namedBy_current, bodyComponents_concat_void]
      · rw [namedBy_body hp hd, namedBy_body hp hd, ← List.cons_append, bodyComponents_concat_void]

theorem eq_nil_of_splitOn {cs : List Char} (h : cs.splitOn '/' = [[]]) : cs = [] := by
  have hspell : spell (cs.splitOn '/') = cs := List.intercalate_splitOn '/'
  rw [h] at hspell
  exact hspell.symm

/-- **A name in a directory** comes after what the directory names. -/
theorem components_join (d : Path) {e : String} (h : IsName e) :
    (d.join e).components = d.components ++ [.name e] := by
  obtain ⟨hslash, -, -⟩ := isName_iff.mp h
  have hrelative : e.startsWith "/" = false := by
    rw [Bool.eq_false_iff, Ne, String.startsWith_string_iff]
    exact fun hb => hslash (hb.subset (by simp))
  have hpieces (cs : List Char) :
      (cs ++ '/' :: e.toList).splitOn '/' = cs.splitOn '/' ++ [e.toList] := by
    rw [List.splitOn_append_cons_self, List.splitOn_eq_singleton hslash]
  unfold join
  rw [if_neg (by simp [hrelative])]
  split_ifs with hempty hends
  · have hd : d.components = [] := by
      rw [components_eq, hempty]
      rfl
    rw [hd]
    exact h
  · obtain ⟨cs, hcs⟩ : ['/'] <:+ d.spelling.toList := by
      rw [← String.endsWith_toSlice, String.Slice.endsWith_string_iff] at hends
      simpa using hends
    have hd : d.spelling.toList.splitOn '/' = cs.splitOn '/' ++ [[]] := by
      rw [← hcs, List.splitOn_append_cons_self]
      rfl
    have hjoin : (d.spelling ++ e).toList = cs ++ '/' :: e.toList := by
      rw [String.toList_append, ← hcs, List.append_assoc, List.singleton_append]
    rw [components_eq, components_eq, hjoin, hpieces, hd, namedBy_concat h (List.splitOn_ne_nil _ cs)]
  · have hd : d.spelling.toList.splitOn '/' ≠ [[]] := fun hd => hempty (by
      rw [← String.toList_inj, eq_nil_of_splitOn hd]
      rfl)
    have hjoin : (d.spelling ++ "/" ++ e).toList = d.spelling.toList ++ '/' :: e.toList := by
      rw [String.toList_append, String.toList_append, List.append_assoc]
      rfl
    rw [components_eq, components_eq, hjoin, hpieces, namedBy_concat h (List.splitOn_ne_nil _ _),
      namedBy_concat_void (List.splitOn_ne_nil _ _) hd]

/-- **A path is that of a name in a directory** exactly if its parent is the directory, and it ends
in the name. -/
theorem components_eq_join_iff {p d : Path} {e : String} :
    p.parent?.any (·.same d) = true ∧ p.fileName? = some e ↔
      IsName e ∧ p.same (d.join e) = true := by
  constructor
  · rintro ⟨hparent, hname⟩
    obtain ⟨q, hq, hsame⟩ := (Option.any_eq_true _ _).mp hparent
    have hlast : p.components.getLast? = some (.name e) := by
      unfold fileName? at hname
      split at hname
      · rename_i hlast
        rw [hlast, Option.some.inj hname]
      · cases hname
    have heq : p.components = d.components ++ [.name e] := by
      rw [same, decide_eq_true_iff, (components_of_parent hq).1] at hsame
      rw [← hsame, List.dropLast_append_getLast? _ hlast]
    have hisName : IsName e := isName_of_mem (heq ▸ List.mem_append_right _ (by simp))
    refine ⟨hisName, ?_⟩
    rw [same, decide_eq_true_iff, heq, components_join d hisName]
  · rintro ⟨hisName, hsame⟩
    have heq : p.components = d.components ++ [.name e] := by
      rw [← components_join d hisName]
      simpa [same] using hsame
    refine ⟨?_, ?_⟩
    · cases hq : p.parent? with
      | none =>
        rcases components_of_no_parent hq with h | h <;> simp [heq, List.append_eq_singleton_iff] at h
      | some q =>
        have hcomponents := (components_of_parent hq).1
        rw [heq, List.dropLast_concat] at hcomponents
        simp [same, hcomponents]
    · rw [fileName?, heq, List.getLast?_concat]

/-! ### Apart -/

/-- Neither path lies within the other. -/
def Apart (p q : Path) : Prop :=
  ¬ p.components <+: q.components ∧ ¬ q.components <+: p.components

instance (p q : Path) : Decidable (p.Apart q) := inferInstanceAs (Decidable (_ ∧ _))

theorem Apart.symm {p q : Path} (h : p.Apart q) : q.Apart p := ⟨h.2, h.1⟩

/-- Paths that are apart are not the same. -/
theorem Apart.not_same {p q : Path} (h : p.Apart q) : p.same q = false := by
  rw [same, decide_eq_false_iff_not]
  intro heq
  exact h.1 (heq ▸ List.prefix_refl _)

/-- A path is not in the way of the directory above another path that is apart. -/
theorem Apart.parent {p q d : Path} (h : p.Apart q) (hd : q.parent? = some d) :
    ¬ p.components <+: d.components :=
  fun hp => h.1 (hp.trans (parent_within hd))

end Golden.Path
