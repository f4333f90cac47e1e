import Golden.Proofs.Reading
import Golden.Resource
import Mathlib.Data.List.Basic
import Mathlib.Tactic.Common

/-! # Requests for resources

A word of a request is known if it is spelled, in letters of any case, like one of the words that
there are (`Resources.Known`). Requests are obeyed word by word, so that several requests amount to
one in which they are joined by commas (`Resources.useAll_eq_ok`). Whether a resource is enabled in the
end depends on the last word that mentions it.

* `Resources.exists_useAll_error`: requests are refused exactly if one of their words is not
  understood.
* `Resources.contains_applyWords`: the last mention of a resource decides.
* `Resources.useAll_lastMention`: what requests lead to. -/

namespace Golden

namespace Resource

theorem mem_all (r : Resource) : r ∈ all := by
  cases r <;> decide

theorem name_inj {r r' : Resource} (h : r.name = r'.name) : r = r' := by
  revert h
  cases r <;> cases r' <;> decide

/-- A resource is known by its name, whatever the case of its letters. -/
theorem ofName?_eq_some {s : String} {r : Resource} : ofName? s = some r ↔ s.toLower = r.name := by
  unfold ofName?
  constructor
  · intro h
    have hname := List.find?_some h
    exact (of_decide_eq_true hname).symm
  · intro h
    obtain ⟨r', hr'⟩ : ∃ r', (all.find? fun r => r.name = s.toLower) = some r' :=
      Option.isSome_iff_exists.mp (List.find?_isSome.mpr ⟨r, r.mem_all, decide_eq_true h.symm⟩)
    have hname : r'.name = s.toLower := by simpa using List.find?_some hr'
    rw [hr', name_inj (hname.trans h)]

end Resource

namespace Resources

/-! ### Words -/

/-- A word in small letters. -/
def lower (w : List Char) : List Char := w.map Char.toLower

/-- How a word is written in small letters. -/
def Word.spelling : Word → List Char
  | .all => "all".toList
  | .enable r => r.name.toList
  | .disable r => '-' :: r.name.toList

/-- The word is one of those that there are, in letters of any case. -/
def Known (w : List Char) : Prop := ∃ u : Word, lower w = u.spelling

/-- The word asks for the resource: it is `all` or the name of the resource. -/
def Grants (r : Resource) (w : List Char) : Prop :=
  lower w = Word.all.spelling ∨ lower w = (Word.enable r).spelling

/-- The word is about the resource: it asks for it or revokes it. -/
def Mentions (r : Resource) (w : List Char) : Prop :=
  Grants r w ∨ lower w = (Word.disable r).spelling

/-- A letter that was made small stays as it is. -/
theorem toLower_toLower (c : Char) : c.toLower.toLower = c.toLower := by
  unfold Char.toLower
  grind

theorem lower_lower (w : List Char) : lower (lower w) = lower w := by
  rw [lower, lower, List.map_map]
  exact List.map_congr_left fun c _ => toLower_toLower c

theorem ofName?_ofList {w : List Char} {r : Resource} :
    Resource.ofName? (String.ofList w) = some r ↔ lower w = r.name.toList := by
  have hlower : (String.ofList w).toLower.toList = lower w := by
    change (String.map Char.toLower (String.ofList w)).toList = lower w
    rw [String.toList_map, String.toList_ofList]
    rfl
  rw [Resource.ofName?_eq_some, ← String.toList_inj, hlower]

/-- **A word is understood** as what it spells in letters of any case. -/
theorem ofText?_eq_some {w : List Char} {u : Word} :
    Word.ofText? w = some u ↔ lower w = u.spelling := by
  have hagain : lower (w.map Char.toLower) = w.map Char.toLower := lower_lower w
  change _ ↔ w.map Char.toLower = _
  unfold Word.ofText?
  generalize w.map Char.toLower = low at hagain ⊢
  dsimp only
  split_ifs with hall
  · rw [hall]
    cases u with
    | all => exact iff_of_true rfl rfl
    | enable r => cases r <;> decide
    | disable r => cases r <;> decide
  · split
    · rename_i rest
      have hrest : lower rest = rest := List.tail_eq_of_cons_eq hagain
      cases u with
      | all => simp [Word.spelling]
      | enable r => cases r <;> simp [Word.spelling, Resource.name]
      | disable r => simp [Word.spelling, ofName?_ofList, hrest]
    · rename_i hdash
      cases u with
      | all => simpa [Word.spelling] using hall
      | enable r => simp [Word.spelling, ofName?_ofList, hagain]
      | disable r => simpa [Word.spelling] using hdash r.name.toList

theorem known_iff {w : List Char} : Known w ↔ Word.ofText? w ≠ Option.none := by
  simp only [Known, ← ofText?_eq_some, Option.ne_none_iff_exists']

instance (w : List Char) : Decidable (Known w) := decidable_of_iff _ known_iff.symm

/-- The words of requests, one request after another. -/
def allWords (requests : List String) : List (List Char) :=
  requests.flatMap fun request => request.toList.splitOn ','

theorem allWords_cons (request : String) (requests : List String) :
    allWords (request :: requests) = request.toList.splitOn ',' ++ allWords requests := rfl

/-- **Requests joined by commas** have the words of all of them. -/
theorem splitOn_joined : ∀ {requests : List String}, requests ≠ [] →
    (",".intercalate requests).toList.splitOn ',' = allWords requests
  | [request], _ => by
    rw [allWords_cons]
    simp [allWords]
  | request :: next :: requests, _ => by
    have ih := splitOn_joined (List.cons_ne_nil next requests)
    have hcomma : ",".toList = [','] := rfl
    rw [allWords_cons, ← ih, String.intercalate_cons_cons, String.toList_append,
      String.toList_append, hcomma, List.append_assoc, List.singleton_append,
      List.splitOn_append_cons_self]

/-! ### Obeying words -/

theorem contains_iff {rs : Resources} {r : Resource} : rs.contains r = true ↔ r ∈ rs.toList :=
  List.contains_iff_mem

theorem contains_insert {rs : Resources} {r r' : Resource} :
    (rs.insert r').contains r = true ↔ r' = r ∨ rs.contains r = true := by
  unfold insert
  split_ifs with h
  · exact ⟨Or.inr, fun hr => hr.elim (fun heq => heq ▸ h) id⟩
  · rw [contains_iff, contains_iff, List.mem_append, List.mem_singleton, or_comm, eq_comm]

theorem contains_erase {rs : Resources} {r r' : Resource} :
    (rs.erase r').contains r = true ↔ rs.contains r = true ∧ r' ≠ r := by
  rw [contains_iff, contains_iff, erase, List.mem_filter, decide_eq_true_eq, ne_comm]

/-- What is enabled after a word that is understood. -/
theorem contains_apply {rs : Resources} {r : Resource} {w : List Char} {u : Word}
    (h : Word.ofText? w = some u) :
    (rs.apply u).contains r = true ↔ Grants r w ∨ rs.contains r = true ∧ ¬ Mentions r w := by
  have hspelling (v : Word) : lower w = v.spelling ↔ u = v := by
    rw [← ofText?_eq_some, h, Option.some_inj]
  rw [Mentions, Grants, hspelling, hspelling, hspelling]
  cases u with
  | all => simpa [apply, all, contains] using r.mem_all
  | enable r' => simp [apply, contains_insert]; tauto
  | disable r' => simp [apply, contains_erase]

theorem nodup_insert {rs : Resources} (h : rs.toList.Nodup) (r : Resource) :
    (rs.insert r).toList.Nodup := by
  unfold insert
  split_ifs with hr
  · exact h
  · rw [contains_iff] at hr
    exact (List.perm_append_singleton r _).nodup_iff.mpr (List.nodup_cons.mpr ⟨hr, h⟩)

theorem nodup_apply {rs : Resources} (h : rs.toList.Nodup) : ∀ u : Word, (rs.apply u).toList.Nodup
  | .all => by
    change Resource.all.Nodup
    decide
  | .enable r => nodup_insert h r
  | .disable _ => h.filter _

/-- No list of enabled resources has repetitions. -/
theorem nodup_applyWords : ∀ (ws : List (List Char)) {rs : Resources}, rs.toList.Nodup →
    (rs.applyWords ws).1.toList.Nodup
  | [], _, h => h
  | w :: ws, _, h => by
    rw [applyWords]
    cases Word.ofText? w with
    | none => exact h
    | some u => exact nodup_applyWords ws (nodup_apply h u)

/-- Words are obeyed one after another, up to the first that is not understood. -/
theorem applyWords_append (ws ws' : List (List Char)) (rs : Resources) :
    rs.applyWords (ws ++ ws') =
      if (rs.applyWords ws).2 then (rs.applyWords ws).1.applyWords ws' else rs.applyWords ws := by
  induction ws generalizing rs with
  | nil => rfl
  | cons w ws ih =>
    rw [List.cons_append, applyWords, applyWords]
    cases Word.ofText? w with
    | none => rfl
    | some u => exact ih (rs.apply u)

/-- Words are obeyed if each of them is understood. -/
theorem applyWords_snd {ws : List (List Char)} : ∀ {rs : Resources},
    (rs.applyWords ws).2 = true ↔ ∀ w ∈ ws, Word.ofText? w ≠ Option.none := by
  induction ws with
  | nil => simp [applyWords]
  | cons w ws ih =>
    intro rs
    rw [applyWords, List.forall_mem_cons]
    cases Word.ofText? w with
    | none => simp
    | some u => simp [ih]

/-- The last word that mentions the resource asks for it. -/
def Granted (r : Resource) (ws : List (List Char)) : Prop :=
  ∃ front w back, ws = front ++ w :: back ∧ Grants r w ∧ ∀ w' ∈ back, ¬ Mentions r w'

theorem not_granted_nil {r : Resource} : ¬ Granted r [] := by
  rintro ⟨front, w, back, h, -⟩
  simp at h

theorem granted_cons {r : Resource} {w : List Char} {ws : List (List Char)} :
    Granted r (w :: ws) ↔ Granted r ws ∨ Grants r w ∧ ∀ w' ∈ ws, ¬ Mentions r w' := by
  constructor
  · rintro ⟨front, v, back, h, hgrants, hback⟩
    cases front with
    | nil =>
      obtain ⟨rfl, rfl⟩ := List.cons.inj h
      exact Or.inr ⟨hgrants, hback⟩
    | cons x front =>
      obtain ⟨rfl, rfl⟩ := List.cons.inj h
      exact Or.inl ⟨front, v, back, rfl, hgrants, hback⟩
  · rintro (⟨front, v, back, rfl, hgrants, hback⟩ | ⟨hgrants, hback⟩)
    · exact ⟨w :: front, v, back, rfl, hgrants, hback⟩
    · exact ⟨[], w, ws, rfl, hgrants, hback⟩

/-- **The last mention of a resource decides.** Without any, it is as it was. -/
theorem contains_applyWords {r : Resource} : ∀ {ws : List (List Char)} {rs : Resources},
    (rs.applyWords ws).2 = true → ((rs.applyWords ws).1.contains r = true ↔
      Granted r ws ∨ rs.contains r = true ∧ ∀ w ∈ ws, ¬ Mentions r w)
  | [], rs, _ => by simp [applyWords, not_granted_nil]
  | w :: ws, rs, h => by
    rw [applyWords] at h ⊢
    cases hw : Word.ofText? w with
    | none =>
      rw [hw] at h
      cases h
    | some u =>
      rw [hw] at h
      have ih := contains_applyWords (r := r) h
      rw [contains_apply hw] at ih
      rw [granted_cons, List.forall_mem_cons]
      dsimp only
      rw [ih]
      tauto

/-! ### Requests -/

theorem use_eq (rs : Resources) (request : String) : rs.use request =
    (if (rs.applyWords (request.toList.splitOn ',')).2 then .ok ()
      else .error (.invalidResource request), (rs.applyWords (request.toList.splitOn ',')).1) := rfl

/-- A request is refused if one of its words is not understood. -/
theorem exists_use_error {rs : Resources} {request : String} :
    (∃ e, (rs.use request).1 = .error e) ↔
      ∃ w ∈ request.toList.splitOn ',', Word.ofText? w = Option.none := by
  rw [use_eq]
  dsimp only
  split_ifs with h
  · simpa using applyWords_snd.mp h
  · simpa using mt applyWords_snd.mpr h

/-- **Requests are refused** exactly if one of their words is not understood. -/
theorem exists_useAll_error {requests : List String} : ∀ {rs : Resources},
    (∃ e, rs.useAll requests = .error e) ↔
      ∃ request ∈ requests, ∃ w ∈ request.toList.splitOn ',', Word.ofText? w = Option.none := by
  induction requests with
  | nil => simp [useAll]
  | cons request requests ih =>
    intro rs
    rw [useAll, List.exists_mem_cons_iff, ← @exists_use_error rs]
    rcases rs.use request with ⟨e | _, rs'⟩
    · simp
    · simp [ih]

/-- **Requests amount to all their words**, one after another. -/
theorem useAll_eq_ok {rs' : Resources} : ∀ {requests : List String} {rs : Resources},
    rs.useAll requests = .ok rs' ↔ rs.applyWords (allWords requests) = (rs', true)
  | [], rs => by simp [useAll, allWords, applyWords]
  | request :: requests, rs => by
    rw [useAll, use_eq, allWords_cons, applyWords_append]
    cases h : (rs.applyWords (request.toList.splitOn ',')).2 with
    | true => simpa using useAll_eq_ok
    | false => simp [Prod.ext_iff, h]

theorem snd_applyWords_splitOn {rs : Resources} {request : String} :
    (rs.applyWords (request.toList.splitOn ',')).2 = true ↔
      ∀ w ∈ request.toList.splitOn ',', Known w := by
  simp only [applyWords_snd, known_iff]

theorem nodup_foldl : ∀ (requests : List String) {rs : Resources}, rs.toList.Nodup →
    (requests.foldl (fun rs request => (rs.use request).2) rs).toList.Nodup
  | [], _, h => h
  | request :: requests, _, h =>
    nodup_foldl requests (nodup_applyWords (request.toList.splitOn ',') h)

/-- **The first request with a word that is not known** decides about the error. -/
theorem useAll_eq_error {e : ConfigError} : ∀ {requests : List String} {rs : Resources},
    rs.useAll requests = .error e ↔ ∃ front request back, requests = front ++ request :: back ∧
      (∀ earlier ∈ front, ∀ w ∈ earlier.toList.splitOn ',', Known w) ∧
      (∃ w ∈ request.toList.splitOn ',', ¬ Known w) ∧ e = .invalidResource request
  | [], rs => by simp [useAll]
  | first :: requests, rs => by
    rw [useAll, use_eq]
    by_cases h : ∀ w ∈ first.toList.splitOn ',', Known w
    · have hnot : ¬ ((∃ w ∈ first.toList.splitOn ',', ¬ Known w) ∧ e = .invalidResource first) :=
        fun ⟨⟨w, hw, hunknown⟩, _⟩ => hunknown (h w hw)
      rw [if_pos (snd_applyWords_splitOn.mpr h), exists_first_of h hnot]
      exact useAll_eq_error
    · rw [if_neg (mt snd_applyWords_splitOn.mp h), exists_first_of_not h]
      have hbad : ∃ w ∈ first.toList.splitOn ',', ¬ Known w := by simpa using h
      exact ⟨fun he => ⟨hbad, (Except.error.inj he).symm⟩, fun he => congrArg Except.error he.2.symm⟩

/-- **Requests are obeyed exactly if all their words are known**, and then the last word that
mentions a resource decides whether it is enabled. No resource is listed twice, whichever requests
are refused on the way. Requests that are obeyed lead to the same list if they are joined by commas.
Otherwise the first request with a word that is not known is refused as a whole. -/
theorem useAll_lastMention (requests : List String) :
    ((∃ rs, none.useAll requests = .ok rs) ↔
      ∀ request ∈ requests, ∀ w ∈ request.toList.splitOn ',', Known w) ∧
    (∀ rs, none.useAll requests = .ok rs →
      (∀ r, rs.contains r = true ↔ Granted r (allWords requests)) ∧ rs.toList.Nodup ∧
      (requests ≠ [] → none.use (",".intercalate requests) = (.ok (), rs))) ∧
    (requests.foldl (fun rs request => (rs.use request).2) none).toList.Nodup ∧
    ∀ e, none.useAll requests = .error e ↔ ∃ front request back,
      requests = front ++ request :: back ∧
      (∀ earlier ∈ front, ∀ w ∈ earlier.toList.splitOn ',', Known w) ∧
      (∃ w ∈ request.toList.splitOn ',', ¬ Known w) ∧ e = .invalidResource request := by
  refine ⟨?_, fun rs h => ?_, nodup_foldl requests List.nodup_nil, fun e => useAll_eq_error⟩
  · rw [← List.forall_mem_flatMap]
    simp only [known_iff]
    rw [← allWords, ← @applyWords_snd _ none]
    constructor
    · rintro ⟨rs, h⟩
      rw [useAll_eq_ok.mp h]
    · exact fun h => ⟨_, useAll_eq_ok.mpr (Prod.ext rfl h)⟩
  · have hwords := useAll_eq_ok.mp h
    refine ⟨fun r => ?_, ?_, fun hne => ?_⟩
    · have hlast := contains_applyWords (r := r) (congrArg Prod.snd hwords)
      rw [hwords] at hlast
      simpa [none, contains] using hlast
    · have hnodup := @nodup_applyWords (allWords requests) none List.nodup_nil
      rwa [hwords] at hnodup
    · rw [use_eq, splitOn_joined hne, hwords]
      rfl

/-- Later words win, over several requests as well, and letters may be of any case. Of two requests
that are refused the first one is told, with all its words. -/
theorem useAll_lastMention_sample :
    none.useAll ["all,-Network", "NETWORK,-curses,Curses,-largefile"] = .ok ⟨[.network, .curses]⟩ ∧
    none.use "all,-Network,NETWORK,-curses,Curses,-largefile" = (.ok (), ⟨[.network, .curses]⟩) ∧
    none.useAll ["curses", "network,-all", ""] = .error (.invalidResource "network,-all") := by
  have h : none.useAll ["all,-Network", "NETWORK,-curses,Curses,-largefile"] =
      .ok ⟨[.network, .curses]⟩ := by decide +kernel
  refine ⟨h, ?_, ?_⟩
  · exact ((useAll_lastMention _).2.1 _ h).2.2 (by simp)
  · refine ((useAll_lastMention _).2.2.2 _).mpr ⟨["curses"], "network,-all", [""], rfl, ?_, ?_, rfl⟩
    · decide +kernel
    · decide +kernel

end Resources

end Golden
