import Golden.Summary
import Golden.Text.Lines
import Mathlib.Data.List.Chain
import Mathlib.Data.String.Basic
import Mathlib.Tactic.Common

/-! # Lists of names on lines

A list of names is shown row by row: a row is the names that stand on one line. Names go on a row as
long as they fit (`fill`), and the lines are what is made of the rows (`wrapFrom_row`). Names here
are not empty and have no white space.

* `wrap_exact`: what is shown has the given names as its words, and nothing else. A line fits or
  holds one name, and ends only where the next name does not fit.
* `length_fill`: a row that is begun earlier takes at most one line more, and never fewer.
* `wrap_fewest`: no other way to cut the list into such lines has fewer of them, unless the first
  name is too long for any line. Then there is a line without a name in front of all others. -/

namespace Golden.NameList

/-! ### Names and rows -/

/-- A name is not empty and has no white space. -/
def IsName (name : String) : Prop := name ≠ "" ∧ ∀ c ∈ name.toList, Text.isBlank c = false

/-- The words of a text are what is between white space. -/
def words (cs : List Char) : List String :=
  ((cs.splitOnP Text.isBlank).filter (· ≠ [])).map String.ofList

/-- The line on which the names stand. -/
def row (names : List String) : String := indent ++ " ".intercalate names

/-- The names fit on a line together. -/
def Fits (names : List String) : Prop := (row names).utf8ByteSize ≤ width

instance (names : List String) : Decidable (Fits names) := inferInstanceAs (Decidable (_ ≤ _))

/-- **A cut of a list of names**: rows that fit, or that hold one name. -/
structure IsCut (names : List String) (rows : List (List String)) : Prop where
  whole : rows.flatten = names
  fits : ∀ r ∈ rows, r.length = 1 ∨ Fits r

/-- The rows for the names, when a row has been begun. -/
def fill (begun : List String) : List String → List (List String)
  | [] => if begun = [] then [] else [begun]
  | name :: names =>
    if Fits (begun ++ [name]) then fill (begun ++ [name]) names else begun :: fill [name] names

/-- What is shown for a list of names. -/
def text (names : List String) : String := String.join ((wrap names).map (· ++ "\n"))

variable {begun names : List String} {name : String}

/-- The line when a row goes on. -/
theorem row_append {front back : List String} (hf : front ≠ []) (hb : back ≠ []) :
    row (front ++ back) = row front ++ " " ++ " ".intercalate back := by
  rw [row, row, String.intercalate_append_of_ne_nil hf hb]
  simp only [String.append_assoc]

theorem size_row (names : List String) :
    (row names).utf8ByteSize = 4 + (" ".intercalate names).utf8ByteSize := by
  rw [row, String.utf8ByteSize_append]
  rfl

/-- Two rows on one line share the indent, and there is a space between them. -/
theorem size_row_append {front back : List String} (hf : front ≠ []) (hb : back ≠ []) :
    (row (front ++ back)).utf8ByteSize + 3 = (row front).utf8ByteSize + (row back).utf8ByteSize := by
  rw [row_append hf hb, String.utf8ByteSize_append, String.utf8ByteSize_append, size_row back]
  have hspace : " ".utf8ByteSize = 1 := rfl
  omega

theorem four_le_size_row (names : List String) : 4 ≤ (row names).utf8ByteSize := by
  rw [size_row]
  exact Nat.le_add_right _ _

/-- A part of a row is no longer than the row. -/
theorem size_row_le (front back : List String) :
    (row front).utf8ByteSize ≤ (row (front ++ back)).utf8ByteSize ∧
      (row back).utf8ByteSize ≤ (row (front ++ back)).utf8ByteSize := by
  have hfour := four_le_size_row
  rcases eq_or_ne front [] with rfl | hf
  · exact ⟨hfour back, Nat.le_refl _⟩
  rcases eq_or_ne back [] with rfl | hb
  · rw [List.append_nil]
    exact ⟨Nat.le_refl _, hfour front⟩
  · have hboth := size_row_append hf hb
    have hfront := hfour front
    have hback := hfour back
    omega

/-- **The beginning of a row fits** if the row does. -/
theorem Fits.front {front back : List String} (h : Fits (front ++ back)) : Fits front :=
  (size_row_le front back).1.trans h

/-- **The end of a row fits** if the row does. -/
theorem Fits.back {front back : List String} (h : Fits (front ++ back)) : Fits back :=
  (size_row_le front back).2.trans h

theorem fits_nil : Fits [] := by decide

/-! ### Rows and lines -/

/-- The line of a row that has been begun ends in a name, and not in a space. -/
theorem pad_row (h : ∀ n ∈ begun, IsName n) : pad (row begun) = if begun = [] then "" else " " := by
  rw [pad, ← String.endsWith_toSlice]
  rcases begun.eq_nil_or_concat' with rfl | ⟨front, last, rfl⟩
  · rw [if_pos (String.Slice.endsWith_string_iff.mpr (by decide)), if_pos rfl]
  obtain ⟨hne, hplain⟩ := h last (by simp)
  obtain ⟨cs, c, hlast⟩ := last.toList.eq_nil_or_concat'.resolve_left (by simpa using hne)
  have hrow : ∃ ds, (row (front ++ [last])).toList = ds ++ [c] := by
    rcases eq_or_ne front [] with rfl | hf
    · exact ⟨indent.toList ++ cs, by simp [row, hlast]⟩
    · refine ⟨(row front).toList ++ [' '] ++ cs, ?_⟩
      rw [row_append hf (by simp), String.intercalate_singleton, String.toList_append, hlast]
      simp
  have hc : c ≠ ' ' := by
    rintro rfl
    have hspace : Text.isBlank ' ' = true := by decide
    cases hspace.symm.trans (hplain ' ' (by simp [hlast]))
  have hends : ¬ (row (front ++ [last])).toSlice.endsWith " " = true := by
    obtain ⟨ds, hds⟩ := hrow
    rw [String.Slice.endsWith_string_iff, String.copy_toSlice, hds]
    rintro ⟨es, hes⟩
    exact hc (by simpa using (List.append_inj_right' hes rfl).symm)
  rw [if_neg hends, if_neg (by simp)]

/-- The line when a name has been added to its row. -/
theorem row_concat (h : ∀ n ∈ begun, IsName n) :
    row begun ++ pad (row begun) ++ name = row (begun ++ [name]) := by
  rw [pad_row h]
  rcases eq_or_ne begun [] with rfl | hne
  · simp [row]
  · rw [if_neg hne, row_append hne (by simp), String.intercalate_singleton]

/-- A line with a name is longer than the indent. -/
theorem size_indent_lt (h : ∀ n ∈ begun, IsName n) (hne : begun ≠ []) :
    indent.utf8ByteSize < (row begun).utf8ByteSize := by
  obtain ⟨first, rest, rfl⟩ := List.exists_cons_of_ne_nil hne
  have hfirst : first.utf8ByteSize ≠ 0 :=
    mt String.utf8ByteSize_eq_zero_iff.mp (h first List.mem_cons_self).1
  have hle := (size_row_le [first] rest).1
  have hone := size_row [first]
  rw [String.intercalate_singleton] at hone
  have hindent : indent.utf8ByteSize = 4 := rfl
  rw [List.singleton_append] at hle
  omega

theorem forall_concat (h : ∀ n ∈ begun, IsName n) (hn : ∀ n ∈ name :: names, IsName n) :
    ∀ n ∈ begun ++ [name], IsName n := by
  intro n hmem
  rcases List.mem_append.mp hmem with hmem | hmem
  · exact h n hmem
  · obtain rfl := List.mem_singleton.mp hmem
    exact hn n List.mem_cons_self

/-- **The lines are made of the rows.** -/
theorem wrapFrom_row (h : ∀ n ∈ begun, IsName n) (hn : ∀ n ∈ names, IsName n) :
    wrapFrom (row begun) names = (fill begun names).map row := by
  induction names generalizing begun with
  | nil =>
    rw [wrapFrom, fill]
    rcases eq_or_ne begun [] with rfl | hne
    · rw [if_pos rfl, if_neg (by decide), List.map_nil]
    · rw [if_neg hne, if_pos (size_indent_lt h hne), List.map_singleton]
  | cons name names ih =>
    -- the size that is compared is the one of the line if the name is put on it
    have hsize : (row begun).utf8ByteSize + (pad (row begun)).utf8ByteSize + name.utf8ByteSize =
        (row (begun ++ [name])).utf8ByteSize := by
      rw [← row_concat h, String.utf8ByteSize_append, String.utf8ByteSize_append]
    have hnames : ∀ n ∈ names, IsName n := fun n hmem => hn n (List.mem_cons_of_mem _ hmem)
    have hone : ∀ n ∈ [name], IsName n := forall_concat (List.forall_mem_nil _) hn
    rw [wrapFrom, fill, hsize]
    by_cases hfits : Fits (begun ++ [name])
    · rw [if_pos hfits, if_neg (Nat.not_lt.mpr hfits), row_concat h,
        ih (forall_concat h hn) hnames]
    · have hline : indent ++ name = row [name] := by rw [row, String.intercalate_singleton]
      rw [if_neg hfits, if_pos (Nat.lt_of_not_le hfits), hline, ih hone hnames, List.map_cons]

/-- The lines for a list of names. -/
theorem wrap_eq (h : ∀ n ∈ names, IsName n) : wrap names = (fill [] names).map row :=
  wrapFrom_row (List.forall_mem_nil _) h

/-! ### What the rows hold -/

theorem flatten_fill : (fill begun names).flatten = begun ++ names := by
  induction names generalizing begun with
  | nil =>
    rw [fill]
    split_ifs with h
    · rw [h]
      rfl
    · simp
  | cons name names ih =>
    rw [fill]
    split_ifs with h
    · rw [ih, List.append_assoc, List.singleton_append]
    · rw [List.flatten_cons, ih, List.singleton_append]

/-- A row fits or holds one name, if this is so of the one that has been begun. -/
theorem fits_of_mem_fill (h : begun.length = 1 ∨ Fits begun) :
    ∀ r ∈ fill begun names, r.length = 1 ∨ Fits r := by
  induction names generalizing begun with
  | nil =>
    rw [fill]
    split_ifs
    · exact List.forall_mem_nil _
    · exact List.forall_mem_singleton.mpr h
  | cons name names ih =>
    rw [fill]
    split_ifs with hfits
    · exact ih (Or.inr hfits)
    · exact List.forall_mem_cons.mpr ⟨h, ih (Or.inl rfl)⟩

/-- The first row begins as it has been begun. -/
theorem prefix_head_fill (h : begun ≠ []) : ∃ r rows, fill begun names = r :: rows ∧ begun <+: r := by
  induction names generalizing begun with
  | nil => exact ⟨begun, [], by rw [fill, if_neg h], List.prefix_refl _⟩
  | cons name names ih =>
    rw [fill]
    split_ifs
    · have hne : begun ++ [name] ≠ [] := by simp
      obtain ⟨r, rows, hr, hbegun⟩ := ih hne
      exact ⟨r, rows, hr, (List.prefix_append _ _).trans hbegun⟩
    · exact ⟨begun, fill [name] names, rfl, List.prefix_refl _⟩

/-- The next row begins with a name for which there is no room on this one. -/
def Breaks (r next : List String) : Prop := ∃ n ∈ next.head?, ¬ Fits (r ++ [n])

/-- **A row ends only where it has to.** -/
theorem breaks_fill : (fill begun names).IsChain Breaks := by
  induction names generalizing begun with
  | nil =>
    rw [fill]
    split_ifs
    · exact .nil
    · exact .singleton _
  | cons name names ih =>
    rw [fill]
    split_ifs with hfits
    · exact ih
    · have hhead : ∃ r rows, fill [name] names = r :: rows ∧ [name] <+: r :=
        prefix_head_fill (List.cons_ne_nil name [])
      obtain ⟨r, rows, hrows, rest, rfl⟩ := hhead
      have hchain : (fill [name] names).IsChain Breaks := ih
      rw [hrows] at hchain ⊢
      exact List.isChain_cons_cons.mpr ⟨⟨name, rfl, hfits⟩, hchain⟩

/-- The rows for the names, if the first name need not fit on a row without names. -/
def cut : List String → List (List String)
  | [] => []
  | name :: names => fill [name] names

/-- The first name is too long for any line. -/
def StartsLong (names : List String) : Prop := ∃ n ∈ names.head?, ¬ Fits [n]

instance (names : List String) : Decidable (StartsLong names) :=
  inferInstanceAs (Decidable (∃ n ∈ names.head?, ¬ Fits [n]))

/-- **A row without names comes first** if the first name is too long for any line. -/
theorem fill_nil (names : List String) :
    fill [] names = if StartsLong names then [] :: cut names else cut names := by
  cases names with
  | nil => rfl
  | cons name names =>
    rw [fill, List.nil_append, cut]
    by_cases h : Fits [name]
    · rw [if_pos h, if_neg]
      rintro ⟨_, hn, hlong⟩
      cases hn
      exact hlong h
    · rw [if_neg h, if_pos ⟨name, rfl, h⟩]

theorem isCut_cut (names : List String) : IsCut names (cut names) := by
  cases names with
  | nil => exact ⟨rfl, List.forall_mem_nil _⟩
  | cons name names => exact ⟨flatten_fill, fits_of_mem_fill (Or.inl rfl)⟩

/-- A row that has been begun is not left without names. -/
theorem nil_not_mem_fill (h : begun ≠ []) : [] ∉ fill begun names := by
  induction names generalizing begun with
  | nil =>
    rw [fill, if_neg h, List.mem_singleton]
    exact h.symm
  | cons name names ih =>
    rw [fill]
    split_ifs
    · exact ih (by simp)
    · rw [List.mem_cons, not_or]
      exact ⟨h.symm, ih (List.cons_ne_nil _ _)⟩

theorem nil_not_mem_cut (names : List String) : [] ∉ cut names := by
  cases names with
  | nil => exact List.not_mem_nil
  | cons name names => exact nil_not_mem_fill (List.cons_ne_nil _ _)

/-! ### Words and lines of what is shown -/

theorem words_append {c : Char} (hc : Text.isBlank c = true) (cs ds : List Char) :
    words (cs ++ c :: ds) = words cs ++ words ds := by
  rw [words, List.splitOnP_append_cons cs ds hc, List.filter_append, List.map_append]
  rfl

theorem words_cons {c : Char} (hc : Text.isBlank c = true) (cs : List Char) :
    words (c :: cs) = words cs :=
  words_append hc [] cs

theorem words_name (h : IsName name) : words name.toList = [name] := by
  have hne : name.toList ≠ [] := by simpa using h.1
  rw [words, List.splitOnP_eq_singleton h.2]
  simp [hne]

theorem words_intercalate : ∀ {names : List String}, (∀ n ∈ names, IsName n) →
    words (" ".intercalate names).toList = names
  | [], _ => by simp [words]
  | [name], h => by
    rw [String.intercalate_singleton, words_name (h name List.mem_cons_self)]
  | name :: next :: names, h => by
    have ih := words_intercalate fun n hn => h n (List.mem_cons_of_mem name hn)
    have hspace : " ".toList = [' '] := rfl
    rw [String.intercalate_cons_cons, String.toList_append, String.toList_append, hspace,
      List.append_assoc, List.singleton_append, words_append (by decide),
      words_name (h name List.mem_cons_self), ih, List.singleton_append]

/-- **The words of a line** are the names of its row. -/
theorem words_row (h : ∀ n ∈ names, IsName n) : words (row names).toList = names := by
  have hindent : indent.toList = [' ', ' ', ' ', ' '] := rfl
  have hspace : Text.isBlank ' ' = true := by decide
  rw [row, String.toList_append, hindent]
  simp only [List.cons_append, List.nil_append, words_cons hspace]
  exact words_intercalate h

/-- What is shown is made of lines that end in a line feed each. -/
theorem toList_text (names : List String) :
    (text names).toList = ((wrap names).map String.toList).flatMap (· ++ ['\n']) := by
  rw [text, String.toList_join, List.flatMap_map, List.flatMap_map]
  refine List.flatMap_congr fun l _ => ?_
  rw [String.toList_append]
  rfl

theorem words_lines {rows : List (List String)} (h : ∀ r ∈ rows, ∀ n ∈ r, IsName n) :
    words ((rows.map fun r => (row r).toList).flatMap (· ++ ['\n'])) = rows.flatten := by
  induction rows with
  | nil => rfl
  | cons r rows ih =>
    have hrest := ih fun r' hr' => h r' (List.mem_cons_of_mem r hr')
    rw [List.map_cons, List.flatMap_cons, List.append_assoc, List.singleton_append,
      words_append (by decide), words_row (h r List.mem_cons_self), hrest, List.flatten_cons]

theorem newline_not_mem_name (h : IsName name) : '\n' ∉ name.toList := by
  have hnewline : Text.isBlank '\n' = true := by decide
  intro hmem
  cases hnewline.symm.trans (h.2 _ hmem)

theorem newline_not_mem_intercalate : ∀ {names : List String}, (∀ n ∈ names, IsName n) →
    '\n' ∉ (" ".intercalate names).toList
  | [], _ => by simp
  | [name], h => by
    rw [String.intercalate_singleton]
    exact newline_not_mem_name (h name List.mem_cons_self)
  | name :: next :: names, h => by
    have hname := newline_not_mem_name (h name List.mem_cons_self)
    have hrest := newline_not_mem_intercalate fun n hn => h n (List.mem_cons_of_mem name hn)
    rw [String.intercalate_cons_cons, String.toList_append, String.toList_append, List.mem_append,
      List.mem_append, not_or, not_or]
    exact ⟨⟨hname, by decide⟩, hrest⟩

theorem newline_not_mem_row (h : ∀ n ∈ names, IsName n) : '\n' ∉ (row names).toList := by
  rw [row, String.toList_append, List.mem_append, not_or]
  exact ⟨by decide, newline_not_mem_intercalate h⟩

/-- The rows of a list of names hold names. -/
theorem isName_of_mem_fill (h : ∀ n ∈ names, IsName n) :
    ∀ r ∈ fill [] names, ∀ n ∈ r, IsName n := by
  intro r hr n hn
  refine h n ?_
  have hflat : (fill [] names).flatten = names := flatten_fill
  rw [← hflat]
  exact List.mem_flatten.mpr ⟨r, hr, hn⟩

/-- **What is shown for a list of names.** Its words are the names, in their order. It is made of
lines, each of which ends in a line feed and holds, behind four spaces, the names of a row with a
space between them. A row fits or holds one name. Each row but the first begins with a name, and
there is no room for this name at the end of the row before. -/
theorem wrap_exact (h : ∀ n ∈ names, IsName n) :
    words (text names).toList = names ∧
      Text.splitLines (text names).toList = (wrap names).map (·.toList ++ ['\n']) ∧
      ∃ rows, wrap names = rows.map row ∧ IsCut names rows ∧ rows.IsChain Breaks := by
  have hrows := isName_of_mem_fill h
  refine ⟨?_, ?_, fill [] names, wrap_eq h, ?_, breaks_fill⟩
  · rw [toList_text, wrap_eq h, List.map_map]
    exact (words_lines hrows).trans flatten_fill
  · rw [toList_text, wrap_eq h, List.map_map, Text.splitLines_flatMap, List.map_map, List.map_map]
    · rfl
    · intro l hl
      obtain ⟨r, hr, rfl⟩ := List.mem_map.mp hl
      exact newline_not_mem_row (hrows r hr)
  · exact ⟨flatten_fill, fits_of_mem_fill (Or.inr fits_nil)⟩

/-- Three names, of which the second is too long for any line. -/
def threeNames : List String :=
  ["test_a", "[/srv/build/worktrees/regression/python/tests/long/directory]test_b", "test_c"]

theorem isName_threeNames : ∀ n ∈ threeNames, IsName n := by
  have hall : threeNames.all (fun n => n ≠ "" ∧ n.toList.all fun c => !Text.isBlank c) := by
    decide +kernel
  simpa [IsName] using hall

/-- What is shown for the three names. -/
theorem wrap_exact_threeNames : (∀ n ∈ threeNames, IsName n) ∧
    words (text threeNames).toList = threeNames ∧
      Text.splitLines (text threeNames).toList = (wrap threeNames).map (·.toList ++ ['\n']) ∧
      ∃ rows, wrap threeNames = rows.map row ∧ IsCut threeNames rows ∧ rows.IsChain Breaks :=
  ⟨isName_threeNames, wrap_exact isName_threeNames⟩

/-! ### How many lines there are -/

/-- **A row that is begun earlier** takes at most one line more, and never fewer. -/
theorem length_fill {late : List String} (hlate : late ≠ []) (h : late <:+ begun) :
    (fill late names).length ≤ (fill begun names).length ∧
      (fill begun names).length ≤ (fill late names).length + 1 := by
  induction names generalizing late begun with
  | nil =>
    have hbegun : begun ≠ [] := by
      rintro rfl
      exact hlate (List.suffix_nil.mp h)
    rw [fill, fill, if_neg hlate, if_neg hbegun]
    exact ⟨Nat.le_refl _, Nat.le_succ _⟩
  | cons name names ih =>
    obtain ⟨front, rfl⟩ := h
    have hsuffix : late ++ [name] <:+ front ++ late ++ [name] :=
      ⟨front, (List.append_assoc _ _ _).symm⟩
    have hone : [name] <:+ late ++ [name] := List.suffix_append _ _
    have hne : late ++ [name] ≠ [] := by simp
    have hlong := ih hne hsuffix
    -- where only the longer row breaks, the two change places: what is begun then is an end of the
    -- other one
    have hnew := ih (List.cons_ne_nil name []) hone
    rw [fill, fill]
    by_cases hfits : Fits (front ++ late ++ [name])
    · have hback : Fits (late ++ [name]) := by
        rw [List.append_assoc] at hfits
        exact hfits.back
      rw [if_pos hfits, if_pos hback]
      exact hlong
    · rw [if_neg hfits, List.length_cons]
      split_ifs
      · omega
      · rw [List.length_cons]
        omega

/-- Names that fit go on the row that has been begun. -/
theorem fill_append {r : List String} (h : Fits (begun ++ r)) :
    fill begun (r ++ names) = fill (begun ++ r) names := by
  induction r generalizing begun with
  | nil => rw [List.nil_append, List.append_nil]
  | cons name r ih =>
    have hall : Fits (begun ++ [name] ++ r) := by rwa [List.append_assoc]
    rw [List.cons_append, fill, if_pos hall.front, ih hall, List.append_assoc]
    rfl

/-- **One row more** takes one line more at most. -/
theorem length_cut_append {r : List String} (h : r.length = 1 ∨ Fits r) :
    (cut (r ++ names)).length ≤ (cut names).length + 1 := by
  cases r with
  | nil => exact Nat.le_succ _
  | cons first r =>
    have hrow : cut (first :: r ++ names) = fill (first :: r) names := by
      rw [List.cons_append, cut]
      rcases h with h | h
      · rw [List.length_cons, Nat.add_eq_right, List.length_eq_zero_iff] at h
        rw [h]
        rfl
      · have hfits : Fits ([first] ++ r) := h
        exact fill_append hfits
    rw [hrow]
    cases names with
    | nil => exact Nat.le_refl _
    | cons name names =>
      rw [fill, cut]
      split_ifs
      · exact (length_fill (List.cons_ne_nil _ _) (List.suffix_append _ _)).2
      · exact Nat.le_refl _

/-- **No cut has fewer rows.** -/
theorem length_cut_le {rows : List (List String)} (h : IsCut names rows) :
    (cut names).length ≤ rows.length := by
  induction rows generalizing names with
  | nil =>
    rw [← h.whole]
    exact Nat.le_refl _
  | cons r rows ih =>
    obtain ⟨hr, hrows⟩ := List.forall_mem_cons.mp h.fits
    rw [← h.whole, List.flatten_cons]
    exact (length_cut_append hr).trans (Nat.succ_le_succ (ih ⟨rfl, hrows⟩))

/-- **The lines are no more than needed** for the names: they are those of a cut, each holds a name,
and no other cut has fewer. -/
structure Thrifty (names lines : List String) : Prop where
  holds : ∀ l ∈ lines, words l.toList ≠ []
  cuts : ∃ rows, IsCut names rows ∧ lines = rows.map row
  least : ∀ rows, IsCut names rows → lines.length ≤ rows.length

/-- The lines without an empty row. -/
theorem thrifty_cut (h : ∀ n ∈ names, IsName n) : Thrifty names ((cut names).map row) where
  holds := by
    intro l hl
    obtain ⟨r, hr, rfl⟩ := List.mem_map.mp hl
    have hnames : ∀ n ∈ r, IsName n := fun n hn =>
      h n ((isCut_cut names).whole ▸ List.mem_flatten.mpr ⟨r, hr, hn⟩)
    rw [words_row hnames]
    exact fun hnil => nil_not_mem_cut names (hnil ▸ hr)
  cuts := ⟨_, isCut_cut names, rfl⟩
  least rows hrows := by
    rw [List.length_map]
    exact length_cut_le hrows

theorem wrap_of_startsLong (h : ∀ n ∈ names, IsName n) (hstart : StartsLong names) :
    wrap names = indent :: (cut names).map row := by
  rw [wrap_eq h, fill_nil, if_pos hstart, List.map_cons]
  rfl

/-- A line without a name is not needed. -/
theorem not_thrifty_of_startsLong (h : ∀ n ∈ names, IsName n) (hstart : StartsLong names) :
    ¬ Thrifty names (wrap names) := by
  intro hwrap
  rw [wrap_of_startsLong h hstart] at hwrap
  exact hwrap.holds indent List.mem_cons_self (by decide)

/-- **The fewest lines.** The lines for a list of names are no more than needed, and each of them
holds a name, exactly if the first name is not too long for a line. If it is, they are no more than
needed but for one without a name, which comes first. -/
theorem wrap_fewest (h : ∀ n ∈ names, IsName n) :
    (Thrifty names (wrap names) ↔ ¬ StartsLong names) ∧
      (StartsLong names → ∃ lines, wrap names = indent :: lines ∧ Thrifty names lines) := by
  have hthrifty := thrifty_cut h
  refine ⟨⟨fun hwrap hstart => not_thrifty_of_startsLong h hstart hwrap, fun hstart => ?_⟩,
    fun hstart => ⟨_, wrap_of_startsLong h hstart, hthrifty⟩⟩
  rw [wrap_eq h, fill_nil, if_neg hstart]
  exact hthrifty

/-- The lines for the three names are the fewest, and so are those for the last two but for the
first of the lines. -/
theorem wrap_fewest_threeNames : Thrifty threeNames (wrap threeNames) ∧
    ∃ lines, wrap threeNames.tail = indent :: lines ∧ Thrifty threeNames.tail lines := by
  obtain ⟨hall, -⟩ := wrap_fewest isName_threeNames
  obtain ⟨-, htail⟩ := wrap_fewest fun n hn => isName_threeNames n (List.mem_of_mem_tail hn)
  exact ⟨hall.mpr (by decide +kernel), htail (by decide +kernel)⟩

/-- **A line without a name**: the first of two names is too long for any line. -/
theorem wrap_longFirst : (∀ n ∈ threeNames.tail, IsName n) ∧
    wrap threeNames.tail = ["    ",
      "    [/srv/build/worktrees/regression/python/tests/long/directory]test_b", "    test_c"] ∧
    ¬ Thrifty threeNames.tail (wrap threeNames.tail) := by
  have hnames : ∀ n ∈ threeNames.tail, IsName n :=
    fun n hn => isName_threeNames n (List.mem_of_mem_tail hn)
  have hstart : StartsLong threeNames.tail := by decide +kernel
  refine ⟨hnames, ?_, not_thrifty_of_startsLong hnames hstart⟩
  rw [wrap_of_startsLong hnames hstart]
  decide +kernel

end Golden.NameList
