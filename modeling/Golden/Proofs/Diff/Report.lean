import Golden.Proofs.Diff.Alignment
import Golden.Proofs.Diff.Difference
import Golden.Proofs.Paint

/-! # Reports are read back

No line of a report has a line feed, colored or not, so a report is cut into the lines that were put
in (`splitLines_report`). Without colors, the lines of a hunk tell by their marks which text they are
from: those behind a minus or two spaces are the lines that the edit covers in the expected text
(`oldText?`), those behind a plus or two spaces are the lines that it covers in the actual one
(`newText?`).

* `announces_banner`: the numbers in the banner of a hunk.
* `oldText?_entryLine`, `newText?_entryLine`: what is read off the line of an entry.
* `shows_hunkOf`, `report_complete`: a report is read back, hunk by hunk.
* `exists_change_iff_ne`, `hasChange_report_iff`: a line is marked as missing or as new exactly if
  the texts are different. -/

namespace Golden.Diff

/-! ### Hunks -/

/-- The entries of a hunk align what the edit covers in both sequences. -/
theorem aligns_hunk {α : Type} [DecidableEq α] {a b : List α} {e : Edit} (hs : e.Sound a b)
    (hk : e.kind ≠ .equal) :
    Aligns (slice a e.aStart e.aEnd) (slice b e.bStart e.bEnd) (hunk a b e) := by
  -- what is deleted has no counterpart, and neither has what is inserted
  have hnone (xs : List α) (i : Nat) : slice xs i i = [] := by simp [slice]
  unfold Edit.Sound at hs
  unfold hunk
  cases hkind : e.kind with
  | equal => exact absurd hkind hk
  | delete =>
    rw [hkind] at hs
    rw [hs.2, hnone]
    exact aligns_left _
  | insert =>
    rw [hkind] at hs
    rw [hs.1, hnone]
    exact aligns_right _
  | replace => exact aligns_align _ _

/-- No edit of a script ends behind the sequences. -/
theorem Tiles.le {i' j' : Nat} : ∀ {es : List Edit} {i j : Nat}, Tiles i' j' i j es →
    i ≤ i' ∧ j ≤ j' ∧ ∀ e ∈ es, e.aEnd ≤ i' ∧ e.bEnd ≤ j'
  | [], _, _, ⟨hi, hj⟩ => ⟨hi.le, hj.le, by simp⟩
  | e :: es, i, j, ⟨_, _, h1, h2, h⟩ => by
    obtain ⟨hi, hj, hall⟩ := h.le
    refine ⟨h1.trans hi, h2.trans hj, fun f hf => ?_⟩
    rcases List.mem_cons.mp hf with rfl | hf
    · exact ⟨hi, hj⟩
    · exact hall f hf

/-! ### Numbers of lines -/

/-- The lines numbered from `first` to `last` have a name: one number if there is one line. -/
inductive Names (first last : Nat) : String → Prop
  | one (h : first = last) : Names first last ("line " ++ toString first)
  | several (h : first < last) :
    Names first last ("lines " ++ toString first ++ "-" ++ toString last)

/-- **The banner of an edit** names the lines that it covers, counted from 1, in the texts that have
any. If there are none in the expected text, it names the line after which they are missing. -/
inductive Announces (e : Edit) : String → Prop
  | missing {old : String} (hk : e.kind = .delete) (hold : Names (e.aStart + 1) e.aEnd old) :
    Announces e ("*** " ++ old ++ " of expected output missing:")
  | mismatch {old new : String} (hk : e.kind = .replace) (hold : Names (e.aStart + 1) e.aEnd old)
    (hnew : Names (e.bStart + 1) e.bEnd new) :
    Announces e ("*** mismatch between " ++ old ++ " of expected output and " ++ new ++
      " of actual output:")
  | surplus {new : String} (hk : e.kind = .insert) (hafter : e.aStart = e.aEnd)
    (hnew : Names (e.bStart + 1) e.bEnd new) :
    Announces e ("*** " ++ new ++ " of actual output doesn't appear in expected output after line " ++
      toString e.aStart ++ ":")

theorem names_lineNumbers {start stop : Nat} (h : start < stop) :
    Names (start + 1) stop (lineNumbers start stop) := by
  unfold lineNumbers
  split_ifs with hone
  · exact .one (by omega)
  · exact .several (by omega)

theorem announces_banner {a b : List (List Char)} {e : Edit} (hs : e.Sound a b)
    (hk : e.kind ≠ .equal) : Announces e (banner e) := by
  unfold Edit.Sound at hs
  unfold banner
  cases hkind : e.kind with
  | equal => exact absurd hkind hk
  | delete =>
    rw [hkind] at hs
    exact .missing hkind (names_lineNumbers hs.1)
  | insert =>
    rw [hkind] at hs
    have := Announces.surplus hkind hs.1 (names_lineNumbers hs.2)
    rwa [hs.1] at this
  | replace =>
    rw [hkind] at hs
    exact .mismatch hkind (names_lineNumbers hs.1) (names_lineNumbers hs.2)

/-! ### Marks -/

/-- What is behind a mark, or behind two spaces. -/
def behind? (mark : Char) : List Char → Option (List Char)
  | c :: ' ' :: l => if c = mark ∨ c = ' ' then some l else none
  | _ => none

/-- The line of the expected text that a line of a hunk shows, without its line feed. -/
def oldText? (l : List Char) : Option (List Char) := behind? '-' l

/-- The line of the actual text that a line of a hunk shows, without its line feed. -/
def newText? (l : List Char) : Option (List Char) := behind? '+' l

theorem oldText?_entryLine (x : Entry (List Char)) :
    oldText? (entryLine .plain x).toList = x.fst?.map (Text.dropLast '\n') := by
  cases x <;>
    simp [entryLine, entryLine.line, Painter.paint, Painter.plain, Entry.fst?, oldText?, behind?]

/-- Elements that stand side by side are shown once, so they have to be equal. -/
theorem newText?_entryLine {x : Entry (List Char)} (hx : ∀ y z, x = .both y z → y = z) :
    newText? (entryLine .plain x).toList = x.snd?.map (Text.dropLast '\n') := by
  cases x with
  | both y z =>
    obtain rfl := hx y z rfl
    simp [entryLine, entryLine.line, Painter.paint, Painter.plain, Entry.snd?, newText?, behind?]
  | _ =>
    simp [entryLine, entryLine.line, Painter.paint, Painter.plain, Entry.snd?, newText?, behind?]

/-! ### Hunks as they are printed -/

/-- A hunk as it is printed: its banner, and the lines below. -/
structure Hunk where
  banner : String
  body : List String

namespace Hunk

/-- All lines of a hunk. -/
def lines (h : Hunk) : List String := h.banner :: h.body

/-- **A hunk shows an edit.** Both texts are read off the marks of its lines, each of which has one,
and no entry of the alignment takes more or less than a line. -/
structure Shows (a b : List (List Char)) (e : Edit) (h : Hunk) : Prop where
  within : e.aEnd ≤ a.length ∧ e.bEnd ≤ b.length
  banner : Announces e h.banner
  old : h.body.filterMap (oldText? ·.toList) =
    (slice a e.aStart e.aEnd).map (Text.dropLast '\n')
  new : h.body.filterMap (newText? ·.toList) =
    (slice b e.bStart e.bEnd).map (Text.dropLast '\n')
  marked : ∀ l ∈ h.body,
    (∃ text, oldText? l.toList = some text) ∨ ∃ text, newText? l.toList = some text
  entries : h.body.length = (hunk a b e).length

end Hunk

/-- The hunk of an edit. -/
def hunkOf (p : Painter) (a b : List (List Char)) (e : Edit) : Hunk :=
  ⟨banner e, (hunk a b e).map (entryLine p)⟩

/-- The hunk of an edit that keeps nothing shows it. -/
theorem shows_hunkOf {a b : List (List Char)} {e : Edit} (hs : e.Sound a b) (hk : e.kind ≠ .equal)
    (hwithin : e.aEnd ≤ a.length ∧ e.bEnd ≤ b.length) :
    Hunk.Shows a b e (hunkOf .plain a b e) := by
  have haligns := aligns_hunk hs hk
  refine ⟨hwithin, announces_banner hs hk, ?old, ?new, ?marked, List.length_map _⟩
  case old =>
    have hread : (oldText? ·.toList) ∘ entryLine .plain =
        fun x => x.fst?.map (Text.dropLast '\n') := funext oldText?_entryLine
    rw [← haligns.filterMap_fst, List.map_filterMap, hunkOf, List.filterMap_map, hread]
  case new =>
    rw [← haligns.filterMap_snd, List.map_filterMap, hunkOf, List.filterMap_map]
    refine List.filterMap_congr fun x hx => newText?_entryLine ?_
    rintro y z rfl
    exact haligns.eq_of_both hx
  case marked =>
    intro l hl
    obtain ⟨x, hx, rfl⟩ := List.mem_map.mp hl
    have hold := oldText?_entryLine x
    cases x with
    | left y | both y z => exact .inl ⟨_, hold⟩
    | right y => exact .inr ⟨_, newText?_entryLine (by simp)⟩

/-- The lines of a report, hunk by hunk. -/
theorem reportLines_eq (p : Painter) (expected actual : String) :
    reportLines p expected actual =
      [rule] ++ (((lineEdits expected actual).filter (·.kind ≠ .equal)).map
        (hunkOf p (Text.splitLines expected.toList) (Text.splitLines actual.toList))).flatMap
          Hunk.lines ++ [rule] := by
  have hhunks (a b : List (List Char)) (es : List Edit) : es.flatMap (hunkLines p a b) =
      ((es.filter (·.kind ≠ .equal)).map (hunkOf p a b)).flatMap Hunk.lines := by
    induction es with
    | nil => rfl
    | cons e es ih =>
      rw [List.flatMap_cons, ih, hunkLines]
      split_ifs with hk
      · rw [List.filter_cons_of_neg (by simpa using hk), List.nil_append]
      · rw [List.filter_cons_of_pos (by simpa using hk)]
        rfl
  rw [reportLines, hhunks]
  rfl

/-! ### Lines without line feeds -/

theorem toList_rule : rule.toList = List.replicate 70 '*' := by
  unfold rule
  exact String.toList_ofList

theorem newline_not_mem_toDigits (n : Nat) : '\n' ∉ Nat.toDigits 10 n := by
  intro h
  have hdigit := Nat.isDigit_of_mem_toDigits (by decide) (by decide) h
  exact absurd hdigit (by decide)

theorem newline_not_mem_banner (e : Edit) : '\n' ∉ (banner e).toList := by
  have hnumbers (start stop : Nat) : '\n' ∉ (lineNumbers start stop).toList := by
    unfold lineNumbers
    split_ifs <;> simp [String.toList_append, newline_not_mem_toDigits]
  unfold banner
  cases e.kind <;> simp [String.toList_append, newline_not_mem_toDigits, hnumbers]

theorem newline_not_mem_entryLine (p : Painter) {xs ys : List (List Char)}
    {es : List (Entry (List Char))} (h : Aligns xs ys es)
    (hlines : ∀ l ∈ xs ++ ys, '\n' ∉ Text.dropLast '\n' l) {x : Entry (List Char)} (hx : x ∈ es) :
    '\n' ∉ (entryLine p x).toList := by
  have hline (s : Style) {mark : String} {l : List Char} (hmark : '\n' ∉ mark.toList)
      (hl : l ∈ xs ++ ys) : '\n' ∉ (entryLine.line p s mark l).toList := by
    refine Painter.newline_not_mem_paint p s ?_
    rw [String.toList_append, String.toList_ofList, List.mem_append, not_or]
    exact ⟨hmark, hlines l hl⟩
  have hold : ∀ y, x.fst? = some y → y ∈ xs ++ ys := fun y hy =>
    List.mem_append_left _ (h.filterMap_fst ▸ List.mem_filterMap.mpr ⟨x, hx, hy⟩)
  have hnew : ∀ y, x.snd? = some y → y ∈ xs ++ ys := fun y hy =>
    List.mem_append_right _ (h.filterMap_snd ▸ List.mem_filterMap.mpr ⟨x, hx, hy⟩)
  cases x with
  | left y => exact hline .removed (by decide) (hold y rfl)
  | both y z => exact hline .unchanged (by decide) (hold y rfl)
  | right y => exact hline .added (by decide) (hnew y rfl)

theorem mem_of_mem_slice {α : Type} {xs : List α} {i j : Nat} {x : α} (h : x ∈ slice xs i j) :
    x ∈ xs :=
  List.mem_of_mem_take (List.mem_of_mem_drop h)

/-- **No line of a report has a line feed.** -/
theorem newline_not_mem_reportLines (p : Painter) (expected actual : String) :
    ∀ l ∈ reportLines p expected actual, '\n' ∉ l.toList := by
  have hrule : '\n' ∉ rule.toList := by
    rw [toList_rule]
    exact fun h => absurd (List.eq_of_mem_replicate h) (by decide)
  intro l hl
  rw [reportLines_eq, List.mem_append, List.mem_append, List.mem_singleton, List.mem_flatMap] at hl
  rcases hl with (rfl | ⟨h, hh, hl⟩) | rfl
  · exact hrule
  · obtain ⟨e, he, rfl⟩ := List.mem_map.mp hh
    obtain ⟨he, hk⟩ := List.mem_filter.mp he
    rcases List.mem_cons.mp hl with rfl | hl
    · exact newline_not_mem_banner e
    · obtain ⟨x, hx, rfl⟩ := List.mem_map.mp hl
      have haligns := aligns_hunk ((isEditScript_edits _ _).sound e he) (by simpa using hk)
      refine newline_not_mem_entryLine p haligns (fun l hl => ?_) hx
      rcases List.mem_append.mp hl with hl | hl
      · exact Text.not_mem_dropLast_of_mem_splitLines (mem_of_mem_slice hl)
      · exact Text.not_mem_dropLast_of_mem_splitLines (mem_of_mem_slice hl)
  · exact hrule

/-- **A report is cut into its lines.** -/
theorem splitLines_report (p : Painter) (expected actual : String) :
    Text.splitLines (report p expected actual).toList =
      (reportLines p expected actual).map (·.toList ++ ['\n']) := by
  have hlines := newline_not_mem_reportLines p expected actual
  have htext : (report p expected actual).toList =
      ((reportLines p expected actual).map String.toList).flatMap (· ++ ['\n']) := by
    rw [report, String.toList_join, List.flatMap_map, List.flatMap_map]
    exact List.flatMap_congr fun l _ => by simp
  rw [htext, Text.splitLines_flatMap fun l hl => ?_, List.map_map]
  · rfl
  · obtain ⟨line, hline, rfl⟩ := List.mem_map.mp hl
    exact hlines line hline

/-! ### Reports -/

/-- **A report is complete, and its numbers are right.** Between two rules there is one hunk for
every edit that keeps nothing, in the order of the edits, and it shows that edit: the lines of both
texts that are affected can be read off it, whether the last one ends in a line feed or not. -/
theorem report_complete (expected actual : String) : ∃ hunks : List Hunk,
    Text.splitLines (report .plain expected actual).toList =
      ([rule] ++ hunks.flatMap Hunk.lines ++ [rule]).map (·.toList ++ ['\n']) ∧
    List.Forall₂
      (Hunk.Shows (Text.splitLines expected.toList) (Text.splitLines actual.toList))
      ((lineEdits expected actual).filter (·.kind ≠ .equal)) hunks := by
  have hscript := isEditScript_edits (Text.splitLines expected.toList)
    (Text.splitLines actual.toList)
  refine ⟨_, by rw [splitLines_report, reportLines_eq], ?_⟩
  rw [List.forall₂_map_right_iff, List.forall₂_same]
  intro e he
  obtain ⟨he, hk⟩ := List.mem_filter.mp he
  exact shows_hunkOf (hscript.sound e he) (by simpa using hk) (hscript.tiles.le.2.2 e he)

example : reportLines .plain "a\nb\n" "a\nx" =
    [rule, "*** mismatch between line 2 of expected output and line 2 of actual output:", "- b", "+ x",
      rule] := by
  decide +kernel

/-! ### Whether a report shows anything -/

/-- A line that is marked as missing or as new. -/
def IsChange (p : Painter) (l : String) : Prop :=
  ∃ text, l = p.paint .removed ("- " ++ text) ∨ l = p.paint .added ("+ " ++ text)

/-- The first character of a line that is marked as missing or as new. -/
theorem IsChange.head? {p : Painter} {l : String} (h : IsChange p l) :
    l.toList.head? ∈ [some '-', some '+', some '\x1B'] := by
  obtain ⟨text, rfl | rfl⟩ := h <;>
    cases hcolored : p.colored <;>
      simp [Painter.paint, hcolored, Style.opening]

theorem not_isChange_rule (p : Painter) : ¬ IsChange p rule := by
  intro h
  have hhead := h.head?
  rw [toList_rule] at hhead
  exact absurd hhead (by decide)

/-- A text and itself have nothing between the rules of their report. -/
theorem reportLines_self (p : Painter) (text : String) :
    reportLines p text text = [rule, rule] := by
  rw [reportLines_eq, lineEdits, edits_self]
  split_ifs <;> rfl

/-- **A report shows something exactly if there is a difference**: a line of it is marked as missing
or as new. If none of its hunks had such a line, every edit would put in what it takes out. -/
theorem exists_change_iff_ne (p : Painter) (expected actual : String) :
    (∃ l ∈ reportLines p expected actual, IsChange p l) ↔ expected ≠ actual := by
  constructor
  · rintro ⟨l, hl, hchange⟩ rfl
    rw [reportLines_self] at hl
    simp only [List.mem_cons, List.not_mem_nil, or_self, or_false] at hl
    exact not_isChange_rule p (hl ▸ hchange)
  · intro hne
    by_contra hnone
    have hscript := isEditScript_edits (Text.splitLines expected.toList)
      (Text.splitLines actual.toList)
    refine hne (splitLines_inj.mp (hscript.eq_of_old_eq fun e he hk => ?_))
    refine (aligns_hunk (hscript.sound e he) hk).eq_of_forall_both fun x hx => ?_
    have hline : entryLine p x ∈ reportLines p expected actual := by
      rw [reportLines_eq]
      refine List.mem_append_left _ (List.mem_append_right _ (List.mem_flatMap.mpr ?_))
      refine ⟨_, List.mem_map.mpr ⟨e, List.mem_filter.mpr ⟨he, by simpa using hk⟩, rfl⟩, ?_⟩
      exact List.mem_cons_of_mem _ (List.mem_map_of_mem hx)
    cases x with
    | left y => exact absurd ⟨_, hline, _, .inl rfl⟩ hnone
    | both y z => exact ⟨y, z, rfl⟩
    | right y => exact absurd ⟨_, hline, _, .inr rfl⟩ hnone

/-- A text has a line that is marked as missing or as new. -/
def HasChange (p : Painter) (text : String) : Prop :=
  ∃ l, IsChange p l ∧ l.toList ++ ['\n'] ∈ Text.splitLines text.toList

theorem hasChange_report_iff (p : Painter) (expected actual : String) :
    HasChange p (report p expected actual) ↔ expected ≠ actual := by
  rw [← exists_change_iff_ne p, HasChange, splitLines_report]
  constructor
  · rintro ⟨l, hchange, hl⟩
    obtain ⟨l', hl', heq⟩ := List.mem_map.mp hl
    obtain rfl : l' = l := String.toList_inj.mp (List.append_cancel_right heq)
    exact ⟨l', hl', hchange⟩
  · rintro ⟨l, hl, hchange⟩
    exact ⟨l, hchange, List.mem_map.mpr ⟨l, hl, rfl⟩⟩

end Golden.Diff
