import Golden.Proofs.Memo.Reading
import Golden.Proofs.Text.Quoted

/-! # Reading a memo that was written

A memo that was written can be read. What comes back are its names, as they are read from their
quotes (`Memo.reread`).

* `Memo.isBlock_sectionLines`: what is written of a section is a block of the grammar.
* `Memo.parse_render`: every memo that was written can be read.
* `Memo.parse_render_eq_self`: it comes back as it was exactly if no name has a NUL in front of an
  octal digit. -/

namespace Golden

namespace Memo

/-! ### Lines -/

/-- The line of a name. -/
def entryLine (n : String) : List Char := ("    " ++ Text.quote n ++ ",").toList

/-- The last line of a section. -/
def closingLine : List Char := " ]".toList

/-- The line of a name without the blanks around it. -/
def literal (n : String) : List Char := '"' :: (Text.escape n.toList ++ ['"', ','])

theorem trim_entryLine (n : String) : Text.trim (entryLine n) = literal n := by
  have hline : entryLine n = ' ' :: ' ' :: ' ' :: ' ' :: literal n := by
    simp [entryLine, Text.quote, literal]
  have hblank : Text.isBlank ' ' = true := by decide
  have hquote : Text.isBlank '"' = false := by decide
  have hcomma : Text.isBlank ',' = false := by decide
  simp [hline, literal, Text.trim, Text.trimEnd, hblank, hquote, hcomma]

theorem map_sectionLines (m : Memo) (s : Section) : (m.sectionLines s).map String.toList =
    headerLine s :: ((m.names s).map entryLine ++ [closingLine]) := by
  simp [sectionLines, headerLine, entryLine, closingLine]

/-! ### Sections -/

/-- What is read in place of a name. -/
def rereadName (n : String) : String := String.ofList (Text.reread n.toList)

theorem isEntry_literal (n : String) : IsEntry (rereadName n) (literal n) :=
  ⟨Text.escape n.toList, by rw [Text.unescape_escape, rereadName, String.toList_ofList], Or.inr rfl⟩

theorem kept_entryLine (n : String) : kept [entryLine n] = [literal n] := by
  have hne : Text.trim (entryLine n) ≠ [] := by
    rw [trim_entryLine]
    exact List.cons_ne_nil _ _
  rw [kept_line hne, trim_entryLine]

theorem kept_entryLines (ns : List String) : kept (ns.map entryLine) = ns.map literal := by
  induction ns with
  | nil => rfl
  | cons n ns ih =>
    rw [List.map_cons, kept_cons, kept_entryLine, ih]
    rfl

/-- **A section is written as a block.** -/
theorem isBlock_sectionLines (m : Memo) (s : Section) :
    IsBlock s ((m.names s).map rereadName) (kept ((m.sectionLines s).map String.toList)) := by
  have hkept : kept ((m.sectionLines s).map String.toList) =
      headerLine s :: (m.names s).map literal ++ [closing] := by
    rw [map_sectionLines, kept_cons, kept_append, kept_entryLines, kept_headerLine]
    rfl
  have hentries : List.Forall₂ IsEntry ((m.names s).map rereadName) ((m.names s).map literal) := by
    rw [List.forall₂_map_left_iff, List.forall₂_map_right_iff, List.forall₂_same]
    exact fun n _ => isEntry_literal n
  exact ⟨_, ⟨headerLine s, _, isHeader_headerLine s, hentries, rfl⟩, hkept⟩

/-! ### Whole texts -/

theorem toList_render (m : Memo) :
    m.render.toList = (m.renderLines.map String.toList).flatMap (· ++ ['\n']) := by
  simp [render, String.toList_join, List.flatMap_map]

/-- Nothing that is written on a line looks like the end of one. -/
theorem plain_sectionLines (m : Memo) (s : Section) :
    ∀ l ∈ (m.sectionLines s).map String.toList, '\n' ∉ l ∧ l.getLast? ≠ some '\r' := by
  rw [map_sectionLines, List.forall_mem_cons, List.forall_mem_append, List.forall_mem_map]
  refine ⟨?_, fun n _ => ?_, by decide⟩
  · cases s <;> decide
  · have hline : entryLine n = "    \"".toList ++ Text.escape n.toList ++ ['"'] ++ [','] := by
      simp [entryLine, Text.quote]
    have hescape := Text.newline_not_mem_escape n.toList
    rw [hline, List.getLast?_concat]
    simp [hescape]

theorem lines_render (m : Memo) :
    Text.lines m.render.toList = m.renderLines.map String.toList := by
  rw [toList_render]
  refine Text.lines_flatMap fun l hl => ?_
  rw [renderLines, List.map_flatMap, List.mem_flatMap] at hl
  obtain ⟨s, -, hl⟩ := hl
  exact plain_sectionLines m s l hl

/-- What is read in place of a memo. -/
def reread (m : Memo) : Memo :=
  ⟨m.good.map rereadName, m.bad.map rereadName, m.skipped.map rereadName⟩

theorem names_reread (m : Memo) (s : Section) :
    m.reread.names s = (m.names s).map rereadName := by
  cases s <;> rfl

/-- What is written is the memo with the names as they are read. -/
theorem isMemo_renderLines (m : Memo) :
    IsMemo m.reread (kept (m.renderLines.map String.toList)) := by
  refine ⟨Section.all, .rfl, Section.all.map fun s => kept ((m.sectionLines s).map String.toList),
    ?_, ?_⟩
  · rw [List.forall₂_map_right_iff, List.forall₂_same]
    intro s _
    rw [names_reread]
    exact isBlock_sectionLines m s
  · simp [renderLines, Section.all, kept_append]

/-- **Every memo that was written can be read.** -/
theorem parse_render (m : Memo) : parse m.render = .ok m.reread :=
  (parse_eq_ok (lines_render m)).mpr (isMemo_renderLines m)

/-! ### Names that come back -/

theorem rereadName_eq_self {n : String} : rereadName n = n ↔
    ∀ d, Text.isOctal d = true → ¬ ['\x00', d] <:+: n.toList := by
  rw [← Text.reread_eq_self, rereadName]
  constructor
  · intro h
    have := congrArg String.toList h
    rwa [String.toList_ofList] at this
  · intro h
    rw [h, String.ofList_toList]

/-- **A memo comes back as it was** exactly if no name has a NUL in front of an octal digit. Whatever
the names are, something comes back. -/
theorem parse_render_eq_self (m : Memo) : parse m.render = .ok m.reread ∧
    (m.reread = m ↔ ∀ s, ∀ n ∈ m.names s, ∀ d, Text.isOctal d = true →
      ¬ ['\x00', d] <:+: n.toList) := by
  refine ⟨parse_render m, ?_⟩
  have hname (s : Section) : m.reread.names s = m.names s ↔
      ∀ n ∈ m.names s, rereadName n = n := by
    have hmap := List.map_inj_left (l := m.names s) (f := rereadName) (g := id)
    rw [List.map_id] at hmap
    rw [names_reread, hmap]
    rfl
  simp only [← rereadName_eq_self, ← hname]
  exact ⟨fun h s => by rw [h], ext_names⟩

/-- A memo with a NUL in front of an octal digit. -/
def nulDigit : Memo := ⟨["\x001"], [], []⟩

/-- **Not every memo comes back as it was**: NUL and the digit come back as one character. -/
theorem parse_render_nulDigit : parse nulDigit.render = .ok ⟨["\x01"], [], []⟩ ∧
    ¬ ∀ m : Memo, parse m.render = .ok m := by
  have hparse : parse nulDigit.render = .ok ⟨["\x01"], [], []⟩ := by decide +kernel
  refine ⟨hparse, fun h => ?_⟩
  have := Except.ok.inj ((h nulDigit).symm.trans hparse)
  exact absurd this (by decide)

end Memo

end Golden
