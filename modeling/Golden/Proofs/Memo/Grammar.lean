import Golden.Memo
import Mathlib.Data.List.DropRight
import Mathlib.Data.List.Forall2
import Mathlib.Data.List.Nodup
import Mathlib.Data.List.Perm.Basic
import Mathlib.Tactic.Common

/-! # The grammar of memos

The lines of a memo that count are trimmed and not empty (`Memo.kept`). They are three blocks, one
for each section, in any order (`Memo.IsMemo`). A block is a header, an entry for each name, and a
bracket (`Memo.IsBlock`).

* `Memo.isHeader_iff`, `Memo.entryInner?_eq_some`: headers and entries are found where they are.
* `Memo.Reader.step_eq_ok`: what one line does to the reader (`Memo.Reader.Turn`). -/

namespace Golden

namespace Section

theorem mem_all (s : Section) : s ∈ all := by
  cases s <;> decide

theorem nodup_all : all.Nodup := by decide

theorem nodup_concat {order : List Section} {s : Section} :
    (order ++ [s]).Nodup ↔ s ∉ order ∧ order.Nodup := by
  rw [← List.concat_eq_append, List.nodup_concat]

theorem perm_all {order : List Section} (hdistinct : order.Nodup) (h : ∀ s, s ∈ order) :
    order.Perm all :=
  (List.perm_ext_iff_of_nodup hdistinct nodup_all).mpr fun s => iff_of_true (h s) s.mem_all

end Section

namespace Memo

/-! ### The grammar -/

/-- The lines that count: they are trimmed, and those that are empty then are left out. -/
def kept (lines : List (List Char)) : List (List Char) := (lines.map Text.trim).filter (· ≠ [])

/-- The line begins the section. There may be blanks around the equals sign. -/
def IsHeader (s : Section) (line : List Char) : Prop :=
  ∃ gap gap', (∀ c ∈ gap, Text.isBlank c = true) ∧ (∀ c ∈ gap', Text.isBlank c = true) ∧
    line = s.name.toList ++ gap ++ '=' :: gap' ++ ['[']

/-- The line stands for the name: what is in quotes is read as the name. A comma may follow. -/
def IsEntry (name : String) (line : List Char) : Prop :=
  ∃ inner, Text.unescape inner = some name.toList ∧
    (line = '"' :: inner ++ ['"'] ∨ line = '"' :: inner ++ ['"', ','])

/-- The line that ends a section. -/
def closing : List Char := [']']

/-- The section with the names, without its end. -/
def IsOpenBlock (s : Section) (names : List String) (lines : List (List Char)) : Prop :=
  ∃ header entries, IsHeader s header ∧ List.Forall₂ IsEntry names entries ∧
    lines = header :: entries

/-- The section with the names. -/
def IsBlock (s : Section) (names : List String) (lines : List (List Char)) : Prop :=
  ∃ front, IsOpenBlock s names front ∧ lines = front ++ [closing]

/-- The given sections, one after another, with the names that the memo holds. -/
def AreBlocks (m : Memo) (order : List Section) (lines : List (List Char)) : Prop :=
  ∃ blocks, List.Forall₂ (fun s => IsBlock s (m.names s)) order blocks ∧ lines = blocks.flatten

/-- **The lines are those of the memo**: each section comes once, in any order. -/
def IsMemo (m : Memo) (lines : List (List Char)) : Prop :=
  ∃ order, order.Perm Section.all ∧ AreBlocks m order lines

/-- The lines can be continued so that they are a memo. -/
def Begins (lines : List (List Char)) : Prop := ∃ rest m, IsMemo m (kept (lines ++ rest))

/-- A section is begun in the lines. -/
def HasHeader (s : Section) (lines : List (List Char)) : Prop := ∃ line ∈ lines, IsHeader s line

/-- The last section that is begun in the lines is open at the end. No section comes twice. -/
def EndsOpen (lines : List (List Char)) : Prop :=
  ∃ m order s front back, (order ++ [s]).Nodup ∧ AreBlocks m order front ∧
    IsOpenBlock s (m.names s) back ∧ lines = front ++ back

theorem kept_append (lines lines' : List (List Char)) :
    kept (lines ++ lines') = kept lines ++ kept lines' := by
  simp [kept]

theorem kept_cons (line : List Char) (lines : List (List Char)) :
    kept (line :: lines) = kept [line] ++ kept lines :=
  kept_append [line] lines

theorem kept_blank {line : List Char} (h : Text.trim line = []) : kept [line] = [] := by
  simp [kept, h]

theorem kept_line {line : List Char} (h : Text.trim line ≠ []) :
    kept [line] = [Text.trim line] := by
  simp [kept, h]

section Blocks
variable {m m' : Memo} {order : List Section} {s : Section} {names : List String} {name : String}
  {lines block : List (List Char)} {line : List Char}

theorem IsOpenBlock.concat (h : IsOpenBlock s names lines) (hentry : IsEntry name line) :
    IsOpenBlock s (names ++ [name]) (lines ++ [line]) := by
  obtain ⟨header, entries, hheader, hentries, rfl⟩ := h
  exact ⟨header, entries ++ [line], hheader, List.rel_append hentries (.cons hentry .nil), rfl⟩

theorem AreBlocks.append {order' : List Section} {lines' : List (List Char)}
    (h : AreBlocks m order lines) (h' : AreBlocks m order' lines') :
    AreBlocks m (order ++ order') (lines ++ lines') := by
  obtain ⟨blocks, hblocks, rfl⟩ := h
  obtain ⟨blocks', hblocks', rfl⟩ := h'
  exact ⟨blocks ++ blocks', List.rel_append hblocks hblocks', List.flatten_append.symm⟩

theorem IsBlock.areBlocks (h : IsBlock s (m.names s) block) : AreBlocks m [s] block :=
  ⟨[block], .cons h .nil, by simp⟩

/-- Only the names in the sections matter. -/
theorem AreBlocks.congr (h : AreBlocks m order lines)
    (hnames : ∀ s ∈ order, m'.names s = m.names s) : AreBlocks m' order lines := by
  obtain ⟨blocks, hblocks, rfl⟩ := h
  refine ⟨blocks, ((List.forall₂_and_left _ _).mpr ⟨hnames, hblocks⟩).imp ?_, rfl⟩
  rintro s block ⟨hs, hblock⟩
  exact hs ▸ hblock

end Blocks

/-! ### Names -/

theorem ext_names {m m' : Memo} (h : ∀ s, m.names s = m'.names s) : m = m' := by
  rw [Memo.mk.injEq]
  exact ⟨h .good, h .bad, h .skipped⟩

theorem names_add (m : Memo) (n : String) (s k : Section) :
    (m.add n s).names k = if k = s then m.names k ++ [n] else m.names k := by
  cases s <;> cases k <;> rfl

/-- Adds names to a section. -/
def addAll (m : Memo) (ns : List String) (s : Section) : Memo := ns.foldl (fun m n => m.add n s) m

theorem names_addAll (ns : List String) (m : Memo) (s k : Section) :
    (m.addAll ns s).names k = if k = s then m.names k ++ ns else m.names k := by
  induction ns generalizing m with
  | nil => simp [addAll]
  | cons n ns ih =>
    change ((m.add n s).addAll ns s).names k = _
    rw [ih, names_add]
    split_ifs
    · rw [List.append_assoc, List.singleton_append]
    · rfl

/-! ### Headers -/

theorem withoutLast?_eq_some {c : Char} {cs rest : List Char} :
    withoutLast? c cs = some rest ↔ cs = rest ++ [c] := by
  unfold withoutLast?
  constructor
  · intro h
    split_ifs at h with hc
    cases h
    exact (List.dropLast_append_getLast? c hc).symm
  · rintro rfl
    simp

/-- Blanks at the end are dropped, and nothing else. -/
theorem trimEnd_eq_concat {cs rest : List Char} {c : Char} (hc : Text.isBlank c = false) :
    Text.trimEnd cs = rest ++ [c] ↔
      ∃ gap, (∀ b ∈ gap, Text.isBlank b = true) ∧ cs = rest ++ [c] ++ gap := by
  change cs.rdropWhile Text.isBlank = _ ↔ _
  constructor
  · intro h
    refine ⟨cs.rtakeWhile Text.isBlank, fun b => List.mem_rtakeWhile_imp, ?_⟩
    rw [← h, List.rdropWhile_append_rtakeWhile]
  · rintro ⟨gap, hgap, rfl⟩
    induction gap using List.reverseRecOn with
    | nil => rw [List.append_nil, List.rdropWhile_concat_neg _ _ _ (by simp [hc])]
    | append_singleton gap b ih =>
      obtain ⟨hgap, hb⟩ := List.forall_mem_append.mp hgap
      rw [← List.append_assoc, List.rdropWhile_concat_pos _ _ _ (hb b List.mem_cons_self), ih hgap]

theorem ofName?_eq_some {name : List Char} {s : Section} :
    Section.ofName? name = some s ↔ name = s.name.toList := by
  constructor
  · intro h
    have hname := List.find?_some h
    exact (of_decide_eq_true hname).symm
  · rintro rfl
    cases s <;> decide

theorem headerName?_eq_some {line name : List Char} : headerName? line = some name ↔
    ∃ rest rest', line = rest ++ ['['] ∧ Text.trimEnd rest = rest' ++ ['='] ∧
      Text.trimEnd rest' = name := by
  simp only [headerName?, Option.bind_eq_bind, Option.bind_eq_some_iff, withoutLast?_eq_some,
    Option.pure_def, Option.some.injEq]
  constructor
  · rintro ⟨rest, hline, rest', hrest, hname⟩
    exact ⟨rest, rest', hline, hrest, hname⟩
  · rintro ⟨rest, rest', hline, hrest, hname⟩
    exact ⟨rest, hline, rest', hrest, hname⟩

/-- The name of a section ends in a letter. -/
theorem exists_concat_name (s : Section) :
    ∃ front c, s.name.toList = front ++ [c] ∧ Text.isBlank c = false := by
  cases s
  · exact ⟨"goo".toList, 'd', by decide, by decide⟩
  · exact ⟨"ba".toList, 'd', by decide, by decide⟩
  · exact ⟨"skippe".toList, 'd', by decide, by decide⟩

theorem isHeader_iff {s : Section} {line : List Char} :
    IsHeader s line ↔ headerName? line = some s.name.toList := by
  obtain ⟨front, c, hname, hc⟩ := exists_concat_name s
  have hequals : Text.isBlank '=' = false := by decide
  rw [headerName?_eq_some, IsHeader, hname]
  simp only [trimEnd_eq_concat hequals, trimEnd_eq_concat hc]
  constructor
  · rintro ⟨gap, gap', hgap, hgap', rfl⟩
    exact ⟨front ++ [c] ++ gap ++ '=' :: gap', front ++ [c] ++ gap, rfl,
      ⟨gap', hgap', by simp⟩, gap, hgap, rfl⟩
  · rintro ⟨rest, rest', rfl, ⟨gap', hgap', rfl⟩, gap, hgap, rfl⟩
    exact ⟨gap, gap', hgap, hgap', by simp⟩

/-- A line begins at most one section. -/
theorem IsHeader.unique {s s' : Section} {line : List Char} (h : IsHeader s line)
    (h' : IsHeader s' line) : s = s' := by
  have hname := (isHeader_iff.mp h).symm.trans (isHeader_iff.mp h')
  have hs := ofName?_eq_some.mpr (Option.some.inj hname)
  rw [ofName?_eq_some.mpr rfl] at hs
  exact Option.some.inj hs

theorem IsHeader.ne_nil {s : Section} {line : List Char} (h : IsHeader s line) : line ≠ [] := by
  obtain ⟨gap, gap', -, -, rfl⟩ := h
  simp

theorem IsHeader.ne_closing {s : Section} {line : List Char} (h : IsHeader s line) :
    line ≠ closing := by
  obtain ⟨gap, gap', -, -, rfl⟩ := h
  intro h
  have hlast := congrArg List.getLast? h
  rw [List.getLast?_concat] at hlast
  exact absurd hlast (by decide)

/-! ### Entries -/

theorem entryInner?_eq_some {line inner : List Char} : entryInner? line = some inner ↔
    line = '"' :: inner ++ ['"'] ∨ line = '"' :: inner ++ ['"', ','] := by
  have hquoted : entryInner? line = some inner ↔
      Text.dropLast ',' line = '"' :: inner ++ ['"'] := by
    unfold entryInner?
    constructor
    · intro h
      split at h
      · next heq => rw [heq, withoutLast?_eq_some.mp h, List.cons_append]
      · cases h
    · intro h
      rw [h]
      exact withoutLast?_eq_some.mpr rfl
  have hpair : '"' :: inner ++ ['"', ','] = '"' :: inner ++ ['"'] ++ [','] := by simp
  rw [hquoted, hpair]
  by_cases hcomma : line.getLast? = some ','
  · obtain ⟨front, rfl⟩ := List.getLast?_eq_some_iff.mp hcomma
    rw [Text.dropLast_append, List.append_left_inj, or_iff_right]
    intro h
    rw [h, List.getLast?_concat] at hcomma
    exact absurd hcomma (by decide)
  · rw [Text.dropLast, if_neg hcomma, or_iff_left]
    rintro rfl
    exact hcomma List.getLast?_concat

theorem IsEntry.ne_closing {name : String} {line : List Char} (h : IsEntry name line) :
    line ≠ closing := by
  obtain ⟨inner, -, rfl | rfl⟩ := h <;> simp [closing]

theorem IsHeader.not_isEntry {s : Section} {name : String} {line : List Char}
    (h : IsHeader s line) : ¬ IsEntry name line := by
  obtain ⟨gap, gap', -, -, rfl⟩ := h
  rintro ⟨inner, -, h | h⟩ <;> cases s <;> simp [Section.name] at h

/-! ### Reading one line -/

namespace Reader

/-- What a line does to the reader. -/
inductive Turn (r : Reader) (line : List Char) : Reader → Prop where
  | header {s : Section} : r.current = none → s ∉ r.seen → IsHeader s line →
    Turn r line { r with seen := r.seen ++ [s], current := some s }
  | entry {s : Section} {name : String} : r.current = some s → IsEntry name line →
    Turn r line { r with memo := r.memo.add name s }
  | closing {s : Section} : r.current = some s → line = Memo.closing →
    Turn r line { r with current := none }

/-- **What one line does**: it begins a section that was not begun before, it stands for a name in
the open section, or it ends that. -/
theorem step_eq_ok {r r' : Reader} {line : List Char} :
    r.step line = .ok r' ↔ Turn r line r' := by
  obtain ⟨memo, seen, current⟩ := r
  constructor
  · intro h
    unfold step at h
    cases current with
    | none =>
      dsimp only at h
      split at h
      · cases h
      next name hname =>
        split at h
        · cases h
        next s hs =>
          split_ifs at h with hseen
          cases h
          have hheader : IsHeader s line := by rw [isHeader_iff, hname, ofName?_eq_some.mp hs]
          exact .header rfl hseen hheader
    | some s =>
      dsimp only at h
      split_ifs at h with hclosing
      · cases h
        exact .closing rfl hclosing
      · split at h
        · cases h
        next inner hinner =>
          split at h
          · cases h
          next name hname =>
            cases h
            refine .entry rfl ⟨inner, ?_, entryInner?_eq_some.mp hinner⟩
            rw [hname, String.toList_ofList]
  · rintro (⟨hcurrent, hseen, hheader⟩ | ⟨hcurrent, hentry⟩ | ⟨hcurrent, rfl⟩)
    · cases hcurrent
      rw [step, isHeader_iff.mp hheader]
      dsimp only
      rw [ofName?_eq_some.mpr rfl]
      exact if_neg hseen
    · cases hcurrent
      have hne : line ≠ [']'] := hentry.ne_closing
      obtain ⟨inner, hname, hinner⟩ := hentry
      rw [step]
      dsimp only
      rw [if_neg hne, entryInner?_eq_some.mpr hinner]
      dsimp only
      rw [hname]
      dsimp only
      rw [String.ofList_toList]
    · cases hcurrent
      rw [step]
      exact if_pos rfl

end Reader

end Memo

end Golden
