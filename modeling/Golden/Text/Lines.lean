/-! # White space and lines

Blank characters are those with the Unicode property White_Space, in 10 ranges. Texts are trimmed
and split at them.

A text is cut after each line feed (`splitLines`, which loses nothing). A line proper has no
terminator: `lines` drops the line feed that ends each piece, and a carriage return in front of
it. -/

namespace Golden.Text

/-! ### White space -/

/-- Closed ranges of the code points with the property White_Space, ascending. -/
def blankRanges : List (Nat × Nat) :=
  [(0x09, 0x0D), (0x20, 0x20), (0x85, 0x85), (0xA0, 0xA0), (0x1680, 0x1680), (0x2000, 0x200A),
   (0x2028, 0x2029), (0x202F, 0x202F), (0x205F, 0x205F), (0x3000, 0x3000)]

/-- Whether the character is white space. -/
def isBlank (c : Char) : Bool := blankRanges.any fun r => r.1 ≤ c.toNat && c.toNat ≤ r.2

/-- Drops blanks at the end. -/
def trimEnd (cs : List Char) : List Char := (cs.reverse.dropWhile isBlank).reverse

/-- Drops blanks at both ends. -/
def trim (cs : List Char) : List Char := trimEnd (cs.dropWhile isBlank)

/-! ### Lines -/

/-- The lines of a text with their terminators. -/
def splitLines : List Char → List (List Char)
  | [] => []
  | c :: cs =>
    if c = '\n' then [c] :: splitLines cs
    else
      match splitLines cs with
      | [] => [[c]]
      | l :: ls => (c :: l) :: ls

/-- Drops the last character if it is `c`. -/
def dropLast (c : Char) (l : List Char) : List Char :=
  if l.getLast? = some c then l.dropLast else l

/-- A line without its terminator, which is `\n` or `\r\n`. -/
def dropTerminator (l : List Char) : List Char :=
  if l.getLast? = some '\n' then dropLast '\r' l.dropLast else l

/-- The lines of a text without terminators. -/
def lines (cs : List Char) : List (List Char) := (splitLines cs).map dropTerminator

theorem flatten_splitLines (cs : List Char) : (splitLines cs).flatten = cs := by
  induction cs with
  | nil => rfl
  | cons c cs ih =>
    simp only [splitLines]
    split
    · simp [ih]
    · split
      · next h => simp [h] at ih; simp [← ih]
      · next l ls h => simp [h] at ih; simp [ih]

theorem splitLines_append {l : List Char} (h : '\n' ∉ l) (cs : List Char) :
    splitLines (l ++ '\n' :: cs) = (l ++ ['\n']) :: splitLines cs := by
  induction l with
  | nil => simp [splitLines]
  | cons c l ih =>
    rw [List.mem_cons, not_or] at h
    obtain ⟨hc, hl⟩ := h
    simp [splitLines, Ne.symm hc, ih hl]

theorem dropLast_append (c : Char) (l : List Char) : dropLast c (l ++ [c]) = l := by
  simp [dropLast]

/-- A line has at most one line feed, at its end. -/
theorem mem_splitLines {l : List Char} : ∀ {cs : List Char}, l ∈ splitLines cs →
    ∃ text, '\n' ∉ text ∧ (l = text ∨ l = text ++ ['\n'])
  | c :: cs, h => by
    simp only [splitLines] at h
    split at h
    · next hc =>
      subst hc
      rcases List.mem_cons.mp h with rfl | h
      · exact ⟨[], List.not_mem_nil, .inr rfl⟩
      · exact mem_splitLines h
    · next hc =>
      split at h
      · rw [List.mem_singleton] at h
        exact ⟨[c], by simpa using Ne.symm hc, .inl h⟩
      · next l' ls hls =>
        rcases List.mem_cons.mp h with rfl | h
        · have hl' : l' ∈ splitLines cs := hls ▸ List.mem_cons_self
          obtain ⟨text, htext, hl⟩ := mem_splitLines hl'
          refine ⟨c :: text, by simpa [Ne.symm hc] using htext, ?_⟩
          rcases hl with rfl | rfl
          · exact .inl rfl
          · exact .inr rfl
        · have hl : l ∈ splitLines cs := hls ▸ List.mem_cons_of_mem _ h
          exact mem_splitLines hl

theorem not_mem_dropLast_of_mem_splitLines {l cs : List Char} (h : l ∈ splitLines cs) :
    '\n' ∉ dropLast '\n' l := by
  obtain ⟨text, htext, rfl | rfl⟩ := mem_splitLines h
  · unfold dropLast
    split
    · exact fun hmem => htext (List.dropLast_subset _ hmem)
    · exact htext
  · rwa [dropLast_append]

/-- Lines that end in a line feed each are cut apart again. -/
theorem splitLines_flatMap {ls : List (List Char)} (h : ∀ l ∈ ls, '\n' ∉ l) :
    splitLines (ls.flatMap (· ++ ['\n'])) = ls.map (· ++ ['\n']) := by
  induction ls with
  | nil => rfl
  | cons l ls ih =>
    have hls := ih fun l' hl' => h l' (List.mem_cons_of_mem l hl')
    rw [List.flatMap_cons, List.append_assoc, List.singleton_append,
      splitLines_append (h l List.mem_cons_self), hls, List.map_cons]

theorem dropTerminator_append {l : List Char} (h : l.getLast? ≠ some '\r') :
    dropTerminator (l ++ ['\n']) = l := by
  simp [dropTerminator, dropLast, h]

/-- Lines that end in a line feed each are the lines of the whole. -/
theorem lines_flatMap {ls : List (List Char)}
    (h : ∀ l ∈ ls, '\n' ∉ l ∧ l.getLast? ≠ some '\r') : lines (ls.flatMap (· ++ ['\n'])) = ls := by
  rw [lines, splitLines_flatMap fun l hl => (h l hl).1, List.map_map]
  refine (List.map_congr_left fun l hl => ?_).trans (List.map_id ls)
  exact dropTerminator_append (h l hl).2

/-- Puts four spaces in front of every line that is not empty. Lines end in `\n`, the last one only
if it did before. -/
def indentFour (s : String) : String :=
  let body := (lines s.toList).map fun l => if l = [] then [] else "    ".toList ++ l
  let last := if s.toList.getLast? = some '\n' then "\n" else ""
  "\n".intercalate (body.map String.ofList) ++ last

end Golden.Text
