import Golden.ArgumentFile
import Golden.Proofs.Reading
import Mathlib.Data.List.Chain
import Mathlib.Data.List.Forall2
import Mathlib.Tactic.Common

/-! # The grammar of argument files

A line is put together from blanks, bare arguments and quoted ones (`Token`). A bare argument goes
as far as it can, so that no two of them touch (`Separate`). What is in quotes consists of
characters that stand for themselves and of backslashes with a character behind each (`Item`).

* `readLine_run`: a bare argument is read up to where it ends.
* `readLine_items`: what is in quotes is read item by item.
* `readLine_eq_some`: a line has arguments exactly if it is put together from tokens.
* `parse_tokens`: the arguments of a text, or the first line that is not well formed. -/

namespace Golden.ArgumentFile

/-! ### Tokens -/

/-- A part of what is in quotes: a character, or a backslash with the character behind it. -/
inductive Item where
  | plain (c : Char) (quote : c ≠ '"') (backslash : c ≠ '\\')
  | escape (c : Char)

/-- How an item is written. -/
def Item.spelling : Item → List Char
  | plain c _ _ => [c]
  | escape c => ['\\', c]

/-- What an item stands for. A backslash goes away only in front of a quote or a backslash. -/
def Item.meaning : Item → List Char
  | plain c _ _ => [c]
  | escape c => if c = '"' ∨ c = '\\' then [c] else ['\\', c]

/-- Whether the character may be part of a bare argument. -/
def isBare (c : Char) : Bool := !Text.isBlank c && c ≠ '"'

/-- A part of a line. -/
inductive Token where
  | blank (c : Char) (blank : Text.isBlank c = true)
  | bare (cs : List Char) (nonempty : cs ≠ []) (bare : ∀ c ∈ cs, isBare c = true)
  | quoted (items : List Item)

namespace Token

/-- How a token is written. -/
def spelling : Token → List Char
  | blank c _ => [c]
  | bare cs _ _ => cs
  | quoted items => '"' :: (items.flatMap Item.spelling ++ ['"'])

/-- The argument that a token is, if it is one. -/
def argument? : Token → Option String
  | blank _ _ => none
  | bare cs _ _ => some (String.ofList cs)
  | quoted items => some (String.ofList (items.flatMap Item.meaning))

/-- The token is a bare argument. -/
def IsBare : Token → Prop
  | bare _ _ _ => True
  | _ => False

end Token

/-- Bare arguments are as long as they can be: no two of them touch. -/
def Separate (ts : List Token) : Prop := ts.IsChain fun t t' => ¬ (t.IsBare ∧ t'.IsBare)

/-- **The line is put together from the tokens.** -/
structure IsLine (ts : List Token) (line : List Char) : Prop where
  separate : Separate ts
  spelling : ts.flatMap Token.spelling = line

/-- The line is put together from tokens. -/
def WellFormed (line : List Char) : Prop := ∃ ts, IsLine ts line

attribute [local simp] readLine

/-! ### Blanks and bare arguments -/

theorem ne_of_isBlank {c : Char} (h : Text.isBlank c = true) : c ≠ '"' ∧ c ≠ '\\' := by
  constructor
  · rintro rfl
    revert h
    decide
  · rintro rfl
    revert h
    decide

/-- A blank between arguments is passed over. -/
theorem readLine_blank {c : Char} (h : Text.isBlank c = true) (line : List Char) :
    readLine .between (c :: line) = readLine .between line := by
  rw [readLine, if_neg (ne_of_isBlank h).1, if_pos h]

theorem isBare_iff {c : Char} : isBare c = true ↔ Text.isBlank c = false ∧ c ≠ '"' := by
  simp [isBare]

/-- A character of a bare argument is read. -/
theorem readLine_bare {c : Char} (h : isBare c = true) (sofar line : List Char) :
    readLine (.plain sofar) (c :: line) = readLine (.plain (c :: sofar)) line := by
  obtain ⟨hblank, hquote⟩ := isBare_iff.mp h
  rw [readLine, if_neg (by simp [hblank]), if_neg hquote]

/-- A bare argument ends where no character of one follows. -/
theorem readLine_end (sofar : List Char) : ∀ {line : List Char},
    (∀ c ∈ line.head?, isBare c = false) →
      readLine (.plain sofar) line = (readLine .between line).map (argument sofar :: ·)
  | [], _ => rfl
  | c :: line, h => by
    have hc : isBare c = false := h c rfl
    rw [readLine, readLine]
    by_cases hquote : c = '"'
    · subst hquote
      rfl
    · have hblank : Text.isBlank c = true := by simpa [isBare, hquote] using hc
      rw [if_pos hblank, if_neg hquote, if_pos hblank]

/-- **A bare argument is read up to where it ends.** -/
theorem readLine_run {run rest : List Char} (hrun : ∀ c ∈ run, isBare c = true)
    (hrest : ∀ c ∈ rest.head?, isBare c = false) (sofar : List Char) :
    readLine (.plain sofar) (run ++ rest) =
      (readLine .between rest).map (argument (run.reverse ++ sofar) :: ·) := by
  induction run generalizing sofar with
  | nil => exact readLine_end sofar hrest
  | cons c run ih =>
    obtain ⟨hc, hrun⟩ := List.forall_mem_cons.mp hrun
    rw [List.cons_append, readLine_bare hc, ih hrun, List.reverse_cons, List.append_assoc,
      List.singleton_append]

theorem readLine_token_bare {cs rest : List Char} (hne : cs ≠ []) (hcs : ∀ c ∈ cs, isBare c = true)
    (hrest : ∀ c ∈ rest.head?, isBare c = false) :
    readLine .between (cs ++ rest) = (readLine .between rest).map (String.ofList cs :: ·) := by
  obtain ⟨c, run, rfl⟩ := List.exists_cons_of_ne_nil hne
  obtain ⟨hc, hrun⟩ := List.forall_mem_cons.mp hcs
  obtain ⟨hblank, hquote⟩ := isBare_iff.mp hc
  rw [List.cons_append, readLine, if_neg hquote, if_neg (by simp [hblank]),
    readLine_run hrun hrest, argument]
  simp

/-! ### Quoted arguments -/

theorem readLine_item (item : Item) (sofar line : List Char) :
    readLine (.quoted sofar) (item.spelling ++ line) =
      readLine (.quoted (item.meaning.reverse ++ sofar)) line := by
  cases item with
  | plain c hquote hbackslash =>
    rw [Item.spelling, List.singleton_append, readLine, if_neg hquote, if_neg hbackslash]
    rfl
  | escape c =>
    rw [Item.spelling, List.cons_append, List.singleton_append, readLine, if_neg (by decide),
      if_pos rfl, readLine, Item.meaning]
    split_ifs <;> rfl

/-- **What is in quotes is read item by item.** -/
theorem readLine_items (items : List Item) (sofar rest : List Char) :
    readLine (.quoted sofar) (items.flatMap Item.spelling ++ '"' :: rest) =
      (readLine .between rest).map
        (argument ((items.flatMap Item.meaning).reverse ++ sofar) :: ·) := by
  induction items generalizing sofar with
  | nil => rw [List.flatMap_nil, List.nil_append, readLine, if_pos rfl]; rfl
  | cons item items ih =>
    rw [List.flatMap_cons, List.append_assoc, readLine_item, ih, List.flatMap_cons,
      List.reverse_append, List.append_assoc]

theorem readLine_token_quoted (items : List Item) (rest : List Char) :
    readLine .between ('"' :: (items.flatMap Item.spelling ++ '"' :: rest)) =
      (readLine .between rest).map (String.ofList (items.flatMap Item.meaning) :: ·) := by
  rw [readLine, if_pos rfl, readLine_items, argument]
  simp

/-- An open quote is closed behind some items, or there is no result. -/
theorem closed_or_none : ∀ line : List Char,
    (∃ items rest, line = List.flatMap Item.spelling items ++ '"' :: rest) ∨
      ∀ sofar, readLine (.quoted sofar) line = none
  | [] => Or.inr fun _ => rfl
  | c :: line => by
    have hnext (item : Item) (rest : List Char) (h : (∃ items rest',
        rest = List.flatMap Item.spelling items ++ '"' :: rest') ∨
          ∀ sofar, readLine (.quoted sofar) rest = none) :
        (∃ items rest', item.spelling ++ rest =
          List.flatMap Item.spelling items ++ '"' :: rest') ∨
            ∀ sofar, readLine (.quoted sofar) (item.spelling ++ rest) = none := by
      rcases h with ⟨items, rest', rfl⟩ | h
      · exact Or.inl ⟨item :: items, rest', by simp⟩
      · exact Or.inr fun sofar => (readLine_item item sofar rest).trans (h _)
    by_cases hquote : c = '"'
    · exact Or.inl ⟨[], line, congrArg (· :: line) hquote⟩
    by_cases hbackslash : c = '\\'
    · subst hbackslash
      match line with
      | [] => exact Or.inr fun _ => by rw [readLine, if_neg (by decide), if_pos rfl, readLine]
      | c :: line => exact hnext (.escape c) line (closed_or_none line)
    · exact hnext (.plain c hquote hbackslash) line (closed_or_none line)

/-! ### Lines -/

theorem head?_spelling : ∀ t : Token, ∃ c cs, t.spelling = c :: cs ∧ (isBare c = true ↔ t.IsBare)
  | .blank c hc => ⟨c, [], rfl, iff_of_false (by simp [isBare, hc]) id⟩
  | .bare cs hne hcs => by
    obtain ⟨c, run, rfl⟩ := List.exists_cons_of_ne_nil hne
    exact ⟨c, run, rfl, iff_of_true (hcs c List.mem_cons_self) trivial⟩
  | .quoted _ => ⟨'"', _, rfl, iff_of_false (by decide) id⟩

/-- A line begins like a bare argument exactly if its first token is one. -/
theorem head?_flatMap {ts : List Token} :
    (∀ c ∈ (ts.flatMap Token.spelling).head?, isBare c = false) ↔ ∀ t ∈ ts.head?, ¬ t.IsBare := by
  cases ts with
  | nil => simp
  | cons t ts =>
    obtain ⟨c, cs, hspelling, hbare⟩ := head?_spelling t
    simp [hspelling, ← hbare]

/-- **Tokens are read** one after another. -/
theorem readLine_of_separate : ∀ {ts : List Token}, Separate ts →
    readLine .between (ts.flatMap Token.spelling) = some (ts.filterMap Token.argument?)
  | [], _ => rfl
  | t :: ts, h => by
    obtain ⟨hnext, hts⟩ := List.isChain_cons.mp h
    have ih := readLine_of_separate hts
    rw [List.flatMap_cons]
    cases t with
    | blank c hc =>
      rw [Token.spelling, List.singleton_append, readLine_blank hc, ih]
      rfl
    | bare cs hne hcs =>
      have hrest : ∀ t ∈ ts.head?, ¬ t.IsBare := fun t ht hbare => hnext t ht ⟨trivial, hbare⟩
      rw [Token.spelling, readLine_token_bare hne hcs (head?_flatMap.mpr hrest), ih]
      rfl
    | quoted items =>
      rw [Token.spelling, List.cons_append, List.append_assoc, List.singleton_append,
        readLine_token_quoted, ih]
      rfl

/-- **What is read is put together from tokens.** -/
theorem wellFormed_of_readLine {line : List Char} {args : List String}
    (h : readLine .between line = some args) : WellFormed line := by
  match line with
  | [] => exact ⟨[], List.isChain_nil, rfl⟩
  | c :: line =>
    by_cases hquote : c = '"'
    · subst hquote
      rcases closed_or_none line with ⟨items, rest, hline⟩ | hnone
      · rw [hline, readLine_token_quoted] at h
        obtain ⟨args', hargs', -⟩ := Option.map_eq_some_iff.mp h
        have hshort : rest.length < line.length + 1 := by simp [hline]; omega
        obtain ⟨ts, hts⟩ := wellFormed_of_readLine hargs'
        refine ⟨.quoted items :: ts, List.isChain_cons.mpr ⟨fun _ _ h => h.1, hts.separate⟩, ?_⟩
        simp [Token.spelling, hts.spelling, hline]
      · rw [readLine, if_pos rfl, hnone] at h
        cases h
    by_cases hblank : Text.isBlank c = true
    · rw [readLine_blank hblank] at h
      obtain ⟨ts, hts⟩ := wellFormed_of_readLine h
      refine ⟨.blank c hblank :: ts, List.isChain_cons.mpr ⟨fun _ _ h => h.1, hts.separate⟩, ?_⟩
      rw [List.flatMap_cons, hts.spelling]
      rfl
    · have hcs : ∀ d ∈ c :: line.takeWhile isBare, isBare d = true :=
        List.forall_mem_cons.mpr ⟨isBare_iff.mpr ⟨by simpa using hblank, hquote⟩,
          List.all_eq_true.mp List.all_takeWhile⟩
      have hrest : ∀ d ∈ (line.dropWhile isBare).head?, isBare d = false := by
        intro d hd
        have hnot := List.head?_dropWhile_not isBare line
        rw [hd] at hnot
        simpa using hnot
      have hline : c :: line = (c :: line.takeWhile isBare) ++ line.dropWhile isBare := by
        rw [List.cons_append, List.takeWhile_append_dropWhile]
      rw [hline, readLine_token_bare (List.cons_ne_nil _ _) hcs hrest] at h
      obtain ⟨args', hargs', -⟩ := Option.map_eq_some_iff.mp h
      have hshort := (List.dropWhile_suffix (l := line) isBare).length_le
      obtain ⟨ts, hts⟩ := wellFormed_of_readLine hargs'
      refine ⟨.bare _ (List.cons_ne_nil _ _) hcs :: ts,
        List.isChain_cons.mpr ⟨fun t ht h => ?_, hts.separate⟩, ?_⟩
      · rw [← hts.spelling] at hrest
        exact head?_flatMap.mp hrest t ht h.2
      · rw [List.flatMap_cons, hts.spelling]
        exact hline.symm
termination_by line.length
decreasing_by
  · exact hshort
  · simp
  · exact Nat.lt_succ_of_le hshort

/-- **A line has arguments** exactly if it is put together from tokens, and then those that are among
the tokens. -/
theorem readLine_eq_some {line : List Char} {args : List String} :
    readLine .between line = some args ↔
      ∃ ts, IsLine ts line ∧ ts.filterMap Token.argument? = args := by
  have hread {ts : List Token} (hts : IsLine ts line) :
      readLine .between line = some (ts.filterMap Token.argument?) :=
    hts.spelling ▸ readLine_of_separate hts.separate
  constructor
  · intro h
    obtain ⟨ts, hts⟩ := wellFormed_of_readLine h
    exact ⟨ts, hts, Option.some.inj ((hread hts).symm.trans h)⟩
  · rintro ⟨ts, hts, rfl⟩
    exact hread hts

theorem readLine_eq_none {line : List Char} :
    readLine .between line = none ↔ ¬ WellFormed line := by
  rw [← not_iff_not, not_not, ← ne_eq, Option.ne_none_iff_exists']
  simp only [readLine_eq_some]
  exact ⟨fun ⟨_, ts, hts, _⟩ => ⟨ts, hts⟩, fun ⟨ts, hts⟩ => ⟨_, ts, hts, rfl⟩⟩

/-! ### Texts -/

theorem exists_lines {lines : List (List Char)} :
    (∃ tss, List.Forall₂ IsLine tss lines) ↔ ∀ line ∈ lines, WellFormed line := by
  induction lines with
  | nil => simp
  | cons line lines ih =>
    rw [List.forall_mem_cons, ← ih]
    constructor
    · rintro ⟨_, hlines⟩
      cases hlines with
      | cons hts htss => exact ⟨⟨_, hts⟩, _, htss⟩
    · rintro ⟨⟨ts, hts⟩, tss, htss⟩
      exact ⟨ts :: tss, .cons hts htss⟩

/-- **Lines have arguments** if all of them are put together from tokens. -/
theorem readLines_eq_ok {origin : Path} {args : List String} {lines : List (List Char)} :
    ∀ {n : Nat}, readLines origin n lines = .ok args ↔ ∃ tss, List.Forall₂ IsLine tss lines ∧
      tss.flatten.filterMap Token.argument? = args := by
  induction lines generalizing args with
  | nil => simp [readLines]
  | cons line lines ih =>
    intro n
    rw [readLines]
    cases hline : readLine .between line with
    | none =>
      have hbad := readLine_eq_none.mp hline
      refine iff_of_false (by simp) ?_
      rintro ⟨_, hlines, -⟩
      cases hlines with
      | cons hts _ => exact hbad ⟨_, hts⟩
    | some front =>
      obtain ⟨ts, hts, hfront⟩ := readLine_eq_some.mp hline
      dsimp only
      rw [Except.map_eq_ok]
      constructor
      · rintro ⟨back, hback, rfl⟩
        obtain ⟨tss, htss, rfl⟩ := ih.mp hback
        refine ⟨ts :: tss, .cons hts htss, ?_⟩
        rw [List.flatten_cons, List.filterMap_append, hfront]
      · rintro ⟨_, hlines, rfl⟩
        cases hlines with
        | @cons ts' _ tss _ hts' htss =>
          have hsame : ts'.filterMap Token.argument? = front :=
            Option.some.inj ((readLine_eq_some.mpr ⟨ts', hts', rfl⟩).symm.trans hline)
          refine ⟨_, ih.mpr ⟨tss, htss, rfl⟩, ?_⟩
          rw [List.flatten_cons, List.filterMap_append, hsame]

/-- **The first line that is not well formed** decides about the error. -/
theorem readLines_eq_error {origin : Path} {e : ConfigError} {lines : List (List Char)} :
    ∀ {n : Nat}, readLines origin n lines = .error e ↔
      ∃ front line back, lines = front ++ line :: back ∧ (∀ l ∈ front, WellFormed l) ∧
        ¬ WellFormed line ∧ e = .unterminatedQuote origin (n + front.length) := by
  induction lines with
  | nil => simp [readLines]
  | cons line lines ih =>
    intro n
    rw [readLines]
    cases hline : readLine .between line with
    | none =>
      have hbad := readLine_eq_none.mp hline
      rw [exists_first_of_not hbad]
      simp [hbad, eq_comm]
    | some front =>
      obtain ⟨ts, hts, -⟩ := readLine_eq_some.mp hline
      have hgood : WellFormed line := ⟨ts, hts⟩
      rw [exists_first_of hgood fun h => h.1 hgood]
      simp only [Except.map_eq_error, ih, List.length_cons, Nat.add_assoc, Nat.add_comm 1]

/-- **The arguments of a text** are the tokens of its lines other than blanks, one line after
another. There are some exactly if each line is put together from tokens; else the first line that
is not decides about the error. -/
theorem parse_tokens (text : String) (origin : Path) :
    ((∃ args, parse text origin = .ok args) ↔ ∀ line ∈ Text.lines text.toList, WellFormed line) ∧
    (∀ args, parse text origin = .ok args ↔
      ∃ tss, List.Forall₂ IsLine tss (Text.lines text.toList) ∧
        tss.flatten.filterMap Token.argument? = args) ∧
    ∀ e, parse text origin = .error e ↔ ∃ front line back,
      Text.lines text.toList = front ++ line :: back ∧ (∀ l ∈ front, WellFormed l) ∧
        ¬ WellFormed line ∧ e = .unterminatedQuote origin (front.length + 1) := by
  refine ⟨?_, fun args => readLines_eq_ok, fun e => ?_⟩
  · rw [← exists_lines]
    simp only [parse, readLines_eq_ok]
    exact ⟨fun ⟨_, tss, htss, _⟩ => ⟨tss, htss⟩, fun ⟨tss, htss⟩ => ⟨_, tss, htss, rfl⟩⟩
  · rw [parse, readLines_eq_error]
    simp only [Nat.add_comm 1]

/-- Arguments may touch each other, and a backslash outside of quotes is like any other character. -/
example : parse "a\"b\\\"\"\\n\n\"\"" ⟨"f"⟩ = .ok ["a", "b\"", "\\n", ""] := by
  decide +kernel

end Golden.ArgumentFile
