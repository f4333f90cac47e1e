import Golden.Proofs.ArgumentLine
import Golden.Proofs.Files
import Golden.Proofs.Reading
import Golden.Proofs.Text.Utf8
import Golden.Proofs.Unit.Alike

/-! # Argument files

Arguments are written to a file in quotes, with any blanks between them (`ArgumentFile.Lists`). They
are read back as they were, however they are spread over lines, because blanks at the end of a line
do not matter (`readLine_append_blank`) and a quoted argument is read by itself
(`readLine_quote`).

* `parse_of_lists`: quoted arguments are read back.
* `expand_apply`: what arguments are expanded to (`expansion`), and that nothing else changes.
* `expand_spliced`: the arguments of a file come in its place, and the first file that is of no use
  decides about the error. -/

namespace Golden.ArgumentFile

/-! ### Writing -/

/-- A character in quotes. A backslash goes before a quote and before a backslash. -/
def protect (c : Char) : List Char := if c = '"' ∨ c = '\\' then ['\\', c] else [c]

/-- An argument in quotes. -/
def quote (a : String) : List Char := '"' :: (a.toList.flatMap protect ++ ['"'])

/-- **The text lists the arguments**: each of them stands in quotes, and there may be blanks
anywhere around them. -/
inductive Lists : List String → List Char → Prop where
  | nil : Lists [] []
  | blank {args : List String} {text : List Char} {c : Char} :
    Text.isBlank c = true → Lists args text → Lists args (c :: text)
  | quoted {args : List String} {text : List Char} (a : String) :
    Lists args text → Lists (a :: args) (quote a ++ text)

theorem newline_not_mem_quote {a : String} (h : '\n' ∉ a.toList) : '\n' ∉ quote a := by
  have hprotect : '\n' ∉ a.toList.flatMap protect := by
    rw [List.mem_flatMap]
    rintro ⟨c, hc, hmem⟩
    have hne : c ≠ '\n' := fun heq => h (heq ▸ hc)
    unfold protect at hmem
    split_ifs at hmem <;> simp [Ne.symm hne] at hmem
  simp [quote, hprotect]

/-! ### Lines -/

/-- **A blank at the end of a line does not matter**, not even in an open quote, where there is no
result anyhow. -/
theorem readLine_append_blank {c : Char} (h : Text.isBlank c = true) (s : State)
    (line : List Char) : readLine s (line ++ [c]) = readLine s line := by
  obtain ⟨hquote, hbackslash⟩ := ne_of_isBlank h
  induction s, line using readLine.induct with
  | case1 => simp [readLine, hquote, h]
  | case2 => simp [readLine, h]
  | case3 => simp [readLine, hquote, hbackslash]
  | case4 => simp [readLine, hquote, hbackslash]
  | _ => simp_all [readLine]

/-- The terminator of a line does not matter either. -/
theorem readLine_dropTerminator (s : State) (line : List Char) :
    readLine s (Text.dropTerminator line) = readLine s line := by
  unfold Text.dropTerminator Text.dropLast
  split_ifs with hfeed hreturn
  · rw [← readLine_append_blank (c := '\r') (by decide), List.dropLast_append_getLast? _ hreturn,
      ← readLine_append_blank (c := '\n') (by decide), List.dropLast_append_getLast? _ hfeed]
  · rw [← readLine_append_blank (c := '\n') (by decide), List.dropLast_append_getLast? _ hfeed]
  · rfl

theorem readLines_dropTerminator (origin : Path) (n : Nat) (ls : List (List Char)) :
    readLines origin n (ls.map Text.dropTerminator) = readLines origin n ls := by
  induction ls generalizing n with
  | nil => rfl
  | cons line ls ih => simp only [List.map_cons, readLines, readLine_dropTerminator, ih]

/-! ### Quoted arguments -/

/-- What is written in quotes consists of items, which stand for the characters. -/
theorem exists_items (cs : List Char) : ∃ items : List Item,
    items.flatMap Item.spelling = cs.flatMap protect ∧ items.flatMap Item.meaning = cs := by
  induction cs with
  | nil => exact ⟨[], rfl, rfl⟩
  | cons c cs ih =>
    obtain ⟨items, hspelling, hmeaning⟩ := ih
    by_cases hc : c = '"' ∨ c = '\\'
    · exact ⟨.escape c :: items, by simp [Item.spelling, protect, hc, hspelling],
        by simp [Item.meaning, hc, hmeaning]⟩
    · obtain ⟨hquote, hbackslash⟩ := not_or.mp hc
      exact ⟨.plain c hquote hbackslash :: items, by simp [Item.spelling, protect, hc, hspelling],
        by simp [Item.meaning, hmeaning]⟩

/-- **A quoted argument is read by itself.** -/
theorem readLine_quote (a : String) (line : List Char) :
    readLine .between (quote a ++ line) = (readLine .between line).map (a :: ·) := by
  obtain ⟨items, hspelling, hmeaning⟩ := exists_items a.toList
  have hquote : quote a ++ line = '"' :: (items.flatMap Item.spelling ++ '"' :: line) := by
    simp [quote, hspelling]
  rw [hquote, readLine_token_quoted, hmeaning, String.ofList_toList]

theorem readLines_quote (origin : Path) (n : Nat) (a : String) (line : List Char)
    (lines : List (List Char)) : readLines origin n ((quote a ++ line) :: lines) =
      (readLines origin n (line :: lines)).map (a :: ·) := by
  rw [readLines, readLines, readLine_quote]
  cases readLine .between line with
  | none => rfl
  | some front => cases readLines origin (n + 1) lines <;> rfl

/-- The first line of a text that begins with something. -/
theorem splitLines_append_of_not_mem {l : List Char} (h : '\n' ∉ l) (hl : l ≠ [])
    (cs : List Char) : Text.splitLines (l ++ cs) =
      match Text.splitLines cs with
      | [] => [l]
      | line :: lines => (l ++ line) :: lines := by
  induction l with
  | nil => exact absurd rfl hl
  | cons c l ih =>
    rw [List.mem_cons, not_or] at h
    rw [List.cons_append, Text.splitLines, if_neg (Ne.symm h.1)]
    cases l with
    | nil =>
      rw [List.nil_append]
      cases Text.splitLines cs <;> rfl
    | cons d l =>
      rw [ih h.2 (List.cons_ne_nil _ _)]
      cases Text.splitLines cs <;> rfl

theorem readLines_of_lists (origin : Path) {args : List String} {text : List Char}
    (h : Lists args text) (hlines : ∀ a ∈ args, '\n' ∉ a.toList) (n : Nat) :
    readLines origin n (Text.splitLines text) = .ok args := by
  induction h generalizing n with
  | nil => rfl
  | @blank args text c hc _ ih =>
    rw [Text.splitLines]
    split_ifs with hfeed
    · rw [readLines, readLine_blank hc, readLine]
      dsimp only
      rw [ih hlines]
      rfl
    · have htext := ih hlines n
      cases hsplit : Text.splitLines text with
      | nil =>
        rw [hsplit] at htext
        rw [readLines, readLine_blank hc, readLine]
        exact htext
      | cons line lines =>
        rw [hsplit, readLines] at htext
        rw [readLines, readLine_blank hc]
        exact htext
  | @quoted args text a _ ih =>
    obtain ⟨ha, hargs⟩ := List.forall_mem_cons.mp hlines
    have htext := ih hargs n
    rw [splitLines_append_of_not_mem (newline_not_mem_quote ha) (List.cons_ne_nil _ _)]
    cases hsplit : Text.splitLines text with
    | nil =>
      rw [hsplit] at htext
      cases htext
      have hone := readLine_quote a []
      rw [List.append_nil] at hone
      rw [readLines, hone]
      rfl
    | cons line lines =>
      rw [hsplit] at htext
      rw [readLines_quote, htext]
      rfl

/-- **Quoted arguments are read back**, if each of them is on one line. -/
theorem parse_of_lists {args : List String} {text : String} (h : Lists args text.toList)
    (hlines : ∀ a ∈ args, '\n' ∉ a.toList) (origin : Path) : parse text origin = .ok args := by
  rw [parse, Text.lines, readLines_dropTerminator, readLines_of_lists origin h hlines]

/-! ### Expansion -/

section Expansion
variable {σ ω : Type} [FileSystem σ]

/-- The arguments in a file, in view of what lies around the run. -/
def loaded (host : σ) (file : Path) : Except ConfigError (List String) :=
  match FileSystem.read host file with
  | .error cause => .error (.unreadableArgumentFile file cause)
  | .ok bs => parse (Utf8.decodeLossy bs) file

/-- What one argument stands for. -/
def meaning (host : σ) (arg : String) : Except ConfigError (List String) :=
  match file? arg with
  | some file => loaded host file
  | none => .ok [arg]

/-- What arguments stand for. -/
def expansion (host : σ) : List String → Except ConfigError (List String)
  | [] => .ok []
  | arg :: args =>
    match meaning host arg with
    | .error e => .error e
    | .ok front => (expansion host args).map (front ++ ·)

theorem load_apply (file : Path) (w : World σ ω) :
    ∃ t, load file w = (loaded w.host file, { w with trail := t }) := by
  rw [load, Run.host_bind, loaded]
  cases FileSystem.read w.host file with
  | error cause => exact ⟨w.trail, rfl⟩
  | ok bs =>
    dsimp only
    rw [Run.bind_apply, Run.ofResult_apply]
    cases parse (Utf8.decodeLossy bs) file with
    | error e => exact ⟨w.trail, rfl⟩
    | ok args => exact ⟨_, rfl⟩

/-- Replaces one argument. -/
def expandOne (arg : String) : Run σ ω ConfigError (List String) :=
  match file? arg with
  | some file => load file
  | none => pure [arg]

theorem expandOne_apply (arg : String) (w : World σ ω) :
    ∃ t, expandOne arg w = (meaning w.host arg, { w with trail := t }) := by
  unfold expandOne meaning
  cases file? arg with
  | none => exact ⟨w.trail, rfl⟩
  | some file => exact load_apply file w

theorem expand_cons (arg : String) (args : List String) :
    (expand (arg :: args) : Run σ ω ConfigError (List String)) =
      expandOne arg >>= fun front => expand args >>= fun back => pure (front ++ back) := by
  rw [expand, expandOne]
  cases file? arg <;> rfl

/-- **What arguments are expanded to.** Nothing but the trail changes. -/
theorem expand_apply : ∀ (args : List String) (w : World σ ω),
    ∃ t, expand args w = (expansion w.host args, { w with trail := t })
  | [], w => ⟨w.trail, rfl⟩
  | arg :: args, w => by
    obtain ⟨t, ht⟩ := expandOne_apply arg w
    obtain ⟨t', ht'⟩ := expand_apply args { w with trail := t }
    rw [expand_cons, Run.bind_apply, ht, expansion]
    cases meaning w.host arg with
    | error e => exact ⟨t, rfl⟩
    | ok front =>
      refine ⟨t', ?_⟩
      dsimp only
      rw [Run.bind_apply, ht']
      cases expansion w.host args <;> rfl

/-- **Arguments are expanded one by one.** -/
theorem expansion_append (host : σ) (xs ys : List String) : expansion host (xs ++ ys) =
    match expansion host xs with
    | .error e => .error e
    | .ok front => (expansion host ys).map (front ++ ·) := by
  induction xs with
  | nil => cases h : expansion host ys <;> simp [expansion, h, Except.map]
  | cons x xs ih =>
    rw [List.cons_append, expansion, expansion, ih]
    cases meaning host x with
    | error e => rfl
    | ok front =>
      cases expansion host xs with
      | error e => rfl
      | ok middle => cases expansion host ys <;> simp [Except.map]

/-- **The first argument that stands for nothing** decides about the error. -/
theorem expansion_eq_error {host : σ} {args : List String} {e : ConfigError} :
    expansion host args = .error e ↔ ∃ xs arg ys front, args = xs ++ arg :: ys ∧
      expansion host xs = .ok front ∧ meaning host arg = .error e := by
  constructor
  · intro h
    induction args with
    | nil => cases h
    | cons arg args ih =>
      rw [expansion] at h
      cases harg : meaning host arg with
      | error e' =>
        rw [harg] at h
        cases h
        exact ⟨[], arg, args, [], rfl, rfl, harg⟩
      | ok front =>
        cases hrest : expansion host args with
        | ok back =>
          rw [harg, hrest] at h
          cases h
        | error e' =>
          rw [harg, hrest] at h
          cases h
          obtain ⟨xs, arg', ys, back, rfl, hback, herror⟩ := ih hrest
          refine ⟨arg :: xs, arg', ys, front ++ back, rfl, ?_, herror⟩
          rw [expansion, harg, hback]
          rfl
  · rintro ⟨xs, arg, ys, front, rfl, hfront, herror⟩
    rw [expansion_append, hfront, expansion, herror]
    rfl

theorem file?_mark (p : String) : file? (String.singleton mark ++ p) = some ⟨p⟩ := by
  simp [file?, mark, String.toList_append]

/-- The file in which arguments stand in quotes stands for them. -/
theorem meaning_of_lists {host : σ} {p text : String} {args : List String}
    (hread : FileSystem.read host ⟨p⟩ = .ok (utf8 text)) (h : Lists args text.toList)
    (hlines : ∀ a ∈ args, '\n' ∉ a.toList) :
    meaning host (String.singleton mark ++ p) = .ok args := by
  rw [meaning, file?_mark]
  dsimp only
  rw [loaded, hread]
  dsimp only
  rw [Utf8.decodeLossy_encode, parse_of_lists h hlines]

/-- Only a file may stand for nothing. -/
theorem meaning_eq_error {host : σ} {arg : String} {e : ConfigError} :
    meaning host arg = .error e ↔ ∃ file, file? arg = some file ∧ loaded host file = .error e := by
  unfold meaning
  cases file? arg <;> simp

/-- A file is of no use as an argument file: it cannot be read, or a quote is open at the end of one
of its lines. -/
inductive Unusable (host : σ) (file : Path) : Prop where
  | unreadable {e : FileSystemError} : FileSystem.read host file = .error e → Unusable host file
  | openQuote {bs : Bytes} {line : List Char} : FileSystem.read host file = .ok bs →
    line ∈ Text.lines (Utf8.decodeLossy bs).toList → readLine .between line = none →
    Unusable host file

omit [FileSystem σ] in
/-- Lines are refused if a quote is open at the end of one of them. -/
theorem exists_readLines_error {origin : Path} {lines : List (List Char)} : ∀ {n : Nat},
    (∃ e, readLines origin n lines = .error e) ↔ ∃ line ∈ lines, readLine .between line = none := by
  induction lines with
  | nil => simp [readLines]
  | cons line lines ih =>
    intro n
    rw [readLines, List.exists_mem_cons_iff, ← @ih (n + 1)]
    cases readLine .between line with
    | none => simp
    | some args => simp [Except.map_eq_error]

theorem exists_loaded_error {host : σ} {file : Path} :
    (∃ e, loaded host file = .error e) ↔ Unusable host file := by
  unfold loaded
  constructor
  · rintro ⟨e, he⟩
    cases hread : FileSystem.read host file with
    | error cause => exact .unreadable hread
    | ok bs =>
      rw [hread] at he
      obtain ⟨line, hline, hopen⟩ := exists_readLines_error.mp ⟨e, he⟩
      exact .openQuote hread hline hopen
  · rintro (hread | ⟨hread, hline, hopen⟩)
    · rw [hread]
      exact ⟨_, rfl⟩
    · rw [hread]
      exact exists_readLines_error.mpr ⟨_, hline, hopen⟩

/-- **Arguments are refused** exactly if one of them stands for a file of no use. -/
theorem exists_expansion_error {host : σ} {args : List String} :
    (∃ e, expansion host args = .error e) ↔
      ∃ arg ∈ args, ∃ file, file? arg = some file ∧ Unusable host file := by
  induction args with
  | nil => simp [expansion]
  | cons arg args ih =>
    have harg : (∃ e, meaning host arg = .error e) ↔
        ∃ file, file? arg = some file ∧ Unusable host file := by
      simp only [meaning_eq_error, ← exists_loaded_error]
      exact exists_comm.trans (exists_congr fun _ => exists_and_left)
    rw [expansion, List.exists_mem_cons_iff, ← ih, ← harg]
    cases meaning host arg with
    | error e => simp
    | ok front => simp [Except.map_eq_error]

/-- **The arguments of a file come in its place**: if they stand in quotes there, each of them on one
line, they are taken as they are, between those that the arguments before and behind the file are
expanded to. An expansion fails exactly if a file is of no use, and the first such file decides about
the error. -/
theorem expand_spliced (w : World σ ω) :
    (∀ (p text : String) (xs args ys before behind : List String),
      FileSystem.read w.host ⟨p⟩ = .ok (utf8 text) → Lists args text.toList →
      (∀ a ∈ args, '\n' ∉ a.toList) →
      (expand xs w).1 = .ok before → (expand ys w).1 = .ok behind →
      (expand (xs ++ [String.singleton mark ++ p] ++ ys) w).1 = .ok (before ++ args ++ behind)) ∧
    ∀ (all : List String) (e : ConfigError), (expand all w).1 = .error e ↔
      ∃ xs arg ys before file, all = xs ++ arg :: ys ∧ (expand xs w).1 = .ok before ∧
        file? arg = some file ∧ (load file w).1 = .error e := by
  have hexpand (args : List String) : (expand args w).1 = expansion w.host args := by
    obtain ⟨t, ht⟩ := expand_apply args w
    rw [ht]
  have hload (file : Path) : (load file w).1 = loaded w.host file := by
    obtain ⟨t, ht⟩ := load_apply file w
    rw [ht]
  simp only [hexpand, hload]
  refine ⟨fun p text xs args ys before behind hread h hlines hxs hys => ?_, fun all e => ?_⟩
  · rw [List.append_assoc, List.singleton_append, expansion_append, hxs, expansion,
      meaning_of_lists hread h hlines, hys]
    exact congrArg Except.ok (List.append_assoc before args behind).symm
  · rw [expansion_eq_error]
    constructor
    · rintro ⟨xs, arg, ys, before, hall, hxs, herror⟩
      obtain ⟨file, hfile, hload⟩ := meaning_eq_error.mp herror
      exact ⟨xs, arg, ys, before, file, hall, hxs, hfile, hload⟩
    · rintro ⟨xs, arg, ys, before, file, hall, hxs, hfile, hload⟩
      exact ⟨xs, arg, ys, before, hall, hxs, meaning_eq_error.mpr ⟨file, hfile, hload⟩⟩

end Expansion

/-- One file with three arguments, the last two of which touch each other. -/
def threeArguments : World Shelf Memory :=
  .start ⟨[(⟨"args"⟩, utf8 "\"@more\" \n\"a \\\"b\\\\\"\"\"")]⟩ .empty

/-- An argument from a file is not expanded again. Two files are missing, and the first one is
told. -/
theorem expand_spliced_threeArguments :
    (expand ["-q", "@args", "test_a"] threeArguments).1 =
      .ok ["-q", "@more", "a \"b\\", "", "test_a"] ∧
    (expand ["@args", "@first", "@second"] threeArguments).1 =
      .error (.unreadableArgumentFile ⟨"first"⟩ (.notFound ⟨"first"⟩)) := by
  have hlists : Lists ["@more", "a \"b\\", ""]
      "\"@more\" \n\"a \\\"b\\\\\"\"\"".toList := by
    have htext : "\"@more\" \n\"a \\\"b\\\\\"\"\"".toList = quote "@more" ++
        ' ' :: '\n' :: (quote "a \"b\\" ++ (quote "" ++ [])) := by decide +kernel
    rw [htext]
    exact .quoted _ (.blank (by decide) (.blank (by decide) (.quoted _ (.quoted _ .nil))))
  have hread : FileSystem.read threeArguments.host ⟨"args"⟩ =
      .ok (utf8 "\"@more\" \n\"a \\\"b\\\\\"\"\"") := by decide +kernel
  refine ⟨?_, ?_⟩
  · exact (expand_spliced threeArguments).1 "args" _ ["-q"] _ ["test_a"] _ _ hread hlists
      (by decide +kernel) rfl rfl
  · refine ((expand_spliced threeArguments).2 _ _).mpr
      ⟨["@args"], "@first", ["@second"], ["@more", "a \"b\\", ""], ⟨"first"⟩, rfl, ?_, ?_, ?_⟩
    · decide +kernel
    · decide +kernel
    · decide +kernel

end Golden.ArgumentFile
