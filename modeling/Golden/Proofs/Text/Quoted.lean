import Golden.Text.Quoted
import Mathlib.Data.List.Infix
import Mathlib.Tactic.Common

/-! # Reading what was quoted

Every quoted text can be read, and what is read is the text itself, with one exception: a NUL is
written as an escape that an octal digit after it makes part of a longer one. NUL and the digits
then come back as one character (`reread`).

* `readEscape_of_letter`, `readBraced_toDigits`: the escapes are read as the characters that they
  were written for.
* `unescape_escape`: what is read.
* `reread_eq_self`: a text comes back as it was exactly if no NUL of it is followed by an octal
  digit. -/

namespace Golden.Text

/-! ### Hexadecimal numbers -/

theorem hexDigit?_digitChar : ∀ d < 16, hexDigit? (Nat.digitChar d) = some d := by decide

theorem mem_toDigits {c : Char} (n : Nat) (h : c ∈ Nat.toDigits 16 n) :
    ∃ d < 16, c = Nat.digitChar d := by
  induction n using Nat.strong_induction_on with
  | h n ih =>
    rcases Nat.lt_or_ge n 16 with hn | hn
    · rw [Nat.toDigits_of_lt_base hn, List.mem_singleton] at h
      exact ⟨n, hn, h⟩
    · rw [Nat.toDigits_of_base_le (by decide) hn, List.mem_append, List.mem_singleton] at h
      rcases h with h | h
      · exact ih (n / 16) (by omega) h
      · exact ⟨n % 16, by omega, h⟩

theorem not_mem_toDigits {c : Char} (n : Nat) (h : hexDigit? c = none) :
    c ∉ Nat.toDigits 16 n := by
  intro hc
  obtain ⟨d, hd, rfl⟩ := mem_toDigits n hc
  rw [hexDigit?_digitChar d hd] at h
  cases h

/-- The digits of a number have its value. -/
theorem value_toDigits (n : Nat) : hexValue?.value (Nat.toDigits 16 n) = some n := by
  unfold hexValue?.value
  induction n using Nat.strong_induction_on with
  | h n ih =>
    rcases Nat.lt_or_ge n 16 with hn | hn
    · rw [Nat.toDigits_of_lt_base hn]
      simp [hexDigit?_digitChar n hn]
    · obtain ⟨vs, hvs, hvalue⟩ := Option.map_eq_some_iff.mp (ih (n / 16) (by omega))
      rw [Nat.toDigits_of_base_le (by decide) hn, List.mapM_append, hvs]
      have hlast := hexDigit?_digitChar (n % 16) (by omega)
      simp [hlast, hvalue]
      omega

theorem hexValue?_toDigits (n : Nat) : hexValue? (Nat.toDigits 16 n) = some n := by
  have hplus := not_mem_toDigits (c := '+') n (by decide)
  have hvalue := value_toDigits n
  unfold hexValue?
  split
  · exact absurd ‹_› Nat.toDigits_ne_nil
  · simp_all
  · simp_all
  · exact hvalue

theorem charOfNat?_toNat (c : Char) : charOfNat? c.toNat = some c := by
  have hvalid : c.toNat.isValidChar := c.valid
  rw [charOfNat?, if_pos hvalid, Char.ofNat_toNat]

theorem readBraced_toDigits (c : Char) (rest : List Char) :
    readBraced (Nat.toDigits 16 c.toNat ++ '}' :: rest) = some (c, rest) := by
  have hall : ∀ d ∈ Nat.toDigits 16 c.toNat, decide (d ≠ '}') = true := fun d hd =>
    decide_eq_true fun h => not_mem_toDigits c.toNat (by decide) (h ▸ hd)
  unfold readBraced
  rw [List.dropWhile_append_of_pos hall, List.takeWhile_append_of_pos hall,
    List.dropWhile_cons_of_neg (by simp), List.takeWhile_cons_of_neg (by simp), List.append_nil,
    hexValue?_toDigits, Option.bind_some, charOfNat?_toNat]
  rfl

/-! ### Escapes -/

theorem readEscape_of_letter {c l : Char} (h : escapeLetter? c = some l) (hc : c ≠ '\x00')
    (rest : List Char) : readEscape (l :: rest) = some (c, rest) := by
  unfold escapeLetter? at h
  split at h
  · exact absurd rfl hc
  all_goals cases h <;> rfl

/-- A character that is not NUL is read as it was written. -/
theorem unescape_escapeChar {c : Char} (hc : c ≠ '\x00') (rest : List Char) :
    unescape (escapeChar c ++ rest) = (unescape rest).map (c :: ·) := by
  unfold escapeChar
  cases hl : escapeLetter? c with
  | some l =>
    have h := readEscape_of_letter hl hc rest
    change unescape ('\\' :: l :: rest) = _
    rw [unescape, h]
  | none =>
    have hslash : c ≠ '\\' := by
      rintro rfl
      cases hl
    dsimp only
    split_ifs
    · rw [List.singleton_append, unescape]
      exact hslash
    · have h := readBraced_toDigits c rest
      have happend : ['\\', 'u', '{'] ++ Nat.toDigits 16 c.toNat ++ ['}'] ++ rest =
          '\\' :: 'u' :: '{' :: (Nat.toDigits 16 c.toNat ++ '}' :: rest) := by simp
      rw [happend, unescape, readEscape, h]

theorem newline_not_mem_escapeChar (c : Char) : '\n' ∉ escapeChar c := by
  unfold escapeChar
  split
  · rename_i l hl
    unfold escapeLetter? at hl
    split at hl <;> cases hl <;> decide
  · split_ifs with hshape
    · rintro h
      rw [← List.mem_singleton.mp h] at hshape
      exact absurd hshape (by decide)
    · have hdigits := not_mem_toDigits (c := '\n') c.toNat (by decide)
      simp [hdigits]

/-- What is written is one line. -/
theorem newline_not_mem_escape (cs : List Char) : '\n' ∉ escape cs := by
  intro h
  obtain ⟨c, -, hc⟩ := List.mem_flatMap.mp h
  exact newline_not_mem_escapeChar c hc

/-! ### Octal digits -/

/-- The octal digits that an escape takes in besides its own, two at most. -/
def swallowed (cs : List Char) : List Char := (cs.take 2).takeWhile isOctal

/-- The value of octal digits. -/
def octalValue (ds : List Char) : Nat := ds.foldl (fun n d => n * 8 + (d.toNat - '0'.toNat)) 0

theorem toNat_of_isOctal {c : Char} (h : isOctal c = true) : 48 ≤ c.toNat ∧ c.toNat ≤ 55 := by
  rw [isOctal, Bool.and_eq_true, decide_eq_true_eq, decide_eq_true_eq] at h
  exact h

/-- An octal digit is written as it is. -/
theorem escapeChar_of_isOctal {c : Char} (h : isOctal c = true) : escapeChar c = [c] := by
  obtain ⟨hlow, hhigh⟩ := toNat_of_isOctal h
  have hletter : escapeLetter? c = none := by
    unfold escapeLetter?
    split
    all_goals first
      | rfl
      | exact absurd h (by decide)
  have hshape : hasShape c = true := by
    unfold hasShape
    dsimp only
    rw [if_pos (by omega), decide_eq_true_eq]
    omega
  unfold escapeChar
  rw [hletter]
  exact if_pos hshape

/-- What is written for another character begins with none. -/
theorem escapeChar_of_not_isOctal {c : Char} (h : isOctal c = false) :
    ∃ d ds, escapeChar c = d :: ds ∧ isOctal d = false := by
  unfold escapeChar
  split
  · exact ⟨_, _, rfl, rfl⟩
  · split_ifs
    · exact ⟨c, [], rfl, h⟩
    · exact ⟨_, _, rfl, rfl⟩

/-- The digits at the beginning of a text are those at the beginning of what is written for it. -/
theorem takeWhile_escape (cs : List Char) (n : Nat) :
    ((escape cs).take n).takeWhile isOctal = (cs.take n).takeWhile isOctal ∧
      (escape cs).drop ((cs.take n).takeWhile isOctal).length =
        escape (cs.drop ((cs.take n).takeWhile isOctal).length) := by
  induction cs generalizing n with
  | nil => simp [escape]
  | cons c cs ih =>
    cases n with
    | zero => simp
    | succ n =>
      have hcons : escape (c :: cs) = escapeChar c ++ escape cs := rfl
      cases hc : isOctal c with
      | true =>
        obtain ⟨h1, h2⟩ := ih n
        rw [hcons, escapeChar_of_isOctal hc]
        simp [hc, h1, h2]
      | false =>
        obtain ⟨d, ds, hd, hno⟩ := escapeChar_of_not_isOctal hc
        have htake : ((escape (c :: cs)).take (n + 1)).takeWhile isOctal = [] := by
          rw [hcons, hd]
          simp [hno]
        rw [htake]
        simp [hc]

theorem octalValue_lt {ds : List Char} (hlen : ds.length ≤ 2)
    (hds : ∀ d ∈ ds, isOctal d = true) : octalValue ds < 64 := by
  have hdigit (d : Char) (hd : d ∈ ds) : d.toNat - '0'.toNat < 8 := by
    have := toNat_of_isOctal (hds d hd)
    change d.toNat - 48 < 8
    omega
  unfold octalValue
  match ds, hlen with
  | [], _ => decide
  | [d], _ =>
    have := hdigit d (by simp)
    simp only [List.foldl_cons, List.foldl_nil]
    omega
  | [d, e], _ =>
    have := hdigit d (by simp)
    have := hdigit e (by simp)
    simp only [List.foldl_cons, List.foldl_nil]
    omega

theorem octalValue_swallowed_lt (cs : List Char) : octalValue (swallowed cs) < 64 := by
  refine octalValue_lt ?_ fun d hd => List.all_eq_true.mp List.all_takeWhile d hd
  have := (List.takeWhile_prefix (l := cs.take 2) isOctal).length_le
  unfold swallowed
  simp at this ⊢
  omega

/-- The escape of a NUL is read together with the digits after it. -/
theorem readEscape_nul (cs : List Char) : readEscape ('0' :: escape cs) =
    some (Char.ofNat (octalValue (swallowed cs)),
      escape (cs.drop (swallowed cs).length)) := by
  obtain ⟨hdigits, hrest⟩ := takeWhile_escape cs 2
  have htake : (('0' :: escape cs).take 3).takeWhile isOctal = '0' :: swallowed cs := by
    rw [List.take_succ_cons, List.takeWhile_cons_of_pos (by decide), hdigits]
    rfl
  have hvalid : (octalValue (swallowed cs)).isValidChar :=
    Or.inl ((octalValue_swallowed_lt cs).trans (by decide))
  have hread : readEscape ('0' :: escape cs) = readOctal ('0' :: escape cs) := rfl
  rw [hread, readOctal, htake, if_neg (by simp)]
  change (charOfNat? (octalValue (swallowed cs))).map _ = _
  rw [charOfNat?, if_pos hvalid, Option.map_some, List.length_cons, List.drop_succ_cons]
  exact congrArg (fun x => some (_, x)) hrest

/-! ### Texts -/

/-- What is read in place of a text that was quoted. -/
def reread (cs : List Char) : List Char :=
  match cs with
  | [] => []
  | c :: cs =>
    if c = '\x00' then
      Char.ofNat (octalValue (swallowed cs)) :: reread (cs.drop (swallowed cs).length)
    else c :: reread cs
termination_by cs.length
decreasing_by
  · rw [List.length_drop, List.length_cons]
    omega
  · exact Nat.lt_succ_self _

/-- **What was quoted can be read.** -/
theorem unescape_escape (cs : List Char) : unescape (escape cs) = some (reread cs) := by
  fun_induction reread cs with
  | case1 => simp [escape, unescape]
  | case2 cs ih =>
    have hcons : escape ('\x00' :: cs) = '\\' :: '0' :: escape cs := rfl
    have hread := readEscape_nul cs
    rw [hcons, unescape, hread]
    dsimp only
    rw [ih, Option.map_some]
  | case3 c cs hc ih =>
    have hcons : escape (c :: cs) = escapeChar c ++ escape cs := rfl
    rw [hcons, unescape_escapeChar hc, ih, Option.map_some]

theorem length_reread_le (cs : List Char) : (reread cs).length ≤ cs.length := by
  fun_induction reread cs with
  | case1 => exact Nat.le_refl _
  | case2 cs ih =>
    rw [List.length_drop] at ih
    simp only [List.length_cons]
    omega
  | case3 c cs hc ih =>
    simp only [List.length_cons]
    omega

theorem swallowed_eq_nil {cs : List Char} :
    swallowed cs = [] ↔ ∀ d, isOctal d = true → ¬ [d] <+: cs := by
  unfold swallowed
  cases cs with
  | nil => simp
  | cons c cs =>
    cases hc : isOctal c with
    | true => simp [hc]
    | false =>
      have hne (d : Char) (hd : isOctal d = true) : d ≠ c := by
        rintro rfl
        rw [hc] at hd
        cases hd
      simpa [hc] using hne

/-- **A text comes back as it was** exactly if no NUL is followed by an octal digit. -/
theorem reread_eq_self {cs : List Char} :
    reread cs = cs ↔ ∀ d, isOctal d = true → ¬ ['\x00', d] <:+: cs := by
  fun_induction reread cs with
  | case1 => simp
  | case2 cs ih =>
    simp only [List.infix_cons_iff, List.prefix_cons_inj, not_or, forall_and]
    rw [← swallowed_eq_nil]
    cases h : swallowed cs with
    | nil =>
      rw [h, List.length_nil, List.drop_zero] at ih
      rw [List.length_nil, List.drop_zero, ← ih]
      simp [octalValue]
    | cons d ds =>
      -- The digits are gone, so that less comes back.
      have hread := length_reread_le (cs.drop (d :: ds).length)
      have hle := (List.takeWhile_prefix (l := cs.take 2) isOctal).length_le
      change (swallowed cs).length ≤ _ at hle
      rw [h, List.length_take, List.length_cons] at hle
      rw [List.length_drop, List.length_cons] at hread
      refine iff_of_false (fun he => ?_) (by simp)
      have hlen := congrArg List.length (List.tail_eq_of_cons_eq he)
      rw [List.length_cons] at hlen
      omega
  | case3 c cs hc ih =>
    simp [List.infix_cons_iff, ih, Ne.symm hc]

end Golden.Text
