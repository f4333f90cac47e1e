import Golden.Text.Utf8
import Mathlib.Data.String.Basic
import Mathlib.Tactic.Common

/-! # Reading what was encoded

Every text can be read back from its octets, by the lossy reader and by the strict one. A character
is encoded in one to four octets, by the ranges of code points that the reader tells apart by the
first of them. Conversely, octets that make up a character are those that the character is encoded
in. Texts are in the order of their octets.

* `Utf8.readChar_encodeChar`: one character is read.
* `Utf8.scan_encode`: all characters are read; `Utf8.decodeLossy_encode` and
  `Utf8.decode?_encode` say so of the readers.
* `Utf8.encode_decodeLossy`: octets that are read without a replacement are written again.
* `Utf8.decodeLossy_append`: what follows a line feed is read by itself.
* `Utf8.encode_lt_encode`: a text comes before another exactly if its octets do. -/

namespace Golden.Utf8

/-! ### Octets -/

theorem toNat_ofNat {n : Nat} (h : n < 256) : (UInt8.ofNat n).toNat = n := by
  rw [UInt8.toNat_ofNat', Nat.mod_eq_of_lt (by simpa using h)]

/-- An octet behind the first one adds six bits. -/
theorem takeTail_octet {d : Nat} (hd : d < 64) (lo hi : UInt8) (hlo : lo.toNat ≤ d + 128)
    (hhi : d + 128 ≤ hi.toNat) (n bits : Nat) (rest : Bytes) :
    takeTail (n + 1) lo hi bits (UInt8.ofNat (d + 128) :: rest) =
      takeTail n 0x80 0xBF (bits * 64 + d) rest := by
  have hvalue : (UInt8.ofNat (d + 128)).toNat = d + 128 := toNat_ofNat (by omega)
  have hbits : (d + 128) % 64 = d := by omega
  rw [takeTail, if_pos, hvalue, hbits]
  rw [Bool.and_eq_true, decide_eq_true_eq, decide_eq_true_eq, UInt8.le_iff_toNat_le,
    UInt8.le_iff_toNat_le, hvalue]
  exact ⟨hlo, hhi⟩

/-- An octet behind the first one, where nothing is ruled out. -/
theorem takeTail_next {d : Nat} (hd : d < 64) (n bits : Nat) (rest : Bytes) :
    takeTail (n + 1) 0x80 0xBF bits (UInt8.ofNat (d + 128) :: rest) =
      takeTail n 0x80 0xBF (bits * 64 + d) rest :=
  takeTail_octet hd 0x80 0xBF (Nat.le_add_left 128 d)
    (Nat.add_le_add_right (Nat.le_of_lt_succ hd) 128) n bits rest

/-! ### Characters -/

/-- **One character is read.** -/
theorem readChar_encodeChar (c : Char) : ∃ b tail, String.utf8EncodeChar c = b :: tail ∧
    ∀ rest, readChar b (tail ++ rest) = (some c.toNat, rest) := by
  have hvalid : c.toNat < 0xD800 ∨ 0xDFFF < c.toNat ∧ c.toNat < 0x110000 := c.valid
  have hval : c.val.toNat = c.toNat := rfl
  unfold String.utf8EncodeChar
  rw [hval]
  generalize c.toNat = v at hvalid
  dsimp only
  split_ifs with h1 h2 h3
  · refine ⟨_, [], rfl, fun rest => ?_⟩
    simp only [readChar, toNat_ofNat (n := v) (by omega)]
    rw [if_pos (by omega)]
    rfl
  · refine ⟨_, [_], rfl, fun rest => ?_⟩
    simp only [readChar, toNat_ofNat (n := v / 64 % 32 + 192) (by omega)]
    rw [if_neg (by omega), if_neg (by omega), if_pos (by omega), List.singleton_append,
      takeTail_next (by omega), takeTail]
    congr 2
    omega
  · refine ⟨_, [_, _], rfl, fun rest => ?_⟩
    simp only [readChar, toNat_ofNat (n := v / 4096 % 16 + 224) (by omega)]
    rw [if_neg (by omega), if_neg (by omega), if_neg (by omega), if_pos (by omega),
      List.cons_append, List.singleton_append, takeTail_octet (by omega) _ _ ?lo ?hi,
      takeTail_next (by omega), takeTail]
    case lo =>
      split_ifs <;> simp
      omega
    case hi =>
      split_ifs <;> simp <;> omega
    congr 2
    omega
  · refine ⟨_, [_, _, _], rfl, fun rest => ?_⟩
    simp only [readChar, toNat_ofNat (n := v / 262144 % 8 + 240) (by omega)]
    rw [if_neg (by omega), if_neg (by omega), if_neg (by omega), if_neg (by omega),
      if_pos (by omega), List.cons_append, List.cons_append, List.singleton_append,
      takeTail_octet (by omega) _ _ ?lo ?hi, takeTail_next (by omega), takeTail_next (by omega),
      takeTail]
    case lo =>
      split_ifs <;> simp
      omega
    case hi =>
      split_ifs <;> simp <;> omega
    congr 2
    omega

/-! ### Texts -/

theorem scan_cons (b : UInt8) (rest : Bytes) :
    scan (b :: rest) = (readChar b rest).1.map Char.ofNat :: scan (readChar b rest).2 := by
  rw [scan]

theorem scan_flatMap (cs : List Char) : scan (cs.flatMap String.utf8EncodeChar) = cs.map some := by
  induction cs with
  | nil => rw [List.flatMap_nil, scan, List.map_nil]
  | cons c cs ih =>
    obtain ⟨b, tail, hencode, hread⟩ := readChar_encodeChar c
    rw [List.flatMap_cons, hencode, List.cons_append, scan_cons, hread, ih, Option.map_some,
      Char.ofNat_toNat, List.map_cons]

/-- **All characters of a text are read.** -/
theorem scan_encode (s : String) : scan (encode s) = s.toList.map some := scan_flatMap s.toList

theorem decodeLossy_encode (s : String) : decodeLossy (encode s) = s := by
  rw [decodeLossy, scan_encode, List.map_map]
  have hid : ((·.getD replacement) ∘ some : Char → Char) = id := rfl
  rw [hid, List.map_id, String.ofList_toList]

theorem decode?_encode (s : String) : decode? (encode s) = some s := by
  have hall : ∀ cs : List Char, (cs.map some).mapM id = some cs := by
    intro cs
    induction cs with
    | nil => rfl
    | cons c cs ih => simp [ih]
  rw [decode?, scan_encode, hall, Option.map_some, String.ofList_toList]

/-! ### Writing what was read -/

/-- What is read behind the first octet begins with an octet in the given range. -/
theorem takeTail_eq_some {n : Nat} {lo hi : UInt8} {bits v : Nat} {bs rest : Bytes}
    (h : takeTail (n + 1) lo hi bits bs = (some v, rest)) : ∃ b tail, bs = b :: tail ∧
      (lo.toNat ≤ b.toNat ∧ b.toNat ≤ hi.toNat) ∧
      takeTail n 0x80 0xBF (bits * 64 + b.toNat % 64) tail = (some v, rest) := by
  cases bs with
  | nil => simp [takeTail] at h
  | cons b tail =>
    rw [takeTail] at h
    split_ifs at h with hb
    · rw [Bool.and_eq_true, decide_eq_true_eq, decide_eq_true_eq, UInt8.le_iff_toNat_le,
        UInt8.le_iff_toNat_le] at hb
      exact ⟨b, tail, rfl, hb, h⟩
    · simp at h

theorem takeTail_zero_eq_some {lo hi : UInt8} {bits v : Nat} {bs rest : Bytes}
    (h : takeTail 0 lo hi bits bs = (some v, rest)) : v = bits ∧ rest = bs := by
  simpa [takeTail, eq_comm] using h

/-- The range of an octet that is narrower behind some of the first octets. -/
theorem bounds_of_ite {p q : Prop} [Decidable p] [Decidable q] {lo hi : UInt8} {n : Nat}
    (hlo : 0x80 ≤ lo.toNat) (hhi : hi.toNat ≤ 0xBF)
    (h : (if p then lo else 0x80).toNat ≤ n ∧ n ≤ (if q then hi else 0xBF).toNat) :
    (0x80 ≤ n ∧ n ≤ 0xBF) ∧ (p → lo.toNat ≤ n) ∧ (q → n ≤ hi.toNat) := by
  have h80 : (0x80 : UInt8).toNat = 0x80 := rfl
  have hBF : (0xBF : UInt8).toNat = 0xBF := rfl
  refine ⟨?_, fun hp => ?_, fun hq => ?_⟩
  · split_ifs at h <;> omega
  · rw [if_pos hp] at h
    exact h.1
  · rw [if_pos hq] at h
    exact h.2

theorem ofNat_eq {b : UInt8} {n : Nat} (h : n = b.toNat) : UInt8.ofNat n = b := by
  rw [h, UInt8.ofNat_toNat]

/-- The code point of a character that is made from it. -/
theorem val_ofNat {v : Nat} (h : v < 0xD800 ∨ 0xDFFF < v ∧ v < 0x110000) :
    (Char.ofNat v).val.toNat = v := by
  unfold Char.ofNat
  rw [dif_pos h]
  rfl

section Octets
variable {b c d e : UInt8}

theorem encodeChar_one (hb : b.toNat < 0x80) :
    String.utf8EncodeChar (Char.ofNat b.toNat) = [b] := by
  unfold String.utf8EncodeChar
  rw [val_ofNat (by omega), if_pos (by omega), ofNat_eq rfl]

theorem encodeChar_two (hb : 0xC2 ≤ b.toNat ∧ b.toNat < 0xE0)
    (hc : 0x80 ≤ c.toNat ∧ c.toNat ≤ 0xBF) :
    String.utf8EncodeChar (Char.ofNat (b.toNat % 32 * 64 + c.toNat % 64)) = [b, c] := by
  unfold String.utf8EncodeChar
  rw [val_ofNat (by omega), if_neg (by omega), if_pos (by omega), ofNat_eq (b := b) (by omega),
    ofNat_eq (b := c) (by omega)]

/-- The second octet rules out what two octets could hold, and surrogates. -/
theorem encodeChar_three (hb : 0xE0 ≤ b.toNat ∧ b.toNat < 0xF0)
    (hc : 0x80 ≤ c.toNat ∧ c.toNat ≤ 0xBF) (hd : 0x80 ≤ d.toNat ∧ d.toNat ≤ 0xBF)
    (hlow : b.toNat = 0xE0 → 0xA0 ≤ c.toNat) (hsurrogate : b.toNat = 0xED → c.toNat ≤ 0x9F) :
    String.utf8EncodeChar
      (Char.ofNat ((b.toNat % 16 * 64 + c.toNat % 64) * 64 + d.toNat % 64)) = [b, c, d] := by
  unfold String.utf8EncodeChar
  rw [val_ofNat (by omega), if_neg (by omega), if_neg (by omega), if_pos (by omega),
    ofNat_eq (b := b) (by omega), ofNat_eq (b := c) (by omega), ofNat_eq (b := d) (by omega)]

/-- The second octet rules out what three octets could hold, and what is no code point. -/
theorem encodeChar_four (hb : 0xF0 ≤ b.toNat ∧ b.toNat < 0xF5)
    (hc : 0x80 ≤ c.toNat ∧ c.toNat ≤ 0xBF) (hd : 0x80 ≤ d.toNat ∧ d.toNat ≤ 0xBF)
    (he : 0x80 ≤ e.toNat ∧ e.toNat ≤ 0xBF) (hlow : b.toNat = 0xF0 → 0x90 ≤ c.toNat)
    (hhigh : b.toNat = 0xF4 → c.toNat ≤ 0x8F) :
    String.utf8EncodeChar (Char.ofNat
      (((b.toNat % 8 * 64 + c.toNat % 64) * 64 + d.toNat % 64) * 64 + e.toNat % 64)) =
        [b, c, d, e] := by
  unfold String.utf8EncodeChar
  rw [val_ofNat (by omega), if_neg (by omega), if_neg (by omega), if_neg (by omega),
    ofNat_eq (b := b) (by omega), ofNat_eq (b := c) (by omega), ofNat_eq (b := d) (by omega),
    ofNat_eq (b := e) (by omega)]

end Octets

/-- **A character that is read is written as the octets that it was read from.** -/
theorem encodeChar_of_readChar {b : UInt8} {tail rest : Bytes} {v : Nat}
    (h : readChar b tail = (some v, rest)) :
    String.utf8EncodeChar (Char.ofNat v) ++ rest = b :: tail := by
  rw [readChar] at h
  by_cases h1 : b.toNat < 0x80
  · rw [if_pos h1] at h
    cases h
    rw [encodeChar_one h1, List.singleton_append]
  rw [if_neg h1] at h
  by_cases h2 : b.toNat < 0xC2
  · rw [if_pos h2] at h
    cases h
  rw [if_neg h2] at h
  by_cases h3 : b.toNat < 0xE0
  · rw [if_pos h3] at h
    obtain ⟨c, tail, rfl, hc, h⟩ := takeTail_eq_some h
    obtain ⟨rfl, rfl⟩ := takeTail_zero_eq_some h
    rw [encodeChar_two ⟨not_lt.mp h2, h3⟩ hc]
    rfl
  rw [if_neg h3] at h
  by_cases h4 : b.toNat < 0xF0
  · rw [if_pos h4] at h
    obtain ⟨c, tail, rfl, hc, h⟩ := takeTail_eq_some h
    obtain ⟨d, tail, rfl, hd, h⟩ := takeTail_eq_some h
    obtain ⟨rfl, rfl⟩ := takeTail_zero_eq_some h
    obtain ⟨hc, hlow, hsurrogate⟩ := bounds_of_ite (by decide) (by decide) hc
    rw [encodeChar_three ⟨not_lt.mp h3, h4⟩ hc hd hlow hsurrogate]
    rfl
  rw [if_neg h4] at h
  by_cases h5 : b.toNat < 0xF5
  · rw [if_pos h5] at h
    obtain ⟨c, tail, rfl, hc, h⟩ := takeTail_eq_some h
    obtain ⟨d, tail, rfl, hd, h⟩ := takeTail_eq_some h
    obtain ⟨e, tail, rfl, he, h⟩ := takeTail_eq_some h
    obtain ⟨rfl, rfl⟩ := takeTail_zero_eq_some h
    obtain ⟨hc, hlow, hhigh⟩ := bounds_of_ite (by decide) (by decide) hc
    rw [encodeChar_four ⟨not_lt.mp h4, h5⟩ hc hd he hlow hhigh]
    rfl
  · rw [if_neg h5] at h
    cases h

/-- **Octets that are read without a replacement are written again.** -/
theorem encode_decodeLossy {bs : Bytes} (h : replacement ∉ (decodeLossy bs).toList) :
    encode (decodeLossy bs) = bs := by
  rw [decodeLossy, String.toList_ofList] at h
  rw [encode, decodeLossy, String.toList_ofList]
  induction bs using scan.induct with
  | case1 => rw [scan, List.map_nil, List.flatMap_nil]
  | case2 b tail ih =>
    rw [scan_cons, List.map_cons, List.mem_cons, not_or] at h
    rw [scan_cons, List.map_cons, List.flatMap_cons, ih h.2]
    cases hv : (readChar b tail).1 with
    | none => exact absurd (by rw [hv]; rfl) h.1
    | some v => exact encodeChar_of_readChar (Prod.ext hv rfl)

/-! ### Line feeds -/

/-- No character is read across a line feed. -/
theorem takeTail_append {lo : UInt8} (hlo : 0x80 ≤ lo.toNat) (n : Nat) (hi : UInt8) (bits : Nat)
    (bs cs : Bytes) : takeTail n lo hi bits (bs ++ 0x0A :: cs) =
      ((takeTail n lo hi bits bs).1, (takeTail n lo hi bits bs).2 ++ 0x0A :: cs) := by
  induction n generalizing lo hi bits bs with
  | zero => rfl
  | succ n ih =>
    cases bs with
    | nil =>
      have hout : ¬ (decide (lo ≤ 0x0A) && decide (0x0A ≤ hi)) = true := by
        rw [Bool.and_eq_true, decide_eq_true_eq, UInt8.le_iff_toNat_le]
        exact fun h => absurd (hlo.trans h.1) (by decide)
      rw [List.nil_append, takeTail, takeTail, if_neg hout, List.nil_append]
    | cons b bs =>
      rw [List.cons_append, takeTail, takeTail]
      split_ifs
      · exact ih (by decide) _ _ _
      · rfl

theorem readChar_append (b : UInt8) (bs cs : Bytes) : readChar b (bs ++ 0x0A :: cs) =
    ((readChar b bs).1, (readChar b bs).2 ++ 0x0A :: cs) := by
  simp only [readChar]
  split_ifs <;> first
    | rfl
    | exact takeTail_append (by decide) _ _ _ _ _

/-- **Octets are read line by line.** -/
theorem scan_append (bs cs : Bytes) :
    scan (bs ++ 0x0A :: cs) = scan bs ++ some '\n' :: scan cs := by
  induction bs using scan.induct with
  | case1 =>
    rw [List.nil_append, scan_cons, scan, List.nil_append]
    rfl
  | case2 b bs ih =>
    rw [List.cons_append, scan_cons, readChar_append, ih, scan_cons, List.cons_append]

/-- What follows a line feed is read by itself. -/
theorem decodeLossy_append {bs : Bytes} (h : bs = [] ∨ bs.getLast? = some 0x0A) (cs : Bytes) :
    decodeLossy (bs ++ cs) = decodeLossy bs ++ decodeLossy cs := by
  have hscan : scan (bs ++ cs) = scan bs ++ scan cs := by
    rcases h with rfl | h
    · rw [scan, List.nil_append, List.nil_append]
    · obtain ⟨front, rfl⟩ := List.getLast?_eq_some_iff.mp h
      rw [List.append_assoc, List.singleton_append, scan_append, scan_append, scan,
        List.append_assoc, List.singleton_append]
  rw [decodeLossy, hscan, List.map_append, String.ofList_append]
  rfl

/-! ### Order -/

/-- Octets are compared one by one, up to the first that differ. -/
theorem ofNat_cons_lt {a b : Nat} (ha : a < 256) (hb : b < 256) {xs ys : Bytes} (hle : a ≤ b)
    (h : a = b → xs < ys) : UInt8.ofNat a :: xs < UInt8.ofNat b :: ys := by
  rw [List.cons_lt_cons_iff]
  rcases Nat.lt_or_eq_of_le hle with hlt | heq
  · left
    rw [UInt8.lt_iff_toNat_lt, toNat_ofNat ha, toNat_ofNat hb]
    exact hlt
  · exact Or.inr ⟨heq ▸ rfl, h heq⟩

/-- **A smaller character has smaller octets**, whatever follows. -/
theorem encodeChar_lt {c d : Char} (h : c < d) (xs ys : Bytes) :
    String.utf8EncodeChar c ++ xs < String.utf8EncodeChar d ++ ys := by
  have hlt : c.val.toNat < d.val.toNat := h
  have hvalid : d.val.toNat < 0xD800 ∨ 0xDFFF < d.val.toNat ∧ d.val.toNat < 0x110000 := d.valid
  unfold String.utf8EncodeChar
  dsimp only
  split_ifs
  all_goals try omega
  -- With more octets the first one is greater; with as many, the first that differ decide.
  all_goals simp only [List.cons_append, List.nil_append]
  all_goals
    repeat refine ofNat_cons_lt (by omega) (by omega) (by omega) fun _ => ?_
    omega

theorem flatMap_encodeChar_lt {cs ds : List Char} (h : cs < ds) :
    cs.flatMap String.utf8EncodeChar < ds.flatMap String.utf8EncodeChar := by
  induction h with
  | @nil d ds =>
    obtain ⟨b, tail, hchar, -⟩ := readChar_encodeChar d
    rw [List.flatMap_cons, hchar]
    exact List.nil_lt_cons _ _
  | rel h => exact encodeChar_lt h _ _
  | cons _ ih => exact List.append_left_lt ih

/-- **A text comes before another** exactly if its octets do. -/
theorem encode_lt_encode {s t : String} : encode s < encode t ↔ s < t := by
  have hmono {s t : String} (h : s < t) : encode s < encode t :=
    flatMap_encodeChar_lt (String.lt_iff_toList_lt.mp h)
  refine ⟨fun h => ?_, hmono⟩
  rcases lt_trichotomy s t with hlt | rfl | hgt
  · exact hlt
  · exact absurd h (List.lt_irrefl _)
  · exact absurd h (List.lt_asymm (hmono hgt))

end Golden.Utf8
