import Golden.Paint
import Golden.Text.Utf8
import Mathlib.Data.List.Basic

/-! # Colors that are taken away

A sequence that sets or resets a color begins with the escape character and ends with the next
letter m. Without these sequences a painted text is the text, unless it has an escape character of
its own.

* `Paint.uncolored`: octets without their sequences for colors.
* `Paint.Tints`: octets that differ in colors only, whatever follows.
* `Paint.Tints.paint`: a painted text differs from the text in colors only. -/

namespace Golden

theorem utf8_append (s t : String) : utf8 (s ++ t) = utf8 s ++ utf8 t := by
  simp [utf8, Utf8.encode]

/-- Where no color is reset, none is set again. -/
theorem reopen_eq_self (opening : List Char) : ∀ {text : List Char}, '\x1B' ∉ text →
    reopen opening text = text
  | [], _ => rfl
  | c :: text, h => by
    obtain ⟨hc, htext⟩ := not_or.mp (mt List.mem_cons.mpr h)
    rw [reopen.eq_2, reopen_eq_self opening htext]
    exact fun _ hfirst _ => hc hfirst.symm

/-- A character that no sequence for colors has is in the text. -/
theorem not_mem_reopen {opening : List Char} {c : Char} (hopening : c ∉ opening)
    (hreset : c ∉ resetColor) (text : List Char) (h : c ∉ text) : c ∉ reopen opening text := by
  induction text using reopen.induct with
  | case1 rest ih =>
    have hrest := ih fun hc => h (by simp [hc])
    rw [reopen.eq_1, List.mem_append, List.mem_append]
    simp [hopening, hreset, hrest]
  | case2 d rest hd ih =>
    obtain ⟨hc, hrest⟩ := not_or.mp (mt List.mem_cons.mpr h)
    rw [reopen.eq_2 _ _ _ hd, List.mem_cons, not_or]
    exact ⟨hc, ih hrest⟩
  | case3 => simp [reopen]

/-- A painted line is one line. -/
theorem Painter.newline_not_mem_paint (p : Painter) (s : Style) {text : String}
    (h : '\n' ∉ text.toList) : '\n' ∉ (p.paint s text).toList := by
  have hopening : '\n' ∉ s.opening := by cases s <;> decide
  have hreset : '\n' ∉ resetColor := by decide
  unfold Painter.paint
  split_ifs
  · simp [hopening, hreset, not_mem_reopen hopening hreset text.toList h]
  · exact h

namespace Paint

/-- The octet that a sequence for colors begins with. -/
def escape : UInt8 := 0x1B

/-- The octet that it ends with. -/
def final : UInt8 := 0x6D

/-- Octets without their sequences for colors. The first argument tells whether one has begun. -/
def uncoloredFrom : Bool → Bytes → Bytes
  | _, [] => []
  | true, b :: bs => uncoloredFrom (b ≠ final) bs
  | false, b :: bs => if b = escape then uncoloredFrom true bs else b :: uncoloredFrom false bs

/-- Octets without their sequences for colors. -/
def uncolored (bs : Bytes) : Bytes := uncoloredFrom false bs

theorem uncolored_append : ∀ {bs : Bytes} (rest : Bytes), escape ∉ bs →
    uncolored (bs ++ rest) = bs ++ uncolored rest
  | [], _, _ => rfl
  | b :: bs, rest, h => by
    obtain ⟨hb, hbs⟩ := not_or.mp (mt List.mem_cons.mpr h)
    have hrest := uncolored_append rest hbs
    unfold uncolored at hrest ⊢
    rw [List.cons_append, uncoloredFrom, if_neg (Ne.symm hb), hrest]
    rfl

theorem uncolored_opening (s : Style) (rest : Bytes) :
    uncolored (utf8 (String.ofList s.opening) ++ rest) = uncolored rest := by
  cases s <;> rfl

theorem uncolored_reset (rest : Bytes) :
    uncolored (utf8 (String.ofList resetColor) ++ rest) = uncolored rest := rfl

/-- **Octets that differ in colors only**, whatever follows. -/
def Tints (plain colored : Bytes) : Prop :=
  escape ∉ plain → ∀ rest, uncolored (colored ++ rest) = plain ++ uncolored rest

namespace Tints

theorem nil : Tints [] [] := fun _ _ => rfl

variable {plain colored : Bytes}

theorem append (h : Tints plain colored) {plain' colored' : Bytes} (h' : Tints plain' colored') :
    Tints (plain ++ plain') (colored ++ colored') := by
  intro hescape rest
  obtain ⟨hplain, hplain'⟩ := not_or.mp (mt List.mem_append.mpr hescape)
  rw [List.append_assoc, h hplain, h' hplain', List.append_assoc]

theorem refl (bs : Bytes) : Tints bs bs := fun h rest => uncolored_append rest h

/-- **A painted text differs from the text in colors only.** -/
theorem paint (s : Style) (text : String) :
    Tints (utf8 (Painter.paint ⟨false⟩ s text)) (utf8 (Painter.paint ⟨true⟩ s text)) := by
  change Tints (utf8 text) _
  intro hescape rest
  have htext : '\x1B' ∉ text.toList := by
    intro h
    exact hescape (List.mem_flatMap.mpr ⟨'\x1B', h, by decide⟩)
  have hpaint : utf8 (Painter.paint ⟨true⟩ s text) = utf8 (String.ofList s.opening) ++
      (utf8 text ++ utf8 (String.ofList resetColor)) := by
    simp only [Painter.paint, if_true, reopen_eq_self s.opening htext, String.ofList_append,
      String.ofList_toList, utf8_append, List.append_assoc]
  rw [hpaint, List.append_assoc, uncolored_opening, List.append_assoc,
    uncolored_append _ hescape, uncolored_reset]

/-- **What is left without the colors.** -/
theorem uncolored_eq (h : Tints plain colored) (hescape : escape ∉ plain) :
    uncolored colored = plain := by
  have hrest := h hescape []
  rwa [List.append_nil, show uncolored [] = [] from rfl, List.append_nil] at hrest

end Tints

end Paint

end Golden
