import Mathlib.Tactic.SplitIfs
import SamTemplate.Number.Layout

/-!
# Texts of numbers

No number has an empty text, and the text of a whole number, made of digits and at most
a sign before them, tells which number it is.

* `natText_injective`, `intText_injective`: whole numbers with one text are equal;
* `FloatLayout.text_ne_empty`: any layout with names for what is not finite writes
  something.
-/

namespace SamTemplate

/-! ### Whole numbers -/

theorem toList_natText (n : Nat) : (natText n).toList = Nat.toDigits 10 n := String.toList_ofList

/-- The digits read back. -/
theorem natText_injective {m n : Nat} (h : natText m = natText n) : m = n := by
  have hdigits : Nat.toDigits 10 m = Nat.toDigits 10 n := by
    rw [← toList_natText, ← toList_natText, h]
  rw [← Nat.ofDigitChars_ten_toDigits (n := m), hdigits, Nat.ofDigitChars_ten_toDigits]

/-- The text of a number without a sign is made of digits. -/
theorem isDigit_of_mem_natText {n : Nat} {c : Char} (h : c ∈ (natText n).toList) : c.isDigit :=
  Nat.isDigit_of_mem_toDigits (by decide) (by decide) (toList_natText n ▸ h)

theorem toList_natText_ne_nil (n : Nat) : (natText n).toList ≠ [] := by
  rw [toList_natText]
  exact Nat.toDigits_ne_nil

/-- Even zero has a digit. -/
theorem natText_ne_empty (n : Nat) : natText n ≠ "" := fun h =>
  toList_natText_ne_nil n (h ▸ rfl)

/-- The text of a number is its digits, after a sign if it is negative. -/
theorem toList_intText (i : Int) :
    (0 ≤ i ∧ (intText i).toList = (natText i.natAbs).toList) ∨
    (i < 0 ∧ (intText i).toList = '-' :: (natText i.natAbs).toList) := by
  rw [intText]
  by_cases h : i < 0
  · rw [if_pos h]
    exact .inr ⟨h, String.toList_append⟩
  · rw [if_neg h]
    exact .inl ⟨Int.not_lt.1 h, rfl⟩

theorem intText_ne_empty (i : Int) : intText i ≠ "" := by
  intro h
  have hnil : (intText i).toList = [] := h ▸ rfl
  rcases toList_intText i with ⟨-, hi⟩ | ⟨-, hi⟩
  · exact toList_natText_ne_nil _ (hi.symm.trans hnil)
  · exact nomatch hi.symm.trans hnil

/-! ### Floating point numbers -/

namespace FloatLayout

theorem decimalText_ne_empty (layout : FloatLayout) (d : Decimal) : layout.decimalText d ≠ "" := by
  have hdigits : String.ofList (Nat.toDigits 10 d.digits) ≠ "" := natText_ne_empty d.digits
  -- Each layout has the digits in it, a point or the letter of an exponent.
  unfold decimalText
  dsimp only
  split_ifs <;> simp [String.append_eq_empty_iff, hdigits]

theorem text_ne_empty {layout : FloatLayout} (hinfinity : layout.infinity ≠ "")
    (hnan : layout.nan ≠ "") (x : Binary64) : layout.text x ≠ "" := by
  unfold text
  split
  · exact hnan
  · simp [String.append_eq_empty_iff, hinfinity]
  · split_ifs <;> simp [String.append_eq_empty_iff, decimalText_ne_empty]

end FloatLayout

end SamTemplate
