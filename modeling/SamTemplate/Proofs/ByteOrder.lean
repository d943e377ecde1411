import Mathlib.Tactic.SplitIfs
import SamTemplate.Bindings

/-!
# Texts in the order of their bytes

Texts are ordered character by character. This is also the order of their bytes: of two
characters the one with the lesser code has the lesser bytes, and none of them begins
with all the bytes of another one.

* `utf8EncodeChar_append_lt`: lesser characters have lesser bytes, whatever follows;
* `utf8Bytes_lt_utf8Bytes_iff`: texts are ordered as their bytes are.
-/

namespace SamTemplate

/-- The bytes of a text. -/
def utf8Bytes (text : String) : List UInt8 := text.toUTF8.data.toList

/-- Lesser characters have lesser bytes, whatever follows them. -/
theorem utf8EncodeChar_append_lt {c d : Char} (h : c < d) (rest rest' : List UInt8) :
    String.utf8EncodeChar c ++ rest < String.utf8EncodeChar d ++ rest' := by
  have hnat : c.val.toNat < d.val.toNat := h
  have hd : d.val.toNat < 0x110000 := by
    rcases d.valid with hd | hd <;> omega
  -- Of encodings of different lengths the first bytes differ, of others the first digits that do.
  simp only [String.utf8EncodeChar]
  split_ifs <;>
    simp (disch := omega) only [List.cons_append, List.nil_append, List.cons_lt_cons_iff,
      UInt8.lt_iff_toNat_lt, ← UInt8.toNat_inj, UInt8.toNat_ofNat', Nat.mod_eq_of_lt] <;>
    omega

theorem utf8Bytes_eq_flatMap (text : String) :
    utf8Bytes text = text.toList.flatMap String.utf8EncodeChar := by
  have hbytes : text.toUTF8 = (text.toList.flatMap String.utf8EncodeChar).toByteArray := by
    have hlist := @String.toByteArray_ofList text.toList
    rwa [String.ofList_toList] at hlist
  rw [utf8Bytes, hbytes, List.data_toByteArray]

/-- Lists that are ordered character by character are so byte by byte. -/
theorem flatMap_utf8EncodeChar_lt {a b : List Char} (h : a < b) :
    a.flatMap String.utf8EncodeChar < b.flatMap String.utf8EncodeChar := by
  induction a generalizing b with
  | nil =>
    rcases b with _ | ⟨d, b⟩
    · exact absurd h (List.lt_irrefl [])
    · rcases hd : String.utf8EncodeChar d with _ | ⟨byte, bytes⟩
      · exact absurd hd String.utf8EncodeChar_ne_nil
      · rw [List.flatMap_cons, hd]
        exact List.nil_lt_cons _ _
  | cons c a ih =>
    rcases b with _ | ⟨d, b⟩
    · exact absurd h (List.not_lt_nil _)
    · rw [List.flatMap_cons, List.flatMap_cons]
      rcases List.cons_lt_cons_iff.1 h with hlt | ⟨rfl, hlt⟩
      · exact utf8EncodeChar_append_lt hlt _ _
      · exact List.append_left_lt (ih hlt)

theorem utf8Bytes_lt_utf8Bytes_iff {a b : String} : utf8Bytes a < utf8Bytes b ↔ a < b := by
  have hlt {a b : String} (h : a < b) : utf8Bytes a < utf8Bytes b := by
    rw [utf8Bytes_eq_flatMap, utf8Bytes_eq_flatMap]
    exact flatMap_utf8EncodeChar_lt h
  refine ⟨fun h => ?_, hlt⟩
  rcases Entries.lt_or_eq_or_gt a b with hab | rfl | hba
  · exact hab
  · exact absurd h (List.lt_irrefl _)
  · exact absurd h (List.lt_asymm (hlt hba))

end SamTemplate
