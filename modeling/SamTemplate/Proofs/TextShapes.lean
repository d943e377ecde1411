import SamTemplate.Node
import SamTemplate.Proofs.Collected
import SamTemplate.Text.Case

/-!
# Shapes of texts

What the texts of an output look like by the way they are made: a trimmed text has no
blank at its ends, a path that is not empty gets a slash at its end, and lower case
leaves nothing out.
-/

namespace SamTemplate

/-! ### Blanks -/

/-- A text without blanks at its ends. -/
structure IsTrimmed (text : String) : Prop where
  first : ∀ c, text.toList.head? = some c → isBlank c = false
  last : ∀ c, text.toList.getLast? = some c → isBlank c = false

theorem isBlank_of_head?_dropWhile (text : List Char) {c : Char}
    (h : (text.dropWhile isBlank).head? = some c) : isBlank c = false := by
  have hnot := List.head?_dropWhile_not isBlank text
  rw [h] at hnot
  simpa using hnot

/-- What is trimmed at one end and then at the other is trimmed at both. -/
theorem isTrimmed_trim (text : String) : IsTrimmed (trim text) := by
  constructor
  · intro c hc
    rw [trim, String.toList_ofList, trimChars, trimEndChars] at hc
    -- What is left at the start was not dropped there.
    refine isBlank_of_head?_dropWhile text.toList ?_
    obtain ⟨rest, hrest⟩ :=
      List.dropWhile_suffix (l := (text.toList.dropWhile isBlank).reverse) isBlank
    have hprefix := congrArg List.reverse hrest
    rw [List.reverse_append, List.reverse_reverse] at hprefix
    rw [← hprefix, List.head?_append, hc]
    rfl
  · intro c hc
    rw [trim, String.toList_ofList, trimChars, trimEndChars, List.getLast?_reverse] at hc
    exact isBlank_of_head?_dropWhile _ hc

/-! ### Separators -/

/-- What comes before the first occurrence of a character. -/
theorem takeWhile_append_cons {c : Char} {text : List Char} (h : c ∉ text) (rest : List Char) :
    (text ++ c :: rest).takeWhile (· ≠ c) = text := by
  have hne (d : Char) (hd : d ∈ text) : decide (d ≠ c) = true :=
    decide_eq_true fun heq => h (heq ▸ hd)
  rw [List.takeWhile_append_of_pos hne, List.takeWhile_cons_of_neg (by simp), List.append_nil]

/-- What comes from the first occurrence of a character on. -/
theorem dropWhile_append_cons {c : Char} {text : List Char} (h : c ∉ text) (rest : List Char) :
    (text ++ c :: rest).dropWhile (· ≠ c) = c :: rest := by
  have hne (d : Char) (hd : d ∈ text) : decide (d ≠ c) = true :=
    decide_eq_true fun heq => h (heq ▸ hd)
  rw [List.dropWhile_append_of_pos hne, List.dropWhile_cons_of_neg (by simp)]

/-! ### Paths -/

/-- A path that ends with a slash. -/
structure IsFolder (path : String) : Prop where
  ne_empty : path ≠ ""
  slash : path.toList.getLast? = some '/'

theorem isFolder_withTrailingSlash {path : String} (h : path ≠ "") :
    IsFolder (withTrailingSlash path) := by
  rw [withTrailingSlash]
  split
  · rename_i hor
    exact ⟨h, hor.resolve_left h⟩
  · refine ⟨fun heq => h (String.append_eq_empty_iff.1 heq).1, ?_⟩
    rw [String.toList_append, List.getLast?_append]
    rfl

/-- A text that falls back to one that is not empty is not empty. -/
theorem textUnder_ne_empty {properties : Entries Node} {key fallback : String}
    (h : fallback ≠ "") : textUnder properties key fallback ≠ "" := by
  rw [textUnder]
  rcases Node.given? properties key with _ | node
  · exact h
  · change node.textOr fallback ≠ ""
    rw [Node.textOr]
    split
    · exact h
    · assumption

/-! ### Letter case -/

theorem mem_of_lookup {α : Type} {table : List (Nat × α)} {n : Nat} {value : α}
    (h : table.lookup n = some value) : (n, value) ∈ table := by
  induction table with
  | nil => exact nomatch h
  | cons pair rest ih =>
    rw [List.lookup_cons] at h
    split at h
    · rename_i hkey
      obtain rfl := eq_of_beq hkey
      obtain rfl := Option.some.inj h
      exact List.mem_cons_self
    · exact List.mem_cons_of_mem _ (ih h)

theorem lowerChar_ne_nil (c : Char) : lowerChar c ≠ [] := by
  have hexpansions : ∀ pair ∈ lowerExpansions, pair.2 ≠ [] := by decide
  by_cases hascii : c.toNat < 128
  · have heq : lowerChar c = [c.toLower] := if_pos hascii
    rw [heq]
    exact List.cons_ne_nil _ _
  · have heq : lowerChar c = _ := if_neg hascii
    rw [heq]
    split
    · rename_i codes hcodes
      exact fun hnil => hexpansions _ (mem_of_lookup hcodes) (List.map_eq_nil_iff.1 hnil)
    · split <;> exact List.cons_ne_nil _ _

/-- No text is empty in lower case, as every character is written as at least one. -/
theorem lowerCase_ne_empty {text : String} (h : text ≠ "") : lowerCase text ≠ "" := by
  intro heq
  have hnil : lowerChars [] text.toList = [] := by
    rw [← String.toList_ofList (l := lowerChars [] text.toList)]
    exact congrArg String.toList heq
  rcases hl : text.toList with _ | ⟨c, rest⟩
  · exact h (String.toList_eq_nil_iff.1 hl)
  · -- A sigma has two lower cases, by what comes before and after it.
    rw [hl, lowerChars] at hnil
    have hfirst := (List.append_eq_nil_iff.1 hnil).1
    split at hfirst
    · split at hfirst <;> exact nomatch hfirst
    · exact lowerChar_ne_nil c hfirst

end SamTemplate
