import SamTemplate.Notice
import SamTemplate.Proofs.JsonText

/-!
# Quoted texts tell their texts apart

A character between quotes is written as itself, by the letter of its escape or by its code
point (`Shown`). Each way says where it ends, so a quoted text has been made of one text
only (`quoted_injective`), and so have the words of a notice that quotes a name
(`Notice.conditionCircular_message_injective`).
-/

namespace SamTemplate

/-! ### Digits -/

theorem hexDigits_eq (n : Nat) :
    hexDigits n = (if n < 16 then [] else hexDigits (n / 16)) ++ [(n % 16).digitChar] := by
  rw [hexDigits, Nat.toDigits_eq_if (by decide)]
  split
  · rw [Nat.mod_eq_of_lt ‹_›, List.nil_append]
  · rfl

theorem digitChar_inj : ∀ m < 16, ∀ n < 16, m.digitChar = n.digitChar → m = n := by decide

theorem hexDigits_injective {m n : Nat} (h : hexDigits m = hexDigits n) : m = n := by
  induction m using Nat.strongRecOn generalizing n with
  | _ m ih =>
    rw [hexDigits_eq m, hexDigits_eq n] at h
    -- The last digits are equal, and so are the numbers that the other digits make.
    obtain ⟨hinit, hlast⟩ := List.append_inj' h rfl
    have hmod : m % 16 = n % 16 :=
      digitChar_inj _ (Nat.mod_lt _ (by decide)) _ (Nat.mod_lt _ (by decide))
        (List.cons.inj hlast).1
    have hdiv : m / 16 = n / 16 := by
      have hne (k : Nat) : hexDigits k ≠ [] := by simp [hexDigits_eq k]
      by_cases hm : m < 16 <;> by_cases hn : n < 16
      · omega
      · rw [if_pos hm, if_neg hn] at hinit
        exact absurd hinit.symm (hne _)
      · rw [if_neg hm, if_pos hn] at hinit
        exact absurd hinit (hne _)
      · rw [if_neg hm, if_neg hn] at hinit
        exact ih (m / 16) (by omega) hinit
    omega

/-- No digit closes the braces that the digits stand in. -/
theorem ne_of_mem_hexDigits {n : Nat} {c : Char} (h : c ∈ hexDigits n) : c ≠ '\x7d' := by
  have hdigit : ∀ d < 16, d.digitChar ≠ '\x7d' := by decide
  induction n using Nat.strongRecOn with
  | _ n ih =>
    rw [hexDigits_eq, List.mem_append, List.mem_singleton] at h
    rcases h with h | rfl
    · split at h
      · exact nomatch h
      · exact ih (n / 16) (by omega) h
    · exact hdigit _ (Nat.mod_lt _ (by decide))

/-! ### Characters -/

/-- The letters of escapes, and the characters they stand for. -/
def escapeLetters : List (Char × Char) :=
  [('0', '\x00'), ('t', '\t'), ('n', '\n'), ('r', '\r'), ('"', '"'), ('\\', '\\')]

/-- The ways to write a character between quotes. -/
inductive Shown (c : Char) : List Char → Prop
  /-- The character itself. -/
  | plain : c ≠ '\\' → Shown c [c]
  /-- The letter of its escape. -/
  | escaped {letter : Char} : (letter, c) ∈ escapeLetters → Shown c ['\\', letter]
  /-- Its code point. -/
  | coded : Shown c (['\\', 'u', '\x7b'] ++ hexDigits c.toNat ++ ['\x7d'])

theorem shown_quotedChar (c : Char) : Shown c (quotedChar c) := by
  unfold quotedChar
  split_ifs with hnul htab hline hreturn hself hprint
  · exact hnul ▸ .escaped (by decide)
  · exact htab ▸ .escaped (by decide)
  · exact hline ▸ .escaped (by decide)
  · exact hreturn ▸ .escaped (by decide)
  · rcases hself with rfl | rfl
    · exact .escaped (by decide)
    · exact .escaped (by decide)
  · exact .plain fun hc => hself (.inr hc)
  · exact .coded

theorem Shown.ne_nil {c : Char} {chars : List Char} (h : Shown c chars) : chars ≠ [] := by
  cases h <;> simp

/-- A character is known from the text that begins with it, and so is what follows. -/
theorem Shown.eq_of_append {c d : Char} {xs ys rest rest' : List Char} (hc : Shown c xs)
    (hd : Shown d ys) (h : xs ++ rest = ys ++ rest') : c = d ∧ rest = rest' := by
  have hletter {letter a b : Char} : (letter, a) ∈ escapeLetters → (letter, b) ∈ escapeLetters →
      a = b := by
    have hone : ∀ p ∈ escapeLetters, ∀ q ∈ escapeLetters, p.1 = q.1 → p.2 = q.2 := by decide
    exact fun ha hb => hone _ ha _ hb rfl
  have hcode {a : Char} : ('u', a) ∉ escapeLetters := by
    have hne : ∀ p ∈ escapeLetters, p.1 ≠ 'u' := by decide
    exact fun ha => hne _ ha rfl
  -- A backslash tells escapes from plain characters, and a `u` after it code points from
  -- letters, so that only equal ways are left.
  cases hc with
  | plain hplain =>
    cases hd with
    | plain _ => exact List.cons.inj h
    | escaped _ => exact absurd (List.cons.inj h).1 hplain
    | coded => exact absurd (List.cons.inj h).1 hplain
  | escaped hmem =>
    cases hd with
    | plain hplain => exact absurd (List.cons.inj h).1.symm hplain
    | escaped hmem' =>
      obtain ⟨rfl, hrest⟩ := List.cons.inj (List.cons.inj h).2
      exact ⟨hletter hmem hmem', hrest⟩
    | coded => exact absurd ((List.cons.inj (List.cons.inj h).2).1 ▸ hmem) hcode
  | coded =>
    cases hd with
    | plain hplain => exact absurd (List.cons.inj h).1.symm hplain
    | escaped hmem => exact absurd ((List.cons.inj (List.cons.inj h).2).1 ▸ hmem) hcode
    | coded =>
      simp only [List.append_assoc, List.cons_append, List.nil_append, List.cons.injEq,
        true_and] at h
      -- The closing brace is no digit, so the digits end in the same place.
      have hdigits (n : Nat) : ∀ c ∈ hexDigits n, (fun c => decide (c ≠ '\x7d')) c = true :=
        fun _ hc => decide_eq_true (ne_of_mem_hexDigits hc)
      obtain ⟨hhex, hrest⟩ := Json.eq_of_append_of_all (hdigits _) (hdigits _)
        (by simp) (by simp) h
      exact ⟨Char.toNat_inj.1 (hexDigits_injective hhex), (List.cons.inj hrest).2⟩

/-! ### Texts -/

theorem flatMap_quotedChar_injective {xs ys : List Char}
    (h : xs.flatMap quotedChar = ys.flatMap quotedChar) : xs = ys := by
  have hne (c : Char) (rest : List Char) : (c :: rest).flatMap quotedChar ≠ [] := by
    simp [(shown_quotedChar c).ne_nil]
  induction xs generalizing ys with
  | nil =>
    cases ys with
    | nil => rfl
    | cons d ys => exact absurd h.symm (hne d ys)
  | cons c xs ih =>
    cases ys with
    | nil => exact absurd h (hne c xs)
    | cons d ys =>
      rw [List.flatMap_cons, List.flatMap_cons] at h
      obtain ⟨rfl, hrest⟩ := (shown_quotedChar c).eq_of_append (shown_quotedChar d) h
      rw [ih hrest]

theorem quoted_injective {a b : String} (h : quoted a = quoted b) : a = b := by
  have hchars := String.ofList_injective h
  have hbody := (List.append_inj (List.append_inj' hchars rfl).1 rfl).2
  exact String.toList_inj.1 (flatMap_quotedChar_injective hbody)

namespace Notice

/-- The words for a circular condition name it. -/
theorem conditionCircular_message_injective {a b : String}
    (h : (conditionCircular a).message = (conditionCircular b).message) : a = b := by
  have hchars : ("Circular dependency detected in condition " ++ quoted a).toList
      = ("Circular dependency detected in condition " ++ quoted b).toList :=
    congrArg String.toList h
  rw [String.toList_append, String.toList_append] at hchars
  exact quoted_injective (String.toList_inj.1 (List.append_cancel_left hchars))

/-- The words for a circular condition are not those for an unknown one. -/
theorem conditionCircular_message_ne (a b : String) :
    (conditionCircular a).message ≠ (conditionUnknown b).message := by
  intro h
  have hchars : ("Circular dependency detected in condition " ++ quoted a).toList
      = ("Condition " ++ quoted b ++ " not found").toList :=
    congrArg String.toList h
  simp only [String.toList_append] at hchars
  exact absurd (congrArg (List.take 2) hchars) (by simp)

end Notice

end SamTemplate
