import SamTemplate.Json.Parser
import SamTemplate.Json.Printer
import SamTemplate.Proofs.NumberText

/-!
# JSON text tells values apart

Two values without floating point numbers that are written alike are equal. The text of
a value says where it ends, at least if no digit follows, so that of two texts with
something after them the values agree if the whole does (`Json.eq_of_chars_append`).

* `Json.stringBody?_flatMap_escapedChar`: what is written between quotes is read back;
* `Json.compact_injective`: values with the same compact text are equal.
-/

namespace SamTemplate

namespace Json

/-! ### Texts -/

theorem eq_ofNat_of_toNat {c : Char} {n : Nat} (h : c.toNat = n) : c = Char.ofNat n := by
  rw [← h, Char.ofNat_toNat]

/-- The code of a control character is written in four digits. -/
theorem unicodeEscape?_control {n : Nat} (hn : n < 32) (rest : List Char) :
    unicodeEscape? ((if n < 16 then ['0', '0', '0'] else ['0', '0']) ++ hexDigits n ++ rest)
      = some (Char.ofNat n, rest) := by
  have hdigits : ∀ n < 32, (if n < 16 then ['0', '0', '0'] else ['0', '0']) ++ hexDigits n
      = ['0', '0', (n / 16).digitChar, (n % 16).digitChar] ∧
      unsigned? 16 ['0', '0', (n / 16).digitChar, (n % 16).digitChar] = some n := by
    decide
  obtain ⟨htext, hvalue⟩ := hdigits n hn
  have hfour : fourHexDigits? ('0' :: '0' :: (n / 16).digitChar :: (n % 16).digitChar :: rest)
      = some (n, rest) := by
    rw [fourHexDigits?, hvalue]
    rfl
  rw [htext]
  change unicodeEscape? ('0' :: '0' :: (n / 16).digitChar :: (n % 16).digitChar :: rest) = _
  simp only [unicodeEscape?, hfour, bind, Option.bind]
  rw [if_neg (by omega), if_neg (by omega)]

/-- A character is read back from what is written for it. -/
theorem stringBody?_escapedChar (fuel : Nat) (done rest : List Char) (c : Char) :
    stringBody? (fuel + 1) done (escapedChar c ++ rest) = stringBody? fuel (c :: done) rest := by
  unfold escapedChar
  split_ifs with hquote hn hr ht hb hf h16 h32
  · rcases hquote with rfl | rfl <;> rfl
  · subst hn; rfl
  · subst hr; rfl
  · subst ht; rfl
  · obtain rfl := eq_ofNat_of_toNat hb; rfl
  · obtain rfl := eq_ofNat_of_toNat hf; rfl
  · have hcode := unicodeEscape?_control (show c.toNat < 32 by omega) rest
    rw [if_pos h16, Char.ofNat_toNat] at hcode
    change stringBody? (fuel + 1) done
      ('\\' :: 'u' :: (['0', '0', '0'] ++ hexDigits c.toNat ++ rest)) = _
    simp only [stringBody?, hcode]
  · have hcode := unicodeEscape?_control h32 rest
    rw [if_neg h16, Char.ofNat_toNat] at hcode
    change stringBody? (fuel + 1) done
      ('\\' :: 'u' :: (['0', '0'] ++ hexDigits c.toNat ++ rest)) = _
    simp only [stringBody?, hcode]
  · obtain ⟨hq, hs⟩ := not_or.1 hquote
    change stringBody? (fuel + 1) done (c :: rest) = _
    rw [stringBody?]
    · rw [if_neg h32]
    · exact hq
    · exact hs

/-- What is written between quotes is read back. -/
theorem stringBody?_flatMap_escapedChar (text done rest : List Char) (fuel : Nat)
    (h : text.length < fuel) :
    stringBody? fuel done (text.flatMap escapedChar ++ '"' :: rest)
      = some (String.ofList (done.reverse ++ text), rest) := by
  induction text generalizing done fuel with
  | nil =>
    obtain ⟨fuel, rfl⟩ : ∃ n, fuel = n + 1 := ⟨fuel - 1, by omega⟩
    rw [List.append_nil]
    rfl
  | cons c text ih =>
    obtain ⟨fuel, rfl⟩ : ∃ n, fuel = n + 1 := ⟨fuel - 1, by omega⟩
    rw [List.flatMap_cons, List.append_assoc, stringBody?_escapedChar,
      ih _ _ (by simpa using h), List.reverse_cons, List.append_assoc]
    rfl

/-- The text of a text says where it ends. -/
theorem eq_of_stringChars_append {a b : String} {rest rest' : List Char}
    (h : stringChars a ++ rest = stringChars b ++ rest') : a = b ∧ rest = rest' := by
  have hbody : a.toList.flatMap escapedChar ++ '"' :: rest
      = b.toList.flatMap escapedChar ++ '"' :: rest' := by
    simpa [stringChars] using h
  have hread := fun text : String => fun rest =>
    stringBody?_flatMap_escapedChar text.toList [] rest (a.toList.length + b.toList.length + 1)
  have ha := hread a rest (by omega)
  have hb := hread b rest' (by omega)
  rw [hbody, hb] at ha
  simpa [eq_comm] using ha

/-! ### Numbers -/

/-- No digit comes next, so that a number ends here. -/
def EndsNumber (rest : List Char) : Prop := ∀ c, rest.head? = some c → c.isDigit = false

/-- What is written in characters of a sort ends where another one comes. -/
theorem eq_of_append_of_all {p : Char → Bool} {a b rest rest' : List Char}
    (ha : ∀ c ∈ a, p c = true) (hb : ∀ c ∈ b, p c = true)
    (hrest : ∀ c, rest.head? = some c → p c = false)
    (hrest' : ∀ c, rest'.head? = some c → p c = false) (h : a ++ rest = b ++ rest') :
    a = b ∧ rest = rest' := by
  have htake {chars rest : List Char} (hchars : ∀ c ∈ chars, p c = true)
      (hrest : ∀ c, rest.head? = some c → p c = false) :
      (chars ++ rest).takeWhile p = chars := by
    rw [List.takeWhile_append_of_pos hchars]
    rcases rest with _ | ⟨c, rest⟩
    · simp
    · simp [hrest c rfl]
  have heq : a = b := by rw [← htake ha hrest, h, htake hb hrest']
  subst heq
  exact ⟨rfl, List.append_cancel_left h⟩

/-- The text of a whole number says where it ends, if no digit follows. -/
theorem eq_of_intText_append {i j : Int} {rest rest' : List Char} (hrest : EndsNumber rest)
    (hrest' : EndsNumber rest') (h : (intText i).toList ++ rest = (intText j).toList ++ rest') :
    i = j ∧ rest = rest' := by
  have hdigits (n : Nat) : ∀ c ∈ (natText n).toList, c.isDigit = true :=
    fun _ => isDigit_of_mem_natText
  -- A sign is no digit.
  have hsign {n : Nat} {r r' : List Char} : (natText n).toList ++ r ≠ '-' :: r' := by
    intro heq
    rcases hn : (natText n).toList with _ | ⟨c, digits⟩
    · exact toList_natText_ne_nil n hn
    · rw [hn] at heq
      have hc := hdigits n c (hn ▸ List.mem_cons_self)
      rw [(List.cons.inj heq).1] at hc
      exact absurd hc (by decide)
  rcases toList_intText i with ⟨hi, hi'⟩ | ⟨hi, hi'⟩ <;>
    rcases toList_intText j with ⟨hj, hj'⟩ | ⟨hj, hj'⟩ <;> rw [hi', hj'] at h
  · obtain ⟨hn, hr⟩ := eq_of_append_of_all (hdigits _) (hdigits _) hrest hrest' h
    have habs := natText_injective (String.toList_inj.1 hn)
    exact ⟨by omega, hr⟩
  · exact absurd h hsign
  · exact absurd h.symm hsign
  · obtain ⟨hn, hr⟩ := eq_of_append_of_all (hdigits _) (hdigits _) hrest hrest' (List.cons.inj h).2
    have habs := natText_injective (String.toList_inj.1 hn)
    exact ⟨by omega, hr⟩

/-! ### Values -/

/-- No floating point number is in a value. -/
inductive FloatFree : Json → Prop
  | null : FloatFree .null
  | bool (value : Bool) : FloatFree (.bool value)
  | int (value : Int) : FloatFree (.int value)
  | str (value : String) : FloatFree (.str value)
  | arr {elements : List Json} : (∀ element ∈ elements, FloatFree element) →
      FloatFree (.arr elements)
  | obj {members : List (String × Json)} : (∀ member ∈ members, FloatFree member.2) →
      FloatFree (.obj members)

/-- What sort of value a text begins with. -/
inductive Lead where
  /-- The value `null`. -/
  | null
  /-- A truth value. -/
  | truth (value : Bool)
  /-- A number. -/
  | number
  /-- A text. -/
  | text
  /-- A list. -/
  | list
  /-- Named values. -/
  | record
  deriving DecidableEq

/-- What the first character tells of a value, if it begins one. -/
def Lead.of? (c : Char) : Option Lead :=
  if c = 'n' then some null
  else if c = 't' then some (truth true)
  else if c = 'f' then some (truth false)
  else if c = '"' then some text
  else if c = '[' then some list
  else if c = '\x7b' then some record
  else if c = '-' ∨ c.isDigit then some number
  else none

/-- What sort of value it is. -/
def lead : Json → Lead
  | .null => .null
  | .bool value => .truth value
  | .int _ => .number
  | .float _ => .number
  | .str _ => .text
  | .arr _ => .list
  | .obj _ => .record

theorem Lead.of?_digit {c : Char} (h : c.isDigit = true) : of? c = some number := by
  unfold of?
  split_ifs with h₁ h₂ h₃ h₄ h₅ h₆ h₇
  · exact absurd (h₁ ▸ h) (by decide)
  · exact absurd (h₂ ▸ h) (by decide)
  · exact absurd (h₃ ▸ h) (by decide)
  · exact absurd (h₄ ▸ h) (by decide)
  · exact absurd (h₅ ▸ h) (by decide)
  · exact absurd (h₆ ▸ h) (by decide)
  · rfl
  · exact absurd (.inr h) h₇

/-- The first character of a value tells its sort. -/
theorem FloatFree.exists_lead {value : Json} (h : value.FloatFree) :
    ∃ c rest, value.chars = c :: rest ∧ Lead.of? c = some value.lead := by
  cases h with
  | null => exact ⟨_, _, rfl, rfl⟩
  | bool value => cases value <;> exact ⟨_, _, rfl, rfl⟩
  | str value => exact ⟨_, _, rfl, rfl⟩
  | @arr elements _ => cases elements <;> exact ⟨_, _, rfl, rfl⟩
  | @obj members _ => cases members <;> exact ⟨_, _, rfl, rfl⟩
  | int i =>
    rcases toList_intText i with ⟨-, hi⟩ | ⟨-, hi⟩
    · rcases hn : (natText i.natAbs).toList with _ | ⟨c, digits⟩
      · exact absurd hn (toList_natText_ne_nil _)
      · have hdigit := isDigit_of_mem_natText (hn ▸ List.mem_cons_self)
        exact ⟨c, digits, hi.trans hn, Lead.of?_digit hdigit⟩
    · exact ⟨'-', _, hi, rfl⟩

/-- A value without floating point numbers is told apart from any other one by its text. -/
def ToldApart (a : Json) : Prop :=
  ∀ b rest rest', b.FloatFree → EndsNumber rest → EndsNumber rest' →
    a.chars ++ rest = b.chars ++ rest' → a = b ∧ rest = rest'

section

variable {rest rest' : List Char}

theorem endsNumber_elementChars (elements : List Json) :
    EndsNumber (elementChars elements ++ rest) := by
  cases elements <;> · rintro _ ⟨⟩; decide

theorem endsNumber_memberChars (members : List (String × Json)) :
    EndsNumber (memberChars members ++ rest) := by
  cases members <;> · rintro _ ⟨⟩; decide

theorem eq_of_elementChars_append {elements elements' : List Json}
    (h : ∀ element ∈ elements, element.ToldApart)
    (h' : ∀ element ∈ elements', element.FloatFree)
    (heq : elementChars elements ++ rest = elementChars elements' ++ rest') :
    elements = elements' ∧ rest = rest' := by
  induction elements generalizing elements' with
  | nil =>
    rcases elements' with _ | ⟨first', elements'⟩
    · exact ⟨rfl, (List.cons.inj heq).2⟩
    · exact absurd (List.cons.inj heq).1 (by decide)
  | cons first elements ih =>
    rcases elements' with _ | ⟨first', elements'⟩
    · exact absurd (List.cons.inj heq).1 (by decide)
    · obtain ⟨hfirst, helements⟩ := List.forall_mem_cons.1 h
      obtain ⟨hfirst', helements'⟩ := List.forall_mem_cons.1 h'
      simp only [elementChars, List.cons_append, List.append_assoc, List.cons.injEq,
        true_and] at heq
      obtain ⟨rfl, hrest⟩ := hfirst _ _ _ hfirst' (endsNumber_elementChars _)
        (endsNumber_elementChars _) heq
      obtain ⟨rfl, rfl⟩ := ih helements helements' hrest
      exact ⟨rfl, rfl⟩

theorem eq_of_memberChars_append {members members' : List (String × Json)}
    (h : ∀ member ∈ members, member.2.ToldApart)
    (h' : ∀ member ∈ members', member.2.FloatFree)
    (heq : memberChars members ++ rest = memberChars members' ++ rest') :
    members = members' ∧ rest = rest' := by
  induction members generalizing members' with
  | nil =>
    rcases members' with _ | ⟨first', members'⟩
    · exact ⟨rfl, (List.cons.inj heq).2⟩
    · exact absurd (List.cons.inj heq).1 (by decide)
  | cons first members ih =>
    rcases members' with _ | ⟨first', members'⟩
    · exact absurd (List.cons.inj heq).1 (by decide)
    · obtain ⟨name, value⟩ := first
      obtain ⟨name', value'⟩ := first'
      obtain ⟨hfirst, hmembers⟩ := List.forall_mem_cons.1 h
      obtain ⟨hfirst', hmembers'⟩ := List.forall_mem_cons.1 h'
      simp only [memberChars, List.cons_append, List.append_assoc, List.cons.injEq, true_and] at heq
      obtain ⟨rfl, hvalue⟩ := eq_of_stringChars_append heq
      obtain ⟨rfl, hrest⟩ := hfirst _ _ _ hfirst' (endsNumber_memberChars _)
        (endsNumber_memberChars _) (List.cons.inj hvalue).2
      obtain ⟨rfl, rfl⟩ := ih hmembers hmembers' hrest
      exact ⟨rfl, rfl⟩

/-- What closes an empty list begins no value. -/
theorem FloatFree.chars_append_ne {value : Json} (h : value.FloatFree) {c : Char}
    (hc : Lead.of? c = none) : value.chars ++ rest ≠ c :: rest' := by
  obtain ⟨d, chars, hchars, hd⟩ := h.exists_lead
  intro heq
  rw [hchars] at heq
  rw [(List.cons.inj heq).1, hc] at hd
  exact nomatch hd

theorem eq_of_arr_append {elements elements' : List Json}
    (h : ∀ element ∈ elements, element.FloatFree ∧ element.ToldApart)
    (h' : ∀ element ∈ elements', element.FloatFree)
    (heq : (arr elements).chars ++ rest = (arr elements').chars ++ rest') :
    elements = elements' ∧ rest = rest' := by
  rcases elements with _ | ⟨first, elements⟩ <;> rcases elements' with _ | ⟨first', elements'⟩ <;>
    simp only [chars, List.cons_append, List.append_assoc, List.cons.injEq, true_and] at heq
  · exact ⟨rfl, heq⟩
  · exact absurd heq.symm ((h' first' List.mem_cons_self).chars_append_ne rfl)
  · exact absurd heq ((h first List.mem_cons_self).1.chars_append_ne rfl)
  · -- Both lists go on as after an element.
    refine eq_of_elementChars_append (fun element hmem => (h element hmem).2) h' ?_
    simpa only [elementChars, List.cons_append, List.append_assoc, List.cons.injEq, true_and]

theorem eq_of_obj_append {members members' : List (String × Json)}
    (h : ∀ member ∈ members, member.2.ToldApart) (h' : ∀ member ∈ members', member.2.FloatFree)
    (heq : (obj members).chars ++ rest = (obj members').chars ++ rest') :
    members = members' ∧ rest = rest' := by
  rcases members with _ | ⟨first, members⟩ <;> rcases members' with _ | ⟨first', members'⟩ <;>
    simp only [chars, List.cons_append, List.append_assoc, List.cons.injEq, true_and] at heq
  · exact ⟨rfl, heq⟩
  · exact absurd (List.cons.inj heq).1 (by decide)
  · exact absurd (List.cons.inj heq).1 (by decide)
  · refine eq_of_memberChars_append h h' ?_
    simpa only [memberChars, List.cons_append, List.append_assoc, List.cons.injEq, true_and]

/-- Values that begin alike are of one sort. -/
theorem FloatFree.lead_eq {a b : Json} (ha : a.FloatFree) (hb : b.FloatFree)
    (heq : a.chars ++ rest = b.chars ++ rest') : a.lead = b.lead := by
  obtain ⟨c, chars, hchars, hc⟩ := ha.exists_lead
  obtain ⟨d, chars', hchars', hd⟩ := hb.exists_lead
  rw [hchars, hchars'] at heq
  rw [(List.cons.inj heq).1, hd] at hc
  exact (Option.some.inj hc).symm

end

theorem FloatFree.toldApart {a : Json} (h : a.FloatFree) : a.ToldApart := by
  induction h with
  | null =>
    intro b rest rest' hb _ _ heq
    have hlead := FloatFree.null.lead_eq hb heq
    cases hb with
    | null => exact ⟨rfl, List.append_cancel_left heq⟩
    | _ => exact nomatch hlead
  | bool value =>
    intro b rest rest' hb _ _ heq
    have hlead := (FloatFree.bool value).lead_eq hb heq
    cases hb with
    | bool value' =>
      obtain rfl : value = value' := Lead.truth.inj hlead
      exact ⟨rfl, List.append_cancel_left heq⟩
    | _ => exact nomatch hlead
  | int i =>
    intro b rest rest' hb hrest hrest' heq
    have hlead := (FloatFree.int i).lead_eq hb heq
    cases hb with
    | int j =>
      obtain ⟨rfl, hr⟩ := eq_of_intText_append hrest hrest' heq
      exact ⟨rfl, hr⟩
    | _ => exact nomatch hlead
  | str text =>
    intro b rest rest' hb _ _ heq
    have hlead := (FloatFree.str text).lead_eq hb heq
    cases hb with
    | str text' =>
      obtain ⟨rfl, hr⟩ := eq_of_stringChars_append heq
      exact ⟨rfl, hr⟩
    | _ => exact nomatch hlead
  | arr helements ih =>
    intro b rest rest' hb _ _ heq
    have hlead := (FloatFree.arr helements).lead_eq hb heq
    cases hb with
    | arr helements' =>
      obtain ⟨rfl, hr⟩ := eq_of_arr_append
        (fun element hmem => ⟨helements element hmem, ih element hmem⟩) helements' heq
      exact ⟨rfl, hr⟩
    | _ => exact nomatch hlead
  | obj hmembers ih =>
    intro b rest rest' hb _ _ heq
    have hlead := (FloatFree.obj hmembers).lead_eq hb heq
    cases hb with
    | obj hmembers' =>
      obtain ⟨rfl, hr⟩ := eq_of_obj_append ih hmembers' heq
      exact ⟨rfl, hr⟩
    | _ => exact nomatch hlead

/-- Values with the same compact text are equal. -/
theorem compact_injective {a b : Json} (ha : a.FloatFree) (hb : b.FloatFree)
    (h : a.compact = b.compact) : a = b := by
  have hchars : a.chars ++ [] = b.chars ++ [] := by
    rw [← String.toList_ofList (l := a.chars), ← String.toList_ofList (l := b.chars)]
    exact congrArg (·.toList ++ []) h
  exact (ha.toldApart b [] [] hb nofun nofun hchars).1

end Json

end SamTemplate
