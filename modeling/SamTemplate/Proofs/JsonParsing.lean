import Mathlib.Data.List.TakeDrop
import SamTemplate.Proofs.JsonText

/-!
# Reading JSON text back

What is written is read as it was, but for the members of objects, which come in the order
of their names. This holds for the values that their text gives exactly: those without
floating point numbers, whose whole numbers are of 64 bits, and whose objects have no two
members of one name (`Json.Exact`).

* `Json.number?_intText`: the text of a whole number is read as that number;
* `Json.parse?_compact`: the compact text of a value is read as that value in order.
-/

namespace SamTemplate

namespace Json

/-! ### Numbers -/

theorem digitValue?_of_isDigit {c : Char} (h : c.isDigit = true) :
    digitValue? c = some (c.toNat - '0'.toNat) ∧ c.toNat - '0'.toNat < 10 := by
  obtain ⟨h0, h9⟩ : '0'.val ≤ c.val ∧ c.val ≤ '9'.val := by
    simpa [Char.isDigit] using h
  refine ⟨if_pos ⟨h0, h9⟩, ?_⟩
  have h9' : c.toNat ≤ '9'.toNat := h9
  have : '9'.toNat = 57 := rfl
  have : '0'.toNat = 48 := rfl
  omega

/-- Digits are read as the number that they stand for. -/
theorem foldDigits?_of_isDigit {digits : List Char} (h : ∀ c ∈ digits, c.isDigit = true)
    (value : Nat) : foldDigits? 10 value digits = some (Nat.ofDigitChars 10 digits value) := by
  induction digits generalizing value with
  | nil => rfl
  | cons c rest ih =>
    obtain ⟨hc, hrest⟩ := List.forall_mem_cons.1 h
    obtain ⟨hvalue, hlt⟩ := digitValue?_of_isDigit hc
    rw [foldDigits?, hvalue, Nat.ofDigitChars_cons, Nat.mul_comm 10 value]
    exact (if_pos hlt).trans (ih hrest _)

/-- The text of a number without a sign is read as that number. -/
theorem unsigned?_natText (n : Nat) : unsigned? 10 (natText n).toList = some n := by
  have hdigits (c : Char) (hc : c ∈ (natText n).toList) : c.isDigit = true :=
    isDigit_of_mem_natText hc
  obtain ⟨first, rest, htext⟩ := List.exists_cons_of_ne_nil (toList_natText_ne_nil n)
  rw [htext, unsigned?, ← htext, foldDigits?_of_isDigit hdigits, toList_natText,
    Nat.ofDigitChars_ten_toDigits]
  exact List.cons_ne_nil _ _

/-- Only the text of zero begins with a zero. -/
theorem head?_natText {n : Nat} (h : 0 < n) : (natText n).toList.head? ≠ some '0' := by
  rw [toList_natText]
  induction n using Nat.strongRecOn with
  | ind n ih =>
    rw [Nat.toDigits_eq_if (by decide)]
    split
    · have hdigit : ∀ n < 10, 0 < n → [n.digitChar].head? ≠ some '0' := by decide
      exact hdigit n ‹_› h
    · rw [List.head?_append, Option.or_of_isSome (List.isSome_head?.2 Nat.toDigits_ne_nil)]
      exact ih (n / 10) (by omega) (by omega)

/-- What may come after a value: the end of the text, or what closes or goes on with the list
    or object that it is in. -/
def Follows (rest : List Char) : Prop :=
  ∀ c, rest.head? = some c → c = ',' ∨ c = ']' ∨ c = '\x7d'

/-- The digits of a number end where the text goes on, since what may follow is no digit. -/
theorem spanDigits_natText {rest : List Char} (h : Follows rest) (n : Nat) :
    spanDigits ((natText n).toList ++ rest) = ((natText n).toList, rest) := by
  have hdigits (c : Char) (hc : c ∈ (natText n).toList) : isDigitOf 10 c = true := by
    obtain ⟨hvalue, hlt⟩ := digitValue?_of_isDigit (isDigit_of_mem_natText hc)
    rw [isDigitOf, hvalue]
    exact decide_eq_true hlt
  -- What follows begins with a comma or a bracket, or there is nothing.
  have hrest : rest.takeWhile (isDigitOf 10) = [] ∧ rest.dropWhile (isDigitOf 10) = rest := by
    cases rest with
    | nil => exact ⟨rfl, rfl⟩
    | cons c rest =>
      have hc : isDigitOf 10 c = false := by
        rcases h c rfl with rfl | rfl | rfl <;> rfl
      exact ⟨List.takeWhile_cons_of_neg (by simp [hc]), List.dropWhile_cons_of_neg (by simp [hc])⟩
  rw [spanDigits, List.span_eq_takeWhile_dropWhile, List.takeWhile_append_of_pos hdigits,
    List.dropWhile_append_of_pos hdigits, hrest.1, hrest.2, List.append_nil]

theorem fractionPart?_of_follows {rest : List Char} (h : Follows rest) :
    fractionPart? rest = some (none, rest) := by
  cases rest with
  | nil => rfl
  | cons c rest => rcases h c rfl with rfl | rfl | rfl <;> rfl

theorem exponentPart?_of_follows {rest : List Char} (h : Follows rest) :
    exponentPart? rest = some (none, rest) := by
  cases rest with
  | nil => rfl
  | cons c rest => rcases h c rfl with rfl | rfl | rfl <;> rfl

/-- The text of a number without a sign has no minus before it. -/
theorem minusSign_natText (n : Nat) (rest : List Char) :
    minusSign ((natText n).toList ++ rest) = (false, (natText n).toList ++ rest) := by
  obtain ⟨first, digits, htext⟩ := List.exists_cons_of_ne_nil (toList_natText_ne_nil n)
  rw [htext, List.cons_append, minusSign]
  rintro rest' heq
  have hdigit : first.isDigit = true := isDigit_of_mem_natText (htext ▸ List.mem_cons_self)
  rw [(List.cons.inj heq).1] at hdigit
  exact absurd hdigit (by decide)

/-- A number is read from its digits, after a minus or not, if nothing belongs to it after them. -/
theorem number?_of_natText {text rest : List Char} {negative : Bool} {n : Nat} {value : Json}
    (h : Follows rest) (hsign : minusSign text = (negative, (natText n).toList ++ rest))
    (hvalue : numberOf? negative (natText n).toList none none = some value) :
    number? text = some (value, rest) := by
  -- Numbers with leading zeros are refused, and the text of a number has none.
  have hwhole : ¬ ((natText n).toList.isEmpty
      ∨ (1 < (natText n).toList.length ∧ (natText n).toList.head? = some '0')) := by
    rintro (hempty | ⟨hlength, hzero⟩)
    · exact toList_natText_ne_nil n (List.isEmpty_iff.1 hempty)
    · rcases Nat.eq_zero_or_pos n with rfl | hpos
      · exact absurd hlength (by decide)
      · exact head?_natText hpos hzero
  rw [number?, hsign]
  simp only [spanDigits_natText h, if_neg hwhole, fractionPart?_of_follows h,
    exponentPart?_of_follows h, hvalue, bind, Option.bind, pure]

/-- The text of a whole number is read as that number. -/
theorem number?_intText {i : Int} {rest : List Char} (h : Follows rest)
    (hmin : -(Nat.pow 2 63 : Int) ≤ i) (hmax : i < Nat.pow 2 64) :
    number? ((intText i).toList ++ rest) = some (.int i, rest) := by
  rcases toList_intText i with ⟨hi, htext⟩ | ⟨hi, htext⟩
  · rw [htext]
    refine number?_of_natText h (minusSign_natText _ _) ?_
    have hlt : i.natAbs < Nat.pow 2 64 := by omega
    have hvalue : ((i.natAbs : Nat) : Int) = i := Int.natAbs_of_nonneg hi
    simp [numberOf?, unsigned?_natText, hlt, hvalue]
  · rw [htext]
    refine number?_of_natText h rfl ?_
    have hle : 0 < i.natAbs ∧ i.natAbs ≤ Nat.pow 2 63 := by omega
    have hvalue : -((i.natAbs : Nat) : Int) = i := by omega
    simp only [numberOf?, unsigned?_natText, hle, hvalue, bind, Option.bind, pure, and_self,
      if_true]

/-! ### Values -/

mutual

/-- The value with the members of each object in the order of their names; of members with the
    same name the last one is kept. -/
def inOrder : Json → Json
  | .arr elements => .arr (elementsInOrder elements)
  | .obj members => .obj (Bindings.ofList (membersInOrder members)).entries
  | value => value

/-- The elements of a list, each in order. -/
def elementsInOrder : List Json → List Json
  | [] => []
  | element :: rest => element.inOrder :: elementsInOrder rest

/-- The members of an object, each in order. -/
def membersInOrder : List (String × Json) → List (String × Json)
  | [] => []
  | (name, value) :: rest => (name, value.inOrder) :: membersInOrder rest

end

/-- The values that their text gives exactly: there is no floating point number in them, whole
    numbers are of 64 bits, and no object has two members of one name. -/
inductive Exact : Json → Prop
  | null : Exact .null
  | bool (value : Bool) : Exact (.bool value)
  | int {value : Int} : -(Nat.pow 2 63 : Int) ≤ value → value < Nat.pow 2 64 → Exact (.int value)
  | str (value : String) : Exact (.str value)
  | arr {elements : List Json} : (∀ element ∈ elements, Exact element) → Exact (.arr elements)
  | obj {members : List (String × Json)} : Entries.Distinct members →
      (∀ member ∈ members, Exact member.2) → Exact (.obj members)

theorem Exact.floatFree {value : Json} (h : value.Exact) : value.FloatFree := by
  induction h with
  | null => exact .null
  | bool value => exact .bool value
  | int => exact .int _
  | str value => exact .str value
  | arr _ ih => exact .arr ih
  | obj _ _ ih => exact .obj ih

/-- The value is read from its text and what follows, with enough fuel. -/
def ReadBack (value : Json) : Prop :=
  ∀ fuel rest, Follows rest → value.chars.length ≤ fuel →
    value? fuel (value.chars ++ rest) = some (value.inOrder, rest)

section

variable {first : Json} {elements : List Json} {members : List (String × Json)} {fuel : Nat}
  {rest : List Char}

theorem skipBlanks_of_lead {c : Char} (h : Lead.of? c ≠ none) :
    skipBlanks (c :: rest) = c :: rest := by
  have hc : ¬ (c = ' ' ∨ c = '\t' ∨ c = '\n' ∨ c = '\r') := by
    rintro (rfl | rfl | rfl | rfl) <;> exact h rfl
  rw [skipBlanks, if_neg hc]

theorem follows_elementChars : Follows (elementChars elements ++ rest) := by
  cases elements <;> · rintro _ ⟨⟩; decide

theorem follows_memberChars : Follows (memberChars members ++ rest) := by
  cases members <;> · rintro _ ⟨⟩; decide

theorem length_chars_pos {value : Json} (h : value.FloatFree) : 0 < value.chars.length := by
  obtain ⟨c, chars, hchars, -⟩ := h.exists_lead
  rw [hchars]
  exact Nat.succ_pos _

/-- A text between quotes is read, with as much fuel as there are characters to come. -/
theorem stringBody?_stringChars (text : String) :
    stringBody? ((text.toList.flatMap escapedChar ++ '"' :: rest).length + 1) []
      (text.toList.flatMap escapedChar ++ '"' :: rest) = some (text, rest) := by
  have hlength (chars : List Char) : chars.length ≤ (chars.flatMap escapedChar).length := by
    induction chars with
    | nil => exact Nat.le_refl _
    | cons c chars ih =>
      have hc : 0 < (escapedChar c).length := by
        unfold escapedChar
        split_ifs <;> simp
      rw [List.flatMap_cons, List.length_append, List.length_cons]
      omega
  rw [stringBody?_flatMap_escapedChar, List.reverse_nil, List.nil_append, String.ofList_toList]
  have hbody := hlength text.toList
  rw [List.length_append]
  omega

/-- The elements of a list are read one by one, after those that are done. -/
theorem elements?_elementChars {done : List Json} (hfirst : first.FloatFree ∧ first.ReadBack)
    (h : ∀ element ∈ elements, element.FloatFree ∧ element.ReadBack)
    (hfuel : (first.chars ++ elementChars elements).length ≤ fuel) :
    elements? fuel done (first.chars ++ (elementChars elements ++ rest))
      = some (done.reverse ++ elementsInOrder (first :: elements), rest) := by
  induction elements generalizing first fuel done with
  | nil =>
    have hlength : (elementChars []).length = 1 := rfl
    rw [List.length_append] at hfuel
    obtain ⟨fuel, rfl⟩ : ∃ n, fuel = n + 1 := ⟨fuel - 1, by omega⟩
    rw [elements?, hfirst.2 fuel _ follows_elementChars (by omega)]
    change some ((first.inOrder :: done).reverse, rest) = _
    rw [List.reverse_cons]
    rfl
  | cons next elements ih =>
    obtain ⟨hnext, helements⟩ := List.forall_mem_cons.1 h
    have hpos := length_chars_pos hfirst.1
    have hlength : (elementChars (next :: elements)).length
        = (next.chars ++ elementChars elements).length + 1 := rfl
    rw [List.length_append] at hfuel
    obtain ⟨fuel, rfl⟩ : ∃ n, fuel = n + 1 := ⟨fuel - 1, by omega⟩
    rw [elements?, hfirst.2 fuel _ follows_elementChars (by omega)]
    change elements? fuel (first.inOrder :: done)
      (next.chars ++ elementChars elements ++ rest) = _
    rw [List.append_assoc, ih hnext helements (by omega), List.reverse_cons, List.append_assoc]
    rfl

/-- A member is read up to its value. -/
theorem members?_stringChars {name : String} {done : Bindings Json} {c : Char}
    (hfirst : first.ReadBack) (hc : Follows (c :: rest)) (hfuel : first.chars.length ≤ fuel) :
    (c = ',' → members? (fuel + 1) done (stringChars name ++ ':' :: (first.chars ++ c :: rest))
      = members? fuel (done.insert name first.inOrder) rest) ∧
    (c = '\x7d' → members? (fuel + 1) done (stringChars name ++ ':' :: (first.chars ++ c :: rest))
      = some (done.insert name first.inOrder, rest)) := by
  have hbody : stringChars name ++ ':' :: (first.chars ++ c :: rest)
      = '"' :: (name.toList.flatMap escapedChar ++ '"' :: (':' :: (first.chars ++ c :: rest))) := by
    simp [stringChars]
  have hquote (rest : List Char) : skipBlanks ('"' :: rest) = '"' :: rest :=
    skipBlanks_of_lead (by decide)
  have hcolon (rest : List Char) : skipBlanks (':' :: rest) = ':' :: rest := rfl
  rw [hbody, members?, hquote]
  simp only [stringBody?_stringChars, hcolon, hfirst fuel _ hc hfuel]
  exact ⟨by rintro rfl; rfl, by rintro rfl; rfl⟩

/-- The members of an object are read one by one, and each is bound to its name. -/
theorem members?_memberChars {name : String} {done : Bindings Json}
    (hfirst : first.FloatFree ∧ first.ReadBack)
    (h : ∀ member ∈ members, member.2.FloatFree ∧ member.2.ReadBack)
    (hfuel : (first.chars ++ memberChars members).length ≤ fuel) :
    members? fuel done (stringChars name ++ ':' :: (first.chars ++ (memberChars members ++ rest)))
      = some (done.insertAll (membersInOrder ((name, first) :: members)), rest) := by
  induction members generalizing name first fuel done with
  | nil =>
    have hlength : (memberChars []).length = 1 := rfl
    rw [List.length_append] at hfuel
    obtain ⟨fuel, rfl⟩ : ∃ n, fuel = n + 1 := ⟨fuel - 1, by omega⟩
    exact (members?_stringChars hfirst.2 (@follows_memberChars [] rest) (by omega)).2 rfl
  | cons next members ih =>
    obtain ⟨hnext, hmembers⟩ := List.forall_mem_cons.1 h
    have hpos := length_chars_pos hfirst.1
    have hlength : (next.2.chars ++ memberChars members).length
        < (memberChars (next :: members)).length := by
      simp only [memberChars, List.length_cons, List.length_append]
      omega
    rw [List.length_append] at hfuel
    obtain ⟨fuel, rfl⟩ : ∃ n, fuel = n + 1 := ⟨fuel - 1, by omega⟩
    refine ((members?_stringChars hfirst.2 (@follows_memberChars (next :: members) rest)
      (by omega)).1 rfl).trans ?_
    change members? fuel (done.insert name first.inOrder)
      (stringChars next.1 ++ ':' :: (next.2.chars ++ memberChars members) ++ rest) = _
    rw [List.append_assoc, List.cons_append, List.append_assoc, ih hnext hmembers (by omega)]
    rfl

/-- What begins a number is read as one. -/
theorem value?_of_number {c : Char} (h : Lead.of? c = some .number) :
    value? (fuel + 1) (c :: rest) = number? (c :: rest) := by
  have hother {d : Char} (hd : Lead.of? d ≠ some .number) : c ≠ d := by
    rintro rfl
    exact hd h
  rw [value?, skipBlanks_of_lead (h ▸ Option.some_ne_none _)]
  split <;> rename_i heq <;> first
    | rfl
    | exact absurd (List.cons.inj heq).1 (hother (by decide))

theorem ReadBack.int {i : Int} (hmin : -(Nat.pow 2 63 : Int) ≤ i) (hmax : i < Nat.pow 2 64) :
    (int i).ReadBack := by
  intro fuel rest hrest hfuel
  obtain ⟨c, chars, hchars, hc⟩ := (FloatFree.int i).exists_lead
  rw [hchars, List.length_cons] at hfuel
  obtain ⟨fuel, rfl⟩ : ∃ n, fuel = n + 1 := ⟨fuel - 1, by omega⟩
  rw [hchars, List.cons_append, value?_of_number hc, ← List.cons_append, ← hchars]
  exact number?_intText hrest hmin hmax

theorem ReadBack.str (text : String) : (str text).ReadBack := by
  intro fuel rest hrest hfuel
  obtain ⟨fuel, rfl⟩ : ∃ n, fuel = n + 1 :=
    ⟨fuel - 1, by have := length_chars_pos (.str text); omega⟩
  have hchars : (Json.str text).chars ++ rest
      = '"' :: (text.toList.flatMap escapedChar ++ '"' :: rest) := by
    simp [chars, stringChars]
  rw [hchars]
  change (stringBody? _ [] (text.toList.flatMap escapedChar ++ '"' :: rest)).map _ = _
  rw [stringBody?_stringChars]
  rfl

/-- What begins a value does not close a list. -/
theorem value?_of_elements {c : Char} (h : Lead.of? c ≠ none) :
    value? (fuel + 1) ('[' :: c :: rest)
      = (elements? fuel [] (c :: rest)).map fun (elements, rest) => (arr elements, rest) := by
  rw [value?, skipBlanks_of_lead (by decide)]
  simp only [skipBlanks_of_lead h]
  split
  · rename_i heq
    exact absurd ((List.cons.inj heq).1 ▸ rfl) h
  · rfl

theorem ReadBack.arr (h : ∀ element ∈ elements, element.FloatFree ∧ element.ReadBack) :
    (arr elements).ReadBack := by
  intro fuel rest hrest hfuel
  cases elements with
  | nil =>
    obtain ⟨fuel, rfl⟩ : ∃ n, fuel = n + 1 := ⟨fuel - 1, by have : 2 ≤ fuel := hfuel; omega⟩
    rfl
  | cons first elements =>
    obtain ⟨hfirst, helements⟩ := List.forall_mem_cons.1 h
    obtain ⟨c, chars, hchars, hc⟩ := hfirst.1.exists_lead
    have hlength : (Json.arr (first :: elements)).chars.length
        = (first.chars ++ elementChars elements).length + 1 := rfl
    obtain ⟨fuel, rfl⟩ : ∃ n, fuel = n + 1 := ⟨fuel - 1, by omega⟩
    have hread := @elements?_elementChars _ _ fuel rest [] hfirst helements (by omega)
    change value? (fuel + 1) ('[' :: (first.chars ++ elementChars elements ++ rest)) = _
    rw [List.append_assoc]
    rw [hchars, List.cons_append] at hread ⊢
    rw [value?_of_elements (hc ▸ Option.some_ne_none _), hread]
    rfl

theorem ReadBack.obj (h : ∀ member ∈ members, member.2.FloatFree ∧ member.2.ReadBack) :
    (obj members).ReadBack := by
  intro fuel rest hrest hfuel
  cases members with
  | nil =>
    obtain ⟨fuel, rfl⟩ : ∃ n, fuel = n + 1 := ⟨fuel - 1, by have : 2 ≤ fuel := hfuel; omega⟩
    rfl
  | cons first members =>
    obtain ⟨name, value⟩ := first
    obtain ⟨hfirst, hmembers⟩ := List.forall_mem_cons.1 h
    have hlength : (value.chars ++ memberChars members).length
        < (Json.obj ((name, value) :: members)).chars.length := by
      simp only [chars, List.length_cons, List.length_append]
      omega
    obtain ⟨fuel, rfl⟩ : ∃ n, fuel = n + 1 := ⟨fuel - 1, by omega⟩
    have hread := @members?_memberChars value members fuel rest name .empty hfirst hmembers
      (by omega)
    change (members? fuel .empty
      (stringChars name ++ ':' :: (value.chars ++ memberChars members) ++ rest)).map _ = _
    rw [List.append_assoc, List.cons_append, List.append_assoc, hread]
    rfl

/-- A value is read from its text, up to the order of members. -/
theorem Exact.readBack {value : Json} (h : value.Exact) : value.ReadBack := by
  have hfuel (value : Json) (hv : value.FloatFree) {fuel : Nat} (h : value.chars.length ≤ fuel) :
      ∃ n, fuel = n + 1 := ⟨fuel - 1, by have := length_chars_pos hv; omega⟩
  induction h with
  | null =>
    intro fuel rest hrest hlength
    obtain ⟨fuel, rfl⟩ := hfuel _ .null hlength
    rfl
  | bool value =>
    intro fuel rest hrest hlength
    obtain ⟨fuel, rfl⟩ := hfuel _ (.bool value) hlength
    cases value <;> rfl
  | int hmin hmax => exact .int hmin hmax
  | str value => exact .str value
  | arr helements ih =>
    exact .arr fun element hmem => ⟨(helements element hmem).floatFree, ih element hmem⟩
  | obj _ hmembers ih =>
    exact .obj fun member hmem => ⟨(hmembers member hmem).floatFree, ih member hmem⟩

end

/-- The compact text of a value is read as that value in order. -/
theorem parse?_compact {value : Json} (h : value.Exact) :
    parse? value.compact = some value.inOrder := by
  have hread := h.readBack (value.chars.length + 1) [] (fun _ h => nomatch h) (Nat.le_succ _)
  rw [List.append_nil] at hread
  rw [parse?, compact, String.toList_ofList]
  simp only [hread]
  rfl

end Json

end SamTemplate
