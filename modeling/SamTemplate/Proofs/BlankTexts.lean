import Mathlib.Data.List.TakeDrop
import Mathlib.Data.List.TakeWhile
import Mathlib.Tactic.SplitIfs
import SamTemplate.Document

/-!
# Texts of blanks

What a text of white space alone says: nothing, or a text of white space. White space of
other scripts than ASCII is text like any other to YAML, so such a text can be a plain scalar.
But none of it opens, separates or names anything, so all tokens of the text are plain scalars
(`Lexer.Plain.finish`), and none of it spells a number or a word (`ofPlain?_of_blank`).

* `trim_eq_empty_iff`: which texts there are;
* `Node.ofYaml_of_blank`: what they describe.
-/

namespace SamTemplate

/-! ### Blanks -/

/-- A text without blanks at its ends is empty just if there is nothing but blanks in it. -/
theorem trim_eq_empty_iff {text : String} :
    trim text = "" ↔ ∀ c ∈ text.toList, isBlank c = true := by
  have hdrop : trim text = "" ↔ ∀ c ∈ text.toList.dropWhile isBlank, isBlank c = true := by
    rw [trim, String.ofList_eq_empty_iff, trimChars, trimEndChars, List.reverse_eq_nil_iff,
      List.dropWhile_eq_nil_iff]
    simp only [List.mem_reverse]
  refine hdrop.trans ⟨fun h c hc => ?_, fun h c hc => h c (List.dropWhile_subset _ hc)⟩
  rw [← List.takeWhile_append_dropWhile (p := isBlank) (l := text.toList)] at hc
  rcases List.mem_append.1 hc with hc | hc
  · exact List.mem_takeWhile_imp hc
  · exact h c hc

/-- No blank is among the visible characters of ASCII. -/
theorem toNat_of_isBlank {c : Char} (h : isBlank c = true) : c.toNat ≤ 0x20 ∨ 0x85 ≤ c.toNat := by
  obtain ⟨⟨first, last⟩, hmem, hc⟩ := List.any_eq_true.1 h
  have hends : ∀ range ∈ blankRanges, range.2 ≤ 0x20 ∨ 0x85 ≤ range.1 := by decide
  obtain ⟨hfirst, hlast⟩ : first ≤ c.toNat ∧ c.toNat ≤ last := of_decide_eq_true hc
  exact (hends _ hmem).imp (Nat.le_trans hlast) (Nat.le_trans · hfirst)

/-- A blank is no digit of any base. -/
theorem digitValue?_of_isBlank {c : Char} (h : isBlank c = true) : digitValue? c = none := by
  have hrange := toNat_of_isBlank h
  have hnot {first last : Char} (h0 : 0x20 < first.toNat) (h9 : last.toNat < 0x85) :
      ¬ (first ≤ c ∧ c ≤ last) := by
    rintro ⟨hfirst, hlast⟩
    have hfirst' : first.toNat ≤ c.toNat := hfirst
    have hlast' : c.toNat ≤ last.toNat := hlast
    omega
  rw [digitValue?, if_neg (hnot (by decide) (by decide)), if_neg (hnot (by decide) (by decide)),
    if_neg (hnot (by decide) (by decide))]

namespace Yaml

/-! ### Plain scalars -/

section

variable {c : Char} {rest : List Char} (h : SamTemplate.isBlank c = true)
include h

theorem ne_of_isBlank {d : Char} (hd : SamTemplate.isBlank d = false) : c ≠ d := by
  rintro rfl
  exact absurd (h.symm.trans hd) (by decide)

theorem unsigned?_of_isBlank (base : Nat) : unsigned? base (c :: rest) = none := by
  rw [unsigned?, foldDigits?, digitValue?_of_isBlank h]
  exact List.cons_ne_nil _ _

/-- What begins with a blank is no integer. -/
theorem integer?_of_isBlank : integer? (c :: rest) = none := by
  have hnatural : natural? (c :: rest) = none := by
    unfold natural?
    split
    case h_4 => exact unsigned?_of_isBlank h 10
    all_goals exact absurd (List.cons.inj ‹_›).1 (ne_of_isBlank h (by decide))
  unfold integer?
  split
  · rfl
  · split
    case h_3 => rw [hnatural]; rfl
    all_goals exact absurd (List.cons.inj ‹_›).1 (ne_of_isBlank h (by decide))

/-- What begins with a blank is no decimal number. -/
theorem decimal?_of_isBlank : decimal? (c :: rest) = none := by
  have hspan : spanDigits (c :: rest) = ([], c :: rest) := by
    have hc : isDigitOf 10 c = false := by rw [isDigitOf, digitValue?_of_isBlank h]; rfl
    rw [spanDigits, List.span_eq_takeWhile_dropWhile, List.takeWhile_cons_of_neg (by simp [hc]),
      List.dropWhile_cons_of_neg (by simp [hc])]
  have hsignificand : significand? (c :: rest) = none := by
    rw [significand?, hspan]
    dsimp only
    split
    · exact absurd (List.cons.inj ‹_›).1 (ne_of_isBlank h (by decide))
    · rfl
  unfold decimal?
  dsimp only
  split
  case h_3 => rw [hsignificand]; rfl
  all_goals exact absurd (List.cons.inj ‹_›).1 (ne_of_isBlank h (by decide))

end

/-- A plain scalar of blanks is a text, unless it is empty. -/
theorem ofPlain?_of_blank {text : String} (h : trim text = "") :
    ofPlain? text = some .null ∨ ofPlain? text = some (.str text) := by
  by_cases hempty : text = ""
  · exact .inl (if_pos (.inl hempty))
  · right
    obtain ⟨c, rest, htext⟩ : ∃ c rest, text.toList = c :: rest :=
      List.exists_cons_of_ne_nil fun hnil => hempty (String.toList_eq_nil_iff.1 hnil)
    have hc : SamTemplate.isBlank c = true :=
      trim_eq_empty_iff.1 h c (htext ▸ List.mem_cons_self)
    have hnotin {words : List String} (hwords : ∀ word ∈ words, trim word ≠ "") :
        words.contains text = false :=
      Bool.eq_false_iff.2 fun hmem => hwords text (List.contains_iff_mem.1 hmem) h
    have hnull : spellsNull text = false := hnotin (by decide)
    have hbool : bool? text = none := by
      rw [bool?, hnotin (by decide), hnotin (by decide)]
      rfl
    have hint : int? text = none := by
      rw [int?, htext, integer?_of_isBlank hc]
      rfl
    have hfloat : float? text = none := by
      rw [float?, hnotin (by decide), hnotin (by decide), hnotin (by decide), htext,
        decimal?_of_isBlank hc]
      rfl
    rw [ofPlain?, hnull, if_neg (by simp [hempty]), hbool, hint]
    simp only [hfloat]

/-! ### Characters -/

/-- There are only blanks. -/
def Blank (spots : List Spot) : Prop := ∀ spot ∈ spots, SamTemplate.isBlank spot.char = true

theorem isBlank_unifyBreaks {chars : List Char} (h : ∀ c ∈ chars, SamTemplate.isBlank c = true) :
    ∀ c ∈ unifyBreaks chars, SamTemplate.isBlank c = true := by
  fun_induction unifyBreaks chars with
  | case1 => exact h
  | case2 rest ih =>
    refine List.forall_mem_cons.2 ⟨rfl, ih fun c hc => h c ?_⟩
    exact List.mem_cons_of_mem _ (List.mem_cons_of_mem _ hc)
  | case3 c rest _ ih =>
    obtain ⟨hc, hrest⟩ := List.forall_mem_cons.1 h
    refine List.forall_mem_cons.2 ⟨?_, ih hrest⟩
    split
    · rfl
    · exact hc

theorem char_mem_of_mem_spotsFrom {chars : List Char} {line column : Nat} {spot : Spot}
    (h : spot ∈ spotsFrom line column chars) : spot.char ∈ chars := by
  induction chars generalizing line column with
  | nil => exact nomatch h
  | cons c rest ih =>
    rcases List.mem_cons.1 h with rfl | h
    · exact List.mem_cons_self
    · refine List.mem_cons_of_mem _ ?_
      split at h <;> exact ih h

/-- The characters of a text of blanks are blanks, also after its line breaks are unified. -/
theorem blank_of_spots? {text : String} {spots : List Spot}
    (h : ∀ c ∈ text.toList, SamTemplate.isBlank c = true) (hs : spots? text = some spots) :
    Blank spots := by
  obtain ⟨-, hs⟩ := Option.ite_none_right_eq_some.1 hs
  obtain rfl := Option.some.inj hs
  intro spot hspot
  refine isBlank_unifyBreaks (fun c hc => h c ?_) _ (char_mem_of_mem_spotsFrom hspot)
  split at hc
  · exact List.mem_of_mem_tail hc
  · exact hc

/-! ### Tokens -/

/-- A plain scalar of blanks. -/
def Token.IsBlank (token : Token) : Prop := ∃ text, token = .scalar true text ∧ trim text = ""

namespace Lexer

theorem mem_of_mem_skipGap {inFlow keyAllowed inComment : Bool} {spots : List Spot} {spot : Spot}
    (h : spot ∈ (skipGap inFlow keyAllowed inComment spots).2) : spot ∈ spots := by
  induction spots generalizing keyAllowed inComment with
  | nil => exact h
  | cons first rest ih =>
    simp only [skipGap] at h
    split_ifs at h
    any_goals exact List.mem_cons_of_mem _ (ih h)
    exact h

theorem isBlank_of_mem_foldGap {gap : List Char} (h : ∀ c ∈ gap, SamTemplate.isBlank c = true) :
    ∀ c ∈ foldGap gap, SamTemplate.isBlank c = true := by
  have hbreaks : ∀ c ∈ gapBreaks gap, SamTemplate.isBlank c = true := fun c hc =>
    h c (List.mem_filter.1 hc).1
  unfold foldGap
  split
  · exact h
  · exact List.forall_mem_singleton.2 rfl
  · rename_i hgap
    exact fun c hc => hbreaks c (hgap ▸ List.mem_cons_of_mem _ hc)
  · exact hbreaks

/-- Of blanks a plain scalar takes blanks, and leaves blanks. -/
theorem blank_of_plainFrom {around : Surroundings} {done gap : List Char} {spots : List Spot}
    {plain : PlainText} (h : plainFrom around done gap spots = some plain)
    (hdone : ∀ c ∈ done, SamTemplate.isBlank c = true)
    (hgap : ∀ c ∈ gap, SamTemplate.isBlank c = true) (hspots : Blank spots) :
    (∀ c ∈ plain.text, SamTemplate.isBlank c = true) ∧ Blank plain.rest := by
  have hreverse : ∀ c ∈ done.reverse, SamTemplate.isBlank c = true := fun c hc =>
    hdone c (List.mem_reverse.1 hc)
  induction spots generalizing done gap with
  | nil =>
    cases h
    exact ⟨hreverse, hspots⟩
  | cons first rest ih =>
    obtain ⟨hfirst, hrest⟩ := List.forall_mem_cons.1 hspots
    simp only [plainFrom] at h
    split_ifs at h
    · exact ih h hdone (List.forall_mem_cons.2 ⟨hfirst, hgap⟩) hrest hreverse
    · cases h
      exact ⟨hreverse, hspots⟩
    · cases h
      exact ⟨hreverse, hspots⟩
    · have hdone' : ∀ c ∈ first.char :: ((foldGap gap.reverse).reverse ++ done),
          SamTemplate.isBlank c = true := by
        refine List.forall_mem_cons.2 ⟨hfirst, fun c hc => ?_⟩
        rcases List.mem_append.1 hc with hc | hc
        · exact isBlank_of_mem_foldGap (fun c hc => hgap c (List.mem_reverse.1 hc)) c
            (List.mem_reverse.1 hc)
        · exact hdone c hc
      exact ih h hdone' (fun _ hc => absurd hc List.not_mem_nil) hrest fun c hc =>
        hdone' c (List.mem_reverse.1 hc)

/-- Only plain scalars of blanks were read, no block collection is open, and only blanks are to
    come. -/
structure Plain (lexer : Lexer) : Prop where
  blank : Blank lexer.rest
  indents : lexer.indents = []
  tokens : ∀ token ∈ lexer.tokens, token.IsBlank

variable {lexer lexer' : Lexer} {spot : Spot} {rest : List Spot}

/-- What begins with a blank is a plain scalar, if anything. -/
theorem tokenAt_of_blank (h : SamTemplate.isBlank spot.char = true)
    (ht : lexer.tokenAt spot rest = some lexer') : lexer.plainScalar spot rest = some lexer' := by
  have hne {c : Char} (hc : SamTemplate.isBlank c = false) : spot.char ≠ c := by
    rintro rfl
    exact absurd (h.symm.trans hc) (by decide)
  have hmarker {c : Char} (hc : SamTemplate.isBlank c = false) :
      ¬ isMarker c (spot :: rest) = true := by
    unfold isMarker
    split
    · rename_i heq
      obtain ⟨rfl, -⟩ := List.cons.inj heq
      simp [hne hc]
    · exact Bool.false_ne_true
  rw [tokenAt, if_neg fun h => hne (by decide) h.2, if_neg fun h => hmarker (by decide) h.2,
    if_neg fun h => hmarker (by decide) h.2, if_neg fun h => hne (by decide) h.1,
    if_neg fun h => hne (by decide) h.1, if_neg fun h => hne (by decide) h.1] at ht
  split at ht
  all_goals try exact absurd ‹spot.char = _› (hne (by decide))
  rw [if_neg fun h => hne (by decide) h.1, if_neg fun h => hne (by decide) h.1] at ht
  exact (Option.ite_none_right_eq_some.1 ht).2

namespace Plain

theorem closeBlocks (h : lexer.Plain) (closes : Nat → Bool) : (lexer.closeBlocks closes).Plain := by
  unfold Lexer.closeBlocks
  split
  · exact h
  · have hspan : lexer.indents.span closes = ([], []) := by
      rw [h.indents]
      rfl
    rw [hspan]
    exact ⟨h.blank, rfl, by simpa using h.tokens⟩

theorem dropPlace (h : lexer.Plain) (hd : lexer.dropPlace = some lexer') : lexer'.Plain := by
  obtain ⟨-, hd⟩ := Option.ite_none_left_eq_some.1 hd
  cases hd
  exact ⟨h.blank, h.indents, h.tokens⟩

theorem notePlace (h : lexer.Plain) (hn : lexer.notePlace spot = some lexer') :
    lexer'.Plain := by
  unfold Lexer.notePlace at hn
  split at hn
  · obtain ⟨noted, hnoted, hn⟩ := Option.bind_eq_some_iff.1 hn
    cases hn
    have hplain := h.dropPlace hnoted
    exact ⟨hplain.blank, hplain.indents, hplain.tokens⟩
  · cases hn
    exact h

theorem forget (h : lexer.Plain) (hf : lexer.forget spot = some lexer') : lexer'.Plain := by
  obtain ⟨place, -, hf⟩ := Option.bind_eq_some_iff.1 hf
  obtain ⟨outerPlaces, -, hf⟩ := Option.bind_eq_some_iff.1 hf
  cases hf
  exact ⟨h.blank, h.indents, h.tokens⟩

/-- A plain scalar that is read from blanks is one more token of blanks. -/
theorem plainScalar (h : lexer.Plain) (hblank : Blank (spot :: rest))
    (hp : lexer.plainScalar spot rest = some lexer') : lexer'.Plain := by
  obtain ⟨noted, hnoted, hp⟩ := Option.bind_eq_some_iff.1 hp
  obtain ⟨plain, hplain, hp⟩ := Option.bind_eq_some_iff.1 hp
  cases hp
  have hnoted' := h.notePlace hnoted
  have hnone : ∀ c ∈ ([] : List Char), SamTemplate.isBlank c = true := fun _ hc =>
    absurd hc List.not_mem_nil
  obtain ⟨htext, hrest⟩ := blank_of_plainFrom hplain hnone hnone hblank
  refine ⟨hrest, hnoted'.indents, fun token hmem => ?_⟩
  rcases Array.mem_push.1 hmem with hmem | rfl
  · exact hnoted'.tokens token hmem
  · exact ⟨_, rfl, trim_eq_empty_iff.2 (by rwa [String.toList_ofList])⟩

/-- All tokens are plain scalars of blanks. -/
theorem finish {fuel : Nat} {tokens : List Token} (h : lexer.Plain)
    (hf : finish? fuel lexer = some tokens) :
    ∀ token ∈ tokens, token.IsBlank := by
  induction fuel generalizing lexer with
  | zero => exact nomatch hf
  | succ fuel ih =>
    have hmem := @mem_of_mem_skipGap lexer.inFlow lexer.keyAllowed false lexer.rest
    rw [finish?] at hf
    split at hf
    · obtain ⟨closed, hclosed, hf⟩ := Option.bind_eq_some_iff.1 hf
      cases hf
      exact fun token htoken => ((h.closeBlocks _).dropPlace hclosed).tokens token
        (Array.mem_toList_iff.1 htoken)
    · rename_i keyAllowed spot rest hgap
      obtain ⟨kept, hkept, hf⟩ := Option.bind_eq_some_iff.1 hf
      obtain ⟨next, hnext, hf⟩ := Option.bind_eq_some_iff.1 hf
      -- Blanks that are skipped leave only blanks to come.
      have hblank : Blank (spot :: rest) := fun other hother =>
        h.blank other (hmem (by rw [hgap]; exact hother))
      have hstart : Plain { lexer with keyAllowed } := ⟨h.blank, h.indents, h.tokens⟩
      have hscalar := tokenAt_of_blank (hblank spot List.mem_cons_self) hnext
      exact ih (((hstart.forget hkept).closeBlocks _).plainScalar hblank hscalar) hf

end Plain

end Lexer

/-- A text of blanks has only tokens of blanks. -/
theorem Token.isBlank_of_blank {text : String} {tokens : List Token} (h : trim text = "")
    (ht : Token.ofText? text = some tokens) : ∀ token ∈ tokens, token.IsBlank := by
  obtain ⟨spots, hspots, ht⟩ := Option.bind_eq_some_iff.1 ht
  have hblank := blank_of_spots? (trim_eq_empty_iff.1 h) hspots
  exact Lexer.Plain.finish ⟨hblank, rfl, fun _ hmem => absurd hmem (Array.not_mem_empty _)⟩ ht

/-! ### Values -/

/-- Tokens of blanks make a tree of one plain scalar. -/
theorem Tree.ofTokens?_of_isBlank {tokens : List Token} {tree : Tree}
    (h : ∀ token ∈ tokens, token.IsBlank) (ht : Tree.ofTokens? tokens = some tree) :
    ∃ text, tree = .scalar none none true text ∧ trim text = "" := by
  cases tokens with
  | nil =>
    cases ht
    exact ⟨"", rfl, rfl⟩
  | cons first rest =>
    obtain ⟨text, rfl, htext⟩ := h first List.mem_cons_self
    have htokens : Tree.ofTokens? (.scalar true text :: rest)
      = Tree.root? Tree.knownHandles (.scalar true text :: rest) := if_pos rfl
    have hnode : Tree.node (4 * (Token.scalar true text :: rest).length + 4) true false
        ⟨.scalar true text :: rest, Tree.knownHandles, []⟩
      = some (.scalar none none true text, ⟨rest, Tree.knownHandles, []⟩) := rfl
    rw [htokens, Tree.root?, StateT.run, hnode] at ht
    obtain ⟨_, hroot, ht⟩ := Option.bind_eq_some_iff.1 ht
    cases hroot
    obtain ⟨-, -, ht⟩ := Option.bind_eq_some_iff.1 ht
    cases ht
    exact ⟨text, rfl, htext⟩

theorem Value.ofTree?_plain (text : String) :
    ofTree? (.scalar none none true text) = ofPlain? text := by
  change ((ofPlain? text).bind fun value => some (value, 100)).bind (fun read => some read.1) = _
  cases ofPlain? text <;> rfl

/-- A text of blanks says nothing, or a text of blanks. -/
theorem Value.ofText?_of_blank {text : String} {value : Value} (h : trim text = "")
    (hv : ofText? text = some value) : value = .null ∨ ∃ blank, value = .str blank ∧
      trim blank = "" := by
  obtain ⟨tokens, htokens, hv⟩ := Option.bind_eq_some_iff.1 hv
  obtain ⟨tree, htree, hv⟩ := Option.bind_eq_some_iff.1 hv
  obtain ⟨blank, rfl, hblank⟩ := Tree.ofTokens?_of_isBlank (Token.isBlank_of_blank h htokens) htree
  rw [ofTree?_plain] at hv
  rcases ofPlain?_of_blank hblank with hnull | hstr
  · exact .inl (Option.some.inj (hv.symm.trans hnull))
  · exact .inr ⟨blank, Option.some.inj (hv.symm.trans hstr), hblank⟩

end Yaml

/-- A text of blanks describes nothing, or a text of blanks. -/
theorem Node.ofYaml_of_blank {text : String} {value : Yaml.Value} (h : trim text = "")
    (hv : Yaml.Value.ofText? text = some value) :
    ofYaml value = .null ∨ ∃ blank, ofYaml value = .str blank ∧ trim blank = "" := by
  rcases Yaml.Value.ofText?_of_blank h hv with rfl | ⟨blank, rfl, hblank⟩
  · exact .inl rfl
  · exact .inr ⟨blank, rfl, hblank⟩

end SamTemplate
