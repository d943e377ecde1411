import Mathlib.Data.List.Forall2
import Mathlib.Data.List.TakeWhile
import SamTemplate.Resolution.Interpolation
import SamTemplate.Text.Pieces

/-!
# Tokens of a text

A token has one dollar sign, with which it begins. So no two tokens of a text overlap, and a
text is made of its tokens and of single characters beside them in one way only
(`Segmented`). Interpolation goes along these segments: each token gives way to the value of
its name, and nothing else changes.

* `token_front`: what comes after a token at the front of a text;
* `Segmented.tokenAt_iff`: the tokens of a text are those among its segments;
* `interpolateFrom_append`: texts that no token straddles are interpolated one by one;
* `interpolate_tokens`: what interpolation does with a text.
-/

namespace SamTemplate

/-! ### Names and tokens -/

/-- A name, as it stands in a token. -/
def IsName (name : List Char) : Prop := name ≠ [] ∧ ∀ c ∈ name, isNameChar c = true

/-- A text has a token of the name, with these texts before and after it. -/
structure TokenAt (text before name after : List Char) : Prop where
  isName : IsName name
  eq : text = before ++ tokenOf name ++ after

/-- A token stands partly at the end of the first text and partly at the front of the
    second. -/
def Straddled (first second : List Char) : Prop :=
  ∃ name left right, IsName name ∧ tokenOf name = left ++ right ∧ left ≠ [] ∧ right ≠ [] ∧
    left <:+ first ∧ right <+: second

variable {text before before' after after' name name' rest first second : List Char} {c : Char}

theorem tokenName?_eq_some {text name : List Char} (h : tokenName? text = some name) :
    IsName name ∧ tokenOf name <+: text := by
  unfold tokenName? at h
  split at h
  · rename_i rest
    dsimp only at h
    split at h
    · rename_i hclosed
      cases h
      obtain ⟨tail, htail⟩ :
          ∃ tail, rest.drop (rest.takeWhile isNameChar).length = '\x7d' :: tail :=
        List.head?_eq_some_iff.1 hclosed.2
      refine ⟨⟨hclosed.1, fun c hc => List.mem_takeWhile_imp hc⟩, tail, ?_⟩
      have hrest := List.prefix_iff_eq_append.1 (List.takeWhile_prefix (l := rest) isNameChar)
      rw [htail] at hrest
      simp [tokenOf, hrest]
    · exact nomatch h
  · exact nomatch h

theorem tokenName?_tokenOf (h : IsName name) (rest : List Char) :
    tokenName? (tokenOf name ++ rest) = some name := by
  have htake : (name ++ '\x7d' :: rest).takeWhile isNameChar = name := by
    rw [List.takeWhile_append_of_pos h.2, List.takeWhile_cons_of_neg (by decide), List.append_nil]
  have htext : tokenOf name ++ rest = '$' :: '\x7b' :: (name ++ '\x7d' :: rest) := by
    simp [tokenOf]
  simp [htext, tokenName?, htake, h.1]

/-- There is no token at the front of a text of which no name is read. -/
theorem not_prefix_of_tokenName? (h : tokenName? text = none) (hname : IsName name) :
    ¬ tokenOf name <+: text := by
  rintro ⟨rest, rfl⟩
  rw [tokenName?_tokenOf hname] at h
  exact nomatch h

theorem isName_singleton (h : isNameChar c = true) : IsName [c] :=
  ⟨List.cons_ne_nil _ _, by simpa using h⟩

theorem IsName.dollar_notMem (h : IsName name) : '$' ∉ name :=
  fun hmem => absurd (h.2 _ hmem) (by decide)

/-- Only at its beginning does a token have a dollar sign. -/
theorem IsName.dollar_notMem_tail (h : IsName name) : '$' ∉ (tokenOf name).tail := by
  simp [tokenOf, h.dollar_notMem]

/-- A token at the front of a text is the first one, and any other comes after it. -/
theorem token_front (h : IsName name) (h' : IsName name')
    (heq : tokenOf name ++ rest = before ++ tokenOf name' ++ after) :
    (before = [] ∧ name = name' ∧ rest = after) ∨
      ∃ gap, before = tokenOf name ++ gap ∧ rest = gap ++ tokenOf name' ++ after := by
  rw [List.append_assoc] at heq
  rcases List.append_eq_append_iff.1 heq with ⟨gap, hbefore, hrest⟩ | ⟨part, htoken, hpart⟩
  · exact .inr ⟨gap, hbefore, by rw [hrest, List.append_assoc]⟩
  · cases before with
    | nil =>
      rw [List.nil_append] at htoken
      have hname : some name = some name' := by
        rw [← tokenName?_tokenOf h rest, ← tokenName?_tokenOf h' after, hpart, htoken]
      obtain rfl := Option.some.inj hname
      exact .inl ⟨rfl, rfl, (List.append_cancel_left (heq.trans (List.nil_append _)))⟩
    | cons first others =>
      -- The other token would begin inside of the first one, or right after it.
      cases part with
      | nil =>
        refine .inr ⟨[], by simp [htoken], ?_⟩
        simpa using hpart.symm
      | cons d part =>
        obtain rfl : '$' = d := (List.cons.inj hpart).1
        refine absurd ?_ h.dollar_notMem_tail
        rw [htoken]
        simp

/-- Two tokens of a text are one, or one comes before the other. -/
theorem TokenAt.disjoint (h : TokenAt text before name after)
    (h' : TokenAt text before' name' after') :
    (before = before' ∧ name = name') ∨ before ++ tokenOf name <+: before' ∨
      before' ++ tokenOf name' <+: before := by
  have heq := h.eq.symm.trans h'.eq
  simp only [List.append_assoc] at heq
  rcases List.append_eq_append_iff.1 heq with ⟨gap, rfl, hgap⟩ | ⟨gap, rfl, hgap⟩
  · rw [← List.append_assoc] at hgap
    rcases token_front h.isName h'.isName hgap with ⟨rfl, rfl, -⟩ | ⟨gap', rfl, -⟩
    · exact .inl ⟨(List.append_nil _).symm, rfl⟩
    · exact .inr (.inl ⟨gap', by simp⟩)
  · rw [← List.append_assoc] at hgap
    rcases token_front h'.isName h.isName hgap with ⟨rfl, rfl, -⟩ | ⟨gap', rfl, -⟩
    · exact .inl ⟨List.append_nil _, rfl⟩
    · exact .inr (.inr ⟨gap', by simp⟩)

/-! ### Texts put together -/

theorem Straddled.append_left (h : Straddled first second) (front : List Char) :
    Straddled (front ++ first) second := by
  obtain ⟨name, left, right, hname, htoken, hleft, hright, hsuffix, hprefix⟩ := h
  exact ⟨name, left, right, hname, htoken, hleft, hright,
    hsuffix.trans (List.suffix_append _ _), hprefix⟩

/-- A token goes on with the first character of the second text. -/
theorem Straddled.mem_tail (h : Straddled first (c :: second)) :
    ∃ name, IsName name ∧ c ∈ (tokenOf name).tail := by
  obtain ⟨name, left, right, hname, htoken, hleft, hright, -, hprefix⟩ := h
  refine ⟨name, hname, ?_⟩
  rcases left with _ | ⟨d, left⟩
  · exact absurd rfl hleft
  · rcases right with _ | ⟨d', right⟩
    · exact absurd rfl hright
    · obtain ⟨rfl, -⟩ := List.cons_prefix_cons.1 hprefix
      simp [htoken]

/-- A token has the last character of the first text. -/
theorem Straddled.mem (h : Straddled (first ++ [c]) second) :
    ∃ name, IsName name ∧ c ∈ tokenOf name := by
  obtain ⟨name, left, right, hname, htoken, hleft, -, hsuffix, -⟩ := h
  refine ⟨name, hname, ?_⟩
  rcases List.suffix_concat_iff.1 hsuffix with hnil | ⟨left', rfl, -⟩
  · exact absurd hnil hleft
  · simp [htoken]

/-- A token at the front of texts put together is at the front of the first, or straddles
    the two. -/
theorem prefix_or_straddled (hname : IsName name) (h : tokenOf name <+: first ++ second)
    (hfirst : first ≠ []) : tokenOf name <+: first ∨ Straddled first second := by
  rcases Nat.lt_or_ge first.length (tokenOf name).length with hlong | hshort
  · obtain ⟨right, hright⟩ : first <+: tokenOf name :=
      List.prefix_of_prefix_length_le (List.prefix_append _ _) h (Nat.le_of_lt hlong)
    refine .inr ⟨name, first, right, hname, hright.symm, hfirst, ?_, List.suffix_rfl, ?_⟩
    · rintro rfl
      rw [← hright] at hlong
      simp at hlong
    · rwa [← hright, List.prefix_append_right_inj] at h
  · exact .inl (List.prefix_of_prefix_length_le h (List.prefix_append _ _) hshort)

/-! ### Segments -/

/-- A part of a text: a character, or a token. -/
inductive Segment where
  /-- A character. -/
  | char (c : Char)
  /-- The token of a name. -/
  | token (name : List Char)

namespace Segment

/-- How a segment is written. -/
def written : Segment → List Char
  | char c => [c]
  | token name => tokenOf name

/-- What comes of a segment where names have these values. -/
def replaced (valueOf? : List Char → Option String) : Segment → List Char
  | char c => [c]
  | token name => ((valueOf? name).map String.toList).getD (tokenOf name)

end Segment

/-- The segments of a text, from the left: a token where there is one, and else a
    character. -/
inductive Segmented : List Char → List Segment → Prop
  | nil : Segmented [] []
  | token {name rest : List Char} {segments : List Segment} : IsName name →
      Segmented rest segments → Segmented (tokenOf name ++ rest) (.token name :: segments)
  | char {c : Char} {rest : List Char} {segments : List Segment} : tokenName? (c :: rest) = none →
      Segmented rest segments → Segmented (c :: rest) (.char c :: segments)

variable {segments : List Segment}

/-- Every text has segments. -/
theorem exists_segmented (text : List Char) : ∃ segments, Segmented text segments := by
  induction hn : text.length using Nat.strong_induction_on generalizing text with
  | _ n ih =>
    cases text with
    | nil => exact ⟨_, .nil⟩
    | cons c rest =>
      cases hname : tokenName? (c :: rest) with
      | none =>
        obtain ⟨segments, h⟩ := ih rest.length (by simp [← hn]) rest rfl
        exact ⟨_, .char hname h⟩
      | some name =>
        obtain ⟨hisName, after, hafter⟩ := tokenName?_eq_some hname
        have hlength : after.length < n := by
          rw [← hn, ← hafter, List.length_append, tokenOf, List.length_cons]
          omega
        obtain ⟨segments, h⟩ := ih after.length hlength after rfl
        rw [← hafter]
        exact ⟨_, .token hisName h⟩

namespace Segmented

theorem written_eq (h : Segmented text segments) : segments.flatMap Segment.written = text := by
  induction h with
  | nil => rfl
  | token _ _ ih => rw [List.flatMap_cons, ih]; rfl
  | char _ _ ih => rw [List.flatMap_cons, ih]; rfl

/-- The tokens of a text are the tokens among its segments. -/
theorem tokenAt_iff (h : Segmented text segments) :
    TokenAt text before name after ↔ ∃ left right, segments = left ++ .token name :: right ∧
      left.flatMap Segment.written = before ∧ right.flatMap Segment.written = after := by
  induction h generalizing before with
  | nil =>
    refine ⟨fun ⟨_, heq⟩ => ?_, fun ⟨left, _, heq, _⟩ => ?_⟩
    · simp [tokenOf] at heq
    · simp at heq
  | @token name' rest segments hname' h ih =>
    -- A token of the text is the first segment, or it comes after that.
    constructor
    · rintro ⟨hname, heq⟩
      rcases token_front hname' hname heq with ⟨rfl, rfl, rfl⟩ | ⟨gap, rfl, hrest⟩
      · exact ⟨[], segments, rfl, rfl, h.written_eq⟩
      · obtain ⟨left, right, rfl, rfl, hright⟩ := ih.1 ⟨hname, hrest⟩
        exact ⟨.token name' :: left, right, rfl, rfl, hright⟩
    · rintro ⟨left, right, heq, hleft, hright⟩
      cases left with
      | nil =>
        obtain ⟨hsegment, rfl⟩ := List.cons.inj heq
        obtain rfl := Segment.token.inj hsegment
        rw [← hleft, ← hright, h.written_eq]
        exact ⟨hname', by simp⟩
      | cons segment left =>
        obtain ⟨rfl, hsegments⟩ := List.cons.inj heq
        obtain ⟨hname, hrest⟩ := ih.2 ⟨left, right, hsegments, rfl, hright⟩
        refine ⟨hname, ?_⟩
        rw [← hleft, hrest]
        simp [Segment.written]
  | @char c rest segments hc h ih =>
    constructor
    · rintro ⟨hname, heq⟩
      cases before with
      | nil => exact absurd ⟨after, by simpa using heq.symm⟩ (not_prefix_of_tokenName? hc hname)
      | cons first others =>
        obtain ⟨rfl, hrest⟩ := List.cons.inj heq
        obtain ⟨left, right, rfl, rfl, hright⟩ := ih.1 ⟨hname, hrest⟩
        exact ⟨.char c :: left, right, rfl, rfl, hright⟩
    · rintro ⟨left, right, heq, hleft, hright⟩
      cases left with
      | nil => exact nomatch (List.cons.inj heq).1
      | cons segment left =>
        obtain ⟨rfl, hsegments⟩ := List.cons.inj heq
        obtain ⟨hname, hrest⟩ := ih.2 ⟨left, right, hsegments, rfl, hright⟩
        refine ⟨hname, ?_⟩
        rw [← hleft, hrest]
        simp [Segment.written]

end Segmented

/-! ### Interpolation -/

section

variable (valueOf? : List Char → Option String)

theorem interpolateFrom_eq_drop (skip : Nat) (text : List Char) :
    interpolateFrom valueOf? skip text = interpolateFrom valueOf? 0 (text.drop skip) := by
  induction text generalizing skip with
  | nil => cases skip <;> rfl
  | cons c rest ih =>
    cases skip with
    | zero => rfl
    | succ skip => exact ih skip

/-- A token gives way to the value of its name. -/
theorem interpolateFrom_token (h : IsName name) (rest : List Char) :
    interpolateFrom valueOf? 0 (tokenOf name ++ rest)
      = ((valueOf? name).map String.toList).getD (tokenOf name)
        ++ interpolateFrom valueOf? 0 rest := by
  have hname := tokenName?_tokenOf h rest
  have htext : tokenOf name ++ rest = '$' :: '\x7b' :: (name ++ '\x7d' :: rest) := by
    simp [tokenOf]
  have hdrop : ('\x7b' :: (name ++ '\x7d' :: rest)).drop (name.length + 2) = rest := by
    simp
  rw [htext] at hname ⊢
  rw [interpolateFrom, hname]
  dsimp only
  rw [interpolateFrom_eq_drop, hdrop]

/-- A character at which there is no token stays. -/
theorem interpolateFrom_char (h : tokenName? (c :: rest) = none) :
    interpolateFrom valueOf? 0 (c :: rest) = c :: interpolateFrom valueOf? 0 rest := by
  rw [interpolateFrom, h]

/-- Interpolation goes along the segments of a text. -/
theorem Segmented.interpolateFrom_eq (h : Segmented text segments) :
    interpolateFrom valueOf? 0 text = segments.flatMap (Segment.replaced valueOf?) := by
  induction h with
  | nil => rfl
  | token hname _ ih => rw [interpolateFrom_token _ hname, ih]; rfl
  | char hc _ ih => rw [interpolateFrom_char _ hc, ih]; rfl

/-- Texts that no token straddles are interpolated one by one. -/
theorem interpolateFrom_append (h : ¬ Straddled first second) :
    interpolateFrom valueOf? 0 (first ++ second)
      = interpolateFrom valueOf? 0 first ++ interpolateFrom valueOf? 0 second := by
  obtain ⟨segments, hs⟩ := exists_segmented first
  induction hs with
  | nil => rfl
  | @token name rest _ hname _ ih =>
    rw [List.append_assoc, interpolateFrom_token _ hname, interpolateFrom_token _ hname,
      ih fun hrest => h (hrest.append_left _), List.append_assoc]
  | @char c rest _ hc _ ih =>
    -- A token that begins here in the whole text would reach into the second one.
    have hc' : tokenName? (c :: (rest ++ second)) = none := by
      rcases hname : tokenName? (c :: (rest ++ second)) with _ | name
      · rfl
      obtain ⟨hisName, htoken⟩ := tokenName?_eq_some hname
      rcases prefix_or_straddled hisName htoken (List.cons_ne_nil c rest) with hfront | hs
      · exact absurd hfront (not_prefix_of_tokenName? hc hisName)
      · exact absurd hs h
    rw [List.cons_append, interpolateFrom_char _ hc', interpolateFrom_char _ hc,
      ih fun hrest => h (hrest.append_left [c]), List.cons_append]

/-- A text in which every token stands for itself stays as it is. -/
theorem interpolateFrom_eq_self
    (h : ∀ name, IsName name → tokenOf name <:+: text →
      Segment.replaced valueOf? (.token name) = tokenOf name) :
    interpolateFrom valueOf? 0 text = text := by
  obtain ⟨segments, hs⟩ := exists_segmented text
  induction hs with
  | nil => rfl
  | @token name rest _ hname _ ih =>
    have hself := h name hname (List.prefix_append _ _).isInfix
    rw [Segment.replaced] at hself
    rw [interpolateFrom_token _ hname, hself, ih fun name' hname' htoken =>
      h name' hname' (htoken.trans (List.suffix_append _ _).isInfix)]
  | @char c rest _ hc _ ih =>
    rw [interpolateFrom_char _ hc, ih fun name' hname' htoken =>
      h name' hname' (htoken.trans (List.suffix_cons _ _).isInfix)]

end

/-! ### What interpolation does -/

/-- What stands in a segment's place after interpolation: the character, or for a token the
    value of the parameter, the stand-in for a name of the platform, or the token itself. -/
inductive Segment.Gives (parameters : Parameters) : Segment → List Char → Prop
  | char (c : Char) : Gives parameters (.char c) [c]
  | parameter {name : List Char} {value : String} :
      parameters.get? (String.ofList name) = some value →
      Gives parameters (.token name) value.toList
  | platform {rest : List Char} :
      parameters.get? (String.ofList ("AWS::".toList ++ rest)) = none →
      Gives parameters (.token ("AWS::".toList ++ rest)) ("local-".toList ++ rest)
  | unknown {name : List Char} : parameters.get? (String.ofList name) = none →
      ¬ "AWS::".toList <+: name → Gives parameters (.token name) (tokenOf name)

theorem Segment.gives_replaced (parameters : Parameters) (segment : Segment) :
    segment.Gives parameters (segment.replaced parameters.valueOf?) := by
  cases segment with
  | char c => exact .char c
  | token name =>
    rw [replaced, Parameters.valueOf?.eq_def]
    cases hget : parameters.get? (String.ofList name) with
    | some value => exact .parameter hget
    | none =>
      dsimp only
      split
      · rename_i rest
        have hvalue : ("local-" ++ String.ofList rest).toList = "local-".toList ++ rest := by
          simp
        rw [Option.map_some, Option.getD_some, hvalue]
        exact .platform hget
      · rename_i hother
        refine .unknown hget ?_
        rintro ⟨rest, rfl⟩
        exact hother rest rfl

/-- Every part of a text gives way to what it gives, and the parts are the tokens of the
    text and the characters beside them. -/
structure Replaced (parameters : Parameters) (text : String) (segments : List Segment)
    (texts : List (List Char)) : Prop where
  written : segments.flatMap Segment.written = text.toList
  tokens : ∀ before name after, TokenAt text.toList before name after ↔
    ∃ left right, segments = left ++ .token name :: right ∧
      left.flatMap Segment.written = before ∧ right.flatMap Segment.written = after
  gives : List.Forall₂ (Segment.Gives parameters) segments texts
  result : interpolate parameters text = String.ofList texts.flatten

/-- The tokens of a text do not overlap. Interpolation replaces each of them, once, and
    nothing else. So texts that no token straddles are interpolated one by one, and a text
    without the beginning of a token stays as it is. -/
theorem interpolate_tokens (parameters : Parameters) (text : String) :
    (∀ before name after before' name' after', TokenAt text.toList before name after →
      TokenAt text.toList before' name' after' →
      (before = before' ∧ name = name') ∨ before ++ tokenOf name <+: before' ∨
        before' ++ tokenOf name' <+: before) ∧
    (∃ segments texts, Replaced parameters text segments texts) ∧
    (∀ first second : String, text = first ++ second → ¬ Straddled first.toList second.toList →
      interpolate parameters text
        = interpolate parameters first ++ interpolate parameters second) ∧
    (contains text "$\x7b" = false → interpolate parameters text = text) := by
  obtain ⟨segments, hs⟩ := exists_segmented text.toList
  refine ⟨fun _ _ _ _ _ _ h h' => h.disjoint h',
    ⟨segments, segments.map (Segment.replaced parameters.valueOf?), ?_⟩, ?_, ?_⟩
  · exact {
      written := hs.written_eq
      tokens := fun _ _ _ => hs.tokenAt_iff
      gives := List.forall₂_map_right_iff.2
        (List.forall₂_same.2 fun segment _ => segment.gives_replaced parameters)
      result := by rw [interpolate, hs.interpolateFrom_eq, List.flatMap] }
  · rintro first second rfl h
    rw [interpolate, String.toList_append, interpolateFrom_append _ h, String.ofList_append]
    rfl
  · intro h
    have hself : interpolateFrom parameters.valueOf? 0 text.toList = text.toList := by
      refine interpolateFrom_eq_self _ fun name hname htoken => ?_
      have hbegin : "$\x7b".toList <:+: text.toList :=
        (List.prefix_append ['$', '\x7b'] _).isInfix.trans htoken
      exact absurd (occursIn_eq_true_iff.2 hbegin) (Bool.eq_false_iff.1 h)
    rw [interpolate, hself, String.ofList_toList]

/-- Parameters with a token in a value. -/
def nestedValues : Parameters := .ofList [("A", "$\x7bB\x7d"), ("B", "b")]

/-- Next to a dollar sign and inside of braces that do not close tokens are replaced as well,
    and what is put in is not looked at again. -/
theorem interpolate_tokens_nested :
    TokenAt "$$\x7bA\x7d$\x7b$\x7bB\x7d".toList "$".toList ['A'] "$\x7b$\x7bB\x7d".toList ∧
      TokenAt "$$\x7bA\x7d$\x7b$\x7bB\x7d".toList "$$\x7bA\x7d$\x7b".toList ['B'] [] ∧
      "$".toList ++ tokenOf ['A'] <+: "$$\x7bA\x7d$\x7b".toList ∧
      ¬ Straddled "$$\x7bA\x7d".toList "$\x7b$\x7bB\x7d".toList ∧
      interpolate nestedValues "$$\x7bA\x7d$\x7b$\x7bB\x7d"
        = interpolate nestedValues "$$\x7bA\x7d" ++ interpolate nestedValues "$\x7b$\x7bB\x7d" ∧
      interpolate nestedValues "$$\x7bA\x7d" = "$$\x7bB\x7d" ∧
      interpolate nestedValues "$\x7b$\x7bB\x7d" = "$\x7bb" ∧
      contains "\x7bA\x7d" "$\x7b" = false ∧
      interpolate nestedValues "\x7bA\x7d" = "\x7bA\x7d" := by
  have hA : TokenAt "$$\x7bA\x7d$\x7b$\x7bB\x7d".toList "$".toList ['A']
      "$\x7b$\x7bB\x7d".toList := ⟨isName_singleton rfl, by decide⟩
  have hB : TokenAt "$$\x7bA\x7d$\x7b$\x7bB\x7d".toList "$$\x7bA\x7d$\x7b".toList ['B'] [] :=
    ⟨isName_singleton rfl, by decide⟩
  obtain ⟨hdisjoint, -, happend, -⟩ :=
    interpolate_tokens nestedValues "$$\x7bA\x7d$\x7b$\x7bB\x7d"
  have hbefore := ((hdisjoint _ _ _ _ _ _ hA hB).resolve_left (by decide)).resolve_right (by decide)
  have hstraddled : ¬ Straddled "$$\x7bA\x7d".toList "$\x7b$\x7bB\x7d".toList := by
    intro h
    obtain ⟨_, hname, hmem⟩ := h.mem_tail
    exact hname.dollar_notMem_tail hmem
  exact ⟨hA, hB, hbefore, hstraddled, happend _ _ rfl hstraddled, rfl, rfl, rfl,
    (interpolate_tokens nestedValues "\x7bA\x7d").2.2.2 rfl⟩

end SamTemplate
