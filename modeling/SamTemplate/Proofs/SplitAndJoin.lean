import SamTemplate.Proofs.Shadowing

/-!
# Cutting texts and putting them together

A text that is cut at a delimiter is given back by putting its pieces together with the
delimiter, and pieces without the delimiter by cutting what they make. Both calls have their
texts walked on the way, so this holds if interpolation leaves the pieces as they are. That
the text is left as it is does not suffice: what the tokens of the pieces stand for may make
up the same text in another way (`join_split_displaced`). It does if each token of the text
stands for itself (`Inert`), or if no token can reach the ends of the delimiter
(`SetApart`).

* `interpolateFrom_of_append_cons`: a text that stays as it is has parts that do, on either
  side of a character of no token;
* `Session.resolveAt_split_join`: cutting and putting together undo each other.
-/

namespace SamTemplate

/-! ### Texts that stay as they are -/

/-- Interpolation leaves a text as it is. -/
def Fixed (parameters : Parameters) (text : String) : Prop := interpolate parameters text = text

instance (parameters : Parameters) (text : String) : Decidable (Fixed parameters text) :=
  inferInstanceAs (Decidable (_ = _))

/-- Each token of a text stands for itself: nothing is known of its name, or it is the value
    of its name. -/
def Inert (parameters : Parameters) (text : String) : Prop :=
  ∀ name, IsName name → tokenOf name <:+: text.toList →
    parameters.valueOf? name = none ∨
      parameters.valueOf? name = some (String.ofList (tokenOf name))

/-- A character that tokens are made of. -/
def isTokenChar (c : Char) : Bool := isNameChar c || c = '$' || c = '\x7b' || c = '\x7d'

/-- A delimiter that begins and ends with a character of no token. -/
structure SetApart (delimiter : String) : Prop where
  first : ∃ c rest, delimiter.toList = c :: rest ∧ isTokenChar c = false
  last : ∃ front c, delimiter.toList = front ++ [c] ∧ isTokenChar c = false

variable {valueOf? : List Char → Option String} {parameters : Parameters}
  {name text delimiter first second : List Char} {parts : List (List Char)} {c : Char}

theorem IsName.isTokenChar_of_mem (h : IsName name) (hc : c ∈ tokenOf name) :
    isTokenChar c = true := by
  simp only [tokenOf, List.mem_cons, List.mem_append, List.not_mem_nil, or_false] at hc
  rcases hc with rfl | rfl | hc | rfl
  · rfl
  · rfl
  · simp [isTokenChar, h.2 c hc]
  · rfl

/-- No token reaches over a character that tokens are not made of. -/
theorem not_straddled_cons (hc : isTokenChar c = false) : ¬ Straddled first (c :: second) := by
  intro h
  obtain ⟨name, hname, hmem⟩ := h.mem_tail
  have htoken := hname.isTokenChar_of_mem (List.mem_of_mem_tail hmem)
  exact absurd (hc.symm.trans htoken) Bool.false_ne_true

theorem not_straddled_concat (hc : isTokenChar c = false) :
    ¬ Straddled (first ++ [c]) second := by
  intro h
  obtain ⟨name, hname, hmem⟩ := h.mem
  exact absurd (hc.symm.trans (hname.isTokenChar_of_mem hmem)) Bool.false_ne_true

theorem interpolateFrom_append_cons (hc : isTokenChar c = false) :
    interpolateFrom valueOf? 0 (first ++ c :: second)
      = interpolateFrom valueOf? 0 first ++ c :: interpolateFrom valueOf? 0 second := by
  have hlone : interpolateFrom valueOf? 0 [c] = [c] := by
    refine interpolateFrom_eq_self valueOf? fun name hname htoken => ?_
    -- The dollar sign of the token would be the one character.
    obtain rfl : '$' = c := List.mem_singleton.1 (htoken.subset List.mem_cons_self)
    exact nomatch hc
  have hafter : interpolateFrom valueOf? 0 (c :: second)
      = interpolateFrom valueOf? 0 [c] ++ interpolateFrom valueOf? 0 second :=
    interpolateFrom_append _ (@not_straddled_concat [] second c hc)
  rw [interpolateFrom_append _ (not_straddled_cons hc), hafter, hlone]
  rfl

/-- No character of those that tokens are not made of is lost. -/
theorem count_le_count_interpolateFrom (hc : isTokenChar c = false) (text : List Char) :
    text.count c ≤ (interpolateFrom valueOf? 0 text).count c := by
  obtain ⟨segments, hs⟩ := exists_segmented text
  induction hs with
  | nil => rfl
  | @token name rest _ hname _ ih =>
    have hnone : (tokenOf name).count c = 0 := List.count_eq_zero.2 fun hmem =>
      absurd (hc.symm.trans (hname.isTokenChar_of_mem hmem)) Bool.false_ne_true
    rw [interpolateFrom_token _ hname, List.count_append, List.count_append, hnone]
    omega
  | @char d rest _ hd _ ih =>
    rw [interpolateFrom_char _ hd, List.count_cons, List.count_cons]
    omega

/-- Texts with as many occurrences of a character before one of them. -/
theorem append_cons_inj_of_count {first' second' : List Char}
    (h : first ++ c :: second = first' ++ c :: second') (hcount : first.count c = first'.count c) :
    first = first' ∧ second = second' := by
  rcases List.append_eq_append_iff.1 h with ⟨gap, rfl, hgap⟩ | ⟨gap, rfl, hgap⟩ <;>
    rcases gap with _ | ⟨d, gap⟩
  · simpa using hgap
  · obtain ⟨rfl, -⟩ := List.cons.inj hgap
    simp at hcount
  · simpa using hgap.symm
  · obtain ⟨rfl, -⟩ := List.cons.inj hgap
    simp at hcount

/-- If a text stays as it is, so does what is on either side of a character of no token. -/
theorem interpolateFrom_of_append_cons (hc : isTokenChar c = false)
    (h : interpolateFrom valueOf? 0 (first ++ c :: second) = first ++ c :: second) :
    interpolateFrom valueOf? 0 first = first ∧ interpolateFrom valueOf? 0 second = second := by
  rw [interpolateFrom_append_cons hc] at h
  -- Neither side has fewer of the character than before, and both together have as many.
  have hfirst := @count_le_count_interpolateFrom valueOf? c hc first
  have hsecond := @count_le_count_interpolateFrom valueOf? c hc second
  have hboth := congrArg (List.count c) h
  simp only [List.count_append, List.count_cons_self] at hboth
  exact append_cons_inj_of_count h (by omega)

/-- If a text stays as it is, so do its pieces between delimiters that are set apart. -/
theorem interpolateFrom_of_intercalate {front rest : List Char} {d : Char}
    (hfirst : delimiter = c :: rest) (hc : isTokenChar c = false)
    (hlast : delimiter = front ++ [d]) (hd : isTokenChar d = false)
    (h : interpolateFrom valueOf? 0 (delimiter.intercalate parts) = delimiter.intercalate parts) :
    ∀ part ∈ parts, interpolateFrom valueOf? 0 part = part := by
  induction parts with
  | nil => exact fun _ hmem => absurd hmem List.not_mem_nil
  | cons part others ih =>
    cases others with
    | nil => simpa using h
    | cons next others =>
      have hbegin : delimiter.intercalate (part :: next :: others)
          = part ++ c :: (rest ++ delimiter.intercalate (next :: others)) := by
        rw [List.intercalate_cons_cons]
        nth_rewrite 1 [hfirst]
        simp
      have hend : delimiter.intercalate (part :: next :: others)
          = (part ++ front) ++ d :: delimiter.intercalate (next :: others) := by
        rw [List.intercalate_cons_cons]
        nth_rewrite 1 [hlast]
        simp
      refine List.forall_mem_cons.2 ⟨?_, ih ?_⟩
      · rw [hbegin] at h
        exact (interpolateFrom_of_append_cons hc h).1
      · rw [hend] at h
        exact (interpolateFrom_of_append_cons hd h).2

theorem fixed_iff {text : String} :
    Fixed parameters text ↔ interpolateFrom parameters.valueOf? 0 text.toList = text.toList := by
  rw [Fixed, interpolate]
  exact ⟨fun h => by simpa using congrArg String.toList h, fun h => by rw [h, String.ofList_toList]⟩

theorem Inert.fixed {text : String} (h : Inert parameters text) : Fixed parameters text := by
  refine fixed_iff.2 (interpolateFrom_eq_self _ fun name hname htoken => ?_)
  rcases h name hname htoken with hvalue | hvalue <;> simp [Segment.replaced, hvalue]

/-- A text without dollar signs has no tokens. -/
theorem fixed_of_dollar_notMem {text : String} (h : '$' ∉ text.toList) : Fixed parameters text :=
  Inert.fixed fun _ _ htoken => absurd (htoken.subset List.mem_cons_self) h

theorem mem_infix_intercalate {part : List Char} (h : part ∈ parts) :
    part <:+: delimiter.intercalate parts := by
  induction parts with
  | nil => exact absurd h List.not_mem_nil
  | cons first others ih =>
    cases others with
    | nil =>
      obtain rfl := List.mem_singleton.1 h
      exact ⟨[], [], by simp⟩
    | cons next others =>
      rw [List.intercalate_cons_cons, List.append_assoc]
      rcases List.mem_cons.1 h with rfl | h
      · exact (List.prefix_append _ _).isInfix
      · exact (ih h).trans ((List.suffix_append _ _).trans (List.suffix_append _ _)).isInfix

/-- The pieces of a text stay as they are if all of its tokens stand for themselves, or if it
    stays as it is and the delimiter is set apart. -/
theorem fixed_pieces {delimiter source : String} (hd : delimiter ≠ "")
    (h : Inert parameters source ∨ (Fixed parameters source ∧ SetApart delimiter)) :
    Fixed parameters source ∧ ∀ piece ∈ pieces delimiter source, Fixed parameters piece := by
  have hdelimiter : delimiter.toList ≠ [] := fun hnil => hd (String.ext (by simpa using hnil))
  have hcut : delimiter.toList.intercalate (piecesFrom delimiter.toList 0 source.toList)
      = source.toList := intercalate_piecesFrom hdelimiter 0 _
  rcases h with hinert | ⟨hfixed, ⟨⟨c, rest, hfirst, hc⟩, ⟨front, d, hlast, hd'⟩⟩⟩
  · refine ⟨hinert.fixed, fun piece hpiece => Inert.fixed fun name hname htoken => ?_⟩
    obtain ⟨part, hpart, rfl⟩ := List.mem_map.1 hpiece
    rw [String.toList_ofList] at htoken
    exact hinert name hname (hcut ▸ htoken.trans (mem_infix_intercalate hpart))
  · refine ⟨hfixed, fun piece hpiece => ?_⟩
    obtain ⟨part, hpart, rfl⟩ := List.mem_map.1 hpiece
    rw [fixed_iff, ← hcut] at hfixed
    rw [fixed_iff, String.toList_ofList]
    exact interpolateFrom_of_intercalate hfirst hc hlast hd' hfixed part hpart

theorem dollar_notMem_join {delimiter : String} {texts : List String} (hd : '$' ∉ delimiter.toList)
    (h : ∀ text ∈ texts, '$' ∉ text.toList) : '$' ∉ (join delimiter texts).toList := by
  rw [join, String.toList_ofList]
  induction texts with
  | nil => simp [List.intercalate]
  | cons text others ih =>
    obtain ⟨htext, hothers⟩ := List.forall_mem_cons.1 h
    cases others with
    | nil => simpa using htext
    | cons next others =>
      rw [List.map_cons, List.map_cons, List.intercalate_cons_cons, List.mem_append,
        List.mem_append]
      exact not_or.2 ⟨not_or.2 ⟨htext, hd⟩, ih hothers⟩

/-! ### Calls -/

/-- The call of a split. -/
def splitCall (delimiter source : Node) : Node :=
  .call Intrinsic.split.name (.seq [delimiter, source])

/-- The call of a join. -/
def joinCall (separator elements : Node) : Node :=
  .call Intrinsic.join.name (.seq [separator, elements])

open Evaluation

namespace Intrinsic

variable {resolve : Node → Evaluation Node} {holds : String → Evaluation Bool} {s : Session}

theorem resolveText_apply {operand : Node} {text : String}
    (h : resolve operand s = some (.str text, s)) :
    resolveText resolve operand s = some (text, s) :=
  bind_eq_some_iff.2 ⟨.str text, s, h, rfl⟩

theorem expand_splitCall {operand operand' : Node} {delimiter source : String}
    (hd : delimiter ≠ "") (hdelimiter : resolve operand s = some (.str delimiter, s))
    (hsource : resolve operand' s = some (.str source, s)) :
    expand resolve holds (splitCall operand operand') s
      = some (some (.seq ((pieces delimiter source).map .str)), s) := by
  have hcall : (splitCall operand operand').intrinsic?
      = some (.split, .seq [operand, operand']) := Node.intrinsic?_eq_some_iff.2 rfl
  rw [expand_of_intrinsic? hcall, apply, applySplit]
  refine bind_eq_some_iff.2 ⟨delimiter, s, resolveText_apply hdelimiter, ?_⟩
  rw [if_neg hd]
  exact bind_eq_some_iff.2 ⟨source, s, resolveText_apply hsource, rfl⟩

theorem mapM_resolveText {texts : List String}
    (h : ∀ text ∈ texts, resolve (.str text) s = some (.str text, s)) :
    (texts.map Node.str).mapM (resolveText resolve) s = some (texts, s) := by
  rw [List.mapM_map]
  exact mapM_eq_some fun text hmem => resolveText_apply (h text hmem)

theorem expand_joinCall {operand operand' : Node} {separator : String} {texts : List String}
    (hseparator : resolve operand s = some (.str separator, s))
    (helements : resolve operand' s = some (.seq (texts.map .str), s))
    (htexts : ∀ text ∈ texts, resolve (.str text) s = some (.str text, s)) :
    expand resolve holds (joinCall operand operand') s
      = some (some (.str (SamTemplate.join separator texts)), s) := by
  have hcall : (joinCall operand operand').intrinsic?
      = some (.join, .seq [operand, operand']) := Node.intrinsic?_eq_some_iff.2 rfl
  rw [expand_of_intrinsic? hcall, apply, applyJoin]
  refine bind_eq_some_iff.2 ⟨separator, s, resolveText_apply hseparator, ?_⟩
  refine bind_eq_some_iff.2 ⟨_, s, helements, ?_⟩
  exact bind_eq_some_iff.2 ⟨texts, s, mapM_resolveText htexts, rfl⟩

end Intrinsic

namespace Resolution

variable {fuel : Nat} {budget : Budget} {s u : Session}

theorem resolve_fixed {text : String} (h : Fixed s.parameters text) (hb : 1 ≤ budget.remaining)
    (hf : 1 ≤ fuel) : resolve fuel budget (.str text) s = some (.str text, s) := by
  have hwithin : Node.Within 1 (.str text) := trivial
  exact resolve_normal_within (.str h) hwithin hb hf

theorem resolve_fixed_texts {texts : List String} (h : ∀ text ∈ texts, Fixed s.parameters text)
    (hb : 2 ≤ budget.remaining) (hf : 2 ≤ fuel) :
    resolve fuel budget (.seq (texts.map .str)) s = some (.seq (texts.map .str), s) := by
  have hwithin : Node.Within 2 (.seq (texts.map .str)) :=
    List.forall_mem_map.2 fun _ _ => trivial
  exact resolve_normal_within (.seq (List.forall_mem_map.2 fun text hmem => .str (h text hmem)))
    hwithin hb hf

theorem resolve_splitCall {operand operand' : Node} {delimiter source : String}
    (hd : delimiter ≠ "")
    (hdelimiter : resolve fuel budget.deeper operand s = some (.str delimiter, s))
    (hsource : resolve fuel budget.deeper operand' s = some (.str source, s))
    (hpieces : ∀ piece ∈ pieces delimiter source, Fixed s.parameters piece)
    (hb : 3 ≤ budget.remaining) (hf : 2 ≤ fuel) :
    resolve (fuel + 1) budget (splitCall operand operand') s
      = some (.seq ((pieces delimiter source).map .str), s) := by
  refine resolve_of_resolved (.expanded (Budget.spent_eq_false_iff.2 (by omega))
    (Intrinsic.expand_splitCall hd hdelimiter hsource) ?_)
  exact resolve_fixed_texts hpieces (Budget.le_remaining_deeper hb) hf

theorem resolve_joinCall {operand operand' : Node} {separator : String} {texts : List String}
    (hseparator : resolve fuel budget.deeper operand s = some (.str separator, s))
    (helements : resolve fuel budget.deeper operand' s = some (.seq (texts.map .str), s))
    (htexts : ∀ text ∈ texts, Fixed s.parameters text)
    (hjoin : Fixed s.parameters (join separator texts)) (hb : 2 ≤ budget.remaining)
    (hf : 1 ≤ fuel) :
    resolve (fuel + 1) budget (joinCall operand operand') s
      = some (.str (join separator texts), s) := by
  have hdeeper : 1 ≤ budget.deeper.remaining := Budget.le_remaining_deeper hb
  refine resolve_of_resolved (.expanded (Budget.spent_eq_false_iff.2 (by omega))
    (Intrinsic.expand_joinCall hseparator helements fun text hmem => ?_) ?_)
  · exact resolve_fixed (htexts text hmem) hdeeper hf
  · exact resolve_fixed hjoin hdeeper hf

end Resolution

namespace Session

open Resolution

variable {budget : Budget} {s : Session}

theorem resolveAt_join_of_split {delimiter source : String} (hb : 4 ≤ budget.remaining)
    (hd : delimiter ≠ "") (hdelimiter : Fixed s.parameters delimiter)
    (hsource : Fixed s.parameters source)
    (hpieces : ∀ piece ∈ pieces delimiter source, Fixed s.parameters piece) :
    s.resolveAt budget (joinCall (.str delimiter) (splitCall (.str delimiter) (.str source)))
      = (.str source, s) := by
  have hdeeper : 3 ≤ budget.deeper.remaining := Budget.le_remaining_deeper hb
  have hdeepest : 2 ≤ budget.deeper.deeper.remaining := Budget.le_remaining_deeper hdeeper
  have hsplit : Resolution.resolve 3 budget.deeper
      (splitCall (.str delimiter) (.str source)) s = _ :=
    resolve_splitCall hd (resolve_fixed hdelimiter (by omega) (by omega))
      (resolve_fixed hsource (by omega) (by omega)) hpieces hdeeper (by omega)
  have hjoin := resolve_joinCall (resolve_fixed hdelimiter (by omega) (by omega)) hsplit hpieces
    (by rwa [join_pieces hd]) (by omega) (by omega)
  rw [join_pieces hd] at hjoin
  exact resolveAt_eq hjoin

theorem resolveAt_split_of_join {delimiter : String} {texts : List String}
    (hb : 4 ≤ budget.remaining) (hd : delimiter ≠ "") (hdelimiter : Fixed s.parameters delimiter)
    (htexts : ∀ text ∈ texts, Fixed s.parameters text)
    (hjoin : Fixed s.parameters (join delimiter texts))
    (hpieces : pieces delimiter (join delimiter texts) = texts) :
    s.resolveAt budget
        (splitCall (.str delimiter) (joinCall (.str delimiter) (.seq (texts.map .str))))
      = (.seq (texts.map .str), s) := by
  have hdeeper : 3 ≤ budget.deeper.remaining := Budget.le_remaining_deeper hb
  have hdeepest : 2 ≤ budget.deeper.deeper.remaining := Budget.le_remaining_deeper hdeeper
  have hjoined : Resolution.resolve 3 budget.deeper
      (joinCall (.str delimiter) (.seq (texts.map .str))) s = _ :=
    resolve_joinCall (resolve_fixed hdelimiter (by omega) (by omega))
      (resolve_fixed_texts htexts hdeepest (by omega)) htexts hjoin (by omega) (by omega)
  have hsplit := resolve_splitCall hd (resolve_fixed hdelimiter (by omega) (by omega)) hjoined
    (by rwa [hpieces]) (by omega) (by omega)
  rw [hpieces] at hsplit
  exact resolveAt_eq hsplit

/-- Cutting and putting together undo each other, in silence, if interpolation leaves the text
    and its pieces as they are, as it does if each token of the text stands for itself or the
    delimiter is set apart. Texts with neither dollar signs nor the character that they are
    put together with are given back by cutting. -/
theorem resolveAt_split_join {budget : Budget} (hb : 4 ≤ budget.remaining) (s : Session) :
    (∀ delimiter source : String, delimiter ≠ "" → Fixed s.parameters delimiter →
      Fixed s.parameters source →
      (∀ piece ∈ pieces delimiter source, Fixed s.parameters piece) →
      s.resolveAt budget (joinCall (.str delimiter) (splitCall (.str delimiter) (.str source)))
        = (.str source, s)) ∧
    (∀ delimiter source : String, delimiter ≠ "" →
      Inert s.parameters source ∨ (Fixed s.parameters source ∧ SetApart delimiter) →
      Fixed s.parameters source ∧ ∀ piece ∈ pieces delimiter source, Fixed s.parameters piece) ∧
    (∀ (c : Char) (texts : List String), c ≠ '$' → texts ≠ [] →
      (∀ text ∈ texts, c ∉ text.toList ∧ '$' ∉ text.toList) →
      s.resolveAt budget (splitCall (.str (String.singleton c))
          (joinCall (.str (String.singleton c)) (.seq (texts.map .str))))
        = (.seq (texts.map .str), s)) := by
  refine ⟨fun _ _ => resolveAt_join_of_split hb, fun _ _ => fixed_pieces,
    fun c texts hc hne htexts => ?_⟩
  have hd : (String.singleton c).toList = [c] := String.toList_singleton c
  have hdelimiter : '$' ∉ (String.singleton c).toList := by simpa [hd] using hc.symm
  have hjoin : '$' ∉ (join (String.singleton c) texts).toList :=
    dollar_notMem_join hdelimiter fun text hmem => (htexts text hmem).2
  refine resolveAt_split_of_join hb ?_ (fixed_of_dollar_notMem hdelimiter)
    (fun text hmem => fixed_of_dollar_notMem (htexts text hmem).2) (fixed_of_dollar_notMem hjoin)
    (pieces_join hd hne fun text hmem => (htexts text hmem).1)
  intro hempty
  rw [hempty] at hd
  exact nomatch hd

/-- A delimiter that overlaps itself, and one that is set apart, in texts with a token of which
    nothing is known and a token that stands for itself. -/
theorem resolveAt_split_join_tokens :
    let s := valued "C" "$\x7bC\x7d"
    4 ≤ Budget.remaining {} ∧
      s.resolveAt {} (joinCall (.str "aa")
          (splitCall (.str "aa") (.str "aaa$\x7bU\x7daa$\x7bC\x7daa")))
        = (.str "aaa$\x7bU\x7daa$\x7bC\x7daa", s) ∧
      (∀ piece ∈ pieces ", " "$\x7bC\x7d, $\x7bU\x7d", Fixed s.parameters piece) ∧
      s.resolveAt {} (splitCall (.str ",")
          (joinCall (.str ",") (.seq [.str "", .str "a", .str ""])))
        = (.seq [.str "", .str "a", .str ""], s) := by
  intro s
  have hb : 4 ≤ Budget.remaining {} := by decide
  obtain ⟨hjoin, hpieces, hsplit⟩ := resolveAt_split_join hb s
  have happart : SetApart ", " :=
    ⟨⟨',', [' '], by decide, by decide⟩, ⟨[','], ' ', by decide, by decide⟩⟩
  have hsource : Fixed s.parameters "$\x7bC\x7d, $\x7bU\x7d" := rfl
  exact ⟨hb, hjoin _ _ (by decide) rfl rfl (by decide),
    (hpieces _ _ (by decide) (.inr ⟨hsource, happart⟩)).2,
    hsplit ',' ["", "a", ""] (by decide) (by decide) (by decide)⟩

/-- Parameters whose tokens make up their values in another place. -/
def displacing : Parameters := .ofList [("C", "$\x7bC\x7d$"), ("x", "\x7bx\x7d")]

/-- Interpolation leaves the delimiter and the text as they are, but not a piece of the text. -/
theorem join_split_displaced :
    let s := start displacing []
    let source := "$\x7bC\x7d$$\x7bx\x7d"
    let call := joinCall (.str "\x7d$") (splitCall (.str "\x7d$") (.str source))
    Fixed s.parameters "\x7d$" ∧ Fixed s.parameters source ∧
      pieces "\x7d$" source = ["$\x7bC", "$\x7bx\x7d"] ∧ ¬ Fixed s.parameters "$\x7bx\x7d" ∧
      (s.resolve call).1.text = "$\x7bC\x7d$\x7bx\x7d" ∧ (s.resolve call).1 ≠ .str source := by
  intro s source call
  have htext : (s.resolve call).1.text = "$\x7bC\x7d$\x7bx\x7d" := by decide +kernel
  refine ⟨by decide, by decide, by decide, by decide, htext, fun hsource => ?_⟩
  rw [hsource] at htext
  exact absurd htext (by decide)

end Session

end SamTemplate
