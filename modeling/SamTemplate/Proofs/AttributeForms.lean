import SamTemplate.Proofs.SplitAndJoin

/-!
# Attributes in two forms

An attribute is written as one text with a dot, or as a list of the resource and the name. Neither
of the two makes up a token with the punctuation of the stand-in (`tokenless_attributeStandIn`), so
both forms are resolved to the stand-in, in silence. But only the first form is checked for parts
that are empty: without a resource or without a name it is declined, while the second form gives a
stand-in all the same.

* `Tokenless.append`: no token opens where two texts are put together;
* `Session.resolveAt_getAtt`: what the two forms are resolved to.
-/

namespace SamTemplate

/-! ### Texts in which no token opens -/

/-- No token opens in a text: no dollar sign has a brace after it. -/
def Tokenless (text : String) : Prop := contains text "$\x7b" = false

instance (text : String) : Decidable (Tokenless text) := inferInstanceAs (Decidable (_ = _))

namespace Tokenless

variable {first second text : String}

theorem iff_not_isInfix : Tokenless text ↔ ¬ ['$', '\x7b'] <:+: text.toList := by
  rw [Tokenless, ← Bool.not_eq_true, contains, occursIn_eq_true_iff]
  rfl

/-- A text without dollar signs before braces has no tokens to be replaced. -/
theorem fixed (h : Tokenless text) (parameters : Parameters) : Fixed parameters text := by
  refine Inert.fixed fun name _ htoken => absurd ?_ (iff_not_isInfix.1 h)
  have hopens : ['$', '\x7b'] <:+: tokenOf name := (List.prefix_append _ _).isInfix
  exact hopens.trans htoken

/-- No token opens in texts put together if none opens in either of them and the seam is not
    between a dollar sign and a brace. -/
theorem append (hfirst : Tokenless first) (hsecond : Tokenless second)
    (hseam : first.toList.getLast? ≠ some '$' ∨ second.toList.head? ≠ some '\x7b') :
    Tokenless (first ++ second) := by
  rw [iff_not_isInfix] at hfirst hsecond ⊢
  rw [String.toList_append, List.infix_append_iff]
  rintro (h | h | ⟨left, right, heq, hleft, hright⟩)
  · exact hfirst h
  · exact hsecond h
  · -- Of the two characters none, one or both are at the end of the first text.
    rcases List.cons_eq_append_iff.1 heq with ⟨-, rfl⟩ | ⟨left, rfl, hbrace⟩
    · exact hsecond hright.isInfix
    · rcases List.singleton_eq_append_iff.1 hbrace with ⟨rfl, rfl⟩ | ⟨rfl, -⟩
      · obtain ⟨front, hfront⟩ := hleft
        obtain ⟨rest, hrest⟩ := hright
        exact hseam.elim (fun hne => hne (by simp [← hfront])) fun hne => hne (by simp [← hrest])
      · exact hfirst hleft.isInfix

end Tokenless

/-- The punctuation of a stand-in keeps its parts apart. -/
theorem tokenless_attributeStandIn {resource name : String} (hresource : Tokenless resource)
    (hname : Tokenless name) : Tokenless (attributeStandIn resource name) := by
  have hslash : Tokenless ("/" ++ name) := .append (by decide) hname (.inl (by decide))
  have hpath : Tokenless (resource ++ ("/" ++ name)) := hresource.append hslash (.inr (by simp))
  have hglobal : Tokenless (":global:" ++ (resource ++ ("/" ++ name))) :=
    .append (by decide) hpath (.inl (by decide))
  have hkind : Tokenless (name ++ (":global:" ++ (resource ++ ("/" ++ name)))) :=
    hname.append hglobal (.inr (by simp))
  have hwhole : Tokenless ("arn:aws:local:"
      ++ (name ++ (":global:" ++ (resource ++ ("/" ++ name))))) :=
    .append (by decide) hkind (.inl (by decide))
  change Tokenless ("arn:aws:local:" ++ name ++ ":global:" ++ resource ++ "/" ++ name)
  simpa only [String.append_assoc] using hwhole

/-! ### The two forms -/

/-- An attribute, written as a text. -/
def attributeText (resource name : String) : Node :=
  .call Intrinsic.getAtt.name (.str (resource ++ "." ++ name))

/-- An attribute, written as a list of two. -/
def attributePair (resource name : String) : Node :=
  .call Intrinsic.getAtt.name (.seq [.str resource, .str name])

variable {resource name : String}

/-- A text with one dot falls into two pieces. -/
theorem pieces_dot (hresource : '.' ∉ resource.toList) (hname : '.' ∉ name.toList) :
    pieces "." (resource ++ "." ++ name) = [resource, name] := by
  have hdot : ".".toList = ['.'] := rfl
  have hjoin : join "." [resource, name] = resource ++ "." ++ name := by
    simp [join, hdot, String.ofList_append, String.append_assoc]
  rw [← hjoin]
  exact pieces_join hdot (List.cons_ne_nil _ _) (by simpa using ⟨hresource, hname⟩)

namespace Intrinsic

variable {resolve : Node → Evaluation Node} {holds : String → Evaluation Bool}

theorem expand_attributeText (hpieces : pieces "." (resource ++ "." ++ name) = [resource, name]) :
    expand resolve holds (attributeText resource name)
      = if resource ≠ "" ∧ name ≠ "" then pure (some (.str (attributeStandIn resource name)))
        else Evaluation.decline (.getAttText (resource ++ "." ++ name)) := by
  have hcall : (attributeText resource name).intrinsic?
      = some (.getAtt, .str (resource ++ "." ++ name)) := Node.intrinsic?_eq_some_iff.2 rfl
  rw [expand_of_intrinsic? hcall, apply, applyGetAtt, hpieces]

theorem expand_attributePair {s : Session}
    (hresource : resolve (.str resource) s = some (.str resource, s))
    (hname : resolve (.str name) s = some (.str name, s)) :
    expand resolve holds (attributePair resource name) s
      = some (some (.str (attributeStandIn resource name)), s) := by
  have hcall : (attributePair resource name).intrinsic?
      = some (.getAtt, .seq [.str resource, .str name]) := Node.intrinsic?_eq_some_iff.2 rfl
  rw [expand_of_intrinsic? hcall, apply, applyGetAtt]
  refine Evaluation.bind_eq_some_iff.2 ⟨resource, s, resolveText_apply hresource, ?_⟩
  exact Evaluation.bind_eq_some_iff.2 ⟨name, s, resolveText_apply hname, rfl⟩

end Intrinsic

namespace Session

open Resolution

variable {budget : Budget} {s : Session}

/-- What is expanded to a text that stays as it is is resolved to this text. -/
theorem resolveAt_of_expand {node : Node} {text : String} (hb : 2 ≤ budget.remaining)
    (hexpand : expand 1 budget node s = some (some (.str text), s))
    (htext : Fixed s.parameters text) : s.resolveAt budget node = (.str text, s) :=
  resolveAt_eq (resolve_of_resolved (.expanded (Budget.spent_eq_false_iff.2 (by omega)) hexpand
    (resolve_fixed htext (Budget.le_remaining_deeper hb) (Nat.le_refl 1))))

/-- A call on a text that stays as it is is left in place if it is declined. -/
theorem resolveAt_of_decline {function text : String} {notice : Notice}
    (hb : 2 ≤ budget.remaining)
    (hexpand : expand 1 budget (.call function (.str text)) s = some (none, s.note notice))
    (htext : Fixed s.parameters text) :
    s.resolveAt budget (.call function (.str text))
      = (.call function (.str text), s.note notice) := by
  have hentry : Resolution.resolve 1 budget.deeper (.str text) (s.note notice)
      = some (.str text, s.note notice) :=
    resolve_fixed htext (Budget.le_remaining_deeper hb) (Nat.le_refl 1)
  refine resolveAt_eq (resolve_of_resolved (.map (Budget.spent_eq_false_iff.2 (by omega)) hexpand
    (Evaluation.mapM_eq_some (List.forall_mem_singleton.2 ?_))))
  exact Evaluation.bind_eq_some_iff.2 ⟨_, _, hentry, rfl⟩

/-- An attribute of a resource, where neither has a dot or opens a token and two levels are left:
    as a list it is resolved to its stand-in, in silence, and so it is as a text if it has both a
    resource and a name. Without one of them the text is left in place, which is noted. -/
theorem resolveAt_getAtt (s : Session) {budget : Budget} (hb : 2 ≤ budget.remaining)
    {resource name : String} (hresource : '.' ∉ resource.toList ∧ Tokenless resource)
    (hname : '.' ∉ name.toList ∧ Tokenless name) :
    s.resolveAt budget (attributePair resource name)
      = (.str (attributeStandIn resource name), s) ∧
    s.resolveAt budget (attributeText resource name)
      = if resource ≠ "" ∧ name ≠ "" then (.str (attributeStandIn resource name), s)
        else (attributeText resource name, s.note (.getAttText (resource ++ "." ++ name))) := by
  have hstandIn : Fixed s.parameters (attributeStandIn resource name) :=
    (tokenless_attributeStandIn hresource.2 hname.2).fixed _
  have hdeeper : 1 ≤ budget.deeper.remaining := Budget.le_remaining_deeper hb
  have htext := @Intrinsic.expand_attributeText _ _ (Resolution.resolve 1 budget.deeper)
    (Condition.ofName (Resolution.decide 1)) (pieces_dot hresource.1 hname.1)
  constructor
  · exact resolveAt_of_expand hb (Intrinsic.expand_attributePair
      (resolve_fixed (hresource.2.fixed _) hdeeper (Nat.le_refl 1))
      (resolve_fixed (hname.2.fixed _) hdeeper (Nat.le_refl 1))) hstandIn
  · by_cases hparts : resource ≠ "" ∧ name ≠ ""
    · rw [if_pos hparts] at htext ⊢
      exact resolveAt_of_expand hb (congrFun htext s) hstandIn
    · rw [if_neg hparts] at htext ⊢
      have hdot : Tokenless (resource ++ "." ++ name) :=
        (hresource.2.append (by decide) (.inr (by decide))).append hname.2 (.inl (by simp))
      exact resolveAt_of_decline hb (congrFun htext s) (hdot.fixed _)

/-- A resource that ends with a dollar sign and a name in braces, with just the levels that they
    need: the name is a parameter, but nowhere is it in a token. -/
theorem resolveAt_getAtt_braced :
    let s := valued "Arn" "x"
    2 ≤ Budget.remaining ⟨18, 20⟩ ∧
      ('.' ∉ "Bucket$".toList ∧ Tokenless "Bucket$") ∧
      ('.' ∉ "\x7bArn\x7d".toList ∧ Tokenless "\x7bArn\x7d") ∧
      s.resolveAt ⟨18, 20⟩ (attributePair "Bucket$" "\x7bArn\x7d")
        = (.str "arn:aws:local:\x7bArn\x7d:global:Bucket$/\x7bArn\x7d", s) ∧
      s.resolveAt ⟨18, 20⟩ (attributeText "Bucket$" "\x7bArn\x7d")
        = (.str "arn:aws:local:\x7bArn\x7d:global:Bucket$/\x7bArn\x7d", s) := by
  intro s
  have hb : 2 ≤ Budget.remaining ⟨18, 20⟩ := by decide
  have hresource : '.' ∉ "Bucket$".toList ∧ Tokenless "Bucket$" := by decide
  have hname : '.' ∉ "\x7bArn\x7d".toList ∧ Tokenless "\x7bArn\x7d" := by decide
  obtain ⟨hpair, htext⟩ := resolveAt_getAtt s hb hresource hname
  rw [if_pos (by decide)] at htext
  exact ⟨hb, hresource, hname, hpair, htext⟩

/-- The name of an attribute without a resource: as a text it is left in place, with a notice, but
    as a list it gets a stand-in. -/
theorem resolve_getAtt_unowned :
    let s := start .empty []
    ('.' ∉ "".toList ∧ Tokenless "") ∧ ('.' ∉ "Arn".toList ∧ Tokenless "Arn") ∧
      s.resolve (attributeText "" "Arn")
        = (attributeText "" "Arn", s.note (.getAttText ".Arn")) ∧
      s.resolve (attributePair "" "Arn") = (.str "arn:aws:local:Arn:global:/Arn", s) :=
  ⟨by decide, by decide, rfl, rfl⟩

end Session

end SamTemplate
