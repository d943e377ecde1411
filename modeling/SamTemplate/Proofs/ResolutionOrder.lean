import SamTemplate.Proofs.Agreement

/-!
# Resolving in another order

Resolving and deciding from scratch a template that is written in another order.
Each intrinsic function, each form of condition and each level of a walk agrees on
operands that are alike, if what it calls does; so all levels do.

* `Scratch.agree`: resolving gives trees that are alike and deciding gives the same
  value, and both note the same.
-/

namespace SamTemplate

open Node Evaluation

section

variable {parameters : Parameters} {conditions conditions' : Entries Node}
  {resolve resolve' : Node → Evaluation Node} {decide decide' : Node → Evaluation Bool}
  {holds holds' : String → Evaluation Bool} {operand operand' : Node}
  (hr : ∀ a b, Alike a b → Agree parameters conditions conditions' Alike (resolve a) (resolve' b))
  (hd : ∀ a b, Alike a b → Agree parameters conditions conditions' Eq (decide a) (decide' b))
  (hh : ∀ name, Agree parameters conditions conditions' Eq (holds name) (holds' name))

/-- Going through entries in another order, computations agree if they do on each
    value, and the keys stay as they are. -/
theorem Node.Alike.Shuffled.mapM_agree {α β : Type} {R : α → β → Prop} {f : Node → Evaluation α}
    {g : Node → Evaluation β} {entries entries' : Entries Node}
    (h : Alike.Shuffled entries entries')
    (hfg : ∀ a b, Alike a b → Agree parameters conditions conditions' R (f a) (g b)) :
    Agree parameters conditions conditions'
      (fun values values' => Entries.Distinct values ∧ ∃ permuted, values.Perm permuted ∧
        List.Forall₂ (OnValues R) permuted values')
      (entries.mapM fun entry => do return (entry.1, ← f entry.2))
      (entries'.mapM fun entry => do return (entry.1, ← g entry.2)) := by
  obtain ⟨hd, permuted, hp, he⟩ := h
  -- An outcome is kept together with the key of its entry, so that no key comes twice.
  have hentries : List.Forall₂ (fun entry entry' => Agree parameters conditions conditions'
      (fun value value' => value.1 = entry.1 ∧ OnValues R value value')
      (do return (entry.1, ← f entry.2)) (do return (entry'.1, ← g entry'.2)))
      permuted entries' :=
    he.imp fun entry entry' h =>
      (hfg _ _ h.2).bind fun value value' hv => .pure ⟨rfl, h.1, hv⟩
  refine (Agree.mapM_perm hp hentries).imp fun values values' hv => ?_
  obtain ⟨hkeys, ordered, ho, hvalues⟩ := hv
  refine ⟨?_, ordered, ho, hvalues.imp fun _ _ ⟨_, h⟩ => h.2⟩
  have hkeys : values.map (·.1) = entries.map (·.1) :=
    (map_eq_of_forall₂ hkeys fun _ _ ⟨_, h⟩ => h.1.symm).symm
  rw [Entries.Distinct, Entries.keys, hkeys]
  exact hd

/-! ### Intrinsic functions -/

namespace Intrinsic

section Operands

include hr

/-- Operands that are alike are resolved to the same text. -/
theorem resolveText_agree (h : Alike operand operand') :
    Agree parameters conditions conditions' Eq (resolveText resolve operand)
      (resolveText resolve' operand') :=
  (hr _ _ h).bind fun _ _ hv => .pure hv.text_eq

/-- A reference is replaced by a text, and its name is the same on both sides. -/
theorem applyRef_agree (h : Alike operand operand') :
    Agree parameters conditions conditions' (Option.Rel Alike) (applyRef resolve operand)
      (applyRef resolve' operand') := by
  refine (hr _ _ h).bind fun target target' ht => ?_
  cases ht.view with
  | str name =>
    exact .read (f := fun p => pure (some (Node.str ((p.valueOf? name.toList).getD name))))
      (g := fun p => pure (some (Node.str ((p.valueOf? name.toList).getD name))))
      (.pure (.some (.refl (.str _))))
  | _ => exact .decline _

omit hr in
/-- Binding variables is finding all their texts and then binding these. -/
theorem bindVariables_eq (resolve : Node → Evaluation Node) (scope : Parameters)
    (locals : Entries Node) :
    bindVariables resolve scope locals = (do
      let texts ← locals.mapM fun entry => do return (entry.1, ← resolveText resolve entry.2)
      return scope.insertAll texts) := by
  induction locals generalizing scope with
  | nil => rfl
  | cons entry rest ih =>
    rw [bindVariables]
    simp only [ih, List.mapM_cons, bind_assoc, pure_bind]
    rfl

/-- The variables of a text come in another order, but no name comes twice. -/
theorem bindVariables_agree (scope : Parameters) {locals locals' : Entries Node}
    (h : Alike.Shuffled locals locals') :
    Agree parameters conditions conditions' Eq (bindVariables resolve scope locals)
      (bindVariables resolve' scope locals') := by
  rw [bindVariables_eq, bindVariables_eq]
  refine (h.mapM_agree fun _ _ => resolveText_agree hr).bind fun texts texts' ht => ?_
  obtain ⟨hd, permuted, hp, he⟩ := ht
  obtain rfl := forall₂_onValues_eq.1 he
  exact .pure (scope.insertAll_perm hd hp)

omit hr in
theorem applySub_seq_of_ne {items : List Node}
    (h : ∀ template entries, items ≠ [template, .map entries]) :
    applySub resolve (.seq items) = Evaluation.decline .subShape := by
  unfold applySub
  split <;> simp_all

/-- The variables are resolved in another order, which changes neither their texts nor the set of
    notices. -/
theorem applySub_agree (h : Alike operand operand') :
    Agree parameters conditions conditions' (Option.Rel Alike) (applySub resolve operand)
      (applySub resolve' operand') := by
  cases h.view with
  | str template =>
    exact .read (f := fun p => pure (some (Node.str (interpolate p template))))
      (g := fun p => pure (some (Node.str (interpolate p template))))
      (.pure (.some (.refl (.str _))))
  | @seq items items' hi =>
    -- A list that ends in variables is looked at more closely; others are declined for
    -- their shape, and in another order they have the same shape.
    by_cases hform : ∃ template locals, items = [template, .map locals]
    · obtain ⟨template, locals, rfl⟩ := hform
      obtain _ | ⟨htemplate, _ | ⟨hlocals, _ | _⟩⟩ := hi
      cases hlocals.view with
      | map hshuffled => cases htemplate.view with
        | str template =>
          simp only [applySub]
          split
          · exact .decline _
          · refine .read (f := fun p => do
              let scope ← bindVariables resolve p _
              return some (Node.str (interpolate scope template)))
              (g := fun p => do
              let scope ← bindVariables resolve' p _
              return some (Node.str (interpolate scope template))) ?_
            refine (bindVariables_agree hr parameters hshuffled).bind fun scope scope' hscope => ?_
            exact hscope ▸ .pure (.some (.refl (.str _)))
        | _ => exact .decline _
    · have hform' : ∀ template locals, items' ≠ [template, .map locals] := by
        rintro template' locals' rfl
        obtain _ | ⟨htemplate, _ | ⟨hlocals, _ | _⟩⟩ := hi
        cases hlocals.view with
        | map => exact hform ⟨_, _, rfl⟩
      rw [applySub_seq_of_ne fun template locals heq => hform ⟨template, locals, heq⟩,
        applySub_seq_of_ne hform']
      exact .decline _
  | _ => exact .decline _

theorem applyJoin_agree (h : Alike operand operand') :
    Agree parameters conditions conditions' (Option.Rel Alike) (applyJoin resolve operand)
      (applyJoin resolve' operand') := by
  cases h.view with
  | @seq items items' hi =>
    match items, items', hi with
    | [separator, elements], [separator', elements'], .cons hseparator (.cons helements .nil) =>
      refine (resolveText_agree hr hseparator).bind fun text text' ht =>
        (hr _ _ helements).bind fun list list' hl => ?_
      subst ht
      cases hl.view with
      | seq hitems =>
        refine (Agree.mapM hitems fun _ _ => resolveText_agree hr).bind fun texts texts' ht => ?_
        rw [List.forall₂_eq_eq_eq] at ht
        exact ht ▸ .pure (.some (.refl (.str _)))
      | _ => exact .decline _
    | [], [], _ | [_], [_], _ | _ :: _ :: _ :: _, _ :: _ :: _ :: _, _ => exact .decline _
  | _ => exact .decline _

theorem applyGetAtt_agree (h : Alike operand operand') :
    Agree parameters conditions conditions' (Option.Rel Alike) (applyGetAtt resolve operand)
      (applyGetAtt resolve' operand') := by
  cases h.view with
  | str path =>
    simp only [applyGetAtt]
    split
    · split
      · exact .pure (.some (.refl (.str _)))
      · exact .decline _
    · exact .decline _
  | @seq items items' hi =>
    match items, items', hi with
    | [resource, name], [resource', name'], .cons hresource (.cons hname .nil) =>
      refine (resolveText_agree hr hresource).bind fun text text' ht =>
        (resolveText_agree hr hname).bind fun text₂ text₂' ht₂ => ?_
      subst ht ht₂
      exact .pure (.some (.refl (.str _)))
    | [], [], _ | [_], [_], _ | _ :: _ :: _ :: _, _ :: _ :: _ :: _, _ => exact .decline _
  | _ => exact .decline _

theorem applySplit_agree (h : Alike operand operand') :
    Agree parameters conditions conditions' (Option.Rel Alike) (applySplit resolve operand)
      (applySplit resolve' operand') := by
  cases h.view with
  | @seq items items' hi =>
    match items, items', hi with
    | [delimiter, source], [delimiter', source'], .cons hdelimiter (.cons hsource .nil) =>
      refine (resolveText_agree hr hdelimiter).bind fun text text' ht => ?_
      subst ht
      by_cases hempty : text = ""
      · simpa only [if_pos hempty] using .decline _
      · simp only [if_neg hempty]
        refine (resolveText_agree hr hsource).bind fun source source' hs => ?_
        subst hs
        refine .pure (.some (.refl (.seq fun piece hmem => ?_)))
        obtain ⟨text, -, rfl⟩ := List.mem_map.1 hmem
        exact .str text
    | [], [], _ | [_], [_], _ | _ :: _ :: _ :: _, _ :: _ :: _ :: _, _ => exact .decline _
  | _ => exact .decline _

omit hr in
/-- The same place of two lists has elements that are alike, or none. -/
theorem elementAt?_rel {elements elements' : List Node} {index index' : Node}
    (h : List.Forall₂ Alike elements elements') (hi : Alike index index') :
    Option.Rel Alike (elementAt? elements index) (elementAt? elements' index') := by
  have hget : ∀ n : Nat, Option.Rel Alike elements[n]? elements'[n]? := by
    intro n
    induction h generalizing n with
    | nil => exact .none
    | cons hab _ ih => cases n with
      | zero => exact .some hab
      | succ n => exact ih n
  unfold elementAt?
  rw [hi.int?_eq]
  cases index'.int? with
  | none => exact .none
  | some i =>
    change Option.Rel Alike (if 0 ≤ i.toInt then _ else _) (if 0 ≤ i.toInt then _ else _)
    split
    · exact hget _
    · exact .none

/-- A selection that misses is reported with the index and the length of the list, which are the
    same. -/
theorem applySelect_agree (h : Alike operand operand') :
    Agree parameters conditions conditions' (Option.Rel Alike) (applySelect resolve operand)
      (applySelect resolve' operand') := by
  cases h.view with
  | @seq items items' hi =>
    match items, items', hi with
    | [index, list], [index', list'], .cons hindex (.cons hlist .nil) =>
      refine (hr _ _ hindex).bind fun index index' hindex =>
        (hr _ _ hlist).bind fun list list' hlist => ?_
      cases hlist.view with
      | @seq elements elements' helements =>
        dsimp only
        rw [hindex.text_eq, helements.length_eq]
        have helement := elementAt?_rel helements hindex
        generalize elementAt? elements index = element at helement ⊢
        generalize elementAt? elements' index' = element' at helement ⊢
        cases helement with
        | none => exact .decline _
        | some he => exact .pure (.some he)
      | _ => exact .decline _
    | [], [], _ | [_], [_], _ | _ :: _ :: _ :: _, _ :: _ :: _ :: _, _ => exact .decline _
  | _ => exact .decline _

theorem applyImportValue_agree (h : Alike operand operand') :
    Agree parameters conditions conditions' (Option.Rel Alike) (applyImportValue resolve operand)
      (applyImportValue resolve' operand') :=
  (resolveText_agree hr h).bind fun _ _ ht => ht ▸ .pure (.some (.refl (.str _)))

end Operands

include hh in
/-- A choice is by name, and the branch that is chosen is alike on both sides. -/
theorem applyChoose_agree (h : Alike operand operand') :
    Agree parameters conditions conditions' (Option.Rel Alike) (applyChoose holds operand)
      (applyChoose holds' operand') := by
  cases h.view with
  | @seq items items' hi =>
    match items, items', hi with
    | [condition, whenTrue, whenFalse], [condition', whenTrue', whenFalse'],
        .cons hcondition (.cons htrue (.cons hfalse .nil)) =>
      simp only [applyChoose, hcondition.text_eq]
      refine (hh _).bind fun value value' hv => ?_
      subst hv
      cases value with
      | true => exact .pure (.some htrue)
      | false => exact .pure (.some hfalse)
    | [], [], _ | [_], [_], _ | [_, _], [_, _], _
    | _ :: _ :: _ :: _ :: _, _ :: _ :: _ :: _ :: _, _ => exact .decline _
  | _ => exact .decline _

section Calls

include hr hh

/-- A function makes nodes that are alike of operands that are alike. -/
theorem apply_agree (function : Intrinsic) (h : Alike operand operand') :
    Agree parameters conditions conditions' (Option.Rel Alike)
      (apply resolve holds function operand) (apply resolve' holds' function operand') := by
  cases function with
  | ref => exact applyRef_agree hr h
  | choose => exact applyChoose_agree hh h
  | sub => exact applySub_agree hr h
  | join => exact applyJoin_agree hr h
  | getAtt => exact applyGetAtt_agree hr h
  | split => exact applySplit_agree hr h
  | select => exact applySelect_agree hr h
  | importValue => exact applyImportValue_agree hr h

/-- A node is expanded on both sides or on neither. -/
theorem expand_agree {node node' : Node} (h : Alike node node') :
    Agree parameters conditions conditions' (Option.Rel Alike)
      (expand resolve holds node) (expand resolve' holds' node') := by
  have hcall := h.call?
  cases h.view with
  | str text =>
    refine .read (f := fun p => pure (if interpolate p text = text then none
      else some (Node.str (interpolate p text)))) (g := fun p => pure (if interpolate p text = text
      then none else some (Node.str (interpolate p text)))) (.pure ?_)
    split
    · exact .none
    · exact .some (.refl (.str _))
  | @map entries entries' =>
    simp only [expand]
    generalize (Node.map entries).call? = call at hcall ⊢
    generalize (Node.map entries').call? = call' at hcall ⊢
    cases hcall with
    | none => exact .pure .none
    | @some call call' hc =>
      obtain ⟨name, operand⟩ := call
      obtain ⟨name', operand'⟩ := call'
      obtain ⟨rfl, hoperand⟩ := hc
      dsimp only
      split
      · exact .pure .none
      · exact apply_agree hr hh _ hoperand
  | _ => exact .pure .none

end Calls

end Intrinsic

/-! ### Conditions -/

namespace Condition

section Operands

include hd

theorem allHold_agree {operands operands' : List Node} (h : List.Forall₂ Alike operands operands') :
    Agree parameters conditions conditions' Eq (allHold decide operands)
      (allHold decide' operands') := by
  induction h with
  | nil => exact .pure rfl
  | cons hab _ ih =>
    refine (hd _ _ hab).bind fun value value' hv => ?_
    subst hv
    cases value with
    | false => exact .pure rfl
    | true => exact ih

theorem someHold_agree {operands operands' : List Node}
    (h : List.Forall₂ Alike operands operands') :
    Agree parameters conditions conditions' Eq (someHold decide operands)
      (someHold decide' operands') := by
  induction h with
  | nil => exact .pure rfl
  | cons hab _ ih =>
    refine (hd _ _ hab).bind fun value value' hv => ?_
    subst hv
    cases value with
    | false => exact ih
    | true => exact .pure rfl

end Operands

include hr hd hh in
/-- The forms of conditions look at lists, whose order stays, and at texts. -/
theorem ofForm_agree (form : Form) (h : Alike operand operand') :
    Agree parameters conditions conditions' Eq (ofForm resolve decide holds form operand)
      (ofForm resolve' decide' holds' form operand') := by
  cases form with
  | named =>
    simp only [ofForm, h.text_eq]
    exact hh _
  | equals => cases h.view with
    | @seq items items' hi =>
      match items, items', hi with
      | [left, right], [left', right'], .cons hleft (.cons hright .nil) =>
        exact (hr _ _ hleft).bind fun _ _ hl => (hr _ _ hright).bind fun _ _ hr =>
          .pure (by rw [hl.text_eq, hr.text_eq])
      | [], [], _ | [_], [_], _ | _ :: _ :: _ :: _, _ :: _ :: _ :: _, _ => exact .deny _
    | _ => exact .deny _
  | not => cases h.view with
    | @seq items items' hi =>
      match items, items', hi with
      | [operand], [operand'], .cons hoperand .nil =>
        exact (hd _ _ hoperand).bind fun _ _ hv => .pure (congrArg Bool.not hv)
      | [], [], _ | _ :: _ :: _, _ :: _ :: _, _ => exact .deny _
    | _ => exact .deny _
  | and => cases h.view with
    | seq hi => exact allHold_agree hd hi
    | _ => exact .deny _
  | or => cases h.view with
    | seq hi => exact someHold_agree hd hi
    | _ => exact .deny _

include hr in
/-- A value that is no condition is reported with its text. -/
theorem ofValue_agree {node node' : Node} (h : Alike node node') :
    Agree parameters conditions conditions' Eq (ofValue resolve node)
      (ofValue resolve' node') := by
  refine (hr _ _ h).bind fun value value' hv => ?_
  have htext := hv.text_eq
  cases hv.view with
  | bool => exact .pure rfl
  | str => exact .pure rfl
  | _ =>
    simp only [htext]
    exact .deny _

/-- The form and operand of an expression that is written as a call. -/
theorem form?_rel {node node' : Node} (h : Alike node node') :
    Option.Rel (fun call call' : Form × Node => call.1 = call'.1 ∧ Alike call.2 call'.2)
      (node.call?.bind fun (name, operand) => (Form.ofName? name).map (·, operand))
      (node'.call?.bind fun (name, operand) => (Form.ofName? name).map (·, operand)) := by
  refine rel_bind h.call? fun call call' hc => ?_
  obtain ⟨name, operand⟩ := call
  obtain ⟨name', operand'⟩ := call'
  obtain ⟨rfl, hoperand⟩ := hc
  dsimp only
  cases Form.ofName? name with
  | none => exact .none
  | some form => exact .some ⟨rfl, hoperand⟩

include hr hd hh in
theorem ofNode_agree {node node' : Node} (h : Alike node node') :
    Agree parameters conditions conditions' Eq (ofNode resolve decide holds node)
      (ofNode resolve' decide' holds' node') := by
  have hform := form?_rel h
  cases h.view with
  | bool => exact .pure rfl
  | str => exact .pure rfl
  | @map entries entries' =>
    simp only [ofNode]
    generalize (Node.map entries).call?.bind _ = form at hform ⊢
    generalize (Node.map entries').call?.bind _ = form' at hform ⊢
    cases hform with
    | none => exact ofValue_agree hr h
    | @some call call' hc =>
      obtain ⟨form, operand⟩ := call
      obtain ⟨form', operand'⟩ := call'
      obtain ⟨rfl, hoperand⟩ := hc
      exact ofForm_agree hr hd hh _ hoperand
  | _ => exact ofValue_agree hr h

end Condition

/-! ### Levels -/

/-- One level of a walk makes trees that are alike of trees that are alike. -/
theorem walkStep_agree {expand expand' : Budget → Node → Evaluation (Option Node)}
    {below below' : Budget → Node → Evaluation Node} {notice : Budget → Notice} {budget : Budget}
    (he : ∀ a b, Alike a b → Agree parameters conditions conditions' (Option.Rel Alike)
      (expand budget a) (expand' budget b))
    (hb : ∀ a b, Alike a b → Agree parameters conditions conditions' Alike
      (below budget.deeper a) (below' budget.deeper b)) {node node' : Node} (h : Alike node node') :
    Agree parameters conditions conditions' Alike
      (walkStep expand (fun budget _ => Evaluation.note (notice budget)) below budget node)
      (walkStep expand' (fun budget _ => Evaluation.note (notice budget)) below' budget node') := by
  unfold walkStep
  split
  · exact (Agree.note _).bind fun _ _ _ => .pure h
  · refine (he _ _ h).bind fun expanded expanded' hexpanded => ?_
    cases hexpanded with
    | some hexpanded => exact hb _ _ hexpanded
    -- What is not expanded has the same shape on both sides.
    | none => cases h.view with
      | seq hi =>
        exact (Agree.mapM hi hb).bind fun _ _ hitems => .pure (Alike.View.seq hitems).alike
      | map hs =>
        exact (hs.mapM_agree hb).bind fun _ _ hentries => .pure (Alike.View.map hentries).alike
      | _ => exact .pure h

end

namespace Scratch

variable {parameters : Parameters} {conditions conditions' : Entries Node}

/-- A name has expressions that are alike on both sides, or none. -/
theorem ofName_agree {decide decide' : Budget → Node → Evaluation Bool}
    (hc : Alike.Shuffled conditions conditions')
    (hd : ∀ a b, Alike a b → Agree parameters conditions conditions' Eq (decide {} a)
      (decide' {} b)) (name : String) :
    Agree parameters conditions conditions' Eq (ofName decide name) (ofName decide' name) := by
  rcases rel_cases (hc.get? name) with ⟨he, he'⟩ | ⟨expression, expression', he, he', hexpression⟩
  · exact (Agree.deny _).congr (fun s hs => ofName_apply_of_unknown (hs.conditions_eq ▸ he))
      fun s hs => ofName_apply_of_unknown (hs.conditions_eq ▸ he')
  · exact (hd _ _ hexpression).congr (fun s hs => ofName_apply (hs.conditions_eq ▸ he))
      fun s hs => ofName_apply (hs.conditions_eq ▸ he')

/-- Resolving from scratch two templates that are alike gives trees that are alike,
    deciding gives the same, and both note the same. -/
theorem agree (hc : Alike.Shuffled conditions conditions') (fuel : Nat) :
    (∀ budget a b, Alike a b → Agree parameters conditions conditions' Alike
      (resolve fuel budget a) (resolve fuel budget b)) ∧
    ∀ budget a b, Alike a b → Agree parameters conditions conditions' Eq
      (decide fuel budget a) (decide fuel budget b) := by
  induction fuel with
  | zero => exact ⟨fun _ _ _ _ => .inl fun _ _ => rfl, fun _ _ _ _ => .inl fun _ _ => rfl⟩
  | succ fuel ih =>
    obtain ⟨hr, hd⟩ := ih
    have hname := ofName_agree hc (hd {})
    refine ⟨fun budget a b hab => ?_, fun budget a b hab => ?_⟩
    · exact walkStep_agree (fun _ _ => Intrinsic.expand_agree (hr _) hname) (hr _) hab
    · simp only [decide]
      split
      · exact .deny _
      · exact Condition.ofNode_agree (hr _) (hd _) hname hab

end Scratch

end SamTemplate
