import SamTemplate.Proofs.Quiet

/-!
# Normal trees

A tree is normal if nothing in it can be expanded: it has no call of an
intrinsic function, and interpolation leaves its texts as they are.

* `resolve_normal`: resolving a normal tree gives the tree back, whatever its
  height and the budget, and does nothing but note how deep it is;
* `resolve_within`: the result of a quiet walk has no more levels than the budget
  had left;
* `resolve_normal_within`: a normal tree with that many levels is resolved in
  silence.
-/

namespace SamTemplate

namespace Intrinsic

theorem ofName?_name (function : Intrinsic) : ofName? function.name = some function := by
  cases function <;> rfl

theorem name_of_ofName? {name : String} {function : Intrinsic}
    (h : ofName? name = some function) : function.name = name := by
  simpa using List.find?_some h

end Intrinsic

namespace Node

/-- The intrinsic function that a node calls, and the operand. -/
def intrinsic? (node : Node) : Option (Intrinsic × Node) :=
  node.call?.bind fun (name, operand) => (Intrinsic.ofName? name).map (·, operand)

/-- A node calls a function if it has the function's name as its only key. -/
theorem intrinsic?_eq_some_iff {node operand : Node} {function : Intrinsic} :
    node.intrinsic? = some (function, operand) ↔ node = call function.name operand := by
  constructor
  · intro h
    unfold intrinsic? at h
    cases hc : node.call? with
    | none => rw [hc] at h; exact absurd h (by simp)
    | some pair =>
      obtain ⟨name, operand'⟩ := pair
      simp only [hc, Option.bind_some, Option.map_eq_some_iff, Prod.mk.injEq] at h
      obtain ⟨_, hn, rfl, rfl⟩ := h
      rw [Intrinsic.name_of_ofName? hn]
      unfold call? at hc
      split at hc
      · cases hc
        rfl
      · exact absurd hc (by simp)
  · rintro rfl
    simp [intrinsic?, call, call?, Intrinsic.ofName?_name]

/-- A node that holds no other nodes. -/
def IsScalar : Node → Prop
  | .seq _ => False
  | .map _ => False
  | _ => True

theorem IsScalar.seq?_eq_none {node : Node} (h : node.IsScalar) : node.seq? = none := by
  cases node with
  | seq items => exact h.elim
  | _ => rfl

theorem IsScalar.entries?_eq_none {node : Node} (h : node.IsScalar) : node.entries? = none := by
  cases node with
  | map entries => exact h.elim
  | _ => rfl

/-- Nothing in a tree can be expanded. -/
inductive Normal (parameters : Parameters) : Node → Prop
  | null : Normal parameters .null
  | bool (value : Bool) : Normal parameters (.bool value)
  | int (value : Int64) : Normal parameters (.int value)
  | float (value : Binary64) : Normal parameters (.float value)
  /-- Interpolation leaves a text as it is. -/
  | str {text : String} : interpolate parameters text = text → Normal parameters (.str text)
  | seq {items : List Node} : (∀ item ∈ items, Normal parameters item) →
      Normal parameters (.seq items)
  /-- A mapping is not a call of an intrinsic function. -/
  | map {entries : List (String × Node)} : (Node.map entries).intrinsic? = none →
      (∀ entry ∈ entries, Normal parameters entry.2) → Normal parameters (.map entries)

/-- A tree has at most so many levels. -/
def Within : Nat → Node → Prop
  | 0, _ => False
  | levels + 1, .seq items => ∀ item ∈ items, Within levels item
  | levels + 1, .map entries => ∀ entry ∈ entries, Within levels entry.2
  | _ + 1, _ => True

theorem Within.succ {levels : Nat} {node : Node} (h : node.Within levels) :
    node.Within (levels + 1) := by
  induction levels generalizing node with
  | zero => exact h.elim
  | succ levels ih =>
    cases node with
    | seq items => exact fun item hmem => ih (h item hmem)
    | map entries => exact fun entry hmem => ih (h entry hmem)
    | _ => trivial

end Node

namespace Intrinsic

variable {resolve : Node → Evaluation Node} {holds : String → Evaluation Bool}

/-- A call is expanded by the function that it calls. -/
theorem expand_of_intrinsic? {node operand : Node} {function : Intrinsic}
    (h : node.intrinsic? = some (function, operand)) :
    expand resolve holds node = apply resolve holds function operand := by
  rw [Node.intrinsic?_eq_some_iff.1 h]
  simp [expand, Node.call, Node.call?, ofName?_name]

/-- What is neither a text nor a call is not expanded. -/
theorem expand_of_intrinsic?_eq_none {node : Node} (h : node.intrinsic? = none)
    (hs : ∀ text, node ≠ .str text) : expand resolve holds node = pure none := by
  unfold expand
  split
  · exact absurd rfl (hs _)
  · split
    · rfl
    · rename_i name operand hc
      simp only [Node.intrinsic?, hc, Option.bind_some, Option.map_eq_none_iff] at h
      simp [h]

theorem expand_str_apply (text : String) (s : Session) :
    expand resolve holds (.str text) s
      = some (if interpolate s.parameters text = text then none
          else some (.str (interpolate s.parameters text)), s) := rfl

/-- Nothing normal is expanded. -/
theorem expand_normal {node : Node} {s : Session} (h : node.Normal s.parameters) :
    expand resolve holds node s = some (none, s) := by
  cases h with
  | str hs => rw [expand_str_apply, if_pos hs]
  | map hm => rw [expand_of_intrinsic?_eq_none hm (by simp)]; rfl
  | _ => rw [expand_of_intrinsic?_eq_none rfl (by simp)]; rfl

end Intrinsic

namespace Session

/-- A session after something that did nothing but note. -/
def Noted (before after : Session) : Prop := after = { before with warnings := after.warnings }

theorem Noted.refl (s : Session) : s.Noted s := rfl

theorem Noted.trans {s t u : Session} (h : s.Noted t) (h' : t.Noted u) : s.Noted u := by
  rw [Noted, h', h]

end Session

namespace Evaluation

variable {α β : Type}

theorem mapM_eq_some {f : α → Evaluation α} {l : List α} {s : Session}
    (h : ∀ a ∈ l, f a s = some (a, s)) : l.mapM f s = some (l, s) := by
  induction l with
  | nil => rfl
  | cons a l ih =>
    rw [List.mapM_cons, bind_eq_some_iff]
    refine ⟨a, s, h a List.mem_cons_self, bind_eq_some_iff.2 ⟨l, s, ?_, rfl⟩⟩
    exact ih fun b hb => h b (List.mem_cons_of_mem _ hb)

/-- Where each step gives its argument back and only notes, so do all together. -/
theorem eq_of_mapM {f : α → Evaluation α} {l results : List α} {s t : Session}
    {parameters : Parameters} (hs : s.parameters = parameters)
    (h : ∀ a ∈ l, ∀ s b t, s.parameters = parameters → f a s = some (b, t) → b = a ∧ s.Noted t)
    (hl : l.mapM f s = some (results, t)) : results = l ∧ s.Noted t := by
  induction l generalizing s results with
  | nil =>
    obtain ⟨rfl, rfl⟩ := pure_eq_some_iff.1 hl
    exact ⟨rfl, .refl s⟩
  | cons a l ih =>
    rw [List.mapM_cons, bind_eq_some_iff] at hl
    obtain ⟨b, u, hb, hl⟩ := hl
    obtain ⟨bs, v, hbs, hv⟩ := bind_eq_some_iff.1 hl
    obtain ⟨rfl, rfl⟩ := pure_eq_some_iff.1 hv
    obtain ⟨rfl, hu⟩ := h a List.mem_cons_self s b u hs hb
    have hup : u.parameters = parameters := by rw [hu]; exact hs
    obtain ⟨rfl, hv⟩ := ih hup (fun c hc => h c (List.mem_cons_of_mem _ hc)) hbs
    exact ⟨rfl, hu.trans hv⟩

end Evaluation

open Evaluation

namespace Resolution

/-- Resolving a normal tree gives it back, and at most notes that it is too deep. -/
theorem resolve_normal {fuel : Nat} {budget : Budget} {node result : Node} {s t : Session}
    (hn : node.Normal s.parameters) (h : resolve fuel budget node s = some (result, t)) :
    result = node ∧ s.Noted t := by
  induction fuel generalizing budget node result s t with
  | zero => exact nomatch h
  | succ fuel ih =>
    -- Nothing is expanded, so that only the children are walked.
    have hnormal : expand fuel budget node s = some (none, s) := Intrinsic.expand_normal hn
    cases resolved_of_resolve h with
    | spent => exact ⟨rfl, rfl⟩
    | expanded _ hexpand _ => exact nomatch hexpand.symm.trans hnormal
    | seq _ hexpand hvalues =>
      cases hexpand.symm.trans hnormal
      cases hn with
      | seq hi =>
        obtain ⟨rfl, hnoted⟩ := eq_of_mapM rfl
          (fun item hmem s b t hs hb => ih (hs ▸ hi item hmem) hb) hvalues
        exact ⟨rfl, hnoted⟩
    | map _ hexpand hvalues =>
      cases hexpand.symm.trans hnormal
      cases hn with
      | map _ he =>
        obtain ⟨rfl, hnoted⟩ := eq_of_mapM rfl (fun entry hmem s b t hs hb => by
          obtain ⟨value, v, hv, hb⟩ := bind_eq_some_iff.1 hb
          obtain ⟨rfl, rfl⟩ := pure_eq_some_iff.1 hb
          obtain ⟨rfl, hnoted⟩ := ih (hs ▸ he entry hmem) hv
          exact ⟨rfl, hnoted⟩) hvalues
        exact ⟨rfl, hnoted⟩
    | leaf _ hexpand _ _ =>
      cases hexpand.symm.trans hnormal
      exact ⟨rfl, .refl s⟩

/-- A normal tree with no more levels than the budget has left is resolved in
    silence. -/
theorem resolve_normal_within {fuel levels : Nat} {budget : Budget} {node : Node} {s : Session}
    (hn : node.Normal s.parameters) (hw : node.Within levels) (hb : levels ≤ budget.remaining)
    (hf : levels ≤ fuel) : resolve fuel budget node s = some (node, s) := by
  induction levels generalizing fuel budget node with
  | zero => exact hw.elim
  | succ levels ih =>
    obtain ⟨fuel, rfl⟩ : ∃ n, fuel = n + 1 := ⟨fuel - 1, by omega⟩
    have hs : budget.spent = false := Budget.spent_eq_false_iff.2 (by omega)
    have hd : levels ≤ budget.deeper.remaining := Budget.le_remaining_deeper hb
    have hnormal : expand fuel budget node s = some (none, s) := Intrinsic.expand_normal hn
    refine resolve_of_resolved ?_
    cases hn with
    | seq hi =>
      refine .seq hs hnormal (mapM_eq_some fun item hmem => ?_)
      exact ih (hi item hmem) (hw item hmem) hd (by omega)
    | map _ he =>
      refine .map hs hnormal (mapM_eq_some fun entry hmem => ?_)
      refine bind_eq_some_iff.2 ⟨entry.2, s, ?_, rfl⟩
      exact ih (he entry hmem) (hw entry hmem) hd (by omega)
    | _ => exact .leaf hs hnormal rfl rfl

/-- The result of a quiet walk has at most as many levels as its budget had left. -/
theorem resolve_within (fuel : Nat) (budget : Budget) (node : Node) :
    Ensures (fun _ => True) (resolve fuel budget node) fun result =>
      result.Within budget.remaining := by
  induction fuel generalizing budget node with
  | zero => exact ⟨(grows 0).1 budget node, fun _ _ _ _ h => (nomatch h)⟩
  | succ fuel ih =>
    refine (Ensures.walkStep (B := fun _ result => result.Within budget.deeper.remaining)
      (E := fun _ => True) ⟨expand_grows fuel budget node, fun _ _ _ _ _ _ => ⟨trivial, trivial⟩⟩
      (ih budget.deeper)).imp fun result ⟨hs, hw⟩ => ?_
    -- A node of the result stands at the level of the node it comes from, or deeper.
    obtain ⟨levels, hr⟩ : ∃ levels, budget.remaining = levels + 1 := by
      have := Budget.spent_eq_false_iff.1 hs
      exact ⟨budget.remaining - 1, by omega⟩
    rw [Budget.remaining_deeper, hr, Nat.add_sub_cancel] at hw
    rw [hr]
    cases hw with
    | expanded _ hb => exact hb.succ
    | seq _ hi => exact forall_mem_of_forall₂ hi fun _ _ h => h
    | map _ he => exact forall_mem_of_forall₂ he fun _ _ h => h.2
    | leaf _ he hq =>
      cases node with
      | seq items => exact nomatch hq
      | map entries => exact nomatch he
      | _ => trivial

end Resolution

end SamTemplate
