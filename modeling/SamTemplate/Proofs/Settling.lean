import SamTemplate.Proofs.History
import SamTemplate.Proofs.Normal
import SamTemplate.Proofs.Reordering

/-!
# What a part of a template is resolved to

From scratch a tree is resolved to the same wherever in a run that happens and however
much fuel there is (`Scratch.Settles`). So each entry of a mapping is resolved by itself:
what it is resolved to does not depend on the entries beside it.

* `Settles.unique`: a tree is resolved to one tree;
* `Settles.map`: a mapping that calls no function is resolved entry by entry;
* `Session.settles_resolve`: a session that meets no cycle resolves a template so.
-/

namespace SamTemplate

open Node Evaluation

namespace Scratch

variable {parameters : Parameters} {conditions : Entries Node} {budget : Budget}
  {node result result' : Node}

/-- With enough fuel a tree is resolved to this one in every session of a template, from
    a level on. -/
def Settles (parameters : Parameters) (conditions : Entries Node) (budget : Budget)
    (node result : Node) : Prop :=
  ∃ fuel, Gives parameters conditions (resolve fuel budget node) result

/-- One run shows what is given in all sessions of a template, also with more fuel. -/
theorem gives_of_run {f g : Nat} {s t : Session} (hs : s.Serves parameters conditions)
    (h : resolve f budget node s = some (result, t)) (hfg : f ≤ g) :
    Gives parameters conditions (resolve g budget node) result :=
  gives_of_simulates ((mono (comparable_twins parameters conditions)
    (fun _ _ => Twins.same_conditions) f g hfg).1 budget node) hs h

theorem Settles.unique (h : Settles parameters conditions budget node result)
    (h' : Settles parameters conditions budget node result') : result = result' := by
  obtain ⟨f, h⟩ := h
  obtain ⟨g, h'⟩ := h'
  have hs := Session.serves_start parameters conditions
  obtain ⟨t, ht, -⟩ := h _ hs
  obtain ⟨t', ht', -⟩ := h' _ hs
  -- With the fuel of both, both are the result of the same run.
  obtain ⟨u, hu, -⟩ := gives_of_run hs ht (Nat.le_max_left f g) _ hs
  obtain ⟨u', hu', -⟩ := gives_of_run hs ht' (Nat.le_max_right f g) _ hs
  cases hu.symm.trans hu'
  rfl

/-- A run through a list goes through its elements, one after the other. -/
theorem forall₂_of_mapM {α β : Type} {R : α → β → Prop} {f : α → Evaluation β}
    (hf : ∀ a s b t, s.Serves parameters conditions → f a s = some (b, t) →
      R a b ∧ t.Serves parameters conditions)
    {l : List α} {results : List β} {s t : Session} (hs : s.Serves parameters conditions)
    (h : l.mapM f s = some (results, t)) : List.Forall₂ R l results := by
  induction l generalizing s results with
  | nil =>
    obtain ⟨rfl, -⟩ := pure_eq_some_iff.1 h
    exact .nil
  | cons a l ih =>
    rw [List.mapM_cons] at h
    obtain ⟨b, u, hb, h⟩ := bind_eq_some_iff.1 h
    obtain ⟨bs, v, hbs, h⟩ := bind_eq_some_iff.1 h
    obtain ⟨rfl, rfl⟩ := pure_eq_some_iff.1 h
    obtain ⟨hab, hu⟩ := hf a s b u hs hb
    exact .cons hab (ih hu hbs)

/-- The entries of a mapping that calls no function are resolved each by itself. -/
theorem Settles.map {entries : Entries Node}
    (h : Settles parameters conditions budget (.map entries) result)
    (hcall : (Node.map entries).intrinsic? = none) (hspent : budget.spent = false) :
    ∃ results, result = .map results ∧
      List.Forall₂ (OnValues (Settles parameters conditions budget.deeper)) entries results := by
  obtain ⟨fuel, h⟩ := h
  have hs := Session.serves_start parameters conditions
  obtain ⟨t, ht, -⟩ := h _ hs
  cases fuel with
  | zero => exact nomatch ht
  | succ fuel =>
    rw [resolve] at ht
    unfold walkStep at ht
    simp only [hspent, Bool.false_eq_true, if_false,
      Intrinsic.expand_of_intrinsic?_eq_none hcall nofun, pure_bind] at ht
    obtain ⟨results, u, hl, ht⟩ := bind_eq_some_iff.1 ht
    obtain ⟨rfl, -⟩ := pure_eq_some_iff.1 ht
    refine ⟨results, rfl, forall₂_of_mapM (fun entry s value t hserves hv => ?_) hs hl⟩
    obtain ⟨below, v, hbelow, hv⟩ := bind_eq_some_iff.1 hv
    obtain ⟨rfl, rfl⟩ := pure_eq_some_iff.1 hv
    have hgives := gives_of_run hserves hbelow (Nat.le_refl fuel)
    obtain ⟨w, hw, hw'⟩ := hgives s hserves
    cases hbelow.symm.trans hw
    exact ⟨⟨rfl, fuel, hgives⟩, hw'⟩

end Scratch

open Scratch

/-- What a session that meets no cycle resolves a template to. -/
theorem Session.settles_resolve {parameters : Parameters} {conditions : Entries Node} {node : Node}
    (hcycle : ¬ ((start parameters conditions).resolve node).2.warnings.ReportsCycle) :
    Settles parameters conditions {} node ((start parameters conditions).resolve node).1 := by
  obtain ⟨fuel, hgives⟩ := gives_of_start parameters conditions (.resolve {} node) hcycle
  refine ⟨fuel, fun s hs => ?_⟩
  obtain ⟨t, ht, hserves⟩ := hgives s hs
  obtain ⟨result, u, hu, ht⟩ := bind_eq_some_iff.1 ht
  obtain ⟨hresult, rfl⟩ := pure_eq_some_iff.1 ht
  exact ⟨u, Answer.resolved.inj hresult ▸ hu, hserves⟩

end SamTemplate
