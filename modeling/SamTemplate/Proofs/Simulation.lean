import SamTemplate.Proofs.Growth

/-!
# Simulations

A computation simulates another one under a relation of sessions if it gives
what the other gives and leaves related sessions behind. Under a relation that
fixes the parameters and that noting respects, being simulated is compositional,
so that it needs a proof for named conditions only. That proof is the same for all
relations that fix what has been decided and what is being decided (`Matching`).

* `Resolution.simulates`: sessions that match are resolved in to the same, with more
  fuel, too;
* `Resolution.mono`: more fuel changes no result;
* `Resolution.ofName_unique`: hence deciding a name has one result, whatever the
  fuel.
-/

namespace SamTemplate

namespace Evaluation

/-- A relation of sessions under which computations can be compared. -/
structure Comparable (R : Session → Session → Prop) : Prop where
  /-- Related sessions have the same parameters. -/
  parameters : ∀ s t, R s t → s.parameters = t.parameters
  /-- They stay related when the same is noted in both. -/
  note : ∀ s t notice, R s t → R (s.note notice) (t.note notice)

variable {α β : Type} {R : Session → Session → Prop}

/-- What the first computation gives, the second gives in a related session. -/
def Simulates (R : Session → Session → Prop) (x y : Evaluation α) : Prop :=
  ∀ s t a s', R s t → x s = some (a, s') → ∃ t', y t = some (a, t') ∧ R s' t'

/-- Nothing is to be simulated of a computation that has no fuel. -/
theorem Simulates.outOfFuel (y : Evaluation α) : Simulates R Evaluation.outOfFuel y :=
  fun _ _ _ _ _ h => nomatch h

theorem compositional_simulates (hR : Comparable R) :
    CompositionalTwo fun _ x y => Simulates R x y where
  pure a := by
    intro s t b s' hs h
    obtain ⟨rfl, rfl⟩ := pure_eq_some_iff.1 h
    exact ⟨t, rfl, hs⟩
  bind hx hf := by
    intro s t b s' hs h
    obtain ⟨a, u, ha, hb⟩ := bind_eq_some_iff.1 h
    obtain ⟨v, hv, hu⟩ := hx s t a u hs ha
    obtain ⟨t', ht, hs'⟩ := hf a u v b s' hu hb
    exact ⟨t', bind_eq_some_iff.2 ⟨a, v, hv, ht⟩, hs'⟩
  note notice := by
    intro s t a s' hs h
    cases h
    exact ⟨_, note_apply notice, hR.note s t notice hs⟩
  read hf := by
    intro s t a s' hs h
    obtain ⟨t', ht, hs'⟩ := hf s.parameters s t a s' hs h
    rw [hR.parameters s t hs] at ht
    exact ⟨t', ht, hs'⟩

theorem comparable_eq : Comparable Eq := ⟨fun _ _ h => h ▸ rfl, fun _ _ _ h => h ▸ rfl⟩

/-- A run that is simulated in the same session is a run of the other computation. -/
theorem Simulates.eq_some {x y : Evaluation α} {s : Session} {r : α × Session}
    (h : Simulates Eq x y) (hx : x s = some r) : y s = some r := by
  obtain ⟨t, ht, rfl⟩ := h s s r.1 r.2 rfl hx
  exact ht

/-- What simulates a computation that answers answers, too. -/
theorem Answers.of_simulates {bound : Nat} {x y : Evaluation α} (hx : Answers bound x)
    (hxy : Simulates Eq x y) (hy : Grows y) : Answers bound y := by
  refine ⟨hy, fun s hs => ?_⟩
  obtain ⟨a, t, h⟩ := hx.2 s hs
  exact ⟨a, t, hxy.eq_some h⟩

/-- A computation that only grows with its fuel has one result. -/
theorem eq_of_simulates {x : Nat → Evaluation α} {s : Session} {r r' : α × Session} {f g : Nat}
    (hx : ∀ f g, f ≤ g → Simulates Eq (x f) (x g)) (h : x f s = some r) (h' : x g s = some r') :
    r = r' := by
  rcases Nat.le_total f g with hle | hle
  · exact Option.some.inj (((hx f g hle).eq_some h).symm.trans h')
  · exact Option.some.inj (h.symm.trans ((hx g f hle).eq_some h'))

end Evaluation

open Evaluation

/-- A relation of sessions that have decided the same, and are deciding the same, of the same
    conditions. -/
structure Matching (R : Session → Session → Prop) : Prop extends Comparable R where
  conditions : ∀ s t, R s t → s.conditions = t.conditions
  decided : ∀ s t, R s t → s.decided = t.decided
  pending : ∀ s t, R s t → s.pending = t.pending
  /-- Related sessions stay related when both begin to decide a condition. -/
  enter : ∀ s t name, R s t → R (s.enter name) (t.enter name)
  /-- They stay related when both end deciding it. -/
  leave : ∀ s t name value, R s t → R (s.leave name value) (t.leave name value)

theorem matching_eq : Matching Eq where
  toComparable := comparable_eq
  conditions _ _ h := h ▸ rfl
  decided _ _ h := h ▸ rfl
  pending _ _ h := h ▸ rfl
  enter _ _ _ h := h ▸ rfl
  leave _ _ _ _ h := h ▸ rfl

theorem Condition.ofName_simulates {R : Session → Session → Prop} (hR : Matching R)
    {decide decide' : Budget → Node → Evaluation Bool}
    (hd : ∀ node, Simulates R (decide {} node) (decide' {} node)) (name : String) :
    Simulates R (ofName decide name) (ofName decide' name) := by
  intro s t value s' hs h
  have hdecided := hR.decided s t hs
  have hconditions := hR.conditions s t hs
  have hpending := hR.pending s t hs
  cases asked_of_ofName h with
  | decided hn => exact ⟨t, ofName_apply_of_decided (hdecided ▸ hn), hs⟩
  | unknown hn hc =>
    exact ⟨_, ofName_apply_of_unknown (hdecided ▸ hn) (hconditions ▸ hc), hR.note s t _ hs⟩
  | circular hn hc hp =>
    exact ⟨_, ofName_apply_of_circular (hdecided ▸ hn) (hconditions ▸ hc) (hpending ▸ hp),
      hR.note s t _ hs⟩
  | decide hn hc hp hu =>
    -- The sessions are still related after entering, and are again after leaving.
    obtain ⟨v, hv, hleft⟩ := hd _ _ _ _ _ (hR.enter s t name hs) hu
    refine ⟨v.leave name value, ?_, hR.leave _ _ name value hleft⟩
    rw [ofName_apply_of_undecided (hdecided ▸ hn) (hconditions ▸ hc) (hpending ▸ hp), hv]
    rfl

theorem Condition.ofName_simulates_eq {decide decide' : Budget → Node → Evaluation Bool}
    (hd : ∀ node, Simulates Eq (decide {} node) (decide' {} node)) (name : String) :
    Simulates Eq (ofName decide name) (ofName decide' name) :=
  ofName_simulates matching_eq hd name

namespace Resolution

/-- In sessions that match, and with more fuel, the results are the same. -/
theorem simulates {R : Session → Session → Prop} (hR : Matching R) (f g : Nat) (hfg : f ≤ g) :
    (∀ budget node, Simulates R (resolve f budget node) (resolve g budget node)) ∧
      ∀ budget node, Simulates R (decide f budget node) (decide g budget node) := by
  induction f generalizing g with
  | zero => exact ⟨fun _ _ => .outOfFuel _, fun _ _ => .outOfFuel _⟩
  | succ f ih =>
    obtain ⟨g, rfl⟩ : ∃ n, g = n + 1 := ⟨g - 1, by omega⟩
    have hP := compositional_simulates hR.toComparable
    obtain ⟨hr, hd⟩ := ih g (by omega)
    have hname := Condition.ofName_simulates hR (hd {})
    exact ⟨fun budget node => hP.resolveLevel (fun _ => hr _) hname node,
      fun budget node => hP.decideLevel (fun _ => hr _) (fun _ => hd _) hname node⟩

/-- More fuel changes no result. -/
theorem mono (f g : Nat) (hfg : f ≤ g) :
    (∀ budget node, Simulates Eq (resolve f budget node) (resolve g budget node)) ∧
      ∀ budget node, Simulates Eq (decide f budget node) (decide g budget node) :=
  simulates matching_eq f g hfg

/-- Deciding a name has one result, whatever the fuel. -/
theorem ofName_unique {f g : Nat} {name : String} {s : Session} {r r' : Bool × Session}
    (h : Condition.ofName (decide f) name s = some r)
    (h' : Condition.ofName (decide g) name s = some r') : r = r' :=
  eq_of_simulates (x := fun f => Condition.ofName (decide f) name)
    (fun f g hfg => Condition.ofName_simulates_eq ((mono f g hfg).2 {}) name) h h'

end Resolution

end SamTemplate
