import Mathlib.Data.Nat.Find
import SamTemplate.Proofs.Simulation

/-!
# Deciding from scratch

Resolving and deciding without memory: a named condition is decided anew
wherever it is asked for, and nothing keeps a circular one from being decided
for ever. So a condition has a value from scratch (`Scratch.Value`) if no cycle
is met on the way, and this value depends on the template only.

* `Scratch.mono`: more fuel or another session of the template changes no result;
* `Scratch.Value.unique`, `Scratch.Value.least`: a condition has at most one value
  from scratch, and there is a least fuel with which it has it.
-/

namespace SamTemplate

open Evaluation

namespace Scratch

/-- The value of the condition of a name, which is decided wherever it is asked
    for. -/
def ofName (decide : Budget → Node → Evaluation Bool) (name : String) : Evaluation Bool := do
  match (← get).conditions.get? name with
  | none => Evaluation.deny (.conditionUnknown name)
  | some expression => decide {} expression

mutual

/-- Resolves a tree from a level on. -/
def resolve : Nat → Budget → Node → Evaluation Node
  | 0 => fun _ _ => Evaluation.outOfFuel
  | fuel + 1 =>
    walkStep
      (fun budget node => Intrinsic.expand (resolve fuel budget.deeper) (ofName (decide fuel)) node)
      (fun budget _ => Evaluation.note (.depthExceeded budget.limit))
      (resolve fuel)

/-- Decides a condition expression from a level on. -/
def decide : Nat → Budget → Node → Evaluation Bool
  | 0 => fun _ _ => Evaluation.outOfFuel
  | fuel + 1 => fun budget node =>
    if budget.spent then Evaluation.deny (.conditionDepth budget.limit)
    else
      Condition.ofNode (resolve fuel budget.deeper.deeper) (decide fuel budget.deeper)
        (ofName (decide fuel)) node

end

variable {parameters : Parameters} {conditions : Entries Node} {name : String} {s t : Session}

theorem ofName_apply_of_unknown {decide : Budget → Node → Evaluation Bool}
    (hc : s.conditions.get? name = none) :
    ofName decide name s = some (false, s.note (.conditionUnknown name)) := by
  rw [ofName, get_bind_apply, hc]
  rfl

/-- From scratch a name is as good as its expression. -/
theorem ofName_apply {decide : Budget → Node → Evaluation Bool} {expression : Node}
    (hc : s.conditions.get? name = some expression) :
    ofName decide name s = decide {} expression s := by
  rw [ofName, get_bind_apply, hc]

/-! ### Independence of the session -/

/-- Two sessions of one template. -/
def Twins (parameters : Parameters) (conditions : Entries Node) (s t : Session) : Prop :=
  s.Serves parameters conditions ∧ t.Serves parameters conditions

theorem comparable_twins (parameters : Parameters) (conditions : Entries Node) :
    Comparable (Twins parameters conditions) where
  parameters _ _ h := h.1.parameters_eq.trans h.2.parameters_eq.symm
  note s t notice h :=
    ⟨(Session.Grows.note s notice).serves h.1, (Session.Grows.note t notice).serves h.2⟩

theorem Twins.same_conditions {s t : Session} (h : Twins parameters conditions s t) :
    s.conditions = t.conditions :=
  h.1.same_conditions h.2

section

variable {R : Session → Session → Prop} (hR : Comparable R)
  (hconditions : ∀ s t, R s t → s.conditions = t.conditions)

include hR hconditions

theorem ofName_simulates {decide decide' : Budget → Node → Evaluation Bool}
    (hd : ∀ node, Simulates R (decide {} node) (decide' {} node)) (name : String) :
    Simulates R (ofName decide name) (ofName decide' name) := by
  intro s t value s' hs h
  -- Both sessions find the same expression under the name, or none.
  have hcond : s.conditions = t.conditions := hconditions s t hs
  cases hc : s.conditions.get? name with
  | none =>
    rw [ofName_apply_of_unknown hc] at h
    cases h
    exact ⟨_, ofName_apply_of_unknown (hcond ▸ hc), hR.note s t (.conditionUnknown name) hs⟩
  | some expression =>
    rw [ofName_apply hc] at h
    obtain ⟨t', ht, hs'⟩ := hd expression s t value s' hs h
    exact ⟨t', by rw [ofName_apply (hcond ▸ hc), ht], hs'⟩

/-- More fuel or another session with the same conditions changes no result. -/
theorem mono (f g : Nat) (hfg : f ≤ g) :
    (∀ budget node, Simulates R (resolve f budget node) (resolve g budget node)) ∧
      ∀ budget node, Simulates R (decide f budget node) (decide g budget node) := by
  induction f generalizing g with
  | zero => exact ⟨fun _ _ => .outOfFuel _, fun _ _ => .outOfFuel _⟩
  | succ f ih =>
    obtain ⟨g, rfl⟩ : ∃ n, g = n + 1 := ⟨g - 1, by omega⟩
    have hP := compositional_simulates hR
    obtain ⟨hr, hd⟩ := ih g (by omega)
    have hname := ofName_simulates hR hconditions (hd {})
    exact ⟨fun budget node => hP.resolveLevel (fun _ => hr _) hname node,
      fun budget node => hP.decideLevel (fun _ => hr _) (fun _ => hd _) hname node⟩

/-- More fuel does not change what deciding a name gives. -/
theorem ofName_mono {f g : Nat} (hfg : f ≤ g) (name : String) :
    Simulates R (ofName (decide f) name) (ofName (decide g) name) :=
  ofName_simulates hR hconditions ((mono hR hconditions f g hfg).2 {}) name

end

variable (parameters conditions)

/-- A computation has a result in every session of a template. -/
def Gives {α : Type} (x : Evaluation α) (a : α) : Prop :=
  ∀ s : Session, s.Serves parameters conditions →
    ∃ t : Session, x s = some (a, t) ∧ t.Serves parameters conditions

/-- The value that the condition of a name has from scratch, with some fuel. -/
def Value (fuel : Nat) (name : String) (value : Bool) : Prop :=
  Gives parameters conditions (ofName (decide fuel) name) value

variable {parameters conditions} {f g : Nat} {value value' : Bool}

/-- What is simulated in any session of the template is given in all of them. -/
theorem gives_of_simulates {α : Type} {x y : Evaluation α} {a : α}
    (h : Simulates (Twins parameters conditions) x y) (hs : s.Serves parameters conditions)
    (hx : x s = some (a, t)) : Gives parameters conditions y a := by
  intro u hu
  obtain ⟨u', hy, hu'⟩ := h s u a t ⟨hs, hu⟩ hx
  exact ⟨u', hy, hu'.2⟩

/-- A single run tells the value, for so much fuel or more. -/
theorem value_of_run (hs : s.Serves parameters conditions)
    (h : ofName (decide f) name s = some (value, t)) (hfg : f ≤ g) :
    Value parameters conditions g name value :=
  have hmono := ofName_mono (comparable_twins parameters conditions)
    (fun _ _ => Twins.same_conditions) hfg name
  gives_of_simulates hmono hs h

theorem Value.mono (h : Value parameters conditions f name value) (hfg : f ≤ g) :
    Value parameters conditions g name value := by
  have hs := Session.serves_start parameters conditions
  obtain ⟨t, ht, -⟩ := h _ hs
  exact value_of_run hs ht hfg

/-- A condition has one value from scratch, whatever the fuel. -/
theorem Value.unique (h : Value parameters conditions f name value)
    (h' : Value parameters conditions g name value') : value = value' := by
  have hs := Session.serves_start parameters conditions
  -- With the fuel of both, both are the result of the same run.
  obtain ⟨t, ht, -⟩ := h.mono (Nat.le_max_left f g) _ hs
  obtain ⟨t', ht', -⟩ := h'.mono (Nat.le_max_right f g) _ hs
  cases ht.symm.trans ht'
  rfl

/-- The least fuel with which a condition has a value. -/
theorem Value.least (h : Value parameters conditions f name value) :
    ∃ g ≤ f, Value parameters conditions g name value ∧
      ∀ k < g, ∀ value', ¬ Value parameters conditions k name value' := by
  classical
  have hex : ∃ g, Value parameters conditions g name value := ⟨f, h⟩
  refine ⟨Nat.find hex, Nat.find_min' hex h, Nat.find_spec hex, fun k hk value' hv => ?_⟩
  obtain rfl := h.unique hv
  exact Nat.find_min hex hk hv

end Scratch

end SamTemplate
