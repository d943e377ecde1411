import SamTemplate.Proofs.Simulation

/-!
# Nesting

How deep resolving and deciding nest. The fuel of `Resolution.resolve` and
`Resolution.decide` is less by one in all that an activation calls, so a run that
has a result with some fuel never has more activations inside one another.

A machine counts the levels of a budget in words. `Counted.resolve` and
`Counted.decide` are resolving and deciding with that in mind: an activation
whose level is the greatest word has no result, since no level comes after it.

* `Counted.simulates`: where the limit of a budget is at least two below the
  greatest word, no activation has that word as its level;
* `Session.answers_within_nesting`: so in every session each operation answers
  with fuel for the levels that are left, one more, and 21 for each condition that
  is neither decided nor being decided.
-/

namespace SamTemplate

open Evaluation

namespace Counted

variable {α : Type} (greatest : Nat)

/-- An activation that has a result only if a level comes after its own. -/
def activate (run : Budget → Node → Evaluation α) (budget : Budget) (node : Node) : Evaluation α :=
  if budget.level < greatest then run budget node else Evaluation.outOfFuel

mutual

/-- Resolves a tree from a level on, where levels are counted up to `greatest`. -/
def resolve : Nat → Budget → Node → Evaluation Node
  | 0 => fun _ _ => Evaluation.outOfFuel
  | fuel + 1 =>
    activate greatest <| walkStep
      (fun budget node =>
        Intrinsic.expand (resolve fuel budget.deeper) (Condition.ofName (decide fuel)) node)
      (fun budget _ => Evaluation.note (.depthExceeded budget.limit))
      (resolve fuel)

/-- Decides a condition expression from a level on, where levels are counted up to
    `greatest`. -/
def decide : Nat → Budget → Node → Evaluation Bool
  | 0 => fun _ _ => Evaluation.outOfFuel
  | fuel + 1 => activate greatest <| Condition.decideStep (resolve fuel) (decide fuel)

end

/-- Expands a node once, its operands resolved from the next level on. -/
def expand (fuel : Nat) (budget : Budget) (node : Node) : Evaluation (Option Node) :=
  Intrinsic.expand (resolve greatest fuel budget.deeper)
    (Condition.ofName (decide greatest fuel)) node

variable {greatest}

theorem activate_of_lt {run : Budget → Node → Evaluation α} {budget : Budget}
    (h : budget.level < greatest) (node : Node) :
    activate greatest run budget node = run budget node :=
  if_pos h

/-- A budget whose levels, and two more, can be counted. -/
structure Fits (greatest : Nat) (budget : Budget) : Prop where
  level : budget.level < greatest
  limit : budget.limit + 2 ≤ greatest

theorem Fits.deeper {budget : Budget} (h : Fits greatest budget) (hs : budget.spent = false) :
    Fits greatest budget.deeper ∧ Fits greatest budget.deeper.deeper := by
  have hlt : budget.level < budget.limit := by simpa [Budget.spent] using hs
  have hlimit := h.limit
  exact ⟨⟨show budget.level + 1 < greatest by omega, hlimit⟩,
    ⟨show budget.level + 1 + 1 < greatest by omega, hlimit⟩⟩

/-- Every budget that an activation hands on fits, so that counting its levels in
    words changes nothing. -/
theorem simulates (hg : Fits greatest {}) (fuel : Nat) :
    (∀ budget node, Fits greatest budget →
      Simulates Eq (Resolution.resolve fuel budget node) (resolve greatest fuel budget node)) ∧
    ∀ budget node, Fits greatest budget →
      Simulates Eq (Resolution.decide fuel budget node) (decide greatest fuel budget node) := by
  induction fuel with
  | zero => exact ⟨fun _ _ _ => .outOfFuel _, fun _ _ _ => .outOfFuel _⟩
  | succ fuel ih =>
    obtain ⟨hr, hd⟩ := ih
    have hP := compositional_simulates comparable_eq
    have hname := Condition.ofName_simulates_eq fun node => hd {} node hg
    refine ⟨fun budget node h => ?_, fun budget node h => ?_⟩
    · rw [resolve, activate_of_lt h.level]
      exact hP.resolveLevel (fun hs node => hr _ node (h.deeper hs).1) hname node
    · rw [decide, activate_of_lt h.level]
      exact hP.decideLevel (fun hs node => hr _ node (h.deeper hs).2)
        (fun hs node => hd _ node (h.deeper hs).1) hname node

end Counted

namespace Session

open Counted

variable {greatest fuel : Nat} {budget : Budget}

/-- Expanding a node simulates what its operands and conditions do. -/
theorem expand_simulates {resolve resolve' : Node → Evaluation Node}
    {holds holds' : String → Evaluation Bool}
    (hr : ∀ node, Simulates Eq (resolve node) (resolve' node))
    (hh : ∀ name, Simulates Eq (holds name) (holds' name)) (node : Node) :
    Simulates Eq (Intrinsic.expand resolve holds node) (Intrinsic.expand resolve' holds' node) :=
  @Compositional.expand Bool _ (compositional_simulates comparable_eq)
    (fun i => bif i then resolve' else resolve) (fun i => bif i then holds' else holds) hr hh node

/-- The fuel that an operation needs, and all fuel beyond it, is enough for the
    operation, and no activation on the way has the greatest word as its level. So
    no more activations are ever nested than there are levels left in the budget,
    and one more, and 21 for each undecided condition. -/
theorem answers_within_nesting (greatest : Nat) (hg : 22 ≤ greatest) (s : Session)
    (budget : Budget) (hlevel : budget.level + 2 ≤ greatest)
    (hlimit : budget.limit + 2 ≤ greatest) :
    (∀ fuel, (budget.limit - budget.level + 1) + 21 * s.undecided.length ≤ fuel → ∀ node,
      (Resolution.resolve fuel budget node s = some (s.resolveAt budget node) ∧
        Counted.resolve greatest fuel budget node s = some (s.resolveAt budget node)) ∧
      (Resolution.expand fuel budget node s = some (s.expandAt budget node) ∧
        Counted.expand greatest fuel budget node s = some (s.expandAt budget node)) ∧
      Resolution.decide fuel budget node s = some (s.decideAt budget node) ∧
        Counted.decide greatest fuel budget node s = some (s.decideAt budget node)) ∧
    ∀ fuel, 21 * s.undecided.length ≤ fuel → ∀ name,
      Condition.ofName (Resolution.decide fuel) name s = some (s.decideNamed name) ∧
        Condition.ofName (Counted.decide greatest fuel) name s = some (s.decideNamed name) := by
  have hzero : Fits greatest {} := ⟨show 0 < greatest by omega, hg⟩
  have hbudget : Fits greatest budget := ⟨by omega, hlimit⟩
  have hdeeper : Fits greatest budget.deeper := ⟨show budget.level + 1 < greatest by omega, hlimit⟩
  have hcounted (fuel : Nat) := Counted.simulates hzero fuel
  have hname (fuel : Nat) := Condition.ofName_simulates_eq fun node =>
    (hcounted fuel).2 {} node hzero
  refine ⟨fun fuel hfuel node => ?_, fun fuel hfuel name => ?_⟩
  · have hmono := Resolution.mono _ _ (show s.nesting budget ≤ fuel from hfuel)
    have hresolve := (hmono.1 budget node).eq_some (s.resolveAt_spec budget node)
    have hexpand := (expand_simulates (hmono.1 budget.deeper)
      (Condition.ofName_simulates_eq (hmono.2 {})) node).eq_some (s.expandAt_spec budget node)
    have hdecide := (hmono.2 budget node).eq_some (s.decideAt_spec budget node)
    refine ⟨⟨hresolve, ((hcounted fuel).1 budget node hbudget).eq_some hresolve⟩,
      ⟨hexpand, ?_⟩, hdecide, ((hcounted fuel).2 budget node hbudget).eq_some hdecide⟩
    exact (expand_simulates (fun node => (hcounted fuel).1 _ node hdeeper) (hname fuel)
      node).eq_some hexpand
  · -- The fuel that the operation brings along may be more than this.
    obtain ⟨value, t, hrun⟩ :=
      (Resolution.ofName_answers hfuel (Resolution.answers fuel).2 name).2 s (Nat.le_refl _)
    have hanswer := hrun
    rw [Resolution.ofName_unique hrun (s.decideNamed_spec name)] at hanswer
    exact ⟨hanswer, (hname fuel name).eq_some hanswer⟩

/-- A parameter and a condition that refer to themselves, in a machine of 64 bits. -/
theorem answers_within_nesting_tangled :
    Counted.resolve (UInt64.size - 1) 42 {}
        (.call "Fn::If" (.seq [.str "A", .str "$\x7bName\x7d", .str "$\x7bName\x7d+"]))
        (start (Bindings.empty.insert "Name" "$\x7bName\x7d-")
          [("A", .call "Fn::Not" (.seq [.call "Condition" (.str "A")]))])
      = some ((start (Bindings.empty.insert "Name" "$\x7bName\x7d-")
          [("A", .call "Fn::Not" (.seq [.call "Condition" (.str "A")]))]).resolveAt {}
        (.call "Fn::If" (.seq [.str "A", .str "$\x7bName\x7d", .str "$\x7bName\x7d+"]))) :=
  ((answers_within_nesting (UInt64.size - 1) (by decide)
    (start (Bindings.empty.insert "Name" "$\x7bName\x7d-")
      [("A", .call "Fn::Not" (.seq [.call "Condition" (.str "A")]))]) {} (by decide) (by decide)).1
    42 (by decide)
    (.call "Fn::If" (.seq [.str "A", .str "$\x7bName\x7d", .str "$\x7bName\x7d+"]))).1.2

end Session

end SamTemplate
