import SamTemplate.Resolution.Basic

/-!
# Levels in words

A `Budget` counts its levels without end. A machine counts them in words, and what
comes after the greatest word is level zero. Resolving and deciding with such
levels (`Wrapped.resolve`, `Wrapped.decide`) are as before, except that each
activation begins by taking its level for what a word holds of it.

A level below the limit has a word after it. So the two can only differ where a level
is counted without a look at the limit: the operands of a condition are two levels
below the last look, and an operation may expand a node at any level.
-/

namespace SamTemplate

/-- The budget as words hold it, if `greatest` is the greatest word. -/
def Budget.wrap (greatest : Nat) (budget : Budget) : Budget :=
  { budget with level := budget.level % (greatest + 1) }

namespace Wrapped

variable {α : Type} (greatest : Nat)

/-- An activation that takes its level for what a word holds of it. -/
def activate (run : Budget → Node → Evaluation α) (budget : Budget) (node : Node) : Evaluation α :=
  run (budget.wrap greatest) node

mutual

/-- Resolves a tree from a level on, where the level after `greatest` is zero. -/
def resolve : Nat → Budget → Node → Evaluation Node
  | 0 => fun _ _ => Evaluation.outOfFuel
  | fuel + 1 =>
    activate greatest <| walkStep
      (fun budget node =>
        Intrinsic.expand (resolve fuel budget.deeper) (Condition.ofName (decide fuel)) node)
      (fun budget _ => Evaluation.note (.depthExceeded budget.limit))
      (resolve fuel)

/-- Decides a condition expression from a level on, where the level after
    `greatest` is zero. -/
def decide : Nat → Budget → Node → Evaluation Bool
  | 0 => fun _ _ => Evaluation.outOfFuel
  | fuel + 1 => activate greatest <| Condition.decideStep (resolve fuel) (decide fuel)

end

/-- Expands a node once, its operands resolved from the next level on. -/
def expand (fuel : Nat) (budget : Budget) (node : Node) : Evaluation (Option Node) :=
  Intrinsic.expand (resolve greatest fuel budget.deeper)
    (Condition.ofName (decide greatest fuel)) node

end Wrapped

namespace Session

/-- How deep resolving can nest with levels in words: as deep as without, and down
    once more from level zero, where a level did not fit. -/
def nestingInWords (session : Session) (budget : Budget) : Nat :=
  session.nesting budget + (budget.limit + 1)

/-- Resolves a tree from a level on, with levels in words. -/
def resolveInWords (session : Session) (greatest : Nat) (budget : Budget) (node : Node) :
    Node × Session :=
  session.run (Wrapped.resolve greatest (session.nestingInWords budget) budget node) node

/-- Expands a node once, if it is a text or call that can be, with levels in words. -/
def expandInWords (session : Session) (greatest : Nat) (budget : Budget) (node : Node) :
    Option Node × Session :=
  session.run (Wrapped.expand greatest (session.nestingInWords budget) budget node) none

/-- Decides a condition expression from a level on, with levels in words. -/
def decideInWords (session : Session) (greatest : Nat) (budget : Budget) (node : Node) :
    Bool × Session :=
  session.run (Wrapped.decide greatest (session.nestingInWords budget) budget node) false

end Session

end SamTemplate
