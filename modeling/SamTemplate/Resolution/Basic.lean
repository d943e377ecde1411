import SamTemplate.Resolution.Condition
import SamTemplate.Resolution.Intrinsic
import SamTemplate.Resolution.Walk

/-!
# Resolution

Resolving a tree and deciding a condition call each other: a choice asks for a
condition, a comparison resolves its operands. Both are given here by recursion
on fuel, each level handing its fuel less one to the levels below
(`Resolution.resolve`, `Resolution.decide`), and then as operations of a
session that bring enough fuel along (`Session.nesting`).
-/

namespace SamTemplate

namespace Resolution

mutual

/-- Resolves a tree from a level on. -/
def resolve : Nat → Budget → Node → Evaluation Node
  | 0 => fun _ _ => Evaluation.outOfFuel
  | fuel + 1 =>
    walkStep
      (fun budget node =>
        Intrinsic.expand (resolve fuel budget.deeper) (Condition.ofName (decide fuel)) node)
      (fun budget _ => Evaluation.note (.depthExceeded budget.limit))
      (resolve fuel)

/-- Decides a condition expression from a level on. -/
def decide : Nat → Budget → Node → Evaluation Bool
  | 0 => fun _ _ => Evaluation.outOfFuel
  | fuel + 1 => Condition.decideStep (resolve fuel) (decide fuel)

end

/-- Expands a node once, its operands resolved from the next level on. -/
def expand (fuel : Nat) (budget : Budget) (node : Node) : Evaluation (Option Node) :=
  Intrinsic.expand (resolve fuel budget.deeper) (Condition.ofName (decide fuel)) node

end Resolution

namespace Session

/-- Runs a computation in a session; without a result the session stays as it
    is and the answer is `fallback`. -/
def run {α : Type} (session : Session) (computation : Evaluation α) (fallback : α) : α × Session :=
  (computation session).getD (fallback, session)

/-- Resolves a tree from a level on. -/
def resolveAt (session : Session) (budget : Budget) (node : Node) : Node × Session :=
  session.run (Resolution.resolve (session.nesting budget) budget node) node

/-- Resolves a whole tree. -/
def resolve (session : Session) (node : Node) : Node × Session := session.resolveAt {} node

/-- Expands a node once, if it is a text or call that can be. -/
def expandAt (session : Session) (budget : Budget) (node : Node) : Option Node × Session :=
  session.run (Resolution.expand (session.nesting budget) budget node) none

/-- Decides a condition expression from a level on. -/
def decideAt (session : Session) (budget : Budget) (node : Node) : Bool × Session :=
  session.run (Resolution.decide (session.nesting budget) budget node) false

/-- Decides the condition of a name. -/
def decideNamed (session : Session) (name : String) : Bool × Session :=
  session.run (Condition.ofName (Resolution.decide (session.nesting {})) name) false

/-- Takes the notices out of a session. -/
def takeWarnings (session : Session) : Warnings × Session :=
  (session.warnings, { session with warnings := .empty })

end Session

end SamTemplate
