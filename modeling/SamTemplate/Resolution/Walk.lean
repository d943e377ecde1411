import SamTemplate.Node
import SamTemplate.Resolution.Budget

/-!
# Walking a tree

A walk offers every node to an expander. A node that is expanded is offered
again in its new form, one level deeper; a container that is declined has its
children walked. When the budget is spent the node is left as it is and
reported. The walk itself knows nothing of what it expands: `walkStep` is one
level of it, with the levels below as an argument, and `Expander.walk` ties the
levels together for an expander that does not walk by itself.
-/

namespace SamTemplate

/-- One level of a walk. `below` walks a node one level deeper. -/
def walkStep {m : Type → Type} [Monad m] (expand : Budget → Node → m (Option Node))
    (cutOff : Budget → Node → m Unit) (below : Budget → Node → m Node)
    (budget : Budget) (node : Node) : m Node := do
  if budget.spent then
    cutOff budget node
    return node
  else
    match ← expand budget node with
    | some expanded => below budget.deeper expanded
    | none =>
      match node with
      | .seq items => return .seq (← items.mapM (below budget.deeper))
      | .map entries =>
        return .map (← entries.mapM fun (key, value) => do
          return (key, ← below budget.deeper value))
      | leaf => return leaf

/-- What a walk does at each node, with a state of its own. -/
structure Expander (σ : Type) where
  /-- The node in its new form, or nothing to decline it. -/
  expand : Budget → Node → StateM σ (Option Node)
  /-- Told of a node that is left because the budget is spent. -/
  cutOff : Budget → Node → StateM σ Unit

namespace Expander

variable {σ : Type}

/-- A walk of at most so many levels below this one. -/
def walkWithin (expander : Expander σ) : Nat → Budget → Node → StateM σ Node
  | 0 => walkStep expander.expand expander.cutOff fun _ node => pure node
  | levels + 1 => walkStep expander.expand expander.cutOff (expander.walkWithin levels)

/-- Walks a tree from a level on. As many levels are left as the budget says, so
    the node below the last one is never asked for. -/
def walk (expander : Expander σ) (budget : Budget) (node : Node) : StateM σ Node :=
  expander.walkWithin budget.remaining budget node

end Expander

end SamTemplate
