import SamTemplate.Node
import SamTemplate.Notice
import SamTemplate.Resolution.Budget
import SamTemplate.Resolution.Interpolation

/-!
# Sessions

What resolving a template knows and remembers: the parameters, the conditions
as they are written, the conditions already decided and those being decided,
and the notices so far. Parameters and conditions stay as they are.

An `Evaluation` is a computation in a session that may also run out of fuel.
-/

namespace SamTemplate

/-- The state of resolving one template. -/
structure Session where
  /-- The values of the parameters. -/
  parameters : Parameters
  /-- The expressions of the conditions. -/
  conditions : Entries Node
  /-- The conditions decided so far. -/
  decided : Bindings Bool
  /-- The conditions being decided, innermost first. -/
  pending : List String
  /-- The notices so far. -/
  warnings : Warnings

namespace Session

/-- A session in which nothing has been decided. -/
def start (parameters : Parameters) (conditions : Entries Node) : Session :=
  ⟨parameters, conditions, .empty, [], .empty⟩

/-- Adds a notice. -/
def note (session : Session) (notice : Notice) : Session :=
  { session with warnings := session.warnings.add notice.message }

/-- The conditions that are neither decided nor being decided. -/
def undecided (session : Session) : List String :=
  session.conditions.keys.filter fun name =>
    (session.decided.get? name).isNone && !session.pending.contains name

/-- How deep resolving can nest: down to the limit, and down from level zero
    once more for each condition that has not been looked at. -/
def nesting (session : Session) (budget : Budget) : Nat :=
  budget.remaining + 1 + 21 * session.undecided.length

end Session

/-- A computation in a session, without a result if its fuel runs out. -/
abbrev Evaluation := StateT Session Option

namespace Evaluation

/-- The fuel has run out. -/
def outOfFuel {α : Type} : Evaluation α := fun _ => none

/-- Adds a notice. -/
def note (notice : Notice) : Evaluation Unit := modify (·.note notice)

/-- Adds a notice and gives no result. -/
def decline {α : Type} (notice : Notice) : Evaluation (Option α) := do
  note notice
  return none

/-- Adds a notice and answers no. -/
def deny (notice : Notice) : Evaluation Bool := do
  note notice
  return false

end Evaluation

end SamTemplate
