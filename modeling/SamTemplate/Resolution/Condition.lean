import SamTemplate.Resolution.Session
import SamTemplate.Text.Case

/-!
# Conditions

An expression that is true or false: a truth value, a text that spells one, a
comparison of two texts, a negation, conjunction or disjunction, a reference to
a named condition, or anything that resolves to a truth value. Conjunctions and
disjunctions stop at the first operand that settles them.

A named condition is decided once, from level zero wherever it is asked for. A
name that comes up while it is being decided is circular: it counts as false
there and is reported.
-/

namespace SamTemplate

/-- Whether a text spells a true condition. -/
def spellsTrue (text : String) : Bool := eqIgnoringAsciiCase text "true" || text = "1"

namespace Condition

/-- A form of condition that is written as a call. -/
inductive Form where
  /-- Equality of two texts. -/
  | equals
  /-- Negation of a condition. -/
  | not
  /-- All conditions of a list. -/
  | and
  /-- Some condition of a list. -/
  | or
  /-- A condition by name. -/
  | named
  deriving DecidableEq, Repr

namespace Form

/-- The name a form is written with. -/
def name : Form → String
  | equals => "Fn::Equals"
  | not => "Fn::Not"
  | and => "Fn::And"
  | or => "Fn::Or"
  | named => "Condition"

/-- All forms. -/
def all : List Form := [equals, not, and, or, named]

/-- The form of a name. -/
def ofName? (name : String) : Option Form := all.find? fun form => form.name = name

end Form

section Decide

variable (resolve : Node → Evaluation Node) (decide : Node → Evaluation Bool)
  (holds : String → Evaluation Bool)

/-- Whether all conditions hold, up to the first that does not. -/
def allHold : List Node → Evaluation Bool
  | [] => return true
  | node :: rest => do if ← decide node then allHold rest else return false

/-- Whether some condition holds, up to the first that does. -/
def someHold : List Node → Evaluation Bool
  | [] => return false
  | node :: rest => do if ← decide node then return true else someHold rest

/-- The value of a form with its operand. -/
def ofForm : Form → Node → Evaluation Bool
  | .equals, .seq [left, right] => do
    let left ← resolve left
    let right ← resolve right
    return left.text = right.text
  | .equals, _ => Evaluation.deny .equalsShape
  | .not, .seq [operand] => do return !(← decide operand)
  | .not, _ => Evaluation.deny .notShape
  | .and, .seq operands => allHold decide operands
  | .and, _ => Evaluation.deny .andShape
  | .or, .seq operands => someHold decide operands
  | .or, _ => Evaluation.deny .orShape
  | .named, operand => holds operand.text

/-- The truth value that a node resolves to. -/
def ofValue (node : Node) : Evaluation Bool := do
  match ← resolve node with
  | .bool value => return value
  | .str text => return spellsTrue text
  | other => Evaluation.deny (.conditionForm other.text)

/-- The value of an expression. -/
def ofNode : Node → Evaluation Bool
  | .bool value => return value
  | .str text => return spellsTrue text
  | node =>
    match node.call?.bind fun (name, operand) => (Form.ofName? name).map (·, operand) with
    | some (form, operand) => ofForm resolve decide holds form operand
    | none => ofValue resolve node

end Decide

/-- The value of the condition of a name, where `decide` is the value of an
    expression from a level on. -/
def ofName (decide : Budget → Node → Evaluation Bool) (name : String) : Evaluation Bool := do
  let session ← get
  match session.decided.get? name with
  | some value => return value
  | none =>
    match session.conditions.get? name with
    | none => Evaluation.deny (.conditionUnknown name)
    | some expression =>
      if name ∈ session.pending then Evaluation.deny (.conditionCircular name)
      else
        modify fun session => { session with pending := name :: session.pending }
        let value ← decide {} expression
        modify fun session =>
          { session with
            pending := session.pending.erase name
            decided := session.decided.insert name value }
        return value

/-- One level of deciding an expression: `resolve` and `decide` are the levels
    below. -/
def decideStep (resolve : Budget → Node → Evaluation Node)
    (decide : Budget → Node → Evaluation Bool) (budget : Budget) (node : Node) :
    Evaluation Bool := do
  if budget.spent then Evaluation.deny (.conditionDepth budget.limit)
  else ofNode (resolve budget.deeper.deeper) (decide budget.deeper) (ofName decide) node

end Condition

end SamTemplate
