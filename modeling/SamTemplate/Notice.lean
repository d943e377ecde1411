import SamTemplate.Number.Layout
import SamTemplate.Text.Quoted

/-!
# Notices

What a compilation tells about a template without failing: each way in which a
part of it is malformed, unknown or left out, and the words for it. A
`Warnings` list keeps the words in the order they first came up, each once.
-/

namespace SamTemplate

/-- Something a compilation tells about a template. -/
inductive Notice where
  /-- A reference to something that is not a name. -/
  | refOperand (kind : String)
  /-- A choice without a condition and two values. -/
  | ifShape
  /-- A substitution into an empty text with variables. -/
  | subEmptyTemplate
  /-- A substitution into something that is not a text. -/
  | subTemplateKind
  /-- A substitution without a text and variables. -/
  | subShape
  /-- A substitution into something that is neither a text nor a list. -/
  | subOperand (kind : String)
  /-- A join without a separator and a list. -/
  | joinShape
  /-- An attribute that is not written as a resource and a name. -/
  | getAttText (path : String)
  /-- An attribute that is not a list of two. -/
  | getAttLength
  /-- An attribute that is neither a text nor a list. -/
  | getAttOperand (kind : String)
  /-- A split without a delimiter and a text. -/
  | splitShape
  /-- A split at the empty text. -/
  | splitDelimiter
  /-- A selection without an index and a list. -/
  | selectShape
  /-- A selection from something that is not a list. -/
  | selectOperand (kind : String)
  /-- A selection of an element that is not there. -/
  | selectRange (index : String) (length : Nat)
  /-- A value that is left because the walk is too deep. -/
  | depthExceeded (limit : Nat)
  /-- A condition of an unknown name. -/
  | conditionUnknown (name : String)
  /-- A condition that refers back to itself. -/
  | conditionCircular (name : String)
  /-- A condition that is left because it is too deep. -/
  | conditionDepth (limit : Nat)
  /-- A comparison without two values. -/
  | equalsShape
  /-- A negation without one condition. -/
  | notShape
  /-- A conjunction of something that is not a list. -/
  | andShape
  /-- A disjunction of something that is not a list. -/
  | orShape
  /-- A condition that is none of the known forms. -/
  | conditionForm (text : String)
  /-- A property that does not have the form its resource asks for. -/
  | malformedProperty (property owner logicalId cause : String)
  /-- A function without properties. -/
  | functionWithoutProperties (logicalId : String)
  /-- A function of a resource type that is only read in image form. -/
  | zipNotSupported (resourceType logicalId : String)
  deriving DecidableEq, Repr

namespace Notice

/-- The words for a notice. -/
def message : Notice → String
  | refOperand kind => "Ref: expected a name, got " ++ kind
  | ifShape => "Fn::If: arguments must be [condition, true_val, false_val]"
  | subEmptyTemplate => "Fn::Sub: template string is empty"
  | subTemplateKind => "Fn::Sub: template must be a string"
  | subShape => "Fn::Sub: arguments must be [template, \x7bvariables\x7d]"
  | subOperand kind => "Fn::Sub: unsupported operand " ++ kind
  | joinShape => "Fn::Join: arguments must be [sep, [elements]]"
  | getAttText path => "Fn::GetAtt: malformed string " ++ quoted path
  | getAttLength => "Fn::GetAtt: array must have 2 elements"
  | getAttOperand kind => "Fn::GetAtt: unsupported operand " ++ kind
  | splitShape => "Fn::Split: arguments must be [delimiter, source]"
  | splitDelimiter => "Fn::Split: delimiter must not be empty"
  | selectShape => "Fn::Select: arguments must be [index, [elements]]"
  | selectOperand kind => "Fn::Select: expected a list, got " ++ kind
  | selectRange index length =>
    "Fn::Select: index " ++ index ++ " out of range for " ++ natText length ++ " element(s)"
  | depthExceeded limit =>
    "maximum resolve depth " ++ natText limit ++ " exceeded; leaving value unresolved"
  | conditionUnknown name => "Condition " ++ quoted name ++ " not found"
  | conditionCircular name => "Circular dependency detected in condition " ++ quoted name
  | conditionDepth limit =>
    "maximum resolve depth " ++ natText limit ++ " exceeded while evaluating a condition"
  | equalsShape => "Fn::Equals: arguments must be [value1, value2]"
  | notShape => "Fn::Not: arguments must be [condition]"
  | andShape => "Fn::And: arguments must be a list of conditions"
  | orShape => "Fn::Or: arguments must be a list of conditions"
  | conditionForm text => "unsupported condition expression: " ++ text
  | malformedProperty property owner logicalId cause =>
    "failed to decode " ++ property ++ " for " ++ owner ++ " " ++ logicalId ++ ": " ++ cause
  | functionWithoutProperties logicalId =>
    "function " ++ logicalId ++ " has no Properties; skipped"
  | zipNotSupported resourceType logicalId =>
    resourceType ++ " " ++ logicalId ++ " uses zip packaging, which is not supported; skipped"

end Notice

/-- Messages in the order they first came up, each once. -/
structure Warnings where
  /-- The messages. -/
  messages : List String
  /-- No message comes twice. -/
  nodup : messages.Nodup
  deriving DecidableEq

namespace Warnings

/-- No messages. -/
def empty : Warnings := ⟨[], List.nodup_nil⟩

instance : Inhabited Warnings := ⟨empty⟩

/-- Whether a message is there. -/
def contains (warnings : Warnings) (message : String) : Bool := message ∈ warnings.messages

/-- Records a message, unless it is there already. -/
def add (warnings : Warnings) (message : String) : Warnings :=
  if h : message ∈ warnings.messages then warnings
  else ⟨warnings.messages ++ [message], by
    simpa [List.nodup_append, warnings.nodup] using fun m hm (heq : m = message) => h (heq ▸ hm)⟩

theorem mem_add (warnings : Warnings) (message other : String) :
    other ∈ (warnings.add message).messages ↔ other ∈ warnings.messages ∨ other = message := by
  unfold add
  split
  · rename_i h
    exact ⟨.inl, fun hor => hor.elim id fun heq => heq ▸ h⟩
  · simp

theorem prefix_add (warnings : Warnings) (message : String) :
    warnings.messages <+: (warnings.add message).messages := by
  unfold add
  split
  · exact List.prefix_rfl
  · exact List.prefix_append _ _

end Warnings

end SamTemplate
