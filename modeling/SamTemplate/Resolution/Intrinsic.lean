import SamTemplate.Resolution.Session
import SamTemplate.Text.Pieces

/-!
# Intrinsic functions

The functions a template may call, and what each makes of its operand. What
only exists in a real account, an attribute or an import, gets a local stand-in.
A call that is not well formed is declined with a notice and stays in the
template.

How operands are resolved and named conditions decided is left open: the
functions take `resolve`, which resolves a node nested in the call, and
`holds`, which decides a condition by name.
-/

namespace SamTemplate

/-- An intrinsic function. -/
inductive Intrinsic where
  /-- The value of a parameter, or the name itself. -/
  | ref
  /-- One of two values, by a condition. -/
  | choose
  /-- A text with its tokens replaced. -/
  | sub
  /-- The texts of a list, put together. -/
  | join
  /-- An attribute of a resource. -/
  | getAtt
  /-- The pieces of a text. -/
  | split
  /-- An element of a list. -/
  | select
  /-- A value of another stack. -/
  | importValue
  deriving DecidableEq, Repr

/-- The local stand-in for an attribute of a resource. -/
def attributeStandIn (resource name : String) : String :=
  "arn:aws:local:" ++ name ++ ":global:" ++ resource ++ "/" ++ name

/-- The local stand-in for a value of another stack. -/
def importStandIn (name : String) : String := "imported-" ++ name

namespace Intrinsic

/-- The name a function is called by. -/
def name : Intrinsic → String
  | ref => "Ref"
  | choose => "Fn::If"
  | sub => "Fn::Sub"
  | join => "Fn::Join"
  | getAtt => "Fn::GetAtt"
  | split => "Fn::Split"
  | select => "Fn::Select"
  | importValue => "Fn::ImportValue"

/-- All functions. -/
def all : List Intrinsic := [ref, choose, sub, join, getAtt, split, select, importValue]

/-- The function of a name. -/
def ofName? (name : String) : Option Intrinsic := all.find? fun function => function.name = name

section Apply

variable (resolve : Node → Evaluation Node) (holds : String → Evaluation Bool)

/-- The text that an operand resolves to. -/
def resolveText (operand : Node) : Evaluation String := do return (← resolve operand).text

/-- The value of the parameter that the operand names, or else the name. -/
def applyRef (operand : Node) : Evaluation (Option Node) := do
  match ← resolve operand with
  | .str name =>
    return some (.str (((← get).parameters.valueOf? name.toList).getD name))
  | other => Evaluation.decline (.refOperand other.kindName)

/-- The value that a named condition chooses. -/
def applyChoose : Node → Evaluation (Option Node)
  | .seq [condition, whenTrue, whenFalse] => do
    return some (if ← holds condition.text then whenTrue else whenFalse)
  | _ => Evaluation.decline .ifShape

/-- Binds variables to the texts of their values, in turn. -/
def bindVariables (parameters : Parameters) : List (String × Node) → Evaluation Parameters
  | [] => return parameters
  | (name, value) :: rest => do
    bindVariables (parameters.insert name (← resolveText resolve value)) rest

/-- A text with its tokens replaced, given alone or with variables that come
    before the parameters. -/
def applySub : Node → Evaluation (Option Node)
  | .str template => do
    return some (.str (interpolate (← get).parameters template))
  | .seq [.str template, .map locals] => do
    if template = "" then Evaluation.decline .subEmptyTemplate
    else
      let scope ← bindVariables resolve (← get).parameters locals
      return some (.str (interpolate scope template))
  | .seq [_, .map _] => Evaluation.decline .subTemplateKind
  | .seq _ => Evaluation.decline .subShape
  | other => Evaluation.decline (.subOperand other.kindName)

/-- The texts of a list with a separator between each two. -/
def applyJoin : Node → Evaluation (Option Node)
  | .seq [separator, elements] => do
    let separator ← resolveText resolve separator
    match ← resolve elements with
    | .seq elements =>
      let parts ← elements.mapM (resolveText resolve)
      return some (.str (SamTemplate.join separator parts))
    | _ => Evaluation.decline .joinShape
  | _ => Evaluation.decline .joinShape

/-- The stand-in for an attribute, written with a dot or as a list of two. -/
def applyGetAtt : Node → Evaluation (Option Node)
  | .str path =>
    match pieces "." path with
    | [resource, name] =>
      if resource ≠ "" ∧ name ≠ "" then
        return some (.str (attributeStandIn resource name))
      else Evaluation.decline (.getAttText path)
    | _ => Evaluation.decline (.getAttText path)
  | .seq [resource, name] => do
    let resource ← resolveText resolve resource
    let name ← resolveText resolve name
    return some (.str (attributeStandIn resource name))
  | .seq _ => Evaluation.decline .getAttLength
  | other => Evaluation.decline (.getAttOperand other.kindName)

/-- The pieces of a text between the occurrences of a delimiter. -/
def applySplit : Node → Evaluation (Option Node)
  | .seq [delimiter, source] => do
    let delimiter ← resolveText resolve delimiter
    if delimiter = "" then Evaluation.decline .splitDelimiter
    else
      let source ← resolveText resolve source
      return some (.seq ((pieces delimiter source).map .str))
  | _ => Evaluation.decline .splitShape

/-- The element of a list at an index, counted from zero. -/
def elementAt? (elements : List Node) (index : Node) : Option Node := do
  let i ← index.int?
  if 0 ≤ i.toInt then elements[i.toInt.toNat]? else none

/-- The element that an index selects from a list. -/
def applySelect : Node → Evaluation (Option Node)
  | .seq [index, list] => do
    let index ← resolve index
    match ← resolve list with
    | .seq elements =>
      match elementAt? elements index with
      | some element => return some element
      | none => Evaluation.decline (.selectRange index.text elements.length)
    | other => Evaluation.decline (.selectOperand other.kindName)
  | _ => Evaluation.decline .selectShape

/-- The stand-in for a value of another stack. -/
def applyImportValue (operand : Node) : Evaluation (Option Node) := do
  return some (.str (importStandIn (← resolveText resolve operand)))

/-- What a function makes of its operand. -/
def apply : Intrinsic → Node → Evaluation (Option Node)
  | ref => applyRef resolve
  | choose => applyChoose holds
  | sub => applySub resolve
  | join => applyJoin resolve
  | getAtt => applyGetAtt resolve
  | split => applySplit resolve
  | select => applySelect resolve
  | importValue => applyImportValue resolve

/-- Expands a text with tokens of known names, or a call of a function. -/
def expand : Node → Evaluation (Option Node)
  | .str text => do
    let replaced := interpolate (← get).parameters text
    return if replaced = text then none else some (.str replaced)
  | node =>
    match node.call? with
    | none => return none
    | some (name, operand) =>
      match ofName? name with
      | none => return none
      | some function => apply resolve holds function operand

end Apply

end Intrinsic

end SamTemplate
