import SamTemplate.Node
import SamTemplate.Yaml.Reader

/-!
# Documents

From the text of a template to its tree. Templates may call a function in short,
by a tag (`!Ref name`); the tree has the long form of the call, a mapping with
the function's name as its only key. Other tags do not count.
-/

namespace SamTemplate

namespace Node

/-- The function that a tag calls on a scalar. -/
def scalarCall? : String → Option String
  | "Ref" => some "Ref"
  | "Sub" => some "Fn::Sub"
  | "GetAtt" => some "Fn::GetAtt"
  | "ImportValue" => some "Fn::ImportValue"
  | "Condition" => some "Condition"
  | _ => none

/-- The function that a tag calls on a sequence. -/
def sequenceCall? : String → Option String
  | "Join" => some "Fn::Join"
  | "Sub" => some "Fn::Sub"
  | "GetAtt" => some "Fn::GetAtt"
  | "If" => some "Fn::If"
  | "Equals" => some "Fn::Equals"
  | "And" => some "Fn::And"
  | "Or" => some "Fn::Or"
  | "Not" => some "Fn::Not"
  | "Select" => some "Fn::Select"
  | "Split" => some "Fn::Split"
  | _ => none

/-- The function that a tag calls on a mapping. -/
def mappingCall? : String → Option String
  | "Sub" => some "Fn::Sub"
  | _ => none

/-- A node under a tag: the call that the tag stands for, if it can call something
    on a node of this kind. -/
def tagged (tag : String) (node : Node) : Node :=
  let name := String.ofList (tag.toList.dropWhile (· = '!'))
  let function := match node with
    | .seq _ => sequenceCall? name
    | .map _ => mappingCall? name
    | _ => scalarCall? name
  match function with
  | some function => call function node
  | none => node

/-- A whole number as a node: a floating point number, if it has more than 63 bits. -/
def ofInt (i : Int) : Node :=
  match int64OfInt? i with
  | some value => .int value
  | none => .float (Binary64.ofInt i)

/-- The text of a key, if it is one that a node can have. -/
def keyText? : Yaml.Value → Option String
  | .str text => if text = "" then none else some text
  | .bool value => some (if value then "true" else "false")
  | .int value => some (intText value)
  | .float value => some (FloatLayout.yamlKey.text value)
  | .tagged _ value => keyText? value
  | _ => none

mutual

/-- The node that a value of a document describes. A value whose key has no text is
    left out. -/
def ofYaml : Yaml.Value → Node
  | .null => .null
  | .bool value => .bool value
  | .int value => ofInt value
  | .float value => .float value
  | .str text => .str text
  | .seq items => .seq (ofYamlItems items)
  | .map entries => .map (Entries.ofList (ofYamlEntries entries))
  | .tagged name value => tagged name (ofYaml value)

/-- The nodes that the items of a sequence describe. -/
def ofYamlItems : List Yaml.Value → List Node
  | [] => []
  | item :: rest => ofYaml item :: ofYamlItems rest

/-- The nodes that the entries of a mapping describe, under the texts of their keys. -/
def ofYamlEntries : List (Yaml.Value × Yaml.Value) → List (String × Node)
  | [] => []
  | (key, value) :: rest =>
    match keyText? key with
    | some key => (key, ofYaml value) :: ofYamlEntries rest
    | none => ofYamlEntries rest

end

end Node

/-- Why a text is no template. -/
inductive DocumentError where
  /-- It is not YAML. -/
  | invalidYaml
  /-- It says nothing. -/
  | empty
  /-- It is a node of another kind than a mapping. -/
  | notMapping (kind : String)
  deriving DecidableEq, Repr

/-- What an error says. -/
def DocumentError.message : DocumentError → String
  | .invalidYaml => "invalid YAML"
  | .empty => "empty YAML document"
  | .notMapping kind => "unexpected YAML root: expected a mapping, found " ++ kind

/-- The node that a text describes. -/
def readNode? (text : String) : Option Node := (Yaml.Value.ofText? text).map Node.ofYaml

/-- The entries of a template. -/
def readDocument (text : String) : Except DocumentError (Entries Node) :=
  if trim text = "" then .error .empty
  else
    match readNode? text with
    | none => .error .invalidYaml
    | some (.map entries) => .ok entries
    | some .null => .error .empty
    | some node => .error (.notMapping node.kindName)

end SamTemplate
