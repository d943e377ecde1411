import SamTemplate.Json.Printer
import SamTemplate.Number.Literal
import SamTemplate.Text.Blank

/-!
# Template trees

The tree that every stage of a compilation works on, and the lenient readings
of its values. Authors write numbers in quotes, single values where a list is
expected and nothing where a text is expected; `Node.text`, `Node.int?` and
`Node.items` say what such a value counts as.

The text of a container is its JSON text, with the keys of mappings in order
(`Node.toJson`), so two mappings that differ in the order of their entries have
the same text.
-/

namespace SamTemplate

/-- A node of a template. The keys of a mapping are in the order of the
    document; no two of them are equal. -/
inductive Node where
  /-- No value. -/
  | null
  /-- A truth value. -/
  | bool (value : Bool)
  /-- A whole number. -/
  | int (value : Int64)
  /-- A floating point number. -/
  | float (value : Binary64)
  /-- A text. -/
  | str (text : String)
  /-- A list of nodes. -/
  | seq (items : List Node)
  /-- Nodes under keys. -/
  | map (entries : List (String × Node))
  deriving Inhabited

namespace Node

/-- What sort of node it is, as messages call it. -/
def kindName : Node → String
  | .null => "null"
  | .bool _ => "boolean"
  | .int _ | .float _ => "number"
  | .str _ => "string"
  | .seq _ => "sequence"
  | .map _ => "mapping"

/-- No value. -/
def isNull : Node → Bool
  | .null => true
  | _ => false

/-- The entries of a mapping. -/
def entries? : Node → Option (Entries Node)
  | .map entries => some entries
  | _ => none

/-- The items of a sequence. -/
def seq? : Node → Option (List Node)
  | .seq items => some items
  | _ => none

/-- The call of a function: a mapping with the function's name as its only key. -/
def call (name : String) (operand : Node) : Node := .map [(name, operand)]

/-- The name and operand of a mapping with one key. -/
def call? : Node → Option (String × Node)
  | .map [(name, operand)] => some (name, operand)
  | _ => none

/-- What a mapping holds under a key. -/
def get? (node : Node) (key : String) : Option Node := node.entries?.bind (Entries.get? key)

/-- What is given under a key of some entries, `null` counting as absent. -/
def given? (entries : Entries Node) (key : String) : Option Node :=
  (Entries.get? key entries).filter fun node => !node.isNull

/-- What is given under a key of a mapping, `null` counting as absent. -/
def field? (node : Node) (key : String) : Option Node := node.entries?.bind (given? · key)

mutual

/-- A tree as JSON. The members of an object are in the order of their names,
    and a number that is not finite becomes `null`. -/
def toJson : Node → Json
  | .null => .null
  | .bool value => .bool value
  | .int value => .int value.toInt
  | .float value => if value.isFinite then .float value else .null
  | .str text => .str text
  | .seq items => .arr (itemsJson items)
  | .map entries => .obj (entriesJson entries)

/-- The items of a sequence as JSON. -/
def itemsJson : List Node → List Json
  | [] => []
  | item :: rest => item.toJson :: itemsJson rest

/-- The entries of a mapping as JSON, in the order of their keys. -/
def entriesJson : List (String × Node) → Entries Json
  | [] => []
  | (key, node) :: rest => Entries.insertSorted key node.toJson (entriesJson rest)

end

/-- The text a node stands for: nothing for `null`, the JSON text of a
    container. -/
def text : Node → String
  | .null => ""
  | .bool value => if value then "true" else "false"
  | .int value => intText value.toInt
  | .float value => FloatLayout.plain.text value
  | .str text => text
  | .seq items => (Node.seq items).toJson.compact
  | .map entries => (Node.map entries).toJson.compact

/-- The text a node stands for, or another one if it is empty. -/
def textOr (node : Node) (fallback : String) : String :=
  if node.text = "" then fallback else node.text

/-- The integer a node stands for: a number without its fraction, or the number
    that a text spells. -/
def int? : Node → Option Int64
  | .int value => some value
  | .float value => if value.isFinite then some value.truncate else none
  | .str text => int64? (trimChars text.toList)
  | _ => none

/-- The list a node stands for: `null` is empty, any other single value a list
    of one. -/
def items : Node → List Node
  | .null => []
  | .seq items => items
  | node => [node]

/-- The texts of the list a node stands for. -/
def texts (node : Node) : List String := node.items.map text

end Node

/-- A path with a slash at its end, unless it is empty. -/
def withTrailingSlash (path : String) : String :=
  if path = "" ∨ path.toList.getLast? = some '/' then path else path ++ "/"

end SamTemplate
