import SamTemplate.Yaml.Plain
import SamTemplate.Yaml.Token.Lexer
import SamTemplate.Yaml.Tree

/-!
# Reading YAML values

From the tree of a document to what it says. Each place where a node occurs
again is replaced by that node; the depth of the collections and the number of
such places are limited, so a node that contains itself is refused. A mapping
with two keys that are the same is refused as well.
-/

namespace SamTemplate

namespace Yaml

namespace Tree

/-- How deep collections may be nested. -/
def depthLimit : Nat := 128

mutual

/-- How many steps it takes to write a tree: one for a scalar or a node that occurs
    again, two for a collection beside those for its parts. -/
def stepCount : Tree → Nat
  | .again _ | .scalar .. => 1
  | .sequence _ _ items => 2 + itemStepCount items
  | .mapping _ _ entries => 2 + entryStepCount entries

/-- The steps for the items of a sequence. -/
def itemStepCount : List Tree → Nat
  | [] => 0
  | item :: rest => item.stepCount + itemStepCount rest

/-- The steps for the entries of a mapping. -/
def entryStepCount : List (Tree × Tree) → Nat
  | [] => 0
  | (key, value) :: rest => key.stepCount + value.stepCount + entryStepCount rest

end

/-- A node under the number of its anchor. -/
def numbered (anchor : Option Nat) (tree : Tree) : List (Nat × Tree) :=
  match anchor with
  | some number => [(number, tree)]
  | none => []

mutual

/-- The nodes with anchors, in the order of the document. -/
def anchored : Tree → List (Nat × Tree)
  | .again _ => []
  | .scalar anchor tag plain text => numbered anchor (.scalar anchor tag plain text)
  | .sequence anchor tag items =>
    numbered anchor (.sequence anchor tag items) ++ anchoredItems items
  | .mapping anchor tag entries =>
    numbered anchor (.mapping anchor tag entries) ++ anchoredEntries entries

/-- The nodes with anchors among the items of a sequence. -/
def anchoredItems : List Tree → List (Nat × Tree)
  | [] => []
  | item :: rest => item.anchored ++ anchoredItems rest

/-- The nodes with anchors among the entries of a mapping. -/
def anchoredEntries : List (Tree × Tree) → List (Nat × Tree)
  | [] => []
  | (key, value) :: rest => key.anchored ++ value.anchored ++ anchoredEntries rest

end

end Tree

namespace Value

/-- What a scalar with a tag that every document knows says. -/
def ofCore? (tag : Tag) (text : String) : Option Value :=
  match tag with
  | .null => if spellsNull text then some .null else none
  | .bool => (bool? text).map .bool
  | .int => ((int? text).bind id).map .int
  | .float => (float? text).map .float
  | .other | .own _ => some (.str text)

/-- What a scalar says apart from its tag. -/
def ofScalar? (plain : Bool) (text : String) : Option Value :=
  if plain then ofPlain? text else some (.str text)

/-- A value of the sort that a tag gives; a sort of the document's own has to have a
    name. -/
def withTag? (tag : Option Tag) (value : Value) : Option Value :=
  match tag with
  | some (.own name) => if name = "" then none else some (.tagged name value)
  | _ => some value

/-- The entries of a mapping from its keys and values, which are in the same order.
    No two keys may be the same. -/
def entries? : (done : List (Value × Value)) → List (Value × Value) → Option (List (Value × Value))
  | done, [] => some done.reverse
  | done, (key, value) :: rest =>
    if hasKey key done then none else entries? ((key, value) :: done) rest

/-- A step of reading a value. It counts down how often nodes may still occur
    again. -/
abbrev Read := StateT Nat Option

/-- The node that a tree stands for: if it occurs again, the last one with that
    anchor. -/
def target (anchored : List (Nat × Tree)) : Tree → Read Tree
  | .again number => do
    match ← get with
    | 0 => failure
    | count + 1 =>
      set count
      (anchored.reverse.find? (·.1 == number)).map (·.2)
  | tree => return tree

/-- What a scalar says. -/
def ofTagged? (tag : Option Tag) (plain : Bool) (text : String) : Option Value :=
  match tag with
  | none => ofScalar? plain text
  | some (.own name) => (ofScalar? plain text).bind (withTag? (some (.own name)))
  | some tag => ofCore? tag text

/-- Reads what a node says that is no collection. -/
def single : Tree → Read Value
  | .scalar _ tag plain text => ofTagged? tag plain text
  | _ => failure

/-- Reads what a tree says, with collections nested at most `depth` deep. -/
def read (anchored : List (Nat × Tree)) : (depth : Nat) → Tree → Read Value
  | 0, tree => do single (← target anchored tree)
  | depth + 1, tree => do
    match ← target anchored tree with
    | .sequence _ tag items =>
      let items ← items.mapM (read anchored depth)
      withTag? tag (.seq items)
    | .mapping _ tag entries =>
      let entries ← entries.mapM fun (key, value) => do
        let key ← read anchored depth key
        return (key, ← read anchored depth value)
      let entries ← (entries? [] entries : Option _)
      withTag? tag (.map entries)
    | node => single node

/-- What a tree says. -/
def ofTree? (tree : Tree) : Option Value := do
  let (value, _) ← (read tree.anchored Tree.depthLimit tree).run (100 * tree.stepCount)
  return value

/-- What the only document of a text says. -/
def ofText? (text : String) : Option Value := do
  ofTree? (← Tree.ofTokens? (← Token.ofText? text))

end Value

end Yaml

end SamTemplate
