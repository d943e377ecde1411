import SamTemplate.Entries
import SamTemplate.Yaml.Tag

/-!
# YAML trees

A document as it was written: scalars with their tags, collections, and the
places where a node with an anchor occurs again. Anchors are numbered as they
come up in the document.

`Tree.ofTokens?` reads the tree of the only document of a text. Where a node is
missing but its place is there, as after a key without a value, a plain scalar
without text stands in for it.
-/

namespace SamTemplate

namespace Yaml

/-- The sort that a tag gives to a node. -/
inductive Tag where
  /-- A sort of the document's own. -/
  | own (name : String)
  /-- No value. -/
  | null
  /-- A truth value. -/
  | bool
  /-- A whole number. -/
  | int
  /-- A floating point number. -/
  | float
  /-- Any other sort. -/
  | other
  deriving DecidableEq, Repr

namespace Tag

/-- The start of the tags that every document knows. -/
def coreStart : TagText := .ofChars "tag:yaml.org,2002:".toList

/-- The sort with that name. An exclamation mark in front of it does not count. -/
def ofName (name : List Char) : Tag :=
  match name with
  | '!' :: c :: rest => .own (String.ofList (c :: rest))
  | name => .own (String.ofList name)

/-- The sort that the text of a tag spells. A tag of the document's own starts with
    an exclamation mark; one that is no text does not count. -/
def ofText (text : TagText) : Option Tag :=
  match text with
  | 0x21 :: name => (String.fromUTF8? ⟨name.toArray⟩).map fun name => ofName name.toList
  | text =>
    if text = coreStart ++ .ofChars "null".toList then some .null
    else if text = coreStart ++ .ofChars "bool".toList then some .bool
    else if text = coreStart ++ .ofChars "int".toList then some .int
    else if text = coreStart ++ .ofChars "float".toList then some .float
    else some .other

/-- The tag that is an exclamation mark alone. -/
def bare : Tag := .own ""

end Tag

/-- A document as it was written. -/
inductive Tree where
  /-- The node with that anchor occurs again. -/
  | again (anchor : Nat)
  /-- A text. -/
  | scalar (anchor : Option Nat) (tag : Option Tag) (plain : Bool) (text : String)
  /-- A list of items. -/
  | sequence (anchor : Option Nat) (tag : Option Tag) (items : List Tree)
  /-- Values under keys. -/
  | mapping (anchor : Option Nat) (tag : Option Tag) (entries : List (Tree × Tree))
  deriving Inhabited

namespace Tree

/-- What stands in for a node that is missing. -/
def absent : Tree := .scalar none none true ""

/-- The state of reading a tree. -/
structure Reading where
  /-- The tokens that are still to be read. -/
  tokens : List Token
  /-- What the handles of tags stand for. -/
  handles : List (TagText × TagText)
  /-- The number that each anchor stands for at this point. -/
  anchors : Entries Nat

/-- A step of reading a tree, which may fail. -/
abbrev Read := StateT Reading Option

/-- The next token. -/
def peek : Read (Option Token) := do return (← get).tokens.head?

/-- Goes on to the token after the next one. -/
def drop : Read Unit := modify fun reading => { reading with tokens := reading.tokens.tail }

/-- Whether the next token is one of some tokens. -/
def nextIsOneOf (tokens : List Token) : Read Bool := do
  return (← peek).any (tokens.contains ·)

/-- Goes on after a token, if it is the next one. -/
def skipIf (token : Token) : Read Bool := do
  if ← nextIsOneOf [token] then
    drop
    return true
  else return false

/-- Gives an anchor the number of those that are known. An anchor that is known
    already gets a new number, which a later one may get as well. -/
def register : Option String → Read (Option Nat)
  | none => return none
  | some name => do
    let number := (← get).anchors.length
    modify fun reading => { reading with anchors := Entries.put name number reading.anchors }
    return some number

/-- The text of a tag with a handle. -/
def tagText (handle suffix : TagText) : Read TagText := do
  if handle.isEmpty then return suffix
  else
    let meaning ← (((← get).handles.find? (·.1 == handle)).map (·.2) : Option TagText)
    return meaning ++ suffix

/-- The sort that a tag gives, and whether there is a tag at all. -/
structure Properties where
  /-- The name under which the node may occur again. -/
  anchor : Option String
  /-- The text of the tag. -/
  tag : Option TagText

/-- Reads an anchor. -/
def anchor : Read (Option String) := do
  match ← peek with
  | some (.anchor name) =>
    drop
    return some name
  | _ => return none

/-- Reads a tag. -/
def tag : Read (Option TagText) := do
  match ← peek with
  | some (.tag handle suffix) =>
    drop
    return some (← tagText handle suffix)
  | _ => return none

/-- Reads at most one anchor and one tag, in either order. -/
def properties : Read Properties := do
  match ← anchor with
  | some name => return ⟨some name, ← tag⟩
  | none =>
    let tag ← tag
    return ⟨← anchor, tag⟩

/-- The sort of a scalar that is written down: an exclamation mark alone gives it
    none. -/
def scalarTag (tag : Option TagText) : Option Tag := (tag.bind Tag.ofText).filter (· ≠ .bare)

mutual

/-- Reads a node. Block collections can start where `block` holds; the items of a
    sequence that is not indented, where `flush` does. -/
def node : (fuel : Nat) → (block flush : Bool) → Read Tree
  | 0, _, _ => failure
  | fuel + 1, block, flush => do
    if let some (.again name) := ← peek then
      drop
      return .again (← Entries.get? name (← get).anchors)
    let properties ← properties
    let number ← register properties.anchor
    let sort := properties.tag.bind Tag.ofText
    match ← peek with
    | some (.scalar plain text) =>
      drop
      return .scalar number (scalarTag properties.tag) plain text
    | some (.openFlow .sequence) =>
      drop
      return .sequence number sort (← flowItems fuel true)
    | some (.openFlow .mapping) =>
      drop
      return .mapping number sort (← flowEntries fuel true)
    | some .dash =>
      if flush then return .sequence number sort (← flushItems fuel) else missing properties number
    | some (.openBlock .sequence) =>
      if block then
        drop
        return .sequence number sort (← blockItems fuel)
      else missing properties number
    | some (.openBlock .mapping) =>
      if block then
        drop
        return .mapping number sort (← blockEntries fuel)
      else missing properties number
    | _ => missing properties number
where
  /-- What stands in for a node that only has an anchor or a tag. -/
  missing (properties : Properties) (number : Option Nat) : Read Tree :=
    if properties.anchor.isSome || properties.tag.isSome then
      return .scalar number (properties.tag.bind Tag.ofText) true ""
    else failure

/-- Reads a node of a block, unless the next token shows that it is missing. -/
def blockNode : (fuel : Nat) → (flush : Bool) → (ends : List Token) → Read Tree
  | 0, _, _ => failure
  | fuel + 1, flush, ends => do
    if ← nextIsOneOf ends then return absent else node fuel true flush

/-- Reads a node between brackets or braces, unless the next token shows that it is
    missing. -/
def flowNode : (fuel : Nat) → (ends : List Token) → Read Tree
  | 0, _ => failure
  | fuel + 1, ends => do
    if ← nextIsOneOf ends then return absent else node fuel false false

/-- Reads the items of a block sequence and its end. -/
def blockItems : (fuel : Nat) → Read (List Tree)
  | 0 => failure
  | fuel + 1 => do
    if ← skipIf .dash then
      let item ← blockNode fuel false [.dash, .closeBlock]
      return item :: (← blockItems fuel)
    else
      guard (← skipIf .closeBlock)
      return []

/-- Reads the items of a block sequence that is not indented. -/
def flushItems : (fuel : Nat) → Read (List Tree)
  | 0 => failure
  | fuel + 1 => do
    if ← skipIf .dash then
      let item ← blockNode fuel false [.dash, .key, .value, .closeBlock]
      return item :: (← flushItems fuel)
    else return []

/-- Reads the entries of a block mapping and its end. -/
def blockEntries : (fuel : Nat) → Read (List (Tree × Tree))
  | 0 => failure
  | fuel + 1 => do
    if ← skipIf .key then
      let key ← blockNode fuel true [.key, .value, .closeBlock]
      let value ← if ← skipIf .value then blockNode fuel true [.key, .value, .closeBlock]
        else pure absent
      return (key, value) :: (← blockEntries fuel)
    else
      guard (← skipIf .closeBlock)
      return []

/-- Reads the items between brackets and the closing bracket. -/
def flowItems : (fuel : Nat) → (first : Bool) → Read (List Tree)
  | 0, _ => failure
  | fuel + 1, first => do
    if ← skipIf (.closeFlow .sequence) then return []
    unless first do guard (← skipIf .comma)
    if ← skipIf (.closeFlow .sequence) then return []
    let item ← if ← skipIf .key then pairItem fuel else node fuel false false
    return item :: (← flowItems fuel false)

/-- Reads an item between brackets that is a mapping with one entry. A token that
    shows that the key is missing is skipped, so it is no sign of a value. -/
def pairItem : (fuel : Nat) → Read Tree
  | 0 => failure
  | fuel + 1 => do
    let key ← if ← nextIsOneOf [.value, .comma, .closeFlow .sequence] then do
        drop
        pure absent
      else node fuel false false
    let value ← if ← skipIf .value then flowNode fuel [.comma, .closeFlow .sequence]
      else pure absent
    return .mapping none none [(key, value)]

/-- Reads the entries between braces and the closing brace. -/
def flowEntries : (fuel : Nat) → (first : Bool) → Read (List (Tree × Tree))
  | 0, _ => failure
  | fuel + 1, first => do
    if ← skipIf (.closeFlow .mapping) then return []
    unless first do guard (← skipIf .comma)
    if ← skipIf (.closeFlow .mapping) then return []
    let entry ← if ← skipIf .key then keyedEntry fuel
      else pure (← node fuel false false, absent)
    return entry :: (← flowEntries fuel false)

/-- Reads an entry between braces after the token of its key. -/
def keyedEntry : (fuel : Nat) → Read (Tree × Tree)
  | 0 => failure
  | fuel + 1 => do
    let key ← flowNode fuel [.value, .comma, .closeFlow .mapping]
    let value ← if ← skipIf .value then flowNode fuel [.comma, .closeFlow .mapping]
      else pure absent
    return (key, value)

end

/-! ### Documents -/

/-- What the handles of tags stand for unless a document says otherwise. -/
def knownHandles : List (TagText × TagText) :=
  [(ownHandle, ownHandle), (coreHandle, Tag.coreStart)]

/-- Reads the directives of a document: at most one version, which has to be a
    known one, and at most one meaning for each handle. -/
def directives? (versioned : Bool) (handles : List (TagText × TagText)) :
    List Token → Option (List (TagText × TagText) × List Token)
  | .version major minor :: rest =>
    if !versioned ∧ major = 1 ∧ (minor = 1 ∨ minor = 2) then directives? true handles rest
    else none
  | .abbreviation handle meaning :: rest =>
    if (handles.map (·.1)).contains handle then none
    else directives? versioned ((handle, meaning) :: handles) rest
  | tokens => some (handles, tokens)

/-- Whether a document without a node ends here. -/
def endsDocument : List Token → Bool
  | [] | .documentStart :: _ | .documentEnd :: _ | .version .. :: _ | .abbreviation .. :: _ => true
  | _ => false

/-- Reads the node of the only document of a text. The fuel is enough: each call
    for a node is at most one step away from one that takes a token. -/
def root? (handles : List (TagText × TagText)) (tokens : List Token) : Option Tree := do
  let (tree, reading) ← (node (4 * tokens.length + 4) true false).run ⟨tokens, handles, []⟩
  guard (reading.tokens.all (· == .documentEnd))
  return tree

/-- Reads the only document of a text from its tokens. A document with directives
    starts with a mark. -/
def ofTokens? (tokens : List Token) : Option Tree := do
  let (handles, rest) ← directives? false [] tokens
  match rest with
  | .documentStart :: rest =>
    if endsDocument rest then
      guard (rest.all (· == .documentEnd))
      return absent
    else root? (handles ++ knownHandles) rest
  | [] => if tokens.isEmpty then some absent else none
  | _ => if rest.length = tokens.length then root? knownHandles tokens else none

end Tree

end Yaml

end SamTemplate
