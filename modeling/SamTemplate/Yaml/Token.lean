/-!
# YAML tokens

The smallest parts of a YAML text that mean something. Indentation shows as
tokens that open and close block collections, and the key of a block mapping has
a token in front of it even where nothing is written.
-/

namespace SamTemplate

namespace Yaml

/-- What sort of collection it is. -/
inductive Shape where
  /-- A list of items. -/
  | sequence
  /-- Values under keys. -/
  | mapping
  deriving DecidableEq, Repr

/-- The bytes of a tag. An escape in a tag can spell any bytes. -/
abbrev TagText := List UInt8

/-- A part of a YAML text. -/
inductive Token where
  /-- The version a document claims to follow. -/
  | version (major minor : Nat)
  /-- An abbreviation for the start of tags. -/
  | abbreviation (handle meaning : TagText)
  /-- The start of a document. -/
  | documentStart
  /-- The end of a document. -/
  | documentEnd
  /-- The start of a block collection. -/
  | openBlock (shape : Shape)
  /-- The end of a block collection. -/
  | closeBlock
  /-- An opening bracket or brace. -/
  | openFlow (shape : Shape)
  /-- A closing bracket or brace. -/
  | closeFlow (shape : Shape)
  /-- A comma between brackets or braces. -/
  | comma
  /-- The hyphen in front of an item. -/
  | dash
  /-- What follows is the key of a mapping. -/
  | key
  /-- What follows is a value under a key. -/
  | value
  /-- Another occurrence of the node with that anchor. -/
  | again (name : String)
  /-- A name for a node. -/
  | anchor (name : String)
  /-- The sort of a node: an abbreviation and what follows it. -/
  | tag (handle suffix : TagText)
  /-- A text; a plain one is not quoted. -/
  | scalar (plain : Bool) (text : String)
  deriving DecidableEq, Repr

end Yaml

end SamTemplate
