import SamTemplate.Json.Basic

/-!
# Schemas

Which JSON values a place admits, and how that is published: as a JSON Schema
of draft 7. A schema may refer to others by name; a `SchemaDocument` holds them
beside the one it is about.
-/

namespace SamTemplate

/-- A description of JSON values. -/
inductive Schema where
  /-- A text. -/
  | text
  /-- One text and no other. -/
  | word (value : String)
  /-- A truth value. -/
  | truth
  /-- A whole number of 64 bits. -/
  | whole
  /-- What a schema admits, or `null`. -/
  | nullable (schema : Schema)
  /-- A list whose elements a schema admits. -/
  | listOf (element : Schema)
  /-- An object whose members a schema admits, whatever their names. -/
  | mapOf (value : Schema)
  /-- What the schema of that name admits. -/
  | named (name : String)
  /-- An object with members under names; those under `required` must be there. -/
  | record (properties : List (String × Schema)) (required : List String)
  /-- What exactly one of some schemas admits. -/
  | oneOf (alternatives : List Schema)
  /-- A schema with a word about its values. -/
  | described (remark : String) (schema : Schema)
  /-- A schema with the value that stands in for an absent one. -/
  | defaulting (value : Json) (schema : Schema)
  deriving Inhabited

namespace Schema

/-- The members under which a schema is published, with one more. A reference
    stands alone, so it is put into a list of schemas that all have to admit the
    value. -/
def annotate (name : String) (value : Json) : Entries Json → Entries Json
  | [("$ref", target)] =>
    Entries.insertSorted name value [("allOf", .arr [.obj [("$ref", target)]])]
  | members => Entries.insertSorted name value members

/-- The members of a published schema that admits `null` too. -/
def admitNull (members : Entries Json) : Entries Json :=
  match Entries.get? "type" members with
  | some sort => Entries.put "type" (.arr [sort, .str "null"]) members
  | none => [("anyOf", .arr [.obj members, .obj [("type", .str "null")]])]

/-- Names in order. -/
def inOrder (names : List String) : List String :=
  Entries.keys (Entries.inKeyOrder (names.map fun name => (name, ())))

mutual

/-- The members of a published schema, in the order of their names. -/
def members : Schema → Entries Json
  | .text => [("type", .str "string")]
  | .word value => [("enum", .arr [.str value]), ("type", .str "string")]
  | .truth => [("type", .str "boolean")]
  | .whole => [("format", .str "int64"), ("type", .str "integer")]
  | .nullable schema => admitNull schema.members
  | .listOf element => [("items", .obj element.members), ("type", .str "array")]
  | .mapOf value => [("additionalProperties", .obj value.members), ("type", .str "object")]
  | .named name => [("$ref", .str ("#/definitions/" ++ name))]
  | .record properties required =>
    ("properties", .obj (propertyMembers properties))
      :: (if required.isEmpty then []
        else [("required", .ofTexts (inOrder required))])
      ++ [("type", .str "object")]
  | .oneOf alternatives => [("oneOf", .arr (alternativeMembers alternatives))]
  | .described remark schema => annotate "description" (.str remark) schema.members
  | .defaulting value schema => annotate "default" value schema.members

/-- The properties of an object, in the order of their names. -/
def propertyMembers : List (String × Schema) → Entries Json
  | [] => []
  | (name, schema) :: rest =>
    Entries.insertSorted name (.obj schema.members) (propertyMembers rest)

/-- The schemas of which one has to admit the value, in order. -/
def alternativeMembers : List Schema → List Json
  | [] => []
  | schema :: rest => .obj schema.members :: alternativeMembers rest

end

/-- A schema as it is published. -/
def toJson (schema : Schema) : Json := .obj schema.members

end Schema

/-- A schema with those it refers to. -/
structure SchemaDocument where
  /-- What it is about. -/
  title : String
  /-- The schema of the whole value. -/
  root : Schema
  /-- The schemas that are referred to, by name. -/
  definitions : List (String × Schema)

namespace SchemaDocument

/-- The schema of that name. -/
def definition? (document : SchemaDocument) (name : String) : Option Schema :=
  Entries.get? name document.definitions

/-- The document as it is published. -/
def toJson (document : SchemaDocument) : Json :=
  .obj (document.root.members
    |> Entries.insertSorted "$schema" (.str "http://json-schema.org/draft-07/schema#")
    |> Entries.insertSorted "definitions" (.obj (Schema.propertyMembers document.definitions))
    |> Entries.insertSorted "title" (.str document.title))

end SchemaDocument

end SamTemplate
