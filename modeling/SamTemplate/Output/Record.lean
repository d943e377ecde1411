import SamTemplate.Json.Basic
import SamTemplate.Number.Layout
import SamTemplate.Number.Literal
import SamTemplate.Text.Blank
import SamTemplate.Text.Quoted

/-!
# Reading records from JSON

Readers that turn JSON into typed values, or say why it cannot be done. A
record is read from an object by the names of its fields, or from an array by
their places. Members of other names are passed over. The members of an object
are read in the order in which they stand, so the first that cannot be read is
the one that is told about; a field that is missing comes after those.

The lenient readers take what templates contain in the place of a text or an
integer: numbers and truth values as texts, and texts that spell integers.
-/

namespace SamTemplate

/-- Why a value cannot be read. -/
inductive Misfit where
  /-- The value is of another kind. -/
  | kind (found : Json) (expected : String)
  /-- An integer is out of range. -/
  | range (found : Int) (expected : String)
  /-- A list has another length. -/
  | length (found : Nat) (expected : String)
  /-- A field is missing. -/
  | missing (field : String)
  /-- The name of a shape is unknown. -/
  | shape (found : String) (known : List String)
  /-- The value is not a single number, truth value or text. -/
  | notScalar
  /-- A single value, or a text, is not an integer. -/
  | notInteger (text : Option String)

namespace Misfit

/-- What a value is, in a message. -/
def describe : Json → String
  | .null => "null"
  | .bool value => "boolean \x60" ++ (if value then "true" else "false") ++ "\x60"
  | .int value => "integer \x60" ++ intText value ++ "\x60"
  | .float value => "floating point \x60" ++ FloatLayout.json.text value ++ "\x60"
  | .str text => "string " ++ quoted text
  | .arr _ => "sequence"
  | .obj _ => "map"

/-- The words for a misfit. -/
def message : Misfit → String
  | kind found expected => "invalid type: " ++ describe found ++ ", expected " ++ expected
  | range found expected =>
    "invalid value: " ++ describe (.int found) ++ ", expected " ++ expected
  | length found expected => "invalid length " ++ natText found ++ ", expected " ++ expected
  | missing field => "missing field \x60" ++ field ++ "\x60"
  | shape found known =>
    "unknown variant \x60" ++ found ++ "\x60, expected "
      ++ " or ".intercalate (known.map fun name => "\x60" ++ name ++ "\x60")
  | notScalar => "data did not match any variant of untagged enum Scalar"
  | notInteger none => "expected an integer"
  | notInteger (some text) => "expected an integer, got " ++ quoted text

end Misfit

/-- Reads a typed value from JSON. -/
abbrev Reader (α : Type) := Json → Except Misfit α

namespace Reader

variable {α : Type}

/-- A text. -/
def text : Reader String
  | .str text => .ok text
  | json => .error (.kind json "a string")

/-- A truth value. -/
def bool : Reader Bool
  | .bool value => .ok value
  | json => .error (.kind json "a boolean")

/-- A 64-bit integer. -/
def int64 : Reader Int64
  | .int value =>
    match int64OfInt? value with
    | some value => .ok value
    | none => .error (.range value "i64")
  | json => .error (.kind json "i64")

/-- A value that may be `null`. -/
def optional (read : Reader α) : Reader (Option α)
  | .null => .ok none
  | json => (read json).map some

/-- The elements of a list, up to the first that cannot be read. -/
def elements (read : Reader α) : List Json → Except Misfit (List α)
  | [] => .ok []
  | json :: rest => do
    let value ← read json
    return value :: (← elements read rest)

/-- A list. -/
def list (read : Reader α) : Reader (List α)
  | .arr jsons => elements read jsons
  | json => .error (.kind json "a sequence")

/-- The values of the members of an object, up to the first that cannot be read. -/
def values (read : Reader α) : List (String × Json) → Except Misfit (List (String × α))
  | [] => .ok []
  | (name, json) :: rest => do
    let value ← read json
    return (name, value) :: (← values read rest)

/-- A map. -/
def bindings (read : Reader α) : Reader (Bindings α)
  | .obj members => (values read members).map Bindings.ofList
  | json => .error (.kind json "a map")

/-- A number, truth value or text on its own. -/
inductive Scalar where
  /-- A 64-bit integer. -/
  | int (value : Int64)
  /-- Any other number. -/
  | float (value : Binary64)
  /-- A truth value. -/
  | bool (value : Bool)
  /-- A text. -/
  | text (value : String)

/-- A single value. An integer beyond 64 bits counts as floating point. -/
def scalar : Reader Scalar
  | .int value =>
    match int64OfInt? value with
    | some value => .ok (.int value)
    | none => .ok (.float (.ofInt value))
  | .float value => .ok (.float value)
  | .bool value => .ok (.bool value)
  | .str value => .ok (.text value)
  | _ => .error .notScalar

/-- The text of a single value. -/
def lenientText : Reader String := fun json => do
  match ← scalar json with
  | .int value => return intText value.toInt
  | .float value => return FloatLayout.plain.text value
  | .bool value => return if value then "true" else "false"
  | .text value => return value

/-- The integer of a single value: a number without its fraction, or the number
    that a text spells. -/
def Scalar.toInt64 : Scalar → Except Misfit Int64
  | .int value => .ok value
  | .float value => if value.isFinite then .ok value.truncate else .error (.notInteger none)
  | .bool _ => .error (.notInteger none)
  | .text value =>
    match int64? (trimChars value.toList) with
    | some i => .ok i
    | none => .error (.notInteger (some value))

/-- An integer, or a single value that counts as one. -/
def lenientInt64 : Reader Int64 := fun json => do (← scalar json).toInt64

end Reader

/-- Where the values of a record come from: by the place and the name of a
    field, with the misfit that it is to be absent. -/
structure Source where
  /-- The value of a field, if there is one. -/
  value? : Nat → String → Option Json
  /-- The misfit of a field without a value. -/
  absent : Nat → String → Misfit

/-- The fields of a record, and the record they make. -/
structure Fields (α : Type) where
  /-- The names of the fields, in order. -/
  names : List String
  /-- Why a value cannot be that of the field of a name. -/
  misfit? : String → Json → Option Misfit
  /-- The record, its first field at a place. -/
  build : Nat → Source → Except Misfit α

namespace Fields

variable {α β : Type}

/-- No fields. -/
def nothing (value : α) : Fields α := ⟨[], fun _ _ => none, fun _ _ => .ok value⟩

/-- One field, with the value it has without being given. -/
def field (name : String) (read : Reader α) (fallback : Option α) : Fields α where
  names := [name]
  misfit? other json :=
    if other = name then
      match read json with
      | .ok _ => none
      | .error misfit => some misfit
    else none
  build place source :=
    match source.value? place name with
    | some json => read json
    | none =>
      match fallback with
      | some value => .ok value
      | none => .error (source.absent place name)

/-- Fields followed by more fields. -/
def append (first : Fields (α → β)) (second : Fields α) : Fields β where
  names := first.names ++ second.names
  misfit? name json := (first.misfit? name json).or (second.misfit? name json)
  build place source := do
    let f ← first.build place source
    let a ← second.build (place + first.names.length) source
    return f a

/-- Adds a field that has to be given. -/
def required (fields : Fields (α → β)) (name : String) (read : Reader α) : Fields β :=
  fields.append (field name read none)

/-- Adds a field that has a value also without being given. -/
def optional (fields : Fields (α → β)) (name : String) (read : Reader α) (fallback : α) :
    Fields β :=
  fields.append (field name read (some fallback))

end Fields

/-- Whether a value is read from the document itself, or was set aside while the
    shape it belongs to was looked up. The words for a list that is too long
    differ. -/
inductive Stage where
  /-- From the document. -/
  | direct
  /-- Set aside before. -/
  | setAside

/-- A number of elements. -/
def elementCount (n : Nat) : String := natText n ++ (if n = 1 then " element" else " elements")

/-- The misfit of a list that is longer than a record has fields. -/
def Stage.tooLong (stage : Stage) (length fields : Nat) : Misfit :=
  match stage with
  | .direct => .length length "fewer elements in array"
  | .setAside => .length length (elementCount fields ++ " in sequence")

/-- Reads a record from an object or an array. -/
def Reader.record {α : Type} (stage : Stage) (what : String) (fields : Fields α) : Reader α
  | .obj members =>
    match members.findSome? fun (name, json) => fields.misfit? name json with
    | some misfit => .error misfit
    | none =>
      fields.build 0 ⟨fun _ name => Entries.get? name members, fun _ name => .missing name⟩
  | .arr elements => do
    let value ← fields.build 0 ⟨fun place _ => elements[place]?, fun place _ =>
      .length place (what ++ " with " ++ elementCount fields.names.length)⟩
    if fields.names.length < elements.length then
      .error (stage.tooLong elements.length fields.names.length)
    else return value
  | json => .error (.kind json what)

/-- Reads a value whose shape is named by a member of its object, or by the
    first element of its array; the rest is read by the reader of the shape. -/
def Reader.shaped {α : Type} (tag what : String) (shapes : List (String × Reader α)) : Reader α :=
  let choose (shape : Json) (rest : Json) : Except Misfit α :=
    match shape with
    | .str name =>
      match shapes.lookup name with
      | some read => read rest
      | none => .error (.shape name (shapes.map (·.1)))
    | json => .error (.kind json "variant identifier")
  fun
  | .obj members =>
    match Entries.get? tag members with
    | some shape => choose shape (.obj (members.filter fun member => member.1 ≠ tag))
    | none => .error (.missing tag)
  | .arr (shape :: rest) => choose shape (.arr rest)
  | .arr [] => .error (.missing tag)
  | json => .error (.kind json ("internally tagged enum " ++ what))

end SamTemplate
