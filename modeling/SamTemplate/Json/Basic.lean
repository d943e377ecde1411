import SamTemplate.Bindings
import SamTemplate.Number.Binary64

/-!
# JSON values

JSON values, with whole numbers told apart from fractional ones. The members of
an object keep the order in which they are to be written: a record has the
order of its fields, a map that of its keys.
-/

namespace SamTemplate

/-- A JSON value. -/
inductive Json where
  /-- The value `null`. -/
  | null
  /-- A truth value. -/
  | bool (value : Bool)
  /-- A number without fraction or exponent. -/
  | int (value : Int)
  /-- Any other number. -/
  | float (value : Binary64)
  /-- A text. -/
  | str (value : String)
  /-- A list of values. -/
  | arr (elements : List Json)
  /-- Named values, in the order they are written. -/
  | obj (members : List (String × Json))
  deriving Inhabited

namespace Json

/-- The object of a map, in the order of its keys. -/
def ofBindings {α : Type} (f : α → Json) (bindings : Bindings α) : Json :=
  .obj (bindings.entries.map fun (key, value) => (key, f value))

/-- An array of texts. -/
def ofTexts (texts : List String) : Json := .arr (texts.map .str)

/-- The member of an object under a name. -/
def member? (name : String) : Json → Option Json
  | .obj members => Entries.get? name members
  | _ => none

end Json

end SamTemplate
