import SamTemplate.Toml.Moment

/-!
# TOML values

The values of a TOML document. `Toml.text` writes one on a single line, with the
keys of tables in order, except for the line ends in a text.
-/

namespace SamTemplate

/-- A value of a TOML document. -/
inductive Toml where
  /-- A text. -/
  | str (text : String)
  /-- A whole number of 64 bits. -/
  | int (value : Int64)
  /-- A floating point number. -/
  | float (value : Binary64)
  /-- A truth value. -/
  | bool (value : Bool)
  /-- A date, a time or both. -/
  | moment (value : Toml.Moment)
  /-- A list of values. -/
  | arr (elements : List Toml)
  /-- Values under keys. -/
  | table (entries : List (String × Toml))
  deriving Inhabited

end SamTemplate
