import SamTemplate.Number.Binary64

/-!
# YAML values

What a document says, whatever way it was written. Two values are the same
(`Value.same`) if they say the same: the order of the entries of a mapping does
not count, zero has no sign and what is not a number is equal to itself. A whole
number is never the same as a floating point number or a text.
-/

namespace SamTemplate

namespace Yaml

/-- What a document or a part of it says. -/
inductive Value where
  /-- No value. -/
  | null
  /-- A truth value. -/
  | bool (value : Bool)
  /-- A whole number. -/
  | int (value : Int)
  /-- A floating point number. -/
  | float (value : Binary64)
  /-- A text. -/
  | str (text : String)
  /-- A list of values. -/
  | seq (items : List Value)
  /-- Values under keys, which are values as well. -/
  | map (entries : List (Value × Value))
  /-- A value of a sort of the document's own. -/
  | tagged (name : String) (value : Value)
  deriving Inhabited

namespace Value

/-- Whether two floating point numbers are the same: zero has no sign, and what is
    not a number is the same as itself. -/
def sameFloat (a b : Binary64) : Bool :=
  (a.isNaN && b.isNaN) || a == b || (a.isZero && b.isZero)

mutual

/-- Whether two values say the same. -/
def same : Value → Value → Bool
  | .null, .null => true
  | .bool a, .bool b => a == b
  | .int a, .int b => a == b
  | .float a, .float b => sameFloat a b
  | .str a, .str b => a == b
  | .seq as, .seq bs => sameItems as bs
  | .map as, .map bs => as.length == bs.length && sameEntries as bs
  | .tagged a x, .tagged b y => a == b && same x y
  | _, _ => false

/-- Whether two lists of values say the same, item by item. -/
def sameItems : List Value → List Value → Bool
  | [], [] => true
  | a :: as, b :: bs => same a b && sameItems as bs
  | _, _ => false

/-- Whether each of some entries is among others. -/
def sameEntries : List (Value × Value) → List (Value × Value) → Bool
  | [], _ => true
  | (key, value) :: rest, others =>
    others.any (fun other => same key other.1 && same value other.2) && sameEntries rest others

end

/-- Whether a key is the same as that of one of some entries. -/
def hasKey (key : Value) (entries : List (Value × Value)) : Bool :=
  entries.any fun entry => same key entry.1

end Value

end Yaml

end SamTemplate
