import SamTemplate.Number.Literal
import SamTemplate.Yaml.Value

/-!
# What plain scalars mean

A scalar without quotes is a text unless it looks like something else: like
nothing, a truth value or a number. Whole numbers may be written in bases two,
eight, ten and sixteen; a decimal with zeros in front of it is a text.
-/

namespace SamTemplate

namespace Yaml

/-- Whether a text spells that there is no value. -/
def spellsNull (text : String) : Bool := ["null", "Null", "NULL", "~"].contains text

/-- The truth value that a text spells. -/
def bool? (text : String) : Option Bool :=
  if ["true", "True", "TRUE"].contains text then some true
  else if ["false", "False", "FALSE"].contains text then some false
  else none

/-- Whether a text is a row of digits, with at most one sign, that starts with a
    zero although it has more digits. -/
def hasLeadingZero (text : List Char) : Bool :=
  let digits := match text with
    | c :: rest => if c = '-' ∨ c = '+' then rest else text
    | [] => []
  digits.length > 1 && digits.head? = some '0' && digits.all (isDigitOf 10)

/-- The whole number that digits spell, of which a letter gives the base if it is
    not ten. -/
def natural? (text : List Char) : Option Nat :=
  match text with
  | '0' :: 'x' :: digits => unsigned? 16 digits
  | '0' :: 'o' :: digits => unsigned? 8 digits
  | '0' :: 'b' :: digits => unsigned? 2 digits
  | digits => unsigned? 10 digits

/-- The whole number that a text spells. -/
def integer? (text : List Char) : Option Int :=
  if hasLeadingZero text then none
  else
    match text with
    | '-' :: digits => (natural? digits).map fun n => -(n : Int)
    | '+' :: digits => (natural? digits).map fun n => (n : Int)
    | digits => (natural? digits).map fun n => (n : Int)

/-- Whether a whole number fits into 128 bits, with or without a sign. -/
def isWide (i : Int) : Bool := -(Nat.pow 2 127 : Int) ≤ i && i < Nat.pow 2 128

/-- Whether a whole number can be held: in 64 bits, with or without a sign. -/
def isHeld (i : Int) : Bool := -(Nat.pow 2 63 : Int) ≤ i && i < Nat.pow 2 64

/-- The whole number that a text spells. One of more than 128 bits is none, and one
    of more than 64 bits cannot be held. -/
def int? (text : String) : Option (Option Int) :=
  ((integer? text.toList).filter isWide).map fun i => if isHeld i then some i else none

/-- The floating point number that a text spells: a finite decimal, an infinity or
    what is not a number. -/
def float? (text : String) : Option Binary64 :=
  if [".inf", ".Inf", ".INF", "+.inf", "+.Inf", "+.INF"].contains text then
    some (.infinity false)
  else if ["-.inf", "-.Inf", "-.INF"].contains text then some (.infinity true)
  else if [".nan", ".NaN", ".NAN"].contains text then some .nan
  else (decimal? text.toList).filter (·.isFinite)

/-- What a plain scalar means, as far as it can be held. -/
def ofPlain? (text : String) : Option Value :=
  if text = "" ∨ spellsNull text then some .null
  else
    match bool? text, int? text with
    | some value, _ => some (.bool value)
    | none, some number => number.map .int
    | none, none =>
      match float? text with
      | some number => if hasLeadingZero text.toList then some (.str text) else some (.float number)
      | none => some (.str text)

end Yaml

end SamTemplate
