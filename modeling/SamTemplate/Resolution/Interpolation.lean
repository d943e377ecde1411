import SamTemplate.Bindings

/-!
# Interpolation

A token is a name in braces after a dollar sign; a name consists of ASCII
letters, digits, underscores and colons. Interpolation replaces each token of a
text by the value of its name and leaves the tokens of unknown names, and all
else, as they are. What is put in is not looked at again.
-/

namespace SamTemplate

/-- The values of parameters by name. -/
abbrev Parameters := Bindings String

/-- The value of a name: that of the parameter, or a local stand-in for a name
    that belongs to the platform. -/
def Parameters.valueOf? (parameters : Parameters) (name : List Char) : Option String :=
  match parameters.get? (String.ofList name) with
  | some value => some value
  | none =>
    match name with
    | 'A' :: 'W' :: 'S' :: ':' :: ':' :: rest => some ("local-" ++ String.ofList rest)
    | _ => none

/-- A character of a name. -/
def isNameChar (c : Char) : Bool := c.isAlphanum || c = '_' || c = ':'

/-- The name in the token that a text starts with. -/
def tokenName? : List Char → Option (List Char)
  | '$' :: '\x7b' :: rest =>
    let name := rest.takeWhile isNameChar
    if name ≠ [] ∧ (rest.drop name.length).head? = some '\x7d' then some name else none
  | _ => none

/-- The token of a name. -/
def tokenOf (name : List Char) : List Char := '$' :: '\x7b' :: (name ++ ['\x7d'])

/-- Replaces the tokens of a text, of which the first `skip` characters are the
    rest of one that is already replaced. -/
def interpolateFrom (valueOf? : List Char → Option String) : Nat → List Char → List Char
  | _, [] => []
  | skip + 1, _ :: rest => interpolateFrom valueOf? skip rest
  | 0, c :: rest =>
    match tokenName? (c :: rest) with
    | some name =>
      ((valueOf? name).map String.toList).getD (tokenOf name)
        ++ interpolateFrom valueOf? (name.length + 2) rest
    | none => c :: interpolateFrom valueOf? 0 rest

/-- Replaces the tokens of a text by the values of their names. -/
def interpolate (parameters : Parameters) (text : String) : String :=
  String.ofList (interpolateFrom parameters.valueOf? 0 text.toList)

end SamTemplate
