import SamTemplate.Json.Basic
import SamTemplate.Number.Layout
import SamTemplate.Text.Quoted

/-!
# JSON text

Two ways to write a JSON value: `Json.compact` without any blank, and
`Json.pretty` with one element or member a line, indented by two blanks a
level. Both write texts, numbers and empty containers alike.
-/

namespace SamTemplate

namespace Json

/-- A character inside a text: quotes, backslashes and control characters are
    escaped, all others stand for themselves. -/
def escapedChar (c : Char) : List Char :=
  if c = '"' ∨ c = '\\' then ['\\', c]
  else if c = '\n' then ['\\', 'n']
  else if c = '\r' then ['\\', 'r']
  else if c = '\t' then ['\\', 't']
  else if c.toNat = 8 then ['\\', 'b']
  else if c.toNat = 12 then ['\\', 'f']
  else if c.toNat < 16 then ['\\', 'u', '0', '0', '0'] ++ hexDigits c.toNat
  else if c.toNat < 32 then ['\\', 'u', '0', '0'] ++ hexDigits c.toNat
  else [c]

/-- A text between double quotes. -/
def stringChars (text : String) : List Char :=
  '"' :: (text.toList.flatMap escapedChar ++ ['"'])

mutual

/-- The characters of a value without blanks. -/
def chars : Json → List Char
  | .null => ['n', 'u', 'l', 'l']
  | .bool true => ['t', 'r', 'u', 'e']
  | .bool false => ['f', 'a', 'l', 's', 'e']
  | .int value => (intText value).toList
  | .float value => (FloatLayout.json.text value).toList
  | .str value => stringChars value
  | .arr [] => ['[', ']']
  | .arr (first :: rest) => '[' :: (chars first ++ elementChars rest)
  | .obj [] => ['\x7b', '\x7d']
  | .obj ((name, first) :: rest) =>
    '\x7b' :: (stringChars name ++ ':' :: (chars first ++ memberChars rest))

/-- The elements after the first and the closing bracket. -/
def elementChars : List Json → List Char
  | [] => [']']
  | element :: rest => ',' :: (chars element ++ elementChars rest)

/-- The members after the first and the closing brace. -/
def memberChars : List (String × Json) → List Char
  | [] => ['\x7d']
  | (name, value) :: rest => ',' :: (stringChars name ++ ':' :: (chars value ++ memberChars rest))

end

/-- A value without blanks. -/
def compact (value : Json) : String := String.ofList value.chars

/-- The start of a line at a level of nesting. -/
private def newline (level : Nat) : List Char := '\n' :: List.replicate (2 * level) ' '

mutual

/-- The characters of a value nested in `level` others, over several lines. -/
def prettyChars (level : Nat) : Json → List Char
  | .arr (first :: rest) =>
    '[' :: (newline (level + 1) ++ prettyChars (level + 1) first ++ prettyElements level rest)
  | .obj ((name, first) :: rest) =>
    '\x7b' :: (newline (level + 1) ++ stringChars name ++ ':' :: ' '
      :: (prettyChars (level + 1) first ++ prettyMembers level rest))
  | value => chars value

/-- The elements after the first and the closing bracket. -/
def prettyElements (level : Nat) : List Json → List Char
  | [] => newline level ++ [']']
  | element :: rest =>
    ',' :: (newline (level + 1) ++ prettyChars (level + 1) element ++ prettyElements level rest)

/-- The members after the first and the closing brace. -/
def prettyMembers (level : Nat) : List (String × Json) → List Char
  | [] => newline level ++ ['\x7d']
  | (name, value) :: rest =>
    ',' :: (newline (level + 1) ++ stringChars name ++ ':' :: ' '
      :: (prettyChars (level + 1) value ++ prettyMembers level rest))

end

/-- A value over several lines. -/
def pretty (value : Json) : String := String.ofList (value.prettyChars 0)

end Json

end SamTemplate
