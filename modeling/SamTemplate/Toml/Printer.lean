import SamTemplate.Bindings
import SamTemplate.Text.Quoted
import SamTemplate.Toml.Basic

/-!
# Writing TOML

A value on one line. A text stands between double quotes; if it holds something
that would have to be escaped there, it stands between single quotes, and between
three quotes of either sort if that does not help either or if it has line ends.
-/

namespace SamTemplate

namespace Toml

/-! ### Texts -/

/-- The length of the longest run of a character in a text that follows `run`
    occurrences of it. -/
def longestRunFrom (c : Char) (run : Nat) : List Char → Nat
  | [] => run
  | d :: rest =>
    if d = c then longestRunFrom c (run + 1) rest else max run (longestRunFrom c 0 rest)

/-- The length of the longest run of a character in a text. -/
def longestRun (c : Char) (text : List Char) : Nat := longestRunFrom c 0 text

/-- Whether a character is a control character. -/
def isControl (c : Char) : Bool := c.toNat < 32 || c.toNat = 127

/-- Whether a text has a character that has to be escaped in every style. -/
def hasEscapedControl (text : List Char) : Bool :=
  text.any fun c => isControl c && c ≠ '\t' && c ≠ '\n'

/-- A character between double quotes, single ones if not `long`. -/
def doubleQuotedChar (long : Bool) (c : Char) : List Char :=
  match c.toNat with
  | 0x08 => ['\\', 'b']
  | 0x09 => ['\\', 't']
  | 0x0A => if long then ['\n'] else ['\\', 'n']
  | 0x0C => ['\\', 'f']
  | 0x0D => ['\\', 'r']
  | 0x5C => ['\\', '\\']
  | n =>
    if isControl c then
      let digits := (hexDigits n).map Char.toUpper
      ['\\', 'u'] ++ List.replicate (4 - digits.length) '0' ++ digits
    else [c]

/-- The characters of a text between double quotes, of which `run` follow each
    other in front of it: one is escaped between single double quotes, the third
    in a row between three. -/
def doubleQuotedChars (long : Bool) (run : Nat) : List Char → List Char
  | [] => []
  | c :: rest =>
    if c = '"' then
      if run < (if long then 2 else 0) then '"' :: doubleQuotedChars long (run + 1) rest
      else '\\' :: '"' :: doubleQuotedChars long 0 rest
    else doubleQuotedChar long c ++ doubleQuotedChars long 0 rest

/-- The start of a text between three quotes: a line end, if it has line ends. -/
def longStart (text : List Char) : List Char := if text.contains '\n' then ['\n'] else []

/-- A text between double quotes. -/
def basicText (text : List Char) : List Char := '"' :: (doubleQuotedChars false 0 text ++ ['"'])

/-- A text between three double quotes. -/
def longBasicText (text : List Char) : List Char :=
  ['"', '"', '"'] ++ longStart text ++ doubleQuotedChars true 0 text ++ ['"', '"', '"']

/-- A text between single quotes. -/
def literalText (text : List Char) : List Char := '\'' :: (text ++ ['\''])

/-- A text between three single quotes. -/
def longLiteralText (text : List Char) : List Char :=
  ['\'', '\'', '\''] ++ longStart text ++ text ++ ['\'', '\'', '\'']

/-- A text in the first style that holds it without escapes, but for tabs. -/
def textChars (text : List Char) : List Char :=
  let escaped := hasEscapedControl text
  let lines := text.contains '\n'
  if !escaped && !lines && !text.contains '\\' && !text.contains '"' then basicText text
  else if !escaped && !lines && !text.contains '\'' then literalText text
  else if !escaped && !text.contains '\\' && longestRun '"' text ≤ 2 then longBasicText text
  else if !escaped && longestRun '\'' text ≤ 2 then longLiteralText text
  else if lines then longBasicText text
  else basicText text

/-- Whether a character may stand in a key without quotes. -/
def isKeyChar (c : Char) : Bool := c.isAlphanum || c = '-' || c = '_'

/-- A key, between quotes if it needs them. -/
def keyChars (key : List Char) : List Char :=
  if !key.isEmpty && key.all isKeyChar then key
  else
    let escaped := hasEscapedControl key || key.contains '\n'
    if !escaped && !key.contains '\\' && !key.contains '"' then basicText key
    else if !escaped && !key.contains '\'' then literalText key
    else basicText key

/-! ### Values -/

/-- Pieces with a comma and a blank between each two. -/
def commaSeparated (parts : List (List Char)) : List Char := [',', ' '].intercalate parts

mutual

/-- The characters of a value. -/
def chars : Toml → List Char
  | .str text => textChars text.toList
  | .int value => (intText value.toInt).toList
  | .float value => (FloatLayout.toml.text value).toList
  | .bool value => (if value then "true" else "false").toList
  | .moment value => value.text.toList
  | .arr elements => '[' :: (commaSeparated (elementChars elements) ++ [']'])
  | .table [] => ['\x7b', '\x7d']
  | .table (entry :: rest) =>
    ['\x7b', ' ']
      ++ commaSeparated ((Entries.inKeyOrder (entryChars (entry :: rest))).map (·.2))
      ++ [' ', '\x7d']

/-- The characters of each element of an array. -/
def elementChars : List Toml → List (List Char)
  | [] => []
  | element :: rest => element.chars :: elementChars rest

/-- The keys of a table, each with the characters of its entry. -/
def entryChars : List (String × Toml) → List (String × List Char)
  | [] => []
  | (key, value) :: rest =>
    (key, keyChars key.toList ++ [' ', '=', ' '] ++ value.chars) :: entryChars rest

end

/-- A value on one line. -/
def text (value : Toml) : String := String.ofList value.chars

end Toml

end SamTemplate
