import SamTemplate.Json.Basic
import SamTemplate.Number.Layout
import SamTemplate.Text.Quoted
import SamTemplate.Yaml.Scalar.Style

/-!
# Writing YAML

Writes a value as a YAML document with one item or entry a line. The entries of
a mapping are indented by two blanks below their key, the items of a sequence
are not; a collection in an item starts on the line of its hyphen.

A key that is long or has line ends is announced by a question mark.
-/

namespace SamTemplate

namespace Yaml

/-- The blanks at the start of a line. -/
def padding (indent : Nat) : List Char := List.replicate indent ' '

/-- The digits of a number in base sixteen, in upper case and filled up with zeros. -/
def paddedHex (width n : Nat) : List Char :=
  let digits := (hexDigits n).map Char.toUpper
  List.replicate (width - digits.length) '0' ++ digits

/-- The escape of a character between double quotes. -/
def escapeOf (c : Char) : List Char :=
  match c.toNat with
  | 0x00 => ['\\', '0']
  | 0x07 => ['\\', 'a']
  | 0x08 => ['\\', 'b']
  | 0x09 => ['\\', 't']
  | 0x0A => ['\\', 'n']
  | 0x0B => ['\\', 'v']
  | 0x0C => ['\\', 'f']
  | 0x0D => ['\\', 'r']
  | 0x1B => ['\\', 'e']
  | 0x22 => ['\\', '"']
  | 0x5C => ['\\', '\\']
  | 0x85 => ['\\', 'N']
  | 0x2028 => ['\\', 'L']
  | 0x2029 => ['\\', 'P']
  | n =>
    if n ≤ 0xFF then '\\' :: 'x' :: paddedHex 2 n
    else if n ≤ 0xFFFF then '\\' :: 'u' :: paddedHex 4 n
    else '\\' :: 'U' :: paddedHex 8 n

/-- A character between double quotes. -/
def doubleQuotedChar (c : Char) : List Char :=
  if isWritable c && !isBreak c && c ≠ '"' && c ≠ '\\' then [c] else escapeOf c

/-- A text between double quotes. -/
def doubleQuoted (text : List Char) : List Char :=
  '"' :: (text.flatMap doubleQuotedChar ++ ['"'])

/-- The rest of a text between single quotes, whose further lines are indented;
    `atStart` tells whether a line has just ended. -/
def singleQuotedRest (indent : Nat) (atStart : Bool) : List Char → List Char
  | [] => (if atStart then padding indent else []) ++ ['\'']
  | c :: rest =>
    if isBreak c then c :: singleQuotedRest indent true rest
    else
      (if atStart then padding indent else []) ++ (if c = '\'' then ['\'', '\''] else [c])
        ++ singleQuotedRest indent false rest

/-- A text between single quotes. -/
def singleQuoted (indent : Nat) (text : List Char) : List Char :=
  '\'' :: singleQuotedRest indent false text

/-- The signs after the bar of a block: the indentation, where the first line does
    not show it, and what becomes of the last line ends. -/
def literalHints (text : List Char) : List Char :=
  let indentation := if text.head?.any fun c => c = ' ' || isBreak c then ['2'] else []
  let chomping := match text.reverse with
    | [] => ['-']
    | last :: before =>
      if !isBreak last then ['-']
      else if before.head?.all isBreak then ['+']
      else []
  indentation ++ chomping

/-- The lines of a block, indented unless they are empty. -/
def literalLines (indent : Nat) (atStart : Bool) : List Char → List Char
  | [] => []
  | c :: rest =>
    if isBreak c then c :: literalLines indent true rest
    else (if atStart then padding indent else []) ++ c :: literalLines indent false rest

/-- A text in the style it needs. -/
def scalarChars (indent : Nat) (text : String) : List Char :=
  let chars := text.toList
  match styleOf text with
  | .plain => chars
  | .singleQuoted => singleQuoted indent chars
  | .doubleQuoted => doubleQuoted chars
  | .literal => '|' :: (literalHints chars ++ '\n' :: literalLines indent true chars)

/-- Ends the line, unless it has just ended. -/
def endLine (chars : List Char) : List Char :=
  if chars.getLast?.any isBreak then chars else chars ++ ['\n']

/-- Whether a key is written in front of its colon without a question mark. -/
def isSimpleKey (key : String) : Bool := key.utf8ByteSize ≤ 128 && !key.toList.any endsLine

mutual

/-- What stands after a colon, a hyphen or a question mark at the column `indent`,
    up to the end of its last line. After a hyphen or a question mark, or after
    the colon of a key that has one, a collection starts on the same line
    (`inLine`). -/
def nodeLines (indent : Nat) (inLine : Bool) : Json → List Char
  | .null => " null\n".toList
  | .bool value => (if value then " true\n" else " false\n").toList
  | .int value => ' ' :: ((intText value).toList ++ ['\n'])
  | .float value => ' ' :: ((FloatLayout.yamlKey.text value).toList ++ ['\n'])
  | .str text => endLine (' ' :: scalarChars (indent + 2) text)
  | .arr [] => " []\n".toList
  | .obj [] => " \x7b\x7d\n".toList
  | .arr (first :: rest) =>
    let column := if inLine then indent + 2 else indent
    (if inLine then [' '] else '\n' :: padding column)
      ++ '-' :: (nodeLines column true first ++ itemLines column rest)
  | .obj ((key, first) :: rest) =>
    let column := indent + 2
    (if inLine then [' '] else '\n' :: padding column)
      ++ keyChars column key ++ nodeLines column (!isSimpleKey key) first
      ++ entryLines column rest

/-- The items of a sequence at a column, a line or more each. -/
def itemLines (column : Nat) : List Json → List Char
  | [] => []
  | item :: rest => padding column ++ '-' :: (nodeLines column true item ++ itemLines column rest)

/-- The entries of a mapping at a column, a line or more each. -/
def entryLines (column : Nat) : List (String × Json) → List Char
  | [] => []
  | (key, value) :: rest =>
    padding column ++ keyChars column key ++ nodeLines column (!isSimpleKey key) value
      ++ entryLines column rest

/-- A key at a column and its colon. -/
def keyChars (column : Nat) (key : String) : List Char :=
  if isSimpleKey key then scalarChars (column + 2) key ++ [':']
  else '?' :: (endLine (' ' :: scalarChars (column + 2) key) ++ padding column ++ [':'])

end

/-- A value as a document. -/
def document (value : Json) : String :=
  match value with
  | .obj ((key, first) :: rest) => String.ofList (entryLines 0 ((key, first) :: rest))
  | .arr (first :: rest) => String.ofList (itemLines 0 (first :: rest))
  | value => String.ofList ((nodeLines 0 true value).drop 1)

end Yaml

end SamTemplate
