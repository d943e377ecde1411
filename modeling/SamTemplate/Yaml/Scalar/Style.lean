import SamTemplate.Yaml.Plain
import SamTemplate.Yaml.Spot

/-!
# Styles of scalars

In which style a text is written, so that it is read back as the same text: as
it is wherever that is possible, a text of several lines as a block, and any
other one between quotes. Which styles can hold a text depends on its blanks and
line ends, and on characters that would mean something else.
-/

namespace SamTemplate

namespace Yaml

/-- The styles in which texts are written. -/
inductive Style where
  /-- As it is. -/
  | plain
  /-- Between single quotes. -/
  | singleQuoted
  /-- Between double quotes. -/
  | doubleQuoted
  /-- As a block of lines that are kept as they are. -/
  | literal
  deriving DecidableEq, Repr

/-- Whether a character is written as it is, even between double quotes. -/
def isWritable (c : Char) : Bool :=
  let n := c.toNat
  n = 0x0A || (0x20 ≤ n && n ≤ 0x7E) || (0xA0 ≤ n && n ≤ 0xFFFD && n ≠ 0xFEFF)

/-- Whether a character ends a line in any way. -/
def endsLine (c : Char) : Bool := isBreak c || c = '\r' || c = '\u0085'

/-- Whether a character is white space, or there is none. -/
def isGap : Option Char → Bool
  | none => true
  | some c => isBlank c || endsLine c

/-- Whether a text has two adjacent characters of certain sorts. -/
def hasPair (first second : Char → Bool) : List Char → Bool
  | a :: b :: rest => (first a && second b) || hasPair first second (b :: rest)
  | _ => false

/-- Whether a plain scalar cannot start with a character before another one. -/
def isIndicatorBefore (c : Char) (next : Option Char) : Bool :=
  ",[]\x7b\x7d#&*!|>'\"%@\x60".toList.contains c || ("?:-".toList.contains c && isGap next)

/-- Whether something in a text would end a plain scalar or start a comment; the
    text follows the character `before`. -/
def hasIndicatorAfter (before : Char) : List Char → Bool
  | [] => false
  | c :: rest =>
    (c = ':' && isGap rest.head?) || (c = '#' && isGap (some before)) || hasIndicatorAfter c rest

/-- Whether a text would not be read as a plain scalar in a block. -/
def hasIndicator : List Char → Bool
  | [] => false
  | c :: rest =>
    ['-', '-', '-'].isPrefixOf (c :: rest) || ['.', '.', '.'].isPrefixOf (c :: rest)
      || isIndicatorBefore c rest.head? || hasIndicatorAfter c rest

/-- Whether a character at one of the ends of a text would be lost without quotes. -/
def isLostAtEnd (c : Char) : Bool := c = ' ' || endsLine c

/-- Whether a text can be written as it is. -/
def allowsPlain (text : List Char) : Bool :=
  !hasIndicator text && !(text.head?.any isLostAtEnd) && !(text.getLast?.any isLostAtEnd)
    && text.all fun c => isWritable c && !endsLine c

/-- Whether a text can be written between single quotes. -/
def allowsSingleQuoted (text : List Char) : Bool :=
  !hasPair endsLine (· = ' ') text && !hasPair (· = ' ') endsLine text && text.all isWritable

/-- Whether a text can be written as a block. -/
def allowsLiteral (text : List Char) : Bool :=
  !text.isEmpty && text.getLast? != some ' ' && !hasPair (· = ' ') endsLine text
    && text.all isWritable

/-- Whether a text without quotes would be read as something else, or is a number
    with zeros in front of it. -/
def needsQuotes (text : String) : Bool :=
  match ofPlain? text with
  | some (.str _) => hasLeadingZero text.toList
  | _ => true

/-- The style between quotes that can hold a text. -/
def quotedStyle (text : List Char) : Style :=
  if allowsSingleQuoted text then .singleQuoted else .doubleQuoted

/-- The style in which a text is written. -/
def styleOf (text : String) : Style :=
  let chars := text.toList
  if chars.contains '\n' then if allowsLiteral chars then .literal else .doubleQuoted
  else if !needsQuotes text && allowsPlain chars then .plain
  else quotedStyle chars

end Yaml

end SamTemplate
