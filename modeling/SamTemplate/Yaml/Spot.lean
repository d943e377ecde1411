/-!
# YAML characters and where they stand

A YAML text is read as a list of *spots*: its characters, each with the line and
the column in which it stands. The characters that end a line on most systems
are all read as one; the separators of lines and paragraphs are line ends too,
but stay what they are.

* `length_spotsFrom`: each character gets one spot.
-/

namespace SamTemplate

namespace Yaml

/-- Whether a character may stand in a YAML text at all. -/
def isPermitted (c : Char) : Bool :=
  let n := c.toNat
  n = 0x09 || n = 0x0A || n = 0x0D || (0x20 ≤ n && n ≤ 0x7E) || n = 0x85 || (0xA0 ≤ n && n ≤ 0xFFFD)
    || 0x10000 ≤ n

/-- The mark that may stand at the start of a text or of a line. -/
def byteOrderMark : Char := '\uFEFF'

/-- Whether a character is a blank inside a line. -/
def isBlank (c : Char) : Bool := c = ' ' || c = '\t'

/-- Whether a character ends a line, once line ends are unified. -/
def isBreak (c : Char) : Bool := c = '\n' || c = '\u2028' || c = '\u2029'

/-- Whether a character is a blank or ends a line. -/
def isSpace (c : Char) : Bool := isBlank c || isBreak c

/-- Whether a character may stand in the name of an anchor or of a directive. -/
def isWordChar (c : Char) : Bool := c.isAlphanum || c = '_' || c = '-'

/-- Reads a line feed, a carriage return, both together and a next-line
    character alike as one line end. -/
def unifyBreaks : List Char → List Char
  | [] => []
  | '\r' :: '\n' :: rest => '\n' :: unifyBreaks rest
  | c :: rest => (if c = '\r' ∨ c = '\u0085' then '\n' else c) :: unifyBreaks rest

/-- A character and where it stands. -/
structure Spot where
  /-- The character. -/
  char : Char
  /-- How many lines are above. -/
  line : Nat
  /-- How many characters are before it in its line. -/
  column : Nat
  deriving Repr

/-- The spots of a text that goes on at a line and a column. -/
def spotsFrom (line column : Nat) : List Char → List Spot
  | [] => []
  | c :: rest =>
    ⟨c, line, column⟩ :: if isBreak c then spotsFrom (line + 1) 0 rest
      else spotsFrom line (column + 1) rest

/-- The spots of a text, if all of its characters are permitted. A mark at its
    very start does not count. -/
def spots? (text : String) : Option (List Spot) :=
  let chars := text.toList
  let chars := if chars.head? = some byteOrderMark then chars.tail else chars
  if chars.all isPermitted then some (spotsFrom 0 0 (unifyBreaks chars)) else none

theorem length_spotsFrom (line column : Nat) (chars : List Char) :
    (spotsFrom line column chars).length = chars.length := by
  induction chars generalizing line column with
  | nil => rfl
  | cons c rest ih =>
    simp only [spotsFrom, List.length_cons]
    split <;> rw [ih]

/-- Whether a text goes on with a blank or a line end, or not at all. -/
def endsWord : List Spot → Bool
  | [] => true
  | spot :: _ => isSpace spot.char

/-- Whether three equal characters stand alone: the mark between documents. -/
def isMarker (c : Char) : List Spot → Bool
  | a :: b :: d :: rest => a.char = c && b.char = c && d.char = c && endsWord rest
  | _ => false

/-- Whether a document starts or ends at the beginning of a line. -/
def atMarker : List Spot → Bool
  | [] => false
  | spot :: rest =>
    spot.column = 0 && (isMarker '-' (spot :: rest) || isMarker '.' (spot :: rest))

end Yaml

end SamTemplate
