import SamTemplate.Text.Ranges

/-!
# Blank characters

White space in all scripts, and texts without it at their ends.
-/

namespace SamTemplate

/-- The white space characters (the property `White_Space`). -/
def blankRanges : List (Nat × Nat) := [
  (0x9, 0xd), (0x20, 0x20), (0x85, 0x85), (0xa0, 0xa0), (0x1680, 0x1680), (0x2000, 0x200a),
  (0x2028, 0x2029), (0x202f, 0x202f), (0x205f, 0x205f), (0x3000, 0x3000)]

/-- A white space character. -/
def isBlank (c : Char) : Bool := inRanges blankRanges c

/-- The characters of a text without the blanks at its end. -/
def trimEndChars (text : List Char) : List Char := (text.reverse.dropWhile isBlank).reverse

/-- The characters of a text without the blanks at its ends. -/
def trimChars (text : List Char) : List Char := trimEndChars (text.dropWhile isBlank)

/-- A text without the blanks at its ends. -/
def trim (text : String) : String := String.ofList (trimChars text.toList)

/-- A text without the blanks at its end. -/
def trimEnd (text : String) : String := String.ofList (trimEndChars text.toList)

end SamTemplate
