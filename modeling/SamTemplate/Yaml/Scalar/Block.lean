import SamTemplate.Number.Literal
import SamTemplate.Yaml.Spot

/-!
# Block scalars

Texts of whole lines, indented below a header. The header says whether line
ends are kept or folded, what becomes of those after the last line and, if the
first line does not show it, how far the text is indented.
-/

namespace SamTemplate

namespace Yaml

/-- What becomes of the line ends after the last line of a block. -/
inductive Chomping where
  /-- All are dropped. -/
  | strip
  /-- One is kept. -/
  | clip
  /-- All are kept. -/
  | keep
  deriving DecidableEq, Repr

/-- What the header of a block says. -/
structure BlockHeader where
  /-- What becomes of the last line ends. -/
  chomping : Chomping
  /-- How far the lines are indented below their surroundings. -/
  indentation : Option Nat

/-- Reads the sign for the last line ends. -/
def chomping? : List Spot → Option (Chomping × List Spot)
  | [] => none
  | spot :: rest =>
    if spot.char = '+' then some (.keep, rest)
    else if spot.char = '-' then some (.strip, rest)
    else none

/-- Reads the digit for the indentation. -/
def indentation? : List Spot → Option (Nat × List Spot)
  | [] => none
  | spot :: rest => if isDigitOf 10 spot.char then some (spot.char.toNat - 48, rest) else none

/-- Reads the two signs of a header, in either order. -/
def headerSigns (spots : List Spot) : BlockHeader × List Spot :=
  match chomping? spots with
  | some (chomping, rest) =>
    match indentation? rest with
    | some (digit, rest) => (⟨chomping, some digit⟩, rest)
    | none => (⟨chomping, none⟩, rest)
  | none =>
    match indentation? spots with
    | some (digit, rest) =>
      match chomping? rest with
      | some (chomping, rest) => (⟨chomping, some digit⟩, rest)
      | none => (⟨.clip, some digit⟩, rest)
    | none => (⟨.clip, none⟩, spots)

/-- Skips blanks and a comment up to the end of the line; nothing else may stand
    there. -/
def restOfLine? (spots : List Spot) : Option (List Spot) :=
  let rest := spots.dropWhile fun spot => isBlank spot.char
  let rest := if rest.head?.any fun spot => spot.char = '#' then
      rest.dropWhile fun spot => !isBreak spot.char
    else rest
  match rest with
  | [] => some []
  | spot :: rest => if isBreak spot.char then some rest else none

/-- Reads a header and the end of its line. -/
def blockHeader? (spots : List Spot) : Option (BlockHeader × List Spot) := do
  let (header, rest) := headerSigns spots
  guard (header.indentation ≠ some 0)
  return (header, ← restOfLine? rest)

/-- How far a block is indented: as its first line that is not empty, or as the
    longest of the lines before it. A tab cannot indent it. -/
def deepestIndent? : Nat → List Spot → Option Nat
  | deepest, [] => some deepest
  | deepest, spot :: rest =>
    if spot.char = ' ' then deepestIndent? (max deepest (spot.column + 1)) rest
    else if isBreak spot.char then deepestIndent? deepest rest
    else if spot.char = '\t' then none
    else some deepest

/-- The column of the lines of a block whose surroundings end left of `floor`. -/
def blockIndent? (header : BlockHeader) (floor : Nat) (spots : List Spot) : Option Nat :=
  match header.indentation with
  | some digit => some (floor - 1 + digit)
  | none => (deepestIndent? 0 spots).map fun deepest => max (max deepest floor) 1

/-- What was read of a block. -/
structure BlockText where
  /-- The characters of its lines, in reverse. -/
  done : List Char
  /-- The line end after the last line. -/
  lineEnd : List Char
  /-- The line ends after that, in reverse. -/
  more : List Char
  /-- Whether the last line started with a blank. -/
  startedBlank : Bool

namespace BlockText

/-- Nothing yet. -/
def empty : BlockText := ⟨[], [], [], false⟩

/-- A line end after the lines. -/
def addEmptyLine (text : BlockText) (c : Char) : BlockText := { text with more := c :: text.more }

/-- The end of the line that is being read. -/
def endLine (text : BlockText) (c : Char) : BlockText := { text with lineEnd := [c] }

/-- One more character of the line that is being read. -/
def add (text : BlockText) (c : Char) : BlockText := { text with done := c :: text.done }

/-- The first character of a line. Unless lines are kept as they are, the line end
    between two lines that do not start with a blank counts as a blank, or as
    nothing where others follow it. -/
def startLine (text : BlockText) (literal : Bool) (c : Char) : BlockText :=
  let lineEnd :=
    if !literal && text.lineEnd == ['\n'] && !text.startedBlank && !isBlank c then
      if text.more.isEmpty then [' '] else []
    else text.lineEnd
  ⟨c :: (text.more ++ lineEnd ++ text.done), [], [], isBlank c⟩

/-- The text of a block that has ended. -/
def finish (text : BlockText) (chomping : Chomping) : List Char :=
  let kept := match chomping with
    | .strip => []
    | .clip => text.lineEnd
    | .keep => text.more ++ text.lineEnd
  (kept ++ text.done).reverse

end BlockText

/-- Reads the rest of a block whose lines start at the column `indent`; `inLine`
    tells whether the next character belongs to a line that was started. -/
def blockFrom (literal : Bool) (indent : Nat) (inLine : Bool) (text : BlockText) :
    List Spot → Option (BlockText × List Spot)
  | [] => some (text, [])
  | spot :: rest =>
    if inLine then
      if isBreak spot.char then blockFrom literal indent false (text.endLine spot.char) rest
      else blockFrom literal indent true (text.add spot.char) rest
    else if isBreak spot.char then
      blockFrom literal indent false (text.addEmptyLine spot.char) rest
    else if spot.column < indent then
      if spot.char = ' ' then blockFrom literal indent false text rest
      else if spot.char = '\t' then none
      else some (text, spot :: rest)
    else blockFrom literal indent true (text.startLine literal spot.char) rest

/-- Reads a block scalar after the sign that starts it. -/
def block? (literal : Bool) (floor : Nat) (spots : List Spot) :
    Option (List Char × List Spot) := do
  let (header, rest) ← blockHeader? spots
  let indent ← blockIndent? header floor rest
  let (text, rest) ← blockFrom literal indent false .empty rest
  return (text.finish header.chomping, rest)

end Yaml

end SamTemplate
