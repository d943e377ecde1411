import SamTemplate.Yaml.Scalar.Gap

/-!
# Plain scalars

Texts that are written as they are, without quotes. They end where something
else of the document starts, so it depends on their surroundings which
characters they can hold.
-/

namespace SamTemplate

namespace Yaml

/-- The surroundings of a scalar. -/
structure Surroundings where
  /-- Whether it stands between brackets or braces. -/
  inFlow : Bool
  /-- The column from which on the lines of the scalar have to start. -/
  floor : Nat

/-- The characters that mean something between brackets and braces. -/
def isFlowMark (c : Char) : Bool := c = ',' || c = '[' || c = ']' || c = '\x7b' || c = '\x7d'

/-- The characters with which no plain scalar starts. -/
def isIndicator (c : Char) : Bool := "-?:,[]\x7b\x7d#&*!|>'\"%@\x60".toList.contains c

/-- Whether a plain scalar starts here. A hyphen, a question mark and a colon may
    start one if they cannot be anything else. -/
def startsPlain (inFlow : Bool) : List Spot → Bool
  | [] => false
  | spot :: rest =>
    !(isSpace spot.char || isIndicator spot.char)
      || (spot.char = '-' && !rest.head?.any fun next => isBlank next.char)
      || (!inFlow && (spot.char = '?' || spot.char = ':') && !endsWord rest)

/-- Whether a plain scalar ends before a character that follows a gap. -/
def endsAfterGap (around : Surroundings) (spot : Spot) : Bool :=
  spot.char = '#' || (!around.inFlow && spot.column < around.floor)

/-- Whether a plain scalar ends before a character wherever it stands. -/
def endsPlain (around : Surroundings) (spot : Spot) (rest : List Spot) : Bool :=
  (spot.char = ':' && endsWord rest) || (around.inFlow && isFlowMark spot.char)

/-- Whether a colon stands where neither a value nor the rest of a scalar can. -/
def isStrayColon (around : Surroundings) (spot : Spot) (rest : List Spot) : Bool :=
  around.inFlow && spot.char = ':'
    && rest.head?.any fun next => isFlowMark next.char || next.char = '?'

/-- A plain scalar that was read. -/
structure PlainText where
  /-- Its text. -/
  text : List Char
  /-- Whether a line end follows it. -/
  endsLine : Bool
  /-- What follows it and the gap after it. -/
  rest : List Spot

/-- Reads the rest of a plain scalar of which the characters `done` and the gap
    `gap` were read, both in reverse. A tab cannot indent a line of it. -/
def plainFrom (around : Surroundings) (done gap : List Char) : List Spot → Option PlainText
  | [] => some ⟨done.reverse, gap.any isBreak, []⟩
  | spot :: rest =>
    if isSpace spot.char then
      if spot.char = '\t' ∧ spot.column < around.floor ∧ gap.any isBreak then none
      else plainFrom around done (spot.char :: gap) rest
    else if (!gap.isEmpty && endsAfterGap around spot) || atMarker (spot :: rest) then
      some ⟨done.reverse, gap.any isBreak, spot :: rest⟩
    else if isStrayColon around spot rest then none
    else if endsPlain around spot rest then
      some ⟨done.reverse, gap.any isBreak, spot :: rest⟩
    else
      plainFrom around (spot.char :: ((foldGap gap.reverse).reverse ++ done)) [] rest

/-- Reads the plain scalar at the start of a text. -/
def plain? (around : Surroundings) (spots : List Spot) : Option PlainText :=
  plainFrom around [] [] spots

end Yaml

end SamTemplate
