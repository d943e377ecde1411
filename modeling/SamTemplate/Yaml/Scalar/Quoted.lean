import SamTemplate.Number.Literal
import SamTemplate.Yaml.Scalar.Gap

/-!
# Quoted scalars

Between single quotes only the quote itself is special: it is written twice.
Between double quotes a backslash starts an escape for a character, or lets a
line go on in the next one without a blank between them.
-/

namespace SamTemplate

namespace Yaml

/-- Reads the rest of a text between single quotes, of which the characters
    `done` and the gap `gap` were read, both in reverse. -/
def singleQuotedFrom (done gap : List Char) : List Spot → Option (List Char × List Spot)
  | [] => none
  | spot :: rest =>
    let done' := (foldGap gap.reverse).reverse ++ done
    if isSpace spot.char then singleQuotedFrom done (spot.char :: gap) rest
    else if atMarker (spot :: rest) then none
    else if spot.char ≠ '\'' then singleQuotedFrom (spot.char :: done') [] rest
    else
      match rest with
      | next :: rest =>
        if next.char = '\'' then singleQuotedFrom ('\'' :: done') [] rest
        else some (done'.reverse, next :: rest)
      | [] => some (done'.reverse, [])

/-- Reads a text between single quotes after the first of them. -/
def singleQuoted? (spots : List Spot) : Option (List Char × List Spot) :=
  singleQuotedFrom [] [] spots

/-- The character that one letter stands for after a backslash. -/
def escapeOfLetter? : Char → Option Char
  | '0' => some '\x00'
  | 'a' => some '\x07'
  | 'b' => some '\x08'
  | 't' | '\t' => some '\t'
  | 'n' => some '\n'
  | 'v' => some '\x0b'
  | 'f' => some '\x0c'
  | 'r' => some '\r'
  | 'e' => some '\x1b'
  | ' ' => some ' '
  | '"' => some '"'
  | '/' => some '/'
  | '\\' => some '\\'
  | 'N' => some '\u0085'
  | '_' => some '\u00a0'
  | 'L' => some '\u2028'
  | 'P' => some '\u2029'
  | _ => none

/-- How many hexadecimal digits follow a letter after a backslash. -/
def escapeDigits? : Char → Option Nat
  | 'x' => some 2
  | 'u' => some 4
  | 'U' => some 8
  | _ => none

/-- The character with a code point. -/
def charOfNat? (n : Nat) : Option Char :=
  if h : n.isValidChar then some (Char.ofNatAux n h) else none

/-- The character of an escape whose letter and following spots are given, and how
    many of these spots belong to it. -/
def escape? (letter : Char) (rest : List Spot) : Option (Char × Nat) :=
  match escapeOfLetter? letter, escapeDigits? letter with
  | some c, _ => some (c, 0)
  | none, some count => do
    let digits := (rest.take count).map (·.char)
    guard (digits.length = count)
    let c ← (unsigned? 16 digits).bind charOfNat?
    return (c, count)
  | none, none => none

/-- What a gap between double quotes stands for. Where it starts with an escaped
    line end, only its other line ends count. -/
def foldEscapedGap (escaped : Bool) (gap : List Char) : List Char :=
  if escaped then gapBreaks gap else foldGap gap

/-- Reads the rest of a text between double quotes. The characters `done` and the
    gap `gap` were read, both in reverse; `escaped` tells whether the gap started
    with an escaped line end, and the next `skip` spots belong to an escape that
    was read. -/
def doubleQuotedFrom (done gap : List Char) (escaped : Bool) :
    Nat → List Spot → Option (List Char × List Spot)
  | _, [] => none
  | skip + 1, _ :: rest => doubleQuotedFrom done gap escaped skip rest
  | 0, spot :: rest =>
    let done' := (foldEscapedGap escaped gap.reverse).reverse ++ done
    if isSpace spot.char then doubleQuotedFrom done (spot.char :: gap) escaped 0 rest
    else if atMarker (spot :: rest) then none
    else if spot.char = '"' then some (done'.reverse, rest)
    else if spot.char ≠ '\\' then doubleQuotedFrom (spot.char :: done') [] false 0 rest
    else
      match rest with
      | [] => none
      | letter :: rest =>
        if isBreak letter.char then doubleQuotedFrom done' [] true 0 rest
        else
          match escape? letter.char rest with
          | some (c, skip) => doubleQuotedFrom (c :: done') [] false skip rest
          | none => none

/-- Reads a text between double quotes after the first of them. -/
def doubleQuoted? (spots : List Spot) : Option (List Char × List Spot) :=
  doubleQuotedFrom [] [] false 0 spots

end Yaml

end SamTemplate
