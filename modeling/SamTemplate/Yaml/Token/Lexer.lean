import SamTemplate.Yaml.Scalar.Plain
import SamTemplate.Yaml.Scalar.Quoted
import SamTemplate.Yaml.Tag

/-!
# Reading tokens

Cuts a text into tokens. Two things need memory: the columns of the block
collections that are open, since a line that starts further left closes some of
them, and the places where the key of a mapping may have started, since only the
colon after a key shows that it was one.

A key that is not announced by a question mark has to be on one line with its
colon, and at most 1024 characters before it.
-/

namespace SamTemplate

namespace Yaml

/-- A place where the key of a mapping may have started. -/
structure KeyPlace where
  /-- How many tokens are before it. -/
  position : Nat
  /-- Its line. -/
  line : Nat
  /-- Its column. -/
  column : Nat
  /-- Whether nothing but a key can stand there. -/
  required : Bool

/-- Whether a colon at a spot is too far away for a key at that place. -/
def KeyPlace.outOfReach (place : KeyPlace) (spot : Spot) : Bool :=
  place.line < spot.line || place.column + 1024 < spot.column

/-- The state of reading tokens. -/
structure Lexer where
  /-- What is still to be read. -/
  rest : List Spot
  /-- The tokens that were read. -/
  tokens : Array Token
  /-- The columns of the open block collections, the innermost first. -/
  indents : List Nat
  /-- Where the key may have started to which the next colon belongs. -/
  place : Option KeyPlace
  /-- The same for the brackets and braces that are open, the innermost first;
      the last is for the text around them. -/
  outerPlaces : List (Option KeyPlace)
  /-- Whether a key may start here. -/
  keyAllowed : Bool

namespace Lexer

/-- The state before a text. -/
def start (spots : List Spot) : Lexer := ⟨spots, #[], [], none, [], true⟩

/-- Whether the text is between brackets or braces. -/
def inFlow (lexer : Lexer) : Bool := !lexer.outerPlaces.isEmpty

/-- The column right of that of the innermost block collection. -/
def floor (lexer : Lexer) : Nat := (lexer.indents.head?.map (· + 1)).getD 0

/-- What a scalar here is surrounded by. -/
def around (lexer : Lexer) : Surroundings := ⟨lexer.inFlow, lexer.floor⟩

/-- Adds a token. -/
def push (lexer : Lexer) (token : Token) : Lexer :=
  { lexer with tokens := lexer.tokens.push token }

/-- Opens a block collection at a column, unless one is open there; its token
    comes after the first `position` ones. -/
def openBlock (lexer : Lexer) (position column : Nat) (shape : Shape) : Lexer :=
  if !lexer.inFlow && lexer.floor ≤ column then
    { lexer with
      indents := column :: lexer.indents
      tokens := lexer.tokens.insertIdxIfInBounds position (.openBlock shape) }
  else lexer

/-- Closes the block collections for which `closes` holds of their columns. -/
def closeBlocks (lexer : Lexer) (closes : Nat → Bool) : Lexer :=
  if lexer.inFlow then lexer
  else
    let (closed, left) := lexer.indents.span closes
    { lexer with
      indents := left
      tokens := lexer.tokens ++ (closed.map fun _ => Token.closeBlock).toArray }

/-- Forgets where a key may have started, which fails if one has to. -/
def dropPlace (lexer : Lexer) : Option Lexer :=
  if lexer.place.any (·.required) then none else some { lexer with place := none }

/-- Notes that a key may start at a spot, if it may. -/
def notePlace (lexer : Lexer) (spot : Spot) : Option Lexer :=
  if lexer.keyAllowed then do
    let required := !lexer.inFlow && lexer.indents.head? == some spot.column
    let lexer ← lexer.dropPlace
    return { lexer with
      place := some ⟨lexer.tokens.size, spot.line, spot.column, required⟩ }
  else some lexer

/-- A place that is still in reach of a colon at a spot; fails if a key has to be
    there and is not. -/
def inReach? (spot : Spot) : Option KeyPlace → Option (Option KeyPlace)
  | none => some none
  | some place =>
    if place.outOfReach spot then if place.required then none else some none
    else some (some place)

/-- Forgets all places that are out of reach of a spot. -/
def forget (lexer : Lexer) (spot : Spot) : Option Lexer := do
  let place ← inReach? spot lexer.place
  let outerPlaces ← lexer.outerPlaces.mapM (inReach? spot)
  return { lexer with place, outerPlaces }

/-- Skips what stands between tokens: blanks, comments and line ends. A tab counts
    as a blank where it cannot indent anything. The flags tell whether a key may
    start here and whether a comment has started. -/
def skipGap (inFlow : Bool) : (keyAllowed inComment : Bool) → List Spot → Bool × List Spot
  | keyAllowed, _, [] => (keyAllowed, [])
  | keyAllowed, inComment, spot :: rest =>
    if isBreak spot.char then skipGap inFlow (keyAllowed || !inFlow) false rest
    else if inComment then skipGap inFlow keyAllowed true rest
    else if spot.char = ' ' ∨ (spot.char = '\t' ∧ (inFlow ∨ !keyAllowed))
        ∨ (spot.char = byteOrderMark ∧ spot.column = 0) then
      skipGap inFlow keyAllowed false rest
    else if spot.char = '#' then skipGap inFlow keyAllowed true rest
    else (keyAllowed, spot :: rest)

/-! ### One kind of token each -/

/-- A directive. -/
def directive (lexer : Lexer) (rest : List Spot) : Option Lexer := do
  let lexer ← (lexer.closeBlocks fun _ => true).dropPlace
  let (token, rest) ← directive? rest
  return { lexer.push token with rest, keyAllowed := false }

/-- The start or end of a document. -/
def documentMarker (lexer : Lexer) (token : Token) (rest : List Spot) : Option Lexer := do
  let lexer ← (lexer.closeBlocks fun _ => true).dropPlace
  return { lexer.push token with rest, keyAllowed := false }

/-- An opening bracket or brace. -/
def openFlow (lexer : Lexer) (shape : Shape) (spot : Spot) (rest : List Spot) :
    Option Lexer := do
  let lexer ← lexer.notePlace spot
  return { lexer.push (.openFlow shape) with
    rest, place := none, outerPlaces := lexer.place :: lexer.outerPlaces, keyAllowed := true }

/-- A closing bracket or brace. -/
def closeFlow (lexer : Lexer) (shape : Shape) (rest : List Spot) : Option Lexer := do
  let lexer ← lexer.dropPlace
  let (place, outerPlaces) := match lexer.outerPlaces with
    | place :: outer => (place, outer)
    | [] => (lexer.place, [])
  return { lexer.push (.closeFlow shape) with rest, place, outerPlaces, keyAllowed := false }

/-- A comma. -/
def comma (lexer : Lexer) (rest : List Spot) : Option Lexer := do
  let lexer ← lexer.dropPlace
  return { lexer.push .comma with rest, keyAllowed := true }

/-- The hyphen of an item. -/
def dash (lexer : Lexer) (spot : Spot) (rest : List Spot) : Option Lexer := do
  guard (lexer.inFlow || lexer.keyAllowed)
  let lexer ← (lexer.openBlock lexer.tokens.size spot.column .sequence).dropPlace
  return { lexer.push .dash with rest, keyAllowed := true }

/-- The question mark of a key. -/
def key (lexer : Lexer) (spot : Spot) (rest : List Spot) : Option Lexer := do
  guard (lexer.inFlow || lexer.keyAllowed)
  let lexer ← (lexer.openBlock lexer.tokens.size spot.column .mapping).dropPlace
  return { lexer.push .key with rest, keyAllowed := !lexer.inFlow }

/-- The colon of a value. If a key can have started before it, it did. -/
def value (lexer : Lexer) (spot : Spot) (rest : List Spot) : Option Lexer :=
  match lexer.place with
  | some place =>
    let tokens := lexer.tokens.insertIdxIfInBounds place.position .key
    let lexer := { lexer with tokens }.openBlock place.position place.column .mapping
    some { lexer.push .value with rest, place := none, keyAllowed := false }
  | none => do
    guard (lexer.inFlow || lexer.keyAllowed)
    let lexer := lexer.openBlock lexer.tokens.size spot.column .mapping
    return { lexer.push .value with rest, keyAllowed := !lexer.inFlow }

/-- A token that can start a key. -/
def keyStart (lexer : Lexer) (spot : Spot) (token : Token) (rest : List Spot) :
    Option Lexer := do
  let lexer ← lexer.notePlace spot
  return { lexer.push token with rest, keyAllowed := false }

/-- A block scalar. -/
def blockScalar (lexer : Lexer) (literal : Bool) (rest : List Spot) : Option Lexer := do
  let lexer ← lexer.dropPlace
  let (text, rest) ← block? literal lexer.floor rest
  return { lexer.push (.scalar false (String.ofList text)) with rest, keyAllowed := true }

/-- A plain scalar. A key may start after it if it goes to the end of a line. -/
def plainScalar (lexer : Lexer) (spot : Spot) (rest : List Spot) : Option Lexer := do
  let lexer ← lexer.notePlace spot
  let plain ← plain? lexer.around (spot :: rest)
  return { lexer.push (.scalar true (String.ofList plain.text)) with
    rest := plain.rest, keyAllowed := plain.endsLine }

/-- The token that starts at a spot. -/
def tokenAt (lexer : Lexer) (spot : Spot) (rest : List Spot) : Option Lexer :=
  if spot.column = 0 ∧ spot.char = '%' then lexer.directive rest
  else if spot.column = 0 ∧ isMarker '-' (spot :: rest) then
    lexer.documentMarker .documentStart (rest.drop 2)
  else if spot.column = 0 ∧ isMarker '.' (spot :: rest) then
    lexer.documentMarker .documentEnd (rest.drop 2)
  else if spot.char = '-' ∧ endsWord rest then lexer.dash spot rest
  else if spot.char = '?' ∧ (lexer.inFlow ∨ endsWord rest) then lexer.key spot rest
  else if spot.char = ':' ∧ (lexer.inFlow ∨ endsWord rest) then lexer.value spot rest
  else
    match spot.char with
    | '[' => lexer.openFlow .sequence spot rest
    | '\x7b' => lexer.openFlow .mapping spot rest
    | ']' => lexer.closeFlow .sequence rest
    | '\x7d' => lexer.closeFlow .mapping rest
    | ',' => lexer.comma rest
    | '*' => do
      let (name, rest) ← anchorName? rest
      lexer.keyStart spot (.again name) rest
    | '&' => do
      let (name, rest) ← anchorName? rest
      lexer.keyStart spot (.anchor name) rest
    | '!' => do
      let ((handle, suffix), rest) ← tag? rest
      guard (endsTag lexer.inFlow rest)
      lexer.keyStart spot (.tag handle suffix) rest
    | '\'' => do
      let (text, rest) ← singleQuoted? rest
      lexer.keyStart spot (.scalar false (String.ofList text)) rest
    | '"' => do
      let (text, rest) ← doubleQuoted? rest
      lexer.keyStart spot (.scalar false (String.ofList text)) rest
    | c =>
      if c = '|' ∧ !lexer.inFlow then lexer.blockScalar true rest
      else if c = '>' ∧ !lexer.inFlow then lexer.blockScalar false rest
      else if startsPlain lexer.inFlow (spot :: rest) then lexer.plainScalar spot rest
      else none

/-- Reads the rest of the tokens; each takes at least one character, so that
    `fuel` is more than enough if it is more than the number of characters. -/
def finish? : (fuel : Nat) → Lexer → Option (List Token)
  | 0, _ => none
  | fuel + 1, lexer =>
    match skipGap lexer.inFlow lexer.keyAllowed false lexer.rest with
    | (_, []) => do
      let lexer ← (lexer.closeBlocks fun _ => true).dropPlace
      return lexer.tokens.toList
    | (keyAllowed, spot :: rest) => do
      let lexer ← { lexer with keyAllowed }.forget spot
      let lexer ← (lexer.closeBlocks (spot.column < ·)).tokenAt spot rest
      finish? fuel lexer

end Lexer

/-- The tokens of a text. -/
def Token.ofText? (text : String) : Option (List Token) := do
  let spots ← spots? text
  Lexer.finish? (spots.length + 1) (.start spots)

end Yaml

end SamTemplate
