import SamTemplate.Number.Literal
import SamTemplate.Yaml.Scalar.Block
import SamTemplate.Yaml.Token

/-!
# Anchors, tags and directives

The short tokens that are names or abbreviations of names. A tag is a handle,
which a directive may give a meaning, and a suffix; escapes in it stand for
bytes.
-/

namespace SamTemplate

namespace Yaml

/-- The bytes of some characters. -/
def TagText.ofChars (chars : List Char) : TagText := chars.flatMap String.utf8EncodeChar

/-- The characters of some spots. -/
def charsOf (spots : List Spot) : List Char := spots.map (·.char)

/-- Reads a word. -/
def spanWord (spots : List Spot) : List Char × List Spot :=
  let (word, rest) := spots.span fun spot => isWordChar spot.char
  (charsOf word, rest)

/-! ### Anchors -/

/-- Whether the name of an anchor may end here. -/
def endsAnchor : List Spot → Bool
  | [] => true
  | spot :: _ => isSpace spot.char || "?:,]\x7d%@\x60".toList.contains spot.char

/-- Reads the name of an anchor. -/
def anchorName? (spots : List Spot) : Option (String × List Spot) :=
  let (name, rest) := spanWord spots
  if !name.isEmpty && endsAnchor rest then some (String.ofList name, rest) else none

/-! ### Tags -/

/-- Whether a character may stand in a tag. Commas and brackets may do so only
    where they cannot be anything else. -/
def isTagChar (verbatim : Bool) (c : Char) : Bool :=
  isWordChar c || ";/?:@&=+$.!~*'()".toList.contains c
    || (verbatim && (c = ',' || c = '[' || c = ']'))

/-- How many bytes a character has whose first byte is given. -/
def byteCount? (byte : Nat) : Option Nat :=
  if byte < 0x80 then some 1
  else if 0xC0 ≤ byte ∧ byte < 0xE0 then some 2
  else if 0xE0 ≤ byte ∧ byte < 0xF0 then some 3
  else if 0xF0 ≤ byte ∧ byte < 0xF8 then some 4
  else none

/-- How many more bytes are awaited after an escaped byte, if `awaited` were
    before it. -/
def awaitedAfter? (awaited byte : Nat) : Option Nat :=
  if awaited = 0 then (byteCount? byte).map (· - 1)
  else if 0x80 ≤ byte ∧ byte < 0xC0 then some (awaited - 1)
  else none

/-- Reads the characters of a tag. A percent sign and two hexadecimal digits spell
    a byte, and the bytes of one character are all spelled so; of these, `awaited`
    are still to come. -/
def tagBytesFrom (verbatim : Bool) (done : List UInt8) :
    Nat → List Spot → Option (TagText × List Spot)
  | 0, [] => some (done.reverse, [])
  | _ + 1, [] => none
  | awaited, spot :: rest =>
    if spot.char = '%' then
      match rest with
      | high :: low :: rest => do
        let byte ← unsigned? 16 [high.char, low.char]
        let awaited ← awaitedAfter? awaited byte
        tagBytesFrom verbatim (byte.toUInt8 :: done) awaited rest
      | _ => none
    else if awaited ≠ 0 then none
    else if isTagChar verbatim spot.char then
      tagBytesFrom verbatim ((String.utf8EncodeChar spot.char).reverse ++ done) 0 rest
    else some (done.reverse, spot :: rest)

/-- The bytes of a tag that count: a zero byte ends it. -/
def TagText.upToZero (bytes : TagText) : TagText := bytes.takeWhile (· ≠ 0)

/-- Reads the characters of a tag. -/
def tagBytes? (verbatim : Bool) (spots : List Spot) : Option (TagText × List Spot) :=
  (tagBytesFrom verbatim [] 0 spots).map fun (bytes, rest) => (bytes.upToZero, rest)

/-- Reads one or more characters of a tag. -/
def someTagBytes? (verbatim : Bool) (spots : List Spot) : Option (TagText × List Spot) :=
  ((tagBytesFrom verbatim [] 0 spots).filter fun (bytes, _) => !bytes.isEmpty).map
    fun (bytes, rest) => (bytes.upToZero, rest)

/-- The handle that stands for tags of the document's own. -/
def ownHandle : TagText := .ofChars ['!']

/-- The handle that stands for the tags every document knows. -/
def coreHandle : TagText := .ofChars ['!', '!']

/-- Reads a tag after its exclamation mark, as a handle and a suffix. A tag that is
    written out has no handle, and an exclamation mark alone is a tag as well. -/
def tag? (spots : List Spot) : Option ((TagText × TagText) × List Spot) :=
  match spots with
  | ⟨'<', _, _⟩ :: rest => do
    let (bytes, rest) ← someTagBytes? true rest
    match rest with
    | ⟨'>', _, _⟩ :: rest => some (([], bytes), rest)
    | _ => none
  | _ =>
    let (word, rest) := spanWord spots
    match rest with
    | ⟨'!', _, _⟩ :: rest => do
      let (bytes, rest) ← someTagBytes? false rest
      return ((.ofChars ('!' :: word ++ ['!']), bytes), rest)
    | _ => do
      let (bytes, rest) ← tagBytes? false rest
      let suffix := TagText.ofChars word ++ bytes
      return (if suffix.isEmpty then ([], ownHandle) else (ownHandle, suffix), rest)

/-- Whether a tag may end here. -/
def endsTag (inFlow : Bool) (spots : List Spot) : Bool :=
  endsWord spots || (inFlow && spots.head?.any fun spot => spot.char = ',')

/-! ### Directives -/

/-- Skips blanks inside a line. -/
def skipBlanks (spots : List Spot) : List Spot := spots.dropWhile fun spot => isBlank spot.char

/-- Reads a number of a version, of at most nine digits. -/
def versionNumber? (spots : List Spot) : Option (Nat × List Spot) :=
  let (digits, rest) := spots.span fun spot => isDigitOf 10 spot.char
  if digits.length ≤ 9 then (unsigned? 10 (charsOf digits)).map fun n => (n, rest) else none

/-- Reads a version: two numbers with a point between them. -/
def version? (spots : List Spot) : Option (Token × List Spot) := do
  let (major, rest) ← versionNumber? (skipBlanks spots)
  match rest with
  | ⟨'.', _, _⟩ :: rest =>
    let (minor, rest) ← versionNumber? rest
    return (.version major minor, rest)
  | _ => none

/-- Reads a handle that gets a meaning. -/
def handle? (spots : List Spot) : Option (TagText × List Spot) :=
  match spots with
  | ⟨'!', _, _⟩ :: rest =>
    let (word, rest) := spanWord rest
    match rest with
    | ⟨'!', _, _⟩ :: rest => some (.ofChars ('!' :: word ++ ['!']), rest)
    | rest => if word.isEmpty then some (ownHandle, rest) else none
  | _ => none

/-- Reads an abbreviation: a handle and, after blanks, what it stands for. -/
def abbreviation? (spots : List Spot) : Option (Token × List Spot) := do
  let (handle, rest) ← handle? (skipBlanks spots)
  guard (rest.head?.any fun spot => isBlank spot.char)
  let (meaning, rest) ← someTagBytes? true (skipBlanks rest)
  guard (endsWord rest)
  return (.abbreviation handle meaning, rest)

/-- Reads a directive after its percent sign, to the end of its line. -/
def directive? (spots : List Spot) : Option (Token × List Spot) := do
  let (name, rest) := spanWord spots
  guard (endsWord rest)
  let (token, rest) ← match String.ofList name with
    | "YAML" => version? rest
    | "TAG" => abbreviation? rest
    | _ => none
  return (token, ← restOfLine? rest)

end Yaml

end SamTemplate
