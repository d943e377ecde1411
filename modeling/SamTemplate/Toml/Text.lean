import SamTemplate.Number.Literal

/-!
# TOML texts

The four ways to write a text in TOML: between single or double quotes, once or
three times. Between double quotes a backslash starts an escape; between three
quotes a text may have line ends, and a line end at its start does not count.
-/

namespace SamTemplate

namespace Toml

/-- Whether a character is a blank inside a line. -/
def isBlank (c : Char) : Bool := c = ' ' || c = '\t'

/-- Whether a character may stand in a comment or in a text, apart from quotes and
    backslashes. -/
def isTextChar (c : Char) : Bool := c = '\t' || (32 ≤ c.toNat && c.toNat ≠ 127)

/-- Reads a line end. -/
def lineEnd? : List Char → Option (List Char)
  | '\n' :: rest | '\r' :: '\n' :: rest => some rest
  | _ => none

/-- Skips a line end, if there is one. -/
def skipLineEnd (text : List Char) : List Char := (lineEnd? text).getD text

/-- The character that an escape stands for, and how many characters follow its
    letter. -/
def escape? (letter : Char) (rest : List Char) : Option (Char × Nat) :=
  match letter with
  | 'b' => some ('\x08', 0)
  | 't' => some ('\t', 0)
  | 'n' => some ('\n', 0)
  | 'f' => some ('\x0c', 0)
  | 'r' => some ('\r', 0)
  | '"' => some ('"', 0)
  | '\\' => some ('\\', 0)
  | 'u' => coded 4
  | 'U' => coded 8
  | _ => none
where
  /-- The character with the code that so many digits spell. -/
  coded (count : Nat) : Option (Char × Nat) := do
    let digits := rest.take count
    guard (digits.length = count)
    let n ← unsigned? 16 digits
    if h : n.isValidChar then return (Char.ofNatAux n h, count) else none

/-- Reads the rest of a text between double quotes, of which the characters `done`
    were read, in reverse; the next `skip` characters belong to an escape. -/
def basicFrom (done : List Char) : (skip : Nat) → List Char → Option (List Char × List Char)
  | _, [] => none
  | skip + 1, _ :: rest => basicFrom done skip rest
  | 0, c :: rest =>
    if c = '"' then some (done.reverse, rest)
    else if c = '\\' then
      match rest with
      | letter :: rest =>
        match escape? letter rest with
        | some (c, skip) => basicFrom (c :: done) skip rest
        | none => none
      | [] => none
    else if isTextChar c then basicFrom (c :: done) 0 rest
    else none

/-- Reads the rest of a text between single quotes. -/
def literalFrom (done : List Char) : List Char → Option (List Char × List Char)
  | [] => none
  | c :: rest =>
    if c = '\'' then some (done.reverse, rest)
    else if isTextChar c then literalFrom (c :: done) rest
    else none

/-- Reads the end of a text between three quotes, before which up to two more quotes
    belong to the text: their number and what follows the end. -/
def longEnd? (quote : Char) (text : List Char) : Option (Nat × List Char) :=
  let run := (text.takeWhile (· = quote)).length
  if run < 3 then none else some (min (run - 3) 2, text.drop (min run 5))

/-- Whether an escaped line end follows a backslash: blanks and a line end. -/
def joinsLines (text : List Char) : Bool := (lineEnd? (text.dropWhile isBlank)).isSome

/-- Reads the rest of a text between three double quotes. After an escaped line end
    (`joining`) all blanks and line ends are skipped. -/
def longBasicFrom (done : List Char) (joining : Bool) :
    (skip : Nat) → List Char → Option (List Char × List Char)
  | _, [] => none
  | skip + 1, _ :: rest => longBasicFrom done joining skip rest
  | 0, c :: rest =>
    if c = '\n' ∨ (c = '\r' ∧ rest.head? = some '\n') then
      if c = '\r' ∨ joining then longBasicFrom done joining 0 rest
      else longBasicFrom ('\n' :: done) false 0 rest
    else if joining ∧ isBlank c then longBasicFrom done true 0 rest
    else if c = '"' then
      match longEnd? '"' (c :: rest) with
      | some (quotes, rest) => some (done.reverse ++ List.replicate quotes '"', rest)
      | none => longBasicFrom (c :: done) false 0 rest
    else if c = '\\' then
      if joinsLines rest then longBasicFrom done true 0 rest
      else
        match rest with
        | letter :: rest =>
          match escape? letter rest with
          | some (c, skip) => longBasicFrom (c :: done) false skip rest
          | none => none
        | [] => none
    else if isTextChar c then longBasicFrom (c :: done) false 0 rest
    else none

/-- Reads the rest of a text between three single quotes. -/
def longLiteralFrom (done : List Char) : List Char → Option (List Char × List Char)
  | [] => none
  | c :: rest =>
    if c = '\n' then longLiteralFrom ('\n' :: done) rest
    else if c = '\r' ∧ rest.head? = some '\n' then longLiteralFrom done rest
    else if c = '\'' then
      match longEnd? '\'' (c :: rest) with
      | some (quotes, rest) => some (done.reverse ++ List.replicate quotes '\'', rest)
      | none => longLiteralFrom (c :: done) rest
    else if isTextChar c then longLiteralFrom (c :: done) rest
    else none

/-- Reads a text on one line. -/
def shortText? : List Char → Option (List Char × List Char)
  | '"' :: rest => basicFrom [] 0 rest
  | '\'' :: rest => literalFrom [] rest
  | _ => none

/-- Reads a text. -/
def text? : List Char → Option (List Char × List Char)
  | '"' :: '"' :: '"' :: rest => longBasicFrom [] false 0 (skipLineEnd rest)
  | '\'' :: '\'' :: '\'' :: rest => longLiteralFrom [] (skipLineEnd rest)
  | rest => shortText? rest

end Toml

end SamTemplate
