import SamTemplate.Toml.Number
import SamTemplate.Toml.Table
import SamTemplate.Toml.Text

/-!
# Reading TOML

A document is a list of sections: entries before any header, and then the headers
of tables with the entries below them. `Toml.parse?` reads the table of the whole
document. Arrays and tables inside values are nested less than `nestingLimit`
deep, and keys have fewer parts than that.
-/

namespace SamTemplate

namespace Toml

/-- How deep values cannot be nested any more. -/
def nestingLimit : Nat := 80

/-- Skips blanks inside a line. -/
def skipBlanks (text : List Char) : List Char := text.dropWhile isBlank

/-- Skips blanks, line ends and comments. -/
def skipLines : (inComment : Bool) → List Char → List Char
  | _, [] => []
  | _, '\r' :: '\n' :: rest => skipLines false rest
  | inComment, c :: rest =>
    if c = '\n' then skipLines false rest
    else if inComment && isTextChar c then skipLines true rest
    else if isBlank c then skipLines false rest
    else if c = '#' then skipLines true rest
    else c :: rest

/-- Reads the rest of a line, which holds nothing but a comment. -/
def restOfLine? (text : List Char) : Option (List Char) :=
  let rest := match skipBlanks text with
    | '#' :: rest => rest.dropWhile isTextChar
    | rest => rest
  if rest.isEmpty then some [] else lineEnd? rest

/-! ### Keys -/

/-- Reads a part of a key: a text on one line or a word. -/
def keyPart? (text : List Char) : Option (String × List Char) :=
  match shortText? text with
  | some (key, rest) => some (String.ofList key, rest)
  | none =>
    let (word, rest) := text.span fun c => c.isAlphanum || c = '-' || c = '_'
    if word.isEmpty then none else some (String.ofList word, rest)

/-- Reads a key: parts with dots between them, with blanks around them. The fuel
    counts the parts. -/
def keyFrom? : (fuel : Nat) → List Char → Option (List String × List Char)
  | 0, _ => none
  | fuel + 1, text => do
    let (part, rest) ← keyPart? (skipBlanks text)
    match skipBlanks rest with
    | '.' :: rest =>
      let (parts, rest) ← keyFrom? fuel rest
      return (part :: parts, rest)
    | rest => return ([part], rest)

/-- Reads a key. -/
def key? (text : List Char) : Option (List String × List Char) :=
  keyFrom? (nestingLimit - 1) text

/-! ### Values -/

/-- Whether a value with this first character is a number or a moment. -/
def startsNumber (c : Char) : Bool := c = '+' || c = '-' || isDigitOf 10 c || c = 'i' || c = 'n'

mutual

/-- Reads a value. The fuel bounds the number of calls inside each other, and `depth`
    the arrays and tables. -/
def value? : (fuel depth : Nat) → List Char → Option (Toml × List Char)
  | 0, _, _ => none
  | fuel + 1, depth, text =>
    match text with
    | 't' :: 'r' :: 'u' :: 'e' :: rest => some (.bool true, rest)
    | 'f' :: 'a' :: 'l' :: 's' :: 'e' :: rest => some (.bool false, rest)
    | '[' :: rest =>
      match depth with
      | depth + 1 =>
        (elements? fuel depth [] rest).map fun (elements, rest) => (.arr elements, rest)
      | 0 => none
    | '\x7b' :: rest =>
      match depth with
      | depth + 1 =>
        match skipBlanks rest with
        | '\x7d' :: rest => some (.table [], rest)
        | rest =>
          (inlineEntries? fuel depth [] rest).map fun (entries, rest) =>
            (.table (Item.entryValues entries), rest)
      | 0 => none
    | c :: rest =>
      if startsNumber c then
        match moment? (c :: rest) with
        | some (when, rest) => some (.moment when, rest)
        | none => number? (c :: rest)
      else (text? (c :: rest)).map fun (chars, rest) => (.str (String.ofList chars), rest)
    | [] => none

/-- Reads the elements of an array, of which some were read, and its end. -/
def elements? : (fuel depth : Nat) → (done : List Toml) → List Char →
    Option (List Toml × List Char)
  | 0, _, _, _ => none
  | fuel + 1, depth, done, text =>
    match skipLines false text with
    | ']' :: rest => some (done.reverse, rest)
    | text => do
      let (element, rest) ← value? fuel depth text
      match skipLines false rest with
      | ',' :: rest => elements? fuel depth (element :: done) rest
      | ']' :: rest => some ((element :: done).reverse, rest)
      | _ => none

/-- Reads one or more entries of a table inside a value, after some others, and its
    end. -/
def inlineEntries? : (fuel depth : Nat) → (done : List (String × Item)) → List Char →
    Option (List (String × Item) × List Char)
  | 0, _, _, _ => none
  | fuel + 1, depth, done, text => do
    let (key, rest) ← key? text
    match rest with
    | '=' :: rest =>
      let (value, rest) ← value? fuel depth (skipBlanks rest)
      let entries ← Item.write value true key done
      match skipBlanks rest with
      | ',' :: rest => inlineEntries? fuel depth entries rest
      | '\x7d' :: rest => some (entries, rest)
      | _ => none
    | _ => none

end

/-! ### Documents -/

/-- What a line of a document says. -/
inductive Line where
  /-- A value under a key. -/
  | entry (key : List String) (value : Toml)
  /-- The header of a table. -/
  | table (key : List String)
  /-- The header of one more table of a list. -/
  | element (key : List String)

/-- Reads a header or an entry. -/
def line? (text : List Char) : Option (Line × List Char) :=
  match text with
  | '[' :: '[' :: rest => do
    let (key, rest) ← key? rest
    match rest with
    | ']' :: ']' :: rest => some (.element key, rest)
    | _ => none
  | '[' :: rest => do
    let (key, rest) ← key? rest
    match rest with
    | ']' :: rest => some (.table key, rest)
    | _ => none
  | text => do
    let (key, rest) ← key? text
    match rest with
    | '=' :: rest =>
      let (value, rest) ← value? (2 * rest.length + 2) (nestingLimit - 1) (skipBlanks rest)
      return (.entry key value, rest)
    | _ => none

/-- Reads the lines of a document. Each takes at least one character. -/
def lines? : (fuel : Nat) → List Char → Option (List Line)
  | 0, _ => none
  | fuel + 1, text =>
    match skipLines false text with
    | [] => some []
    | text => do
      let (line, rest) ← line? text
      return line :: (← lines? fuel (← restOfLine? rest))

/-- A header and the entries below it. -/
structure Section where
  /-- What the header says; there is none above the first section. -/
  header : Option Line
  /-- The entries. -/
  entries : List (List String × Toml)

/-- The sections of a document. -/
def sections : List Line → List Section
  | [] => [⟨none, []⟩]
  | .entry key value :: rest =>
    match sections rest with
    | first :: others => { first with entries := (key, value) :: first.entries } :: others
    | [] => []
  | header :: rest =>
    match sections rest with
    | first :: others => ⟨none, []⟩ :: { first with header := some header } :: others
    | [] => []

/-- Adds a section to the table of a document. -/
def Section.addTo? (part : Section) (root : Entries Item) : Option (Entries Item) :=
  match part.header with
  | some (.table key) => Item.place (Item.defineTable part.entries) key root
  | some (.element key) => Item.place (Item.appendTable part.entries) key root
  | _ => Item.writeAll root part.entries

/-- The entries of a document. A mark at its start does not count. -/
def parse? (text : String) : Option (List (String × Toml)) := do
  let chars := text.toList
  let chars := if chars.head? = some '\uFEFF' then chars.tail else chars
  let lines ← lines? (chars.length + 1) chars
  let root ← (sections lines).foldlM (fun root part => part.addTo? root) []
  return Item.entryValues root

end Toml

end SamTemplate
