import SamTemplate.Json.Basic
import SamTemplate.Number.Literal

/-!
# Reading JSON

A reader of JSON text. An object becomes a map in the order of its keys, and of
a repeated key the last value stays. A number without fraction and exponent
that fits 64 bits is whole, any other one is floating point.
-/

namespace SamTemplate

namespace Json

/-- Drops the blanks at the start of a text. -/
def skipBlanks : List Char → List Char
  | c :: rest =>
    if c = ' ' ∨ c = '\t' ∨ c = '\n' ∨ c = '\r' then skipBlanks rest else c :: rest
  | [] => []

/-- The number written by four digits in base sixteen, and what follows. -/
def fourHexDigits? : List Char → Option (Nat × List Char)
  | a :: b :: c :: d :: rest => (unsigned? 16 [a, b, c, d]).map fun n => (n, rest)
  | _ => none

/-- A character written by its code, in one or two sixteen-bit units. -/
def unicodeEscape? (text : List Char) : Option (Char × List Char) := do
  let (high, rest) ← fourHexDigits? text
  if 0xd800 ≤ high ∧ high < 0xdc00 then
    match rest with
    | '\\' :: 'u' :: rest =>
      let (low, rest) ← fourHexDigits? rest
      if 0xdc00 ≤ low ∧ low < 0xe000 then
        some (Char.ofNat (0x10000 + (high - 0xd800) * 0x400 + (low - 0xdc00)), rest)
      else none
    | _ => none
  else if 0xdc00 ≤ high ∧ high < 0xe000 then none
  else some (Char.ofNat high, rest)

/-- The characters up to the closing quote, and what follows it. -/
def stringBody? : Nat → List Char → List Char → Option (String × List Char)
  | 0, _, _ => none
  | _ + 1, done, '"' :: rest => some (String.ofList done.reverse, rest)
  | fuel + 1, done, '\\' :: rest =>
    match rest with
    | 'b' :: rest => stringBody? fuel ('\x08' :: done) rest
    | 'f' :: rest => stringBody? fuel ('\x0c' :: done) rest
    | 'n' :: rest => stringBody? fuel ('\n' :: done) rest
    | 'r' :: rest => stringBody? fuel ('\r' :: done) rest
    | 't' :: rest => stringBody? fuel ('\t' :: done) rest
    | 'u' :: rest =>
      match unicodeEscape? rest with
      | some (c, rest) => stringBody? fuel (c :: done) rest
      | none => none
    | c :: rest =>
      if c = '"' ∨ c = '\\' ∨ c = '/' then stringBody? fuel (c :: done) rest else none
    | [] => none
  | fuel + 1, done, c :: rest => if c.toNat < 32 then none else stringBody? fuel (c :: done) rest
  | _ + 1, _, [] => none

/-- Appends digits as long as the number fits 64 bits, counting them. -/
def appendDigits : Nat → Nat → List Char → Nat × Nat
  | value, count, c :: rest =>
    match digitValue? c with
    | some digit =>
      if value * 10 + digit < Nat.pow 2 64 then appendDigits (value * 10 + digit) (count + 1) rest
      else (value, count)
    | none => (value, count)
  | value, count, [] => (value, count)

/-- Divides by a power of ten, in two steps if the format does not hold it. As
    the digits stay below `2 ^ 64`, two steps always lead to zero in the end. -/
def shiftDown (x : Binary64) (places : Nat) : Binary64 :=
  if places ≤ 308 then x.div (.ofDecimal false 1 places)
  else (x.div (.ofDecimal false 1 308)).div (.ofDecimal false 1 (min (places - 308) 308 : Nat))

/-- A number with a fraction or an exponent. Its digits, up to the first that no
    longer fits 64 bits, are rounded to a floating point number, and that is
    multiplied or divided by the rounded power of ten. -/
def fractional? (negative : Bool) (whole fraction : List Char) (exponent : Int) :
    Option Binary64 :=
  let (value, used) := appendDigits 0 0 whole
  let (value, places) := appendDigits value 0 fraction
  let exponent := exponent + (whole.length - used : Nat) - places
  let x := Binary64.ofInt value
  let scaled :=
    if value = 0 then x
    else if 0 ≤ exponent then
      if exponent ≤ 308 then x.mul (.ofDecimal false 1 exponent) else .infinity false
    else shiftDown x exponent.natAbs
  if scaled.isFinite then
    some (if negative then ⟨scaled.bits ||| 0x8000000000000000⟩ else scaled)
  else none

/-- Whether a text starts with a minus sign, and what follows it. -/
def minusSign : List Char → Bool × List Char
  | '-' :: rest => (true, rest)
  | rest => (false, rest)

/-- The digits after a point, if a text starts with one, and what follows them. -/
def fractionPart? : List Char → Option (Option (List Char) × List Char)
  | '.' :: rest =>
    let (digits, rest) := spanDigits rest
    if digits.isEmpty then none else some (some digits, rest)
  | rest => some (none, rest)

/-- The exponent, if a text starts with the letter of one, and what follows it. -/
def exponentPart? : List Char → Option (Option Int × List Char)
  | [] => some (none, [])
  | c :: rest =>
    if c = 'e' ∨ c = 'E' then
      let (sign, rest) := match rest with
        | '+' :: rest => (1, rest)
        | '-' :: rest => (-1, rest)
        | rest => ((1 : Int), rest)
      let (digits, rest) := spanDigits rest
      (unsigned? 10 digits).map fun n => (some (sign * n), rest)
    else some (none, c :: rest)

/-- The number of a sign, digits, digits after a point and an exponent. -/
def numberOf? (negative : Bool) (whole : List Char) :
    Option (List Char) → Option Int → Option Json
  | none, none => do
    let n ← unsigned? 10 whole
    if negative ∧ 0 < n ∧ n ≤ Nat.pow 2 63 then return .int (-n)
    else if !negative ∧ n < Nat.pow 2 64 then return .int n
    else return .float (← fractional? negative whole [] 0)
  | fraction, exponent => do
    return .float (← fractional? negative whole (fraction.getD []) (exponent.getD 0))

/-- A number, and what follows it. -/
def number? (text : List Char) : Option (Json × List Char) := do
  let (negative, text) := minusSign text
  let (whole, rest) := spanDigits text
  if whole.isEmpty ∨ (1 < whole.length ∧ whole.head? = some '0') then none
  else
    let (fraction, rest) ← fractionPart? rest
    let (exponent, rest) ← exponentPart? rest
    return (← numberOf? negative whole fraction exponent, rest)

mutual

/-- A value after any blanks, and what follows it. Each step uses up a
    character, so the length of the text is enough fuel. -/
def value? : Nat → List Char → Option (Json × List Char)
  | 0, _ => none
  | fuel + 1, text =>
    match skipBlanks text with
    | 'n' :: 'u' :: 'l' :: 'l' :: rest => some (.null, rest)
    | 't' :: 'r' :: 'u' :: 'e' :: rest => some (.bool true, rest)
    | 'f' :: 'a' :: 'l' :: 's' :: 'e' :: rest => some (.bool false, rest)
    | '"' :: rest => (stringBody? (rest.length + 1) [] rest).map fun (s, rest) => (.str s, rest)
    | '[' :: rest =>
      match skipBlanks rest with
      | ']' :: rest => some (.arr [], rest)
      | rest => (elements? fuel [] rest).map fun (elements, rest) => (.arr elements, rest)
    | '\x7b' :: rest =>
      match skipBlanks rest with
      | '\x7d' :: rest => some (.obj [], rest)
      | rest => (members? fuel .empty rest).map fun (members, rest) => (.obj members.entries, rest)
    | rest => number? rest

/-- The elements of an array up to its closing bracket. -/
def elements? : Nat → List Json → List Char → Option (List Json × List Char)
  | 0, _, _ => none
  | fuel + 1, done, text =>
    match value? fuel text with
    | none => none
    | some (element, rest) =>
      match skipBlanks rest with
      | ',' :: rest => elements? fuel (element :: done) rest
      | ']' :: rest => some ((element :: done).reverse, rest)
      | _ => none

/-- The members of an object up to its closing brace. -/
def members? : Nat → Bindings Json → List Char → Option (Bindings Json × List Char)
  | 0, _, _ => none
  | fuel + 1, done, text =>
    match skipBlanks text with
    | '"' :: rest =>
      match stringBody? (rest.length + 1) [] rest with
      | none => none
      | some (name, rest) =>
        match skipBlanks rest with
        | ':' :: rest =>
          match value? fuel rest with
          | none => none
          | some (value, rest) =>
            match skipBlanks rest with
            | ',' :: rest => members? fuel (done.insert name value) rest
            | '\x7d' :: rest => some (done.insert name value, rest)
            | _ => none
        | _ => none
    | _ => none

end

/-- The value written by a text. -/
def parse? (text : String) : Option Json :=
  let chars := text.toList
  match value? (chars.length + 1) chars with
  | some (value, rest) => if (skipBlanks rest).isEmpty then some value else none
  | none => none

end Json

end SamTemplate
