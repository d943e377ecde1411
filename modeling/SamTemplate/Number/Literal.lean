import SamTemplate.Number.Binary64

/-!
# Number literals

Reading numbers from their text: whole numbers in a base, with an optional
sign, and decimals with an optional point and exponent.
-/

namespace SamTemplate

/-- The value of a digit in bases up to sixteen, of either case. -/
def digitValue? (c : Char) : Option Nat :=
  if '0' ≤ c ∧ c ≤ '9' then some (c.toNat - '0'.toNat)
  else if 'a' ≤ c ∧ c ≤ 'f' then some (c.toNat - 'a'.toNat + 10)
  else if 'A' ≤ c ∧ c ≤ 'F' then some (c.toNat - 'A'.toNat + 10)
  else none

/-- Whether a character is a digit of a base. -/
def isDigitOf (base : Nat) (c : Char) : Bool := (digitValue? c).any (· < base)

/-- Continues a number with digits of a base. -/
def foldDigits? (base : Nat) : Nat → List Char → Option Nat
  | value, [] => some value
  | value, c :: rest =>
    match digitValue? c with
    | some digit => if digit < base then foldDigits? base (value * base + digit) rest else none
    | none => none

/-- A number without a sign: one or more digits of a base. -/
def unsigned? (base : Nat) : List Char → Option Nat
  | [] => none
  | digits => foldDigits? base 0 digits

/-- A number with at most one sign before its digits. -/
def signed? (base : Nat) : List Char → Option Int
  | '-' :: digits => (unsigned? base digits).map fun n => -(n : Int)
  | '+' :: digits => (unsigned? base digits).map fun n => (n : Int)
  | digits => (unsigned? base digits).map fun n => (n : Int)

/-- The least 64-bit signed integer. -/
def int64Min : Int := -(Nat.pow 2 63 : Int)

/-- The greatest 64-bit signed integer. -/
def int64Max : Int := (Nat.pow 2 63 : Int) - 1

/-- An integer as a 64-bit one, if it fits. -/
def int64OfInt? (i : Int) : Option Int64 :=
  if int64Min ≤ i ∧ i ≤ int64Max then some (Int64.ofInt i) else none

/-- A 64-bit signed integer in decimal, with at most one sign. -/
def int64? (text : List Char) : Option Int64 := (signed? 10 text).bind int64OfInt?

/-- The digits at the start of a text, and what follows them. -/
def spanDigits (text : List Char) : List Char × List Char := text.span (isDigitOf 10)

/-- An exponent: the letter `e`, at most one sign and one or more digits. -/
def exponent? : List Char → Option Int
  | [] => some 0
  | c :: rest => if c = 'e' ∨ c = 'E' then signed? 10 rest else none

/-- The digits of a decimal and what follows it: digits, a point, digits, with a
    digit on at least one side. The digits after the point are counted. -/
def significand? (text : List Char) : Option (Nat × Nat × List Char) :=
  let (whole, rest) := spanDigits text
  let (fraction, rest) := match rest with
    | '.' :: rest => spanDigits rest
    | rest => ([], rest)
  (unsigned? 10 (whole ++ fraction)).map fun n => (n, fraction.length, rest)

/-- The number nearest to a decimal with at most one sign and an optional
    exponent; infinite if the decimal is out of range. -/
def decimal? (text : List Char) : Option Binary64 := do
  let (negative, text) := match text with
    | '-' :: rest => (true, rest)
    | '+' :: rest => (false, rest)
    | rest => (false, rest)
  let (digits, places, rest) ← significand? text
  let exponent ← exponent? rest
  return Binary64.ofDecimal negative digits (exponent - places)

end SamTemplate
