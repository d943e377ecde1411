import SamTemplate.Number.Literal
import SamTemplate.Toml.Basic

/-!
# TOML numbers

Whole numbers in four bases and decimals with a point or an exponent. Digits may
be separated by single underscores, and a decimal does not start with a zero
that does not count.
-/

namespace SamTemplate

namespace Toml

/-- Reads more digits of a base after one of them, each after at most one
    underscore. The digits are in reverse; fails after an underscore that no digit
    follows. -/
def moreDigits? (base : Nat) (done : List Char) : List Char → Option (List Char × List Char)
  | [] => some (done.reverse, [])
  | '_' :: c :: rest => if isDigitOf base c then moreDigits? base (c :: done) rest else none
  | c :: rest =>
    if isDigitOf base c then moreDigits? base (c :: done) rest
    else if c = '_' then none
    else some (done.reverse, c :: rest)

/-- Reads one or more digits of a base. -/
def digits? (base : Nat) : List Char → Option (List Char × List Char)
  | [] => none
  | c :: rest => if isDigitOf base c then moreDigits? base [c] rest else none

/-- Reads the digits of a whole decimal: a zero alone, or digits that start with
    another one. -/
def wholeDigits? : List Char → Option (List Char × List Char)
  | '0' :: rest => some (['0'], rest)
  | rest => digits? 10 rest

/-- Reads the fraction of a decimal. -/
def fraction? : List Char → Option (List Char × List Char)
  | '.' :: rest => digits? 10 rest
  | rest => some ([], rest)

/-- Reads the exponent of a decimal. -/
def exponent? : List Char → Option (Option Int × List Char)
  | [] => some (none, [])
  | c :: rest =>
    if c = 'e' ∨ c = 'E' then do
      let (sign, rest) := match rest with
        | '-' :: rest => ((-1 : Int), rest)
        | '+' :: rest => (1, rest)
        | rest => (1, rest)
      let (digits, rest) ← digits? 10 rest
      let n ← unsigned? 10 digits
      return (some (sign * n), rest)
    else some (none, c :: rest)

/-- A whole number of 64 bits. -/
def wholeNumber? (i : Int) : Option Toml := (int64OfInt? i).map .int

/-- Reads a decimal after its sign. One that is too large is refused unless it is
    negative, in which case it is infinite. -/
def decimal? (negative : Bool) (text : List Char) : Option (Toml × List Char) := do
  let (whole, rest) ← wholeDigits? text
  let (fraction, rest) ← fraction? rest
  let (exponent, rest) ← exponent? rest
  let n ← unsigned? 10 (whole ++ fraction)
  if fraction.isEmpty ∧ exponent.isNone then
    return (← wholeNumber? (if negative then -(n : Int) else n), rest)
  else
    let value := Binary64.ofDecimal negative n (exponent.getD 0 - fraction.length)
    guard (value ≠ .infinity false)
    return (.float value, rest)

/-- Reads a number after its sign: an infinity, what is not a number, or a decimal. -/
def magnitude? (negative : Bool) : List Char → Option (Toml × List Char)
  | 'i' :: 'n' :: 'f' :: rest => some (.float (.infinity negative), rest)
  | 'n' :: 'a' :: 'n' :: rest => some (.float .nan, rest)
  | rest => decimal? negative rest

/-- Reads a whole number of a base that is not ten. -/
def based? (base : Nat) (text : List Char) : Option (Toml × List Char) := do
  let (digits, rest) ← digits? base text
  let n ← unsigned? base digits
  return (← wholeNumber? n, rest)

/-- Reads a number. -/
def number? : List Char → Option (Toml × List Char)
  | '0' :: 'x' :: rest => based? 16 rest
  | '0' :: 'o' :: rest => based? 8 rest
  | '0' :: 'b' :: rest => based? 2 rest
  | '-' :: rest => magnitude? true rest
  | '+' :: rest => magnitude? false rest
  | rest => magnitude? false rest

end Toml

end SamTemplate
