import SamTemplate.Number.Shortest

/-!
# Number layouts

How a number is written. An integer is its decimal text. A floating point
number is its shortest decimal, laid out by a `FloatLayout`: where the decimal
point may stand before an exponent is used, what ends a whole number, and the
names of what is not finite. The layouts of this project are

* `FloatLayout.plain`, for a number that stands alone in a text;
* `FloatLayout.json`, for a number inside a JSON or YAML document;
* `FloatLayout.yamlKey`, for a number that is the key of a YAML mapping;
* `FloatLayout.toml`, for a number of a TOML document.
-/

namespace SamTemplate

/-- The decimal text of a natural number. -/
def natText (n : Nat) : String := String.ofList (Nat.toDigits 10 n)

/-- The decimal text of an integer. -/
def intText (i : Int) : String :=
  if i < 0 then "-" ++ natText i.natAbs else natText i.natAbs

/-- How floating point numbers are written. -/
structure FloatLayout where
  /-- Which of two equally near shortest decimals is written. -/
  tie : Tie
  /-- The places of the decimal point, counted from the first digit, that are
      written without an exponent; all of them if absent. -/
  positional : Option (Int × Int)
  /-- The sign of an exponent that is not negative. -/
  plus : String
  /-- What follows the digits of a whole number. -/
  whole : String
  /-- The name of infinity. -/
  infinity : String
  /-- The name of what is not a number. -/
  nan : String

namespace FloatLayout

/-- Without an exponent, and whole numbers without a decimal point. -/
def plain : FloatLayout := ⟨.up, none, "", "", "inf", "NaN"⟩

/-- With an exponent below `10 ^ -5` and from `10 ^ 16` on. -/
def json : FloatLayout := ⟨.even, some (-4, 16), "+", ".0", "null", "null"⟩

/-- As in JSON, but without a plus sign, and with the names of the infinite
    numbers in YAML. -/
def yamlKey : FloatLayout := ⟨.even, some (-4, 16), "", ".0", ".inf", ".nan"⟩

/-- Without an exponent, with the names of the infinite numbers in TOML. -/
def toml : FloatLayout := ⟨.up, none, "", ".0", "inf", "nan"⟩

/-- A run of zeros. -/
private def zeros (n : Nat) : String := String.ofList (List.replicate n '0')

/-- Lays out a positive decimal. The decimal point stands `point` places after
    the first digit. -/
def decimalText (layout : FloatLayout) (d : Decimal) : String :=
  let digits := Nat.toDigits 10 d.digits
  let point : Int := digits.length + d.exponent
  let positional := match layout.positional with
    | none => true
    | some (low, high) => low ≤ point ∧ point ≤ high
  if positional then
    if point ≤ 0 then "0." ++ zeros (-point).toNat ++ String.ofList digits
    else if point < digits.length then
      String.ofList (digits.take point.toNat) ++ "." ++ String.ofList (digits.drop point.toNat)
    else String.ofList digits ++ zeros d.exponent.toNat ++ layout.whole
  else
    let fraction := if digits.length = 1 then "" else "." ++ String.ofList (digits.drop 1)
    let sign := if point < 1 then "" else layout.plus
    String.ofList (digits.take 1) ++ fraction ++ "e" ++ sign ++ intText (point - 1)

/-- The text of a floating point number. -/
def text (layout : FloatLayout) (x : Binary64) : String :=
  match x.view with
  | .nan => layout.nan
  | .infinite negative => (if negative then "-" else "") ++ layout.infinity
  | .finite negative m q =>
    (if negative then "-" else "")
      ++ (if m = 0 then "0" ++ layout.whole
          else layout.decimalText (Decimal.shortest layout.tie m q))

end FloatLayout

end SamTemplate
