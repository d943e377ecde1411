/-!
# Binary floating point numbers

A number in the 64-bit binary format, kept as its bits: two of them are equal
when their bits are. What the bits stand for is an exact rational `± m · 2 ^ q`
(`Binary64.view`), and every operation here is exact integer arithmetic on it.

* `Binary64.ofRatio`: the number nearest to a quotient, ties to an even
  significand, infinite from half a unit above the largest finite number;
* `Binary64.truncate`: toward zero, held within the 64-bit signed integers.
-/

namespace SamTemplate

/-- A 64-bit binary floating point number, by its bits: sign, eleven bits of
    exponent, fifty-two of fraction. -/
structure Binary64 where
  /-- The bits, the sign the highest. -/
  bits : UInt64
  deriving DecidableEq, Repr, Inhabited

namespace Binary64

/-- What a number's bits stand for. -/
inductive View
  /-- Not a number. -/
  | nan
  /-- An infinity. -/
  | infinite (negative : Bool)
  /-- The number `± m · 2 ^ q`. -/
  | finite (negative : Bool) (m : Nat) (q : Int)
  deriving DecidableEq, Repr

/-- Reads the bits: an exponent field of all ones is an infinity or no number,
    one of zero has no implicit leading bit. -/
def view (x : Binary64) : View :=
  let n := x.bits.toNat
  let negative := Nat.pow 2 63 ≤ n
  let exponent : Nat := n / Nat.pow 2 52 % Nat.pow 2 11
  let fraction := n % Nat.pow 2 52
  if exponent = 2047 then
    if fraction = 0 then .infinite negative else .nan
  else if exponent = 0 then .finite negative fraction (-1074)
  else .finite negative (Nat.pow 2 52 + fraction) ((exponent : Int) - 1075)

/-- Neither infinite nor not a number. -/
def isFinite (x : Binary64) : Bool :=
  match x.view with
  | .finite .. => true
  | _ => false

/-- Not a number. -/
def isNaN (x : Binary64) : Bool := x.view = .nan

/-- Zero, with or without a sign. -/
def isZero (x : Binary64) : Bool :=
  match x.view with
  | .finite _ 0 _ => true
  | _ => false

/-- The number with the other bits and this sign. -/
private def signed (negative : Bool) (magnitude : Nat) : Binary64 :=
  ⟨(magnitude + if negative then Nat.pow 2 63 else 0).toUInt64⟩

/-- Zero, of either sign. -/
def zero (negative : Bool) : Binary64 := signed negative 0

/-- Infinity, of either sign. -/
def infinity (negative : Bool) : Binary64 := signed negative (2047 * Nat.pow 2 52)

/-- The positive quiet not-a-number. -/
def nan : Binary64 := ⟨(2047 * Nat.pow 2 52 + Nat.pow 2 51 : Nat).toUInt64⟩

/-- `a · 2 ^ k / b` rounded to the nearest integer, a tie to the even one. -/
def roundShifted (a b : Nat) (k : Int) : Nat :=
  let num := a * Nat.pow 2 k.toNat
  let den := b * Nat.pow 2 (-k).toNat
  let quotient := num / den
  let rest := num % den
  if 2 * rest < den ∨ (2 * rest = den ∧ quotient % 2 = 0) then quotient else quotient + 1

/-- The exponent of the highest bit of `a / b`, for positive `a` and `b`. -/
def leadingExponent (a b : Nat) : Int :=
  let k : Int := (a.log2 : Int) - b.log2
  if a * Nat.pow 2 (-k).toNat < b * Nat.pow 2 k.toNat then k - 1 else k

/-- The number nearest to `± a / b`, a tie to the one with an even significand.
    The exponent field and the fraction are laid side by side, so a significand
    that rounds up to `2 ^ 53` carries into the exponent by itself. -/
def ofRatio (negative : Bool) (a b : Nat) : Binary64 :=
  if a = 0 then zero negative
  else
    let q := max (leadingExponent a b - 52) (-1074)
    let magnitude := (q + 1074).toNat * Nat.pow 2 52 + roundShifted a b (-q)
    if magnitude < 2047 * Nat.pow 2 52 then signed negative magnitude else infinity negative

/-- The number nearest to an integer. -/
def ofInt (i : Int) : Binary64 := ofRatio (i < 0) i.natAbs 1

/-- The number nearest to `± digits · 10 ^ exponent`. As `8 ^ n ≤ 10 ^ n`, the
    size of `digits` alone tells when an exponent leads out of the range, and
    then its power of ten is not built. -/
def ofDecimal (negative : Bool) (digits : Nat) (exponent : Int) : Binary64 :=
  if digits = 0 then zero negative
  else if exponent < 0 ∧ digits.log2 + 1 + 3 * exponent < -1075 then zero negative
  else if 0 ≤ exponent ∧ 1024 < digits.log2 + 3 * exponent then infinity negative
  else ofRatio negative (digits * Nat.pow 10 exponent.toNat) (Nat.pow 10 (-exponent).toNat)

/-- The integer part of a finite number, held within the 64-bit signed
    integers; zero for the others. -/
def truncate (x : Binary64) : Int64 :=
  match x.view with
  | .finite negative m q =>
    let magnitude : Nat := m * Nat.pow 2 q.toNat / Nat.pow 2 (-q).toNat
    if negative then
      if magnitude < Nat.pow 2 63 then Int64.ofInt (-magnitude) else Int64.minValue
    else
      if magnitude < Nat.pow 2 63 then Int64.ofInt magnitude else Int64.maxValue
  | _ => 0

/-- The product of two numbers, rounded to the nearest. -/
def mul (x y : Binary64) : Binary64 :=
  match x.view, y.view with
  | .finite s m q, .finite t n r =>
    ofRatio (s != t) (m * n * Nat.pow 2 (q + r).toNat) (Nat.pow 2 (-(q + r)).toNat)
  | .nan, _ | _, .nan => nan
  | .infinite s, .finite t n _ | .finite t n _, .infinite s =>
    if n = 0 then nan else infinity (s != t)
  | .infinite s, .infinite t => infinity (s != t)

/-- The quotient of two numbers, rounded to the nearest. -/
def div (x y : Binary64) : Binary64 :=
  match x.view, y.view with
  | .finite s m q, .finite t n r =>
    if n = 0 then (if m = 0 then nan else infinity (s != t))
    else ofRatio (s != t) (m * Nat.pow 2 (q - r).toNat) (n * Nat.pow 2 (r - q).toNat)
  | .nan, _ | _, .nan | .infinite _, .infinite _ => nan
  | .infinite s, .finite t _ _ => infinity (s != t)
  | .finite s _ _, .infinite t => zero (s != t)

end Binary64

end SamTemplate
