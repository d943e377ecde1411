import SamTemplate.Number.Binary64

/-!
# Shortest decimals

The fewest decimal digits that read back as a given binary number. Around
`m · 2 ^ q` lies the interval of the reals that round to it, its ends included
when `m` is even. On the grid of the multiples of `10 ^ k` the two neighbours
of the number are tried, from the coarsest grid down: the first grid with a
neighbour in the interval has the fewest digits, and of two neighbours in it
the nearer one is taken. If a point of a grid lies in the interval, so does one
of those two neighbours, so no grid is passed over wrongly. Seventeen digits
always suffice.
-/

namespace SamTemplate

/-- Which of two equally near decimals is taken. -/
inductive Tie
  /-- The larger one. -/
  | up
  /-- The one with an even last digit. -/
  | even
  deriving DecidableEq, Repr

/-- The number `digits · 10 ^ exponent`. -/
structure Decimal where
  /-- The digits, read as one number. -/
  digits : Nat
  /-- The power of ten they are multiplied by. -/
  exponent : Int
  deriving DecidableEq, Repr

namespace Decimal

/-- The neighbour of `m · 2 ^ q` on the grid of the multiples of `10 ^ k` that
    rounds to it, if there is one. Lengths are in quarters of `2 ^ q`, so that
    half a gap is whole also below a power of two, where the gap is halved. -/
def onGrid? (tie : Tie) (m : Nat) (q k : Int) : Option Nat :=
  let unit := Nat.pow 2 (q - 2).toNat * Nat.pow 10 (-k).toNat
  let step := Nat.pow 2 (2 - q).toNat * Nat.pow 10 k.toNat
  let value := 4 * m * unit
  let below := if m = Nat.pow 2 52 ∧ -1074 < q then unit else 2 * unit
  let above := 2 * unit
  let inside (d : Nat) : Bool :=
    if m % 2 = 0 then value ≤ d * step + below ∧ d * step ≤ value + above
    else value < d * step + below ∧ d * step < value + above
  let low := value / step
  let high := low + 1
  if inside low then
    if inside high then
      let middle := (low + high) * step
      if 2 * value < middle then low
      else if middle < 2 * value then high
      else match tie with
        | .up => high
        | .even => if low % 2 = 0 then low else high
    else low
  else if inside high then high
  else none

/-- Tries the grids of `10 ^ k`, `10 ^ (k - 1)`, … in turn. -/
def search (tie : Tie) (m : Nat) (q : Int) : Nat → Int → Decimal
  | 0, k => ⟨0, k⟩
  | grids + 1, k =>
    match onGrid? tie m q k with
    | some digits => ⟨digits, k⟩
    | none => search tie m q grids (k - 1)

/-- The shortest decimal that reads back as `m · 2 ^ q`, for a positive `m`. The
    first grid is coarser than the number, as `log₁₀ 2 < 30103 / 100000`. -/
def shortest (tie : Tie) (m : Nat) (q : Int) : Decimal :=
  search tie m q 24 ((m.log2 + 1 + q) * 30103 / 100000 + 2)

end Decimal

end SamTemplate
