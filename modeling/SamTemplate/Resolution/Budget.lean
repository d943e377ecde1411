/-!
# Depth budgets

How deep a walk through a template may still go. A walk starts at level zero and
stops descending when it reaches the limit, so a template that refers to itself
stops at the same place whatever its size.
-/

namespace SamTemplate

/-- A level of nesting and the level at which a walk stops. -/
structure Budget where
  /-- The levels descended so far. -/
  level : Nat := 0
  /-- The level at which nothing is descended into any more. -/
  limit : Nat := 20
  deriving DecidableEq, Repr, Inhabited

namespace Budget

/-- One level deeper. -/
def deeper (budget : Budget) : Budget := { budget with level := budget.level + 1 }

/-- No level is left. -/
def spent (budget : Budget) : Bool := budget.limit ≤ budget.level

/-- The levels that are left. -/
def remaining (budget : Budget) : Nat := budget.limit - budget.level

@[simp]
theorem remaining_deeper (budget : Budget) : budget.deeper.remaining = budget.remaining - 1 := by
  simp [remaining, deeper]
  omega

theorem spent_iff (budget : Budget) : budget.spent ↔ budget.remaining = 0 := by
  simp [spent, remaining]
  omega

theorem spent_eq_false_iff {budget : Budget} : budget.spent = false ↔ 0 < budget.remaining := by
  rw [← Bool.not_eq_true, spent_iff, Nat.pos_iff_ne_zero]

/-- One level deeper, one level less is left. -/
theorem le_remaining_deeper {budget : Budget} {levels : Nat} (h : levels + 1 ≤ budget.remaining) :
    levels ≤ budget.deeper.remaining := by
  rw [remaining_deeper]
  omega

/-- Where a level is left, the levels below take less fuel. -/
theorem remaining_deeper_lt {budget : Budget} {fuel : Nat} (hs : budget.spent = false)
    (hf : budget.remaining < fuel + 1) : budget.deeper.remaining < fuel := by
  have hpos := spent_eq_false_iff.1 hs
  rw [remaining_deeper]
  omega

end Budget

end SamTemplate
