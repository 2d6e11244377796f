import Mathlib.Logic.Function.Iterate

/-!
# Triangular ramps

A value climbs by a fixed step to a highest value, where it turns, and falls by
the same step to a lowest one, where it turns again. It is clamped at both, so
the distance need not be a multiple of the step. The arithmetic is that of the
natural numbers.

A ramp that moves is at an extreme for one tick only.
-/

namespace ObdSimulator.Ramp

/-- Where the value stands and whether it falls. -/
@[ext] structure Point where
  value : Nat
  falls : Bool
deriving DecidableEq, Repr

/-- The two extremes and the step between two ticks. -/
structure Shape where
  low : Nat
  high : Nat
  step : Nat
deriving DecidableEq, Repr

/-- The extremes are apart and the value moves. -/
structure Shape.Proper (r : Shape) : Prop where
  apart : r.low < r.high
  moves : 0 < r.step

/-- One tick. -/
def Shape.next (r : Shape) (p : Point) : Point :=
  if p.falls = false then
    if r.high ≤ p.value + r.step then ⟨r.high, true⟩ else ⟨p.value + r.step, false⟩
  else
    if p.value ≤ r.low + r.step then ⟨r.low, false⟩ else ⟨p.value - r.step, true⟩

/-- The value is between the extremes and has turned at the one it reached. -/
structure Shape.Holds (r : Shape) (p : Point) : Prop where
  above : r.low ≤ p.value
  below : p.value ≤ r.high
  rising : p.falls = false → p.value < r.high
  falling : p.falls = true → r.low < p.value

variable (r : Shape) (p : Point)

/-- The start of a ramp that is about to rise. -/
theorem holds_lowest (proper : r.Proper) : r.Holds ⟨r.low, false⟩ where
  above := Nat.le_refl _
  below := Nat.le_of_lt proper.apart
  rising := fun _ => proper.apart
  falling := fun falls => absurd falls Bool.false_ne_true

/-- The start of a ramp that is about to fall. -/
theorem holds_highest (proper : r.Proper) : r.Holds ⟨r.high, true⟩ where
  above := Nat.le_of_lt proper.apart
  below := Nat.le_refl _
  rising := fun rises => absurd rises.symm Bool.false_ne_true
  falling := fun _ => proper.apart

/-- A step stays between the extremes. -/
theorem holds_next (proper : r.Proper) (holds : r.Holds p) : r.Holds (r.next p) := by
  have above := holds.above
  have below := holds.below
  unfold Shape.next
  split
  · split
    · exact holds_highest r proper
    · rename_i short
      exact {
        above := Nat.le_trans above (Nat.le_add_right _ _)
        below := Nat.le_of_not_le short
        rising := fun _ => Nat.lt_of_not_le short
        falling := fun falls => absurd falls Bool.false_ne_true }
  · split
    · exact holds_lowest r proper
    · rename_i far
      have room : r.low < p.value - r.step := by omega
      exact {
        above := Nat.le_of_lt room
        below := Nat.le_trans (Nat.sub_le _ _) below
        rising := fun rises => absurd rises.symm Bool.false_ne_true
        falling := fun _ => room }

/-- A value at the top falls below it. -/
theorem next_of_highest (proper : r.Proper) (holds : r.Holds p) (highest : p.value = r.high) :
    (r.next p).value < r.high := by
  have apart := proper.apart
  have moves := proper.moves
  have falls : p.falls ≠ false := by
    intro rises
    have lower := holds.rising rises
    omega
  unfold Shape.next
  rw [if_neg falls]
  split <;> simp only <;> omega

/-- A value at the bottom rises above it. -/
theorem next_of_lowest (proper : r.Proper) (holds : r.Holds p) (lowest : p.value = r.low) :
    r.low < (r.next p).value := by
  have apart := proper.apart
  have moves := proper.moves
  have rises : p.falls = false := by
    by_contra falls
    have higher := holds.falling (by simpa using falls)
    omega
  unfold Shape.next
  rw [if_pos rises]
  split <;> simp only <;> omega

end ObdSimulator.Ramp
