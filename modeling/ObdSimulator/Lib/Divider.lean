import Mathlib.Data.Nat.ModEq

/-!
# Clock dividers

A divider counts the ticks of a clock and fires at every one that completes a
period, where its count starts again. Its count is the number of ticks so far, taken
modulo the period, and how often it has fired is their quotient.
-/

namespace ObdSimulator.Divider

/-- The tick completes the period `d` of a divider that stands at `c`. -/
def fires (d c : Nat) : Bool := !decide (c + 1 < d)

/-- The count after a tick. -/
def next (d c : Nat) : Nat := if fires d c then 0 else c + 1

/-- A divider waits while the next count is below its period. -/
theorem fires_eq_false (d c : Nat) : fires d c = false ↔ c + 1 < d := by simp [fires]

variable (d : Nat) (proper : 0 < d) (n : Nat)

include proper

/-- The count is the number of ticks modulo the period. -/
theorem next_mod : next d (n % d) = (n + 1) % d := by
  have inside := Nat.mod_lt n proper
  rw [← Nat.mod_add_mod, next]
  cases fired : fires d (n % d) with
  | false => exact (Nat.mod_eq_of_lt ((fires_eq_false d _).mp fired)).symm
  | true =>
    have whole : n % d + 1 = d := by
      have not_before : ¬ n % d + 1 < d := by
        rw [← fires_eq_false, fired]
        exact Bool.true_eq_false.mp
      omega
    rw [whole, Nat.mod_self]
    rfl

/-- A divider fires at the multiples of its period. -/
theorem fires_mod : fires d (n % d) = true ↔ d ∣ n + 1 := by
  rw [Nat.dvd_iff_mod_eq_zero, ← next_mod d proper, next]
  cases fires d (n % d) <;> simp

/-- Each time it fires completes a period. -/
theorem fired_succ : (n + 1) / d = n / d + if fires d (n % d) then 1 else 0 := by
  rw [Nat.succ_div, if_congr (fires_mod d proper n) rfl rfl]

end ObdSimulator.Divider
