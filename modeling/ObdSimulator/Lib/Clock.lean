import Mathlib.Data.Nat.ModEq

/-!
# Wrapping counters as clocks

A counter of modulus `m` shows the elapsed time modulo `m`. The modular
difference of two samples of one counter is the elapsed time modulo `m`, so it
never exceeds the elapsed time. Samples of two counters that started at
different times differ by the start offset as well.
-/

namespace ObdSimulator.Clock

/-- Wrapping difference of two counter values. -/
def sub (m now since : Nat) : Nat := (now + (m - since % m)) % m

/-- The value a counter started at `start` shows at a later time. -/
def shown (m start time : Nat) : Nat := (time - start) % m

/-- Two samples of one counter measure the elapsed time modulo `m`. -/
theorem sub_samples (m earlier later : Nat) (positive : 0 < m) (ordered : earlier ≤ later) :
    sub m (later % m) (earlier % m) = (later - earlier) % m := by
  have low : earlier % m < m := Nat.mod_lt _ positive
  have whole := Nat.div_add_mod earlier m
  rw [sub, Nat.mod_mod, Nat.mod_add_mod]
  have split : later + (m - earlier % m) = (later - earlier) + m * (earlier / m + 1) := by
    rw [Nat.mul_add, Nat.mul_one]
    omega
  rw [split, Nat.add_mul_mod_self_left]

/-- The measured difference never exceeds the elapsed time. -/
theorem sub_samples_le (m earlier later : Nat) (positive : 0 < m) (ordered : earlier ≤ later) :
    sub m (later % m) (earlier % m) ≤ later - earlier := by
  rw [sub_samples m earlier later positive ordered]
  exact Nat.mod_le _ _

/-- Against the order of the samples the difference is what is missing to the
modulus. -/
theorem sub_samples_back (m earlier later : Nat) (positive : 0 < m) (ordered : earlier ≤ later) :
    sub m (earlier % m) (later % m) =
      if (later - earlier) % m = 0 then 0 else m - (later - earlier) % m := by
  have below : sub m (earlier % m) (later % m) < m := Nat.mod_lt _ positive
  have small : (later - earlier) % m < m := Nat.mod_lt _ positive
  have round : (sub m (earlier % m) (later % m) + (later - earlier) % m) % m = 0 := by
    have low : later % m < m := Nat.mod_lt _ positive
    have first := Nat.div_add_mod earlier m
    have last := Nat.div_add_mod later m
    have steps : m * (earlier / m) ≤ m * (later / m) :=
      Nat.mul_le_mul_left m (Nat.div_le_div_right ordered)
    have split : earlier % m + (m - later % m) + (later - earlier) =
        m * (later / m - earlier / m + 1) := by
      rw [Nat.mul_add, Nat.mul_one, Nat.mul_sub]
      omega
    rw [sub, Nat.mod_mod, ← Nat.add_mod, split]
    exact Nat.mul_mod_right _ _
  obtain ⟨k, total⟩ := Nat.dvd_of_mod_eq_zero round
  have few : k < 2 := by
    by_contra many
    have twice : m * 2 ≤ m * k := Nat.mul_le_mul_left m (Nat.le_of_not_lt many)
    omega
  have turns : k = 0 ∨ k = 1 := by omega
  rcases turns with rfl | rfl
  · rw [Nat.mul_zero] at total
    split <;> omega
  · rw [Nat.mul_one] at total
    split <;> omega

end ObdSimulator.Clock
