import Mathlib.Data.BitVec

/-!
# Reflected cyclic redundancy checks

A reflected register consumes its input least significant bit first. One bit
step shifts right and adds the polynomial when a one falls out; a byte is added
to the low end and stepped eight times. The table form keeps the eight steps of
every byte value precomputed and shifts by whole bytes. The register is linear,
so splitting off its low byte shows that both forms agree on every state, every
byte, and hence every message.
-/

namespace ObdSimulator.Crc

variable {w : Nat}

/-- One bit step, with the branch-free mask programs use. -/
def bitStep (poly crc : BitVec w) : BitVec w :=
  (crc >>> 1) ^^^ (poly &&& (0#w - (crc &&& 1#w)))

/-- Several bits of zeros. -/
def bitSteps (poly : BitVec w) : Nat → BitVec w → BitVec w
  | 0, crc => crc
  | n + 1, crc => bitSteps poly n (bitStep poly crc)

/-- A byte into the register, bit by bit. -/
def byteStep (poly crc : BitVec w) (b : UInt8) : BitVec w :=
  bitSteps poly 8 (crc ^^^ b.toBitVec.setWidth w)

/-- The precomputed table of a polynomial. -/
def tableEntry (poly : BitVec w) (index : BitVec 8) : BitVec w :=
  bitSteps poly 8 (index.setWidth w)

/-- A byte into the register, by way of a table. -/
def tableStep (poly crc : BitVec w) (b : UInt8) : BitVec w :=
  (crc >>> 8) ^^^ tableEntry poly ((crc ^^^ b.toBitVec.setWidth w).setWidth 8)

/-- The mask of a bit step selects the polynomial exactly when the lowest bit is
set. -/
theorem bit_step_eq (poly crc : BitVec w) :
    bitStep poly crc = if crc.getLsbD 0 then (crc >>> 1) ^^^ poly else crc >>> 1 := by
  have low : crc &&& 1#w = (BitVec.ofBool (crc.getLsbD 0)).setWidth w :=
    BitVec.and_one_eq_setWidth_ofBool_getLsbD
  cases lowest : crc.getLsbD 0 with
  | false =>
    have zero : crc &&& 1#w = 0#w := by rw [low, lowest]; simp
    simp [bitStep, zero]
  | true =>
    have one : crc &&& 1#w = 1#w := by
      rw [low, lowest]
      apply BitVec.eq_of_getLsbD_eq
      intro i inside
      cases i <;> simp [inside]
    have ones : 0#w - 1#w = BitVec.allOnes w := by simp [BitVec.neg_one_eq_allOnes]
    rw [bitStep, one, ones, BitVec.and_allOnes]
    simp

/-- The register is linear under addition without carry. -/
theorem bit_step_xor (poly x y : BitVec w) :
    bitStep poly (x ^^^ y) = bitStep poly x ^^^ bitStep poly y := by
  have shifted : (x ^^^ y) >>> 1 = (x >>> 1) ^^^ (y >>> 1) := BitVec.ushiftRight_xor_distrib ..
  simp only [bit_step_eq, BitVec.getLsbD_xor, shifted]
  cases x.getLsbD 0 <;> cases y.getLsbD 0
  · simp
  · simp [BitVec.xor_assoc]
  · simp only [Bool.xor_false, if_true, Bool.false_eq_true, if_false]
    rw [BitVec.xor_assoc, BitVec.xor_comm (y >>> 1), BitVec.xor_assoc]
  · simp only [Bool.xor_self, Bool.false_eq_true, if_false, if_true]
    rw [BitVec.xor_assoc, BitVec.xor_comm poly, BitVec.xor_assoc, BitVec.xor_self,
      BitVec.xor_zero]

/-- Shifting is linear. -/
theorem bit_steps_xor (poly : BitVec w) (n : Nat) (x y : BitVec w) :
    bitSteps poly n (x ^^^ y) = bitSteps poly n x ^^^ bitSteps poly n y := by
  induction n generalizing x y with
  | zero => rfl
  | succ n ih => rw [bitSteps, bit_step_xor, ih]; rfl

/-- While only zeros fall out, the steps are a plain shift. -/
theorem bit_steps_shift (poly : BitVec w) (n : Nat) (x : BitVec w)
    (zeros : ∀ i < n, x.getLsbD i = false) : bitSteps poly n x = x >>> n := by
  induction n generalizing x with
  | zero => simp [bitSteps]
  | succ n ih =>
    have lowest : x.getLsbD 0 = false := zeros 0 (by omega)
    have stepped : bitStep poly x = x >>> 1 := by simp [bit_step_eq, lowest]
    have later : ∀ i < n, (x >>> 1).getLsbD i = false := by
      intro i inside
      rw [BitVec.getLsbD_ushiftRight]
      exact zeros (1 + i) (by omega)
    rw [bitSteps, stepped, ih _ later, ← BitVec.shiftRight_add, Nat.add_comm]

/-- The table form performs exactly the eight bit steps of a byte. The low byte
goes through the table; what remains has eight low zeros and only shifts. -/
theorem byte_step_table (poly crc : BitVec w) (b : UInt8) :
    byteStep poly crc b = tableStep poly crc b := by
  generalize mixed : crc ^^^ b.toBitVec.setWidth w = x
  have low_bit (i : Nat) : ((x.setWidth 8).setWidth w).getLsbD i =
      (decide (i < 8) && x.getLsbD i) := by
    by_cases narrow : i < w
    · simp [BitVec.getLsbD_setWidth, narrow]
    · simp [BitVec.getLsbD_of_ge _ i (Nat.le_of_not_lt narrow)]
  have split : x = (x ^^^ (x.setWidth 8).setWidth w) ^^^ (x.setWidth 8).setWidth w := by
    rw [BitVec.xor_assoc, BitVec.xor_self, BitVec.xor_zero]
  have high : bitSteps poly 8 (x ^^^ (x.setWidth 8).setWidth w) = x >>> 8 := by
    rw [bit_steps_shift]
    · apply BitVec.eq_of_getLsbD_eq
      intro i _
      rw [BitVec.getLsbD_ushiftRight, BitVec.getLsbD_xor, low_bit, BitVec.getLsbD_ushiftRight]
      have above : ¬ 8 + i < 8 := by omega
      simp [above]
    · intro i inside
      rw [BitVec.getLsbD_xor, low_bit]
      simp [inside]
  have shifted : x >>> 8 = crc >>> 8 := by
    apply BitVec.eq_of_getLsbD_eq
    intro i _
    rw [← mixed, BitVec.getLsbD_ushiftRight, BitVec.getLsbD_xor, BitVec.getLsbD_ushiftRight]
    simp [BitVec.getLsbD_setWidth]
  calc byteStep poly crc b = bitSteps poly 8 x := by rw [byteStep, mixed]
    _ = bitSteps poly 8 (x ^^^ (x.setWidth 8).setWidth w) ^^^
          bitSteps poly 8 ((x.setWidth 8).setWidth w) := by rw [← bit_steps_xor, ← split]
    _ = (crc >>> 8) ^^^ tableEntry poly (x.setWidth 8) := by rw [high, shifted]; rfl
    _ = tableStep poly crc b := by rw [tableStep, mixed]

/-- The bitwise and the table-driven form agree on every message from every register. -/
theorem fold_table (poly crc : BitVec w) (message : List UInt8) :
    message.foldl (byteStep poly) crc = message.foldl (tableStep poly) crc := by
  have same : byteStep poly = tableStep poly := by
    funext state b
    exact byte_step_table poly state b
  rw [same]

end ObdSimulator.Crc
