import ObdSimulator.Lib.Bytes
import ObdSimulator.Lib.Crc

/-!
# Burst errors

Two messages differ by a burst when the bits in which they differ, in the order the
register consumes them, fall into one window. A register whose polynomial has its top
bit set never forgets a difference: a bit step can be undone. And a window no longer
than the register is stored in it bit by bit before anything is fed back, so that two
different windows leave two different registers.
-/

namespace ObdSimulator.Crc

open Bytes

variable {w : Nat}

/-! ## Messages bit by bit -/

/-- The step for one bit of the message. -/
def bitIn (poly crc : BitVec w) (bit : Bool) : BitVec w :=
  bitStep poly (crc ^^^ (BitVec.ofBool bit).setWidth w)

/-- The bits of a byte, the least significant one first. -/
def byteBits (b : UInt8) : List Bool := (List.range 8).map b.toBitVec.getLsbD

/-- The bits of a message in the order of the line. -/
def bits (message : List UInt8) : List Bool := message.flatMap byteBits

/-- Bit `i` of a message, the least significant bit of each byte first. -/
def messageBit (message : List UInt8) (i : Nat) : Bool :=
  (byte message (i / 8)).toBitVec.getLsbD (i % 8)

/-- Two messages of one length that differ, and only inside a window of `n` bits. -/
structure Burst (n : Nat) (x y : List UInt8) : Prop where
  length : x.length = y.length
  differ : x ≠ y
  window : ∃ start, ∀ i, messageBit x i ≠ messageBit y i → start ≤ i ∧ i < start + n

/-- Bits laid into a register, the first one lowest. -/
def register : List Bool → BitVec w
  | [] => 0#w
  | bit :: rest => (BitVec.ofBool bit).setWidth w ^^^ (register rest <<< 1)

/-- The register of a stream holds its bits in order. -/
theorem register_bit (stream : List Bool) (i : Nat) (inside : i < w) :
    (register stream : BitVec w).getLsbD i = stream.getD i false := by
  induction stream generalizing i with
  | nil => simp [register]
  | cons bit rest ih =>
    rw [register, BitVec.getLsbD_xor, BitVec.getLsbD_shiftLeft]
    cases i with
    | zero => simp [inside]
    | succ i =>
      have later := ih i (by omega)
      simp [inside, later]

/-- A register as long as the stream holds all of it. -/
theorem register_injective (stream stream' : List Bool) (fits : stream.length ≤ w)
    (length : stream.length = stream'.length)
    (same : (register stream : BitVec w) = register stream') : stream = stream' := by
  apply List.ext_getElem length
  intro i left right
  have bit := congrArg (fun crc : BitVec w => crc.getLsbD i) same
  simp only [register_bit _ i (Nat.lt_of_lt_of_le left fits)] at bit
  simpa [List.getD_eq_getElem?_getD, left, right] using bit

/-- Bits consumed one by one are stepped like bits added all at once: what lies above
the lowest position only shifts.

Proof: induction on the bits. The first one falls out in the first step, and the step
takes the rest, whose lowest position is free, one down. -/
theorem fold_bits (poly crc : BitVec w) (stream : List Bool) (fits : stream.length ≤ w) :
    stream.foldl (bitIn poly) crc = bitSteps poly stream.length (crc ^^^ register stream) := by
  induction stream generalizing crc with
  | nil => simp [bitSteps, register]
  | cons bit rest ih =>
    rw [List.length_cons] at fits
    have lowest : ((register rest : BitVec w) <<< 1).getLsbD 0 = false := by simp
    have shifted : ((register rest : BitVec w) <<< 1) >>> 1 = register rest := by
      apply BitVec.eq_of_getLsbD_eq
      intro i inside
      rw [BitVec.getLsbD_ushiftRight, BitVec.getLsbD_shiftLeft]
      by_cases last : 1 + i < w
      · simp [last]
      · have beyond : rest.length ≤ i := by omega
        rw [register_bit rest i inside]
        simp [last, beyond]
    have moved : bitStep poly ((register rest : BitVec w) <<< 1) = register rest := by
      rw [bit_step_eq, lowest]
      exact shifted
    rw [List.foldl_cons, ih _ (by omega), List.length_cons, bitSteps, register,
      ← BitVec.xor_assoc, bit_step_xor, moved, bitIn]

/-- The register of the bits of a byte is the byte. -/
theorem register_byte (b : UInt8) :
    (register (byteBits b) : BitVec w) = b.toBitVec.setWidth w := by
  apply BitVec.eq_of_getLsbD_eq
  intro i inside
  rw [register_bit _ i inside, BitVec.getLsbD_setWidth]
  by_cases low : i < 8
  · simp [byteBits, low, inside]
  · simp [byteBits, low, BitVec.getLsbD_of_ge b.toBitVec i (Nat.le_of_not_lt low)]

/-- A byte goes into the register bit by bit. -/
theorem byte_step_bits (wide : 8 ≤ w) (poly crc : BitVec w) (b : UInt8) :
    byteStep poly crc b = (byteBits b).foldl (bitIn poly) crc := by
  have length : (byteBits b).length = 8 := by simp [byteBits]
  rw [fold_bits poly crc _ (by omega), length, register_byte]
  rfl

/-- The register of a message is that of its bits. -/
theorem fold_message (wide : 8 ≤ w) (poly crc : BitVec w) (message : List UInt8) :
    message.foldl (byteStep poly) crc = (bits message).foldl (bitIn poly) crc := by
  have same : byteStep poly = fun crc b => (byteBits b).foldl (bitIn poly) crc := by
    funext crc b
    exact byte_step_bits wide poly crc b
  rw [bits, List.foldl_flatMap, same]

/-! ## Differences are kept -/

/-- Where the top bit of the polynomial is set, only the zero register steps to zero:
a one that falls out sets the top bit. -/
theorem bit_step_zero (poly x : BitVec w) (top : poly.getLsbD (w - 1) = true)
    (zero : bitStep poly x = 0#w) : x = 0#w := by
  rw [bit_step_eq] at zero
  have falls_out : x.getLsbD 0 = false := by
    by_contra one
    rw [if_pos (eq_true_of_ne_false one)] at zero
    have last := congrArg (fun crc : BitVec w => crc.getLsbD (w - 1)) zero
    have beyond : x.getLsbD (1 + (w - 1)) = false := BitVec.getLsbD_of_ge x _ (by omega)
    simp [top, beyond] at last
  rw [falls_out] at zero
  apply BitVec.eq_of_getLsbD_eq
  intro i inside
  cases i with
  | zero => simpa using falls_out
  | succ i =>
    have shifted := congrArg (fun crc : BitVec w => crc.getLsbD i) zero
    have order : 1 + i = i + 1 := Nat.add_comm 1 i
    simpa [BitVec.getLsbD_ushiftRight, order] using shifted

/-- With the top bit in the polynomial a step loses nothing. -/
theorem bit_step_injective (poly x y : BitVec w) (top : poly.getLsbD (w - 1) = true)
    (same : bitStep poly x = bitStep poly y) : x = y := by
  have zero : bitStep poly (x ^^^ y) = 0#w := by
    rw [bit_step_xor, same, BitVec.xor_self]
  exact BitVec.xor_eq_zero_iff.mp (bit_step_zero poly _ top zero)

/-- With the top bit in the polynomial several steps lose nothing. -/
theorem bit_steps_injective (poly : BitVec w) (top : poly.getLsbD (w - 1) = true) (n : Nat)
    (x y : BitVec w) (same : bitSteps poly n x = bitSteps poly n y) : x = y := by
  induction n generalizing x y with
  | zero => exact same
  | succ n ih => exact bit_step_injective poly x y top (ih _ _ same)

/-- Two registers that consume the same bits stay apart. -/
theorem fold_bits_injective (poly : BitVec w) (top : poly.getLsbD (w - 1) = true)
    (stream : List Bool) (x y : BitVec w)
    (same : stream.foldl (bitIn poly) x = stream.foldl (bitIn poly) y) : x = y := by
  induction stream generalizing x y with
  | nil => exact same
  | cons bit rest ih =>
    have stepped := bit_step_injective poly _ _ top (ih _ _ same)
    exact (BitVec.xor_left_inj _).mp stepped

/-! ## The window -/

/-- The bits of a message by their index. -/
theorem bits_get (message : List UInt8) (i : Nat) :
    (bits message)[i]? = if i < 8 * message.length then some (messageBit message i) else none := by
  induction message generalizing i with
  | nil => simp [bits]
  | cons b rest ih =>
    have length : (byteBits b).length = 8 := by simp [byteBits]
    have split : bits (b :: rest) = byteBits b ++ bits rest := by simp [bits]
    rw [split, List.length_cons]
    by_cases first : i < 8
    · have here : i < 8 * (rest.length + 1) := by omega
      have index : i / 8 = 0 := by omega
      have offset : i % 8 = i := by omega
      rw [List.getElem?_append_left (by omega), if_pos here]
      simp [messageBit, index, offset, byteBits, first, byte]
    · obtain ⟨j, rfl⟩ : ∃ j, i = j + 8 := ⟨i - 8, by omega⟩
      have index : (j + 8) / 8 = j / 8 + 1 := by omega
      have offset : (j + 8) % 8 = j % 8 := by omega
      have range : j + 8 < 8 * (rest.length + 1) ↔ j < 8 * rest.length := by omega
      rw [List.getElem?_append_right (by omega), length, Nat.add_sub_cancel, ih]
      simp [messageBit, index, offset, range, byte]

/-- The bits tell messages of one length apart. -/
theorem bits_injective (x y : List UInt8) (length : x.length = y.length)
    (same : bits x = bits y) : x = y := by
  apply List.ext_getElem length
  intro j left right
  have bit (i : Nat) (inside : i < 8) : x[j].toBitVec.getLsbD i = y[j].toBitVec.getLsbD i := by
    have both := congrArg (fun stream : List Bool => stream[8 * j + i]?) same
    have index : (8 * j + i) / 8 = j := by omega
    have offset : (8 * j + i) % 8 = i := by omega
    rw [bits_get, bits_get, if_pos (by omega), if_pos (by omega)] at both
    simpa [messageBit, index, offset, byte, left, right] using both
  apply UInt8.toBitVec_inj.mp
  exact BitVec.eq_of_getLsbD_eq fun i inside => bit i inside

/-- The bits in front of the window agree, and those behind it; the windows do not. -/
theorem burst_split {n : Nat} {x y : List UInt8} (burst : Burst n x y) :
    ∃ front window window' back, bits x = front ++ window ++ back ∧
      bits y = front ++ window' ++ back ∧ window.length ≤ n ∧
      window.length = window'.length ∧ window ≠ window' := by
  obtain ⟨length, differ, start, only⟩ := burst
  have outside (i : Nat) (free : i < start ∨ start + n ≤ i) : (bits x)[i]? = (bits y)[i]? := by
    have same : messageBit x i = messageBit y i := by
      by_contra unequal
      have inside := only i unequal
      omega
    rw [bits_get, bits_get, length, same]
  have front : (bits x).take start = (bits y).take start := by
    apply List.ext_getElem?
    intro i
    rw [List.getElem?_take, List.getElem?_take]
    split
    · rename_i before
      exact outside i (Or.inl before)
    · rfl
  have back : (bits x).drop (start + n) = (bits y).drop (start + n) := by
    apply List.ext_getElem?
    intro i
    rw [List.getElem?_drop, List.getElem?_drop]
    exact outside _ (Or.inr (by omega))
  have pieces (stream : List Bool) : stream =
      stream.take start ++ (stream.drop start).take n ++ stream.drop (start + n) := by
    rw [List.append_assoc, ← List.drop_drop, List.take_append_drop, List.take_append_drop]
  have total : (bits x).length = (bits y).length := by
    simp [bits, byteBits, length]
  refine ⟨(bits x).take start, ((bits x).drop start).take n, ((bits y).drop start).take n,
    (bits x).drop (start + n), pieces _, ?_, ?_, ?_, ?_⟩
  · rw [front, back]
    exact pieces _
  · exact List.length_take_le _ _
  · simp only [List.length_take, List.length_drop, total]
  · intro windows
    apply differ
    apply bits_injective x y length
    rw [pieces (bits x), pieces (bits y), front, windows, back]

/-- No burst as long as the register leaves it unchanged. -/
theorem fold_burst (poly crc : BitVec w) (wide : 8 ≤ w) (top : poly.getLsbD (w - 1) = true)
    {x y : List UInt8} (burst : Burst w x y) :
    x.foldl (byteStep poly) crc ≠ y.foldl (byteStep poly) crc := by
  obtain ⟨front, window, window', back, left, right, fits, length, differ⟩ := burst_split burst
  intro same
  rw [fold_message wide, fold_message wide, left, right] at same
  simp only [List.foldl_append] at same
  have behind := fold_bits_injective poly top back _ _ same
  rw [fold_bits poly _ window fits, fold_bits poly _ window' (by omega), ← length] at behind
  have stored := (BitVec.xor_right_inj _).mp (bit_steps_injective poly top _ _ _ behind)
  exact differ (register_injective window window' fits length stored)

end ObdSimulator.Crc
