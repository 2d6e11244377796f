import Mathlib.Data.List.Basic
import Mathlib.Tactic.Ring

/-!
# Byte strings and fixed-width words

Words are natural numbers below a power of 256. Encodings are little or big
endian byte strings of a chosen width; decoding an encoding returns the word.
Reading past the end of a buffer gives a zero byte, which a caller that keeps
its indices inside the buffer never observes.
-/

namespace ObdSimulator.Bytes

/-- Indexed read of a buffer. -/
def byte (buf : List UInt8) (i : Nat) : UInt8 := buf.getD i 0

/-- Value of a little-endian byte string. -/
def ofLe : List UInt8 → Nat
  | [] => 0
  | b :: rest => b.toNat + 256 * ofLe rest

/-- Little-endian encoding in a fixed number of bytes. -/
def le : Nat → Nat → List UInt8
  | 0, _ => []
  | width + 1, n => UInt8.ofNat n :: le width (n / 256)

/-- Value of a big-endian byte string, accumulated left to right by a shift and
an inserted low byte. -/
def ofBe (bytes : List UInt8) : Nat := bytes.foldl (fun acc b => acc * 256 + b.toNat) 0

/-- Big-endian encoding in a fixed number of bytes. -/
def be (width n : Nat) : List UInt8 := (le width n).reverse

/-- Copy `src` over `buf` from `off` on. A copy past the end lengthens the list,
so an overflow of a fixed buffer is visible in its length. -/
def memcpy (buf : List UInt8) (off : Nat) (src : List UInt8) : List UInt8 :=
  buf.take off ++ src ++ buf.drop (off + src.length)

/-- A byte of the front is one of the whole. -/
theorem byte_take (bytes : List UInt8) (n i : Nat) (inside : i < n) :
    byte (bytes.take n) i = byte bytes i := by
  simp [byte, List.getD_eq_getElem?_getD, inside]

/-- A little-endian field has its width. -/
@[simp] theorem le_length (width n : Nat) : (le width n).length = width := by
  induction width generalizing n with
  | zero => rfl
  | succ width ih => simp [le, ih]

/-- A big-endian field has its width. -/
@[simp] theorem be_length (width n : Nat) : (be width n).length = width := by
  simp [be]

/-- Decoding a fixed-width encoding gives the word modulo the width. -/
theorem of_le_le (width n : Nat) : ofLe (le width n) = n % 256 ^ width := by
  induction width generalizing n with
  | zero => simp [ofLe, le, Nat.mod_one]
  | succ width ih =>
    have low : (UInt8.ofNat n).toNat = n % 256 := by simp
    rw [le, ofLe, ih, low, pow_succ', Nat.mod_mul]

/-- The last byte of a big-endian field is its lowest. -/
theorem of_be_append (front : List UInt8) (last : UInt8) :
    ofBe (front ++ [last]) = ofBe front * 256 + last.toNat := by
  simp [ofBe]

/-- Big-endian decoding reads the reversed bytes as little-endian. -/
theorem of_be_reverse (bytes : List UInt8) : ofBe bytes.reverse = ofLe bytes := by
  induction bytes with
  | nil => rfl
  | cons b rest ih =>
    rw [List.reverse_cons, of_be_append, ih, ofLe]
    ring

/-- A number that fits its field is read back. -/
theorem of_be_be (width n : Nat) : ofBe (be width n) = n % 256 ^ width := by
  rw [be, of_be_reverse, of_le_le]

/-- A copy inside the buffer keeps its length. -/
theorem memcpy_length (buf : List UInt8) (off : Nat) (src : List UInt8)
    (inside : off + src.length ≤ buf.length) : (memcpy buf off src).length = buf.length := by
  simp only [memcpy, List.length_append, List.length_take, List.length_drop]
  omega

/-- After a copy the buffer holds the old bytes up to the offset, then the
copied ones. -/
theorem memcpy_take (buf : List UInt8) (off : Nat) (src : List UInt8)
    (inside : off ≤ buf.length) :
    (memcpy buf off src).take (off + src.length) = buf.take off ++ src := by
  have front : (buf.take off ++ src).length = off + src.length := by
    simp only [List.length_append, List.length_take]
    omega
  rw [memcpy, ← front, List.take_left]

/-- Masking goes through a disjunction of bits. -/
theorem or_and_distrib (a b mask : UInt8) : (a ||| b) &&& mask = (a &&& mask) ||| (b &&& mask) :=
  UInt8.toBitVec_inj.mp BitVec.and_or_distrib_right

/-- A type in the high nibble survives a value in the low one. -/
theorem high_nibble (kind value : UInt8) (high : kind &&& 0xF0 = kind) :
    (kind ||| (value &&& 0x0F)) &&& 0xF0 = kind := by
  have disjoint : (0x0F : UInt8) &&& 0xF0 = 0 := by decide
  rw [or_and_distrib, UInt8.and_assoc, disjoint, high, UInt8.and_zero, UInt8.or_zero]

/-- The value in the low nibble is read back. -/
theorem low_nibble (kind value : UInt8) (high : kind &&& 0xF0 = kind) :
    (kind ||| (value &&& 0x0F)) &&& 0x0F = value &&& 0x0F := by
  have disjoint : (0xF0 : UInt8) &&& 0x0F = 0 := by decide
  rw [or_and_distrib, UInt8.and_assoc, UInt8.and_self, ← high, UInt8.and_assoc,
    disjoint, UInt8.and_zero, UInt8.zero_or]

end ObdSimulator.Bytes
