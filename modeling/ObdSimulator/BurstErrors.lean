import ObdSimulator.BlUds
import ObdSimulator.Lib.Burst

/-!
# Burst errors in an image

The CRC of the bootloader changes under every burst of at most 32 bits, wherever it
falls and however long the image is. CheckMemory compares the flash with the CRC of the
image the tester has, and the boot gate with the CRC in the record, so each of them
refuses an image that was damaged so.
-/

namespace ObdSimulator.BurstErrors

open NorFlash Bytes BlUds

/-- The image the record of the meta page speaks of. -/
def recordedImage (mem : Memory) : List UInt8 := readBytes mem appBase (blMeta mem).size.toNat

/-- The image a transfer has written. -/
def writtenImage (s : Server) : List UInt8 := readBytes s.flash.mem appBase s.xfer.written

/-- `bl_crc32` tells two messages apart that differ by a burst of 32 bits. -/
theorem bl_crc32_burst {x y : List UInt8} (burst : Crc.Burst 32 x y) : blCrc32 x ≠ blCrc32 y := by
  have top : crcPoly.getLsbD (32 - 1) = true := by decide
  have registers := Crc.fold_burst crcPoly 0xFFFFFFFF#32 (by decide) top burst
  intro same
  have inverted := congrArg UInt32.toBitVec same
  exact registers ((BitVec.xor_left_inj _).mp inverted)

/-- The gate compares the image with the CRC of its record. -/
theorem app_crc_ok_image (mem : Memory) (valid : blAppCrcOk mem = true) :
    blCrc32 (recordedImage mem) = (blMeta mem).crc32 := by
  simp only [blAppCrcOk] at valid
  split at valid
  · cases valid
  · split at valid
    · cases valid
    · exact eq_of_beq valid

/-- A damaged image behind the record of the image it was is not reported valid. -/
theorem app_crc_burst (mem mem' : Memory) (record : blMeta mem' = blMeta mem)
    (valid : blAppCrcOk mem = true)
    (burst : Crc.Burst 32 (recordedImage mem) (recordedImage mem')) : blAppCrcOk mem' = false := by
  by_contra passed
  have damaged := app_crc_ok_image mem' (eq_true_of_ne_false passed)
  have whole := app_crc_ok_image mem valid
  rw [record, ← whole] at damaged
  exact bl_crc32_burst burst damaged.symm

/-- An accepted CheckMemory names the CRC of the bytes that were written. -/
theorem checked_crc (s : Server) (request : List UInt8) (version crc : UInt32)
    (accepted : checkRoutineControl s request = .ok (version, crc)) :
    blCrc32 (writtenImage s) = requestCrc request := by
  by_contra other
  simp only [checkRoutineControl] at accepted
  rw [writtenImage] at other
  -- with another CRC the last check leaves no way to accept
  rw [if_pos other] at accepted
  repeat' split at accepted
  all_goals cases accepted

/-- CheckMemory with the CRC of an image refuses a damaged copy of it, and leaves the
server as it was. -/
theorem check_memory_burst (s : Server) (request image : List UInt8)
    (named : requestCrc request = blCrc32 image) (burst : Crc.Burst 32 image (writtenImage s)) :
    ∃ code, handleRoutineControl s request =
      (s, { response := nrc udsSidRoutineControl code }) := by
  cases verdict : checkRoutineControl s request with
  | error code =>
    refine ⟨code, ?_⟩
    rw [handleRoutineControl, verdict]
  | ok fields =>
    have crc := checked_crc s request fields.1 fields.2 verdict
    rw [named] at crc
    exact absurd crc.symm (bl_crc32_burst burst)

/-! ## Both checks -/

/-- Every burst of at most 32 bits changes the CRC; behind the record of an image that
was valid, the damaged image is not; and CheckMemory answers a damaged copy of the
image it is asked about with a negative response. -/
theorem bursts_caught :
    (∀ x y, Crc.Burst 32 x y → blCrc32 x ≠ blCrc32 y) ∧
    (∀ mem mem', blMeta mem' = blMeta mem → blAppCrcOk mem = true →
      Crc.Burst 32 (recordedImage mem) (recordedImage mem') → blAppCrcOk mem' = false) ∧
    ∀ (s : Server) (request image : List UInt8), requestCrc request = blCrc32 image →
      Crc.Burst 32 image (writtenImage s) → ∃ code, handleRoutineControl s request =
        (s, { response := nrc udsSidRoutineControl code }) :=
  ⟨fun _ _ burst => bl_crc32_burst burst, app_crc_burst, check_memory_burst⟩

/-- One byte of an image, its VALID record at the meta page and erased flash around. -/
def oneByteImage (b : UInt8) : Memory := fun a =>
  if a = appBase then b
  else (metaBuffer (validMeta 1 (blCrc32 [0x5A]) 1)).getD (a - metaBase) 0xFF

/-- A closed transfer of one byte. -/
def oneByteTransfer (b : UInt8) : Server :=
  { xfer := ⟨true, true, 1, 1, 2⟩, flash := Device.standard stmFlash (oneByteImage b) [] }

/-- CheckMemory with version 1 and the CRC of the byte 0x5A. -/
def oneByteCheck : List UInt8 := [0x31, 0x01, 0x02, 0x03] ++ be 4 1 ++ be 4 (blCrc32 [0x5A]).toNat

/-- The byte 0x5A with seven of its bits turned over. -/
theorem turned_burst : Crc.Burst 32 [0x5A] [0xA1] := by
  refine ⟨rfl, by decide, 0, ?_⟩
  intro i differ
  refine ⟨Nat.zero_le i, ?_⟩
  by_contra beyond
  have index : i / 8 ≠ 0 := by omega
  obtain ⟨j, place⟩ := Nat.exists_eq_succ_of_ne_zero index
  simp [Crc.messageBit, byte, place] at differ

/-- On an image of one byte, damaged in seven bits. -/
theorem bursts_caught_byte : blCrc32 [0x5A] ≠ blCrc32 [0xA1] ∧
    blAppCrcOk (oneByteImage 0x5A) = true ∧ blAppCrcOk (oneByteImage 0xA1) = false ∧
    ∃ code, handleRoutineControl (oneByteTransfer 0xA1) oneByteCheck =
      (oneByteTransfer 0xA1, { response := nrc udsSidRoutineControl code }) := by
  obtain ⟨crc, gate, check⟩ := bursts_caught
  have valid : blAppCrcOk (oneByteImage 0x5A) = true := by decide +kernel
  have image (b : UInt8) : recordedImage (oneByteImage b) = [b] := by
    have size : (blMeta (oneByteImage b)).size.toNat = 1 := rfl
    rw [recordedImage, size]
    rfl
  refine ⟨crc _ _ turned_burst, valid, ?_, ?_⟩
  · apply gate (oneByteImage 0x5A) (oneByteImage 0xA1) rfl valid
    rw [image, image]
    exact turned_burst
  · exact check (oneByteTransfer 0xA1) oneByteCheck [0x5A] (by decide +kernel) turned_burst

end ObdSimulator.BurstErrors
