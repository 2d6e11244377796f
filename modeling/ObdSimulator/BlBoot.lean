import ObdSimulator.Lib.Crc
import ObdSimulator.OtaFlash

/-!
# Boot gate and meta page

`bl_boot.c`: the CRC over the application slot, the meta page at `META_BASE` and
the decision of the boot gate. The meta record is five little-endian words,
padded to three doublewords. Rewriting it is one page erase and three programs,
so four intermediate page images exist; each is described by how many
doublewords it holds.
-/

namespace ObdSimulator

open NorFlash Bytes

/-- `bl_meta_t`. -/
structure BlMeta where
  magic : UInt32
  state : UInt32
  version : UInt32
  size : UInt32
  crc32 : UInt32
deriving DecidableEq, Repr

/-- `BL_META_MAGIC`. -/
def blMetaMagic : UInt32 := 0x4D424C4D

/-- `BL_META_STATE_UPDATING`. -/
def blMetaStateUpdating : UInt32 := 0x55555555

/-- `BL_META_STATE_VALID`. -/
def blMetaStateValid : UInt32 := 0xAAAAAAAA

/-- Reflected CRC-32 with all-ones register and final inversion. -/
def crcPoly : BitVec 32 := 0xEDB88320#32

/-- `bl_crc32`: the reflected polynomial of Ethernet, inverted before and behind. -/
def blCrc32 (data : List UInt8) : UInt32 :=
  UInt32.ofBitVec (data.foldl (Crc.byteStep crcPoly) 0xFFFFFFFF#32 ^^^ 0xFFFFFFFF#32)

/-- The CRC-32 as the table-driven zlib routine computes it. -/
def zlibCrc32 (data : List UInt8) : UInt32 :=
  UInt32.ofBitVec (data.foldl (Crc.tableStep crcPoly) 0xFFFFFFFF#32 ^^^ 0xFFFFFFFF#32)

/-- The bootloader computes the zlib CRC of every byte string. -/
theorem bl_crc32_zlib (data : List UInt8) : blCrc32 data = zlibCrc32 data := by
  rw [blCrc32, zlibCrc32, Crc.fold_table]

/-! ## Reading the meta page -/

/-- A `uint32_t` in memory. -/
def word32 (mem : Memory) (addr : Nat) : UInt32 := UInt32.ofNat (ofLe (readBytes mem addr 4))

/-- The record as it stands in the memory. -/
def blMeta (mem : Memory) : BlMeta where
  magic := word32 mem metaBase
  state := word32 mem (metaBase + 4)
  version := word32 mem (metaBase + 8)
  size := word32 mem (metaBase + 12)
  crc32 := word32 mem (metaBase + 16)

/-- All five words of the record are erased. -/
def blMetaAbsent (mem : Memory) : Bool :=
  (List.range 5).all (fun i => word32 mem (metaBase + 4 * i) == 0xFFFFFFFF)

/-- The CRC over the size the record names; a size beyond the slot fails. -/
def blAppCrcOk (mem : Memory) : Bool :=
  let m := blMeta mem
  if m.magic ≠ blMetaMagic ∨ m.state ≠ blMetaStateValid then false
  else if m.size.toNat = 0 ∨ appSlotSize < m.size.toNat then false
  else blCrc32 (readBytes mem appBase m.size.toNat) == m.crc32

/-- `bl_meta_rollback_counter`. -/
def blMetaRollbackCounter (mem : Memory) : UInt32 :=
  let m := blMeta mem
  if m.magic = blMetaMagic ∧ (m.state = blMetaStateValid ∨ m.state = blMetaStateUpdating) then
    m.version
  else 0

/-- Initial stack pointer inside RAM, thumb reset vector inside the slot. -/
def blAppVectorsOk (mem : Memory) : Bool :=
  let sp := (word32 mem appBase).toNat
  let rst := (word32 mem (appBase + 4)).toNat
  (decide (0x20000000 ≤ sp) && decide (sp ≤ 0x20008000)) &&
    (decide (appBase ≤ rst) && decide (rst < appBase + appSlotSize)) && rst % 2 == 1

/-! ## Writing the meta page -/

/-- The record as stored, with its padding. -/
def metaBuffer (m : BlMeta) : List UInt8 :=
  le 4 m.magic.toNat ++ le 4 m.state.toNat ++ le 4 m.version.toNat ++ le 4 m.size.toNat ++
    le 4 m.crc32.toNat ++ List.replicate 4 0xFF

/-- `bl_meta_write`: an erase and one write. -/
def blMetaWrite (d : Device) (m : BlMeta) : Device × Bool :=
  match otaFlashErase d metaBase 2048 with
  | (d, false) => (d, false)
  | (d, true) => otaFlashWrite d metaBase (metaBuffer m)

/-! ## The boot gate -/

/-- What the gate decides. -/
inductive BootDecision where
  | stayProgramming
  | stay
  | jump
deriving DecidableEq, Repr

/-- The gate of `main`, by whether the hand-off flag was found set. -/
def bootGate (flag : Bool) (mem : Memory) : BootDecision :=
  if flag then .stayProgramming
  else if blMetaAbsent mem then
    if blAppVectorsOk mem then .jump else .stay
  else if blAppCrcOk mem then .jump
  else .stay

/-! ## The page images of a rewrite -/

/-- The page of `META_BASE`. -/
def metaPage : Nat := 60

/-- The primitives of a meta rewrite, in order. -/
def metaOps (m : BlMeta) : List Op :=
  eraseOps metaPage 1 ++ programOps metaBase (metaBuffer m) 3

/-- Memory once the page was erased and `j` doublewords of the record stored. -/
def metaImage (mem : Memory) (m : BlMeta) (j : Nat) : Memory :=
  programWord (erasePage stmFlash mem metaPage) metaBase ((metaBuffer m).take (8 * j))

/-- The record takes three doublewords. -/
@[simp] theorem meta_buffer_length (m : BlMeta) : (metaBuffer m).length = 24 := by
  simp [metaBuffer]

/-- Rewriting the record takes four primitives, an erase and three programs. -/
@[simp] theorem meta_ops_length (m : BlMeta) : (metaOps m).length = 4 := by
  simp [metaOps, eraseOps, programOps]

/-- The first of them erases its page. -/
theorem meta_page_erased (mem : Memory) :
    Erased (erasePage stmFlash mem metaPage) metaBase (metaBase + 2048) :=
  erase_erased stmFlash mem metaPage

/-- The erase of a meta rewrite is inside the range of the driver. -/
theorem meta_erase_loop (d : Device) :
    otaFlashErase d metaBase 2048 = otaFlashEraseLoop d metaPage 1 := by
  rw [otaFlashErase, if_pos (by decide)]
  rfl

/-- The write of the record passes the range check. -/
theorem meta_write_loop (d : Device) (m : BlMeta) :
    otaFlashWrite d metaBase (metaBuffer m) =
      otaFlashWriteLoop d metaBase (metaBuffer m) 3 := by
  have three : doublewords 24 = 3 := rfl
  rw [otaFlashWrite, meta_buffer_length, if_pos (by decide), three]

/-- On any device a meta rewrite gives a front part of its four primitives. -/
theorem meta_write_follows (d : Device) (m : BlMeta) :
    d.Follows stmFlash (metaOps m) (blMetaWrite d m).1 (blMetaWrite d m).2 := by
  have first := (erase_loop_attempts d metaPage 1).follows
  rw [blMetaWrite, meta_erase_loop]
  generalize otaFlashEraseLoop d metaPage 1 = outcome at first
  obtain ⟨after, done⟩ := outcome
  cases done with
  | false => exact first.stopped _
  | true =>
    obtain ⟨events, ran, front, whole, _⟩ := write_loop_ran after metaBase (metaBuffer m) 3
    simp only [meta_write_loop]
    exact first.trans ⟨events, ran, front, whole⟩

/-- A rewrite that fails has logged the primitive that did. -/
theorem meta_write_reports (d : Device) (m : BlMeta) :
    d.Reports (blMetaWrite d m).1 (blMetaWrite d m).2 := by
  have first := erase_loop_reports d metaPage 1
  rw [blMetaWrite, meta_erase_loop]
  generalize otaFlashEraseLoop d metaPage 1 = outcome at first
  obtain ⟨after, done⟩ := outcome
  cases done with
  | false => exact first
  | true =>
    simp only [meta_write_loop]
    exact first.trans (write_loop_reports after metaBase (metaBuffer m) 3)

/-- A meta rewrite attempts its four primitives, whatever the page held. -/
theorem meta_write_attempts (d : Device) (m : BlMeta) (standard : d.accepts = writable stmFlash) :
    d.Attempts stmFlash (metaOps m) (blMetaWrite d m).1 (blMetaWrite d m).2 := by
  have first := erase_loop_attempts d metaPage 1
  rw [blMetaWrite, meta_erase_loop]
  generalize otaFlashEraseLoop d metaPage 1 = outcome at first
  obtain ⟨after, done⟩ := outcome
  cases done with
  | false => exact first.stopped _
  | true =>
    have events := first.mem
    have full : completed 1 d.faults = 1 := of_decide_eq_true first.ok.symm
    have count : (eraseOps metaPage 1).length = 1 := rfl
    have erased : after.mem = erasePage stmFlash d.mem metaPage := by
      rw [events, count, full]
      rfl
    have fresh : Erased after.mem metaBase (metaBase + 8 * 3) := by
      intro a low high
      rw [erased]
      exact meta_page_erased d.mem a low
        (Nat.lt_of_lt_of_le high (Nat.add_le_add_left (by decide) metaBase))
    have second := write_loop_attempts after metaBase (metaBuffer m) 3
      (first.ran.accepts.trans standard) (by decide) (by decide) fresh
    simp only [meta_write_loop]
    exact first.trans second

/-- The first doublewords of a write are the write of the first bytes. -/
theorem program_ops_take (addr : Nat) (data : List UInt8) (words j : Nat) (fewer : j ≤ words) :
    (programOps addr data words).take j = programOps addr (data.take (8 * j)) j := by
  induction words generalizing addr data j with
  | zero =>
    have zero : j = 0 := by omega
    subst zero
    rfl
  | succ words ih =>
    cases j with
    | zero => rfl
    | succ j =>
      have count : min 8 (8 * (j + 1)) = 8 := by omega
      have rest : 8 * (j + 1) - 8 = 8 * j := by omega
      rw [programOps, programOps, List.take_succ_cons, ih _ _ _ (by omega), List.take_take, count,
        List.drop_take, rest]

/-- Completing the erase and `j` programs leaves the image with `j` doublewords. -/
theorem replay_meta_ops (mem : Memory) (m : BlMeta) (j : Nat) (fewer : j ≤ 3) :
    replay stmFlash mem (doneEvents ((metaOps m).take (j + 1))) = metaImage mem m j := by
  have split : (metaOps m).take (j + 1) =
      .erase metaPage :: programOps metaBase ((metaBuffer m).take (8 * j)) j := by
    rw [← program_ops_take _ _ _ _ fewer]
    rfl
  have base : metaBase = 0x0801E000 := rfl
  have length : ((metaBuffer m).take (8 * j)).length = 8 * j := by
    rw [List.length_take, meta_buffer_length]
    omega
  have whole : padded ((metaBuffer m).take (8 * j)) j = (metaBuffer m).take (8 * j) := by
    simp [padded, length]
  have stored := replay_program_ops (erasePage stmFlash mem metaPage) metaBase
    ((metaBuffer m).take (8 * j)) j (by omega) (by omega)
  rw [whole] at stored
  rw [split, doneEvents, List.map_cons, replay_cons, ← doneEvents, metaImage]
  exact stored

/-- A word of the page behind the stored doublewords reads as erased. -/
theorem meta_image_erased (mem : Memory) (m : BlMeta) (j off : Nat)
    (behind : 8 * j ≤ off) (inside : off + 4 ≤ 2048) :
    word32 (metaImage mem m j) (metaBase + off) = 0xFFFFFFFF := by
  have missed := read_bytes_program_elsewhere (erasePage stmFlash mem metaPage) metaBase
    ((metaBuffer m).take (8 * j)) (metaBase + off) 4 (by
      rw [List.length_take]
      omega)
  have blank := read_bytes_erased (erasePage stmFlash mem metaPage) (metaBase + off) 4
    (fun a low high => meta_page_erased mem a (by omega) (by omega))
  rw [word32, metaImage, missed, blank]
  rfl

/-- A word inside the stored doublewords reads as recorded. -/
theorem meta_image_stored (mem : Memory) (m : BlMeta) (j off : Nat)
    (inside : off + 4 ≤ 8 * j) (short : j ≤ 3) :
    word32 (metaImage mem m j) (metaBase + off) =
      UInt32.ofNat (ofLe (((metaBuffer m).drop off).take 4)) := by
  have stored := read_bytes_program (erasePage stmFlash mem metaPage) metaBase
    ((metaBuffer m).take (8 * j)) off 4 (by
      rw [List.length_take, meta_buffer_length]
      omega)
  rw [word32, metaImage, stored, List.drop_take, List.take_take, Nat.min_eq_left (by omega)]

/-- A word is read back as it was written. -/
theorem word_round_trip (x : UInt32) : UInt32.ofNat (ofLe (le 4 x.toNat)) = x := by
  have bound : x.toNat < 256 ^ 4 := x.toNat_lt
  rw [of_le_le, Nat.mod_eq_of_lt bound, UInt32.ofNat_toNat]

/-- After the erase alone the record is absent. -/
theorem meta_image_absent (mem : Memory) (m : BlMeta) :
    blMetaAbsent (metaImage mem m 0) = true := by
  rw [blMetaAbsent, List.all_eq_true]
  intro i member
  have inside := List.mem_range.mp member
  rw [meta_image_erased mem m 0 (4 * i) (by omega) (by omega)]
  rfl

/-- From the first doubleword on, magic and state are those of the record. -/
theorem meta_image_marker (mem : Memory) (m : BlMeta) (j : Nat) (started : 1 ≤ j)
    (short : j ≤ 3) :
    (blMeta (metaImage mem m j)).magic = m.magic ∧
      (blMeta (metaImage mem m j)).state = m.state := by
  constructor
  · refine (meta_image_stored mem m j 0 (by omega) short).trans ?_
    simpa [metaBuffer, List.take_append_of_le_length] using word_round_trip m.magic
  · refine (meta_image_stored mem m j 4 (by omega) short).trans ?_
    simpa [metaBuffer, List.drop_append, List.drop_of_length_le,
      List.take_append_of_le_length] using
      word_round_trip m.state

/-- From the second doubleword on, version and size are those of the record. -/
theorem meta_image_version (mem : Memory) (m : BlMeta) (j : Nat) (started : 2 ≤ j)
    (short : j ≤ 3) :
    (blMeta (metaImage mem m j)).version = m.version ∧
      (blMeta (metaImage mem m j)).size = m.size := by
  constructor
  · refine (meta_image_stored mem m j 8 (by omega) short).trans ?_
    simpa [metaBuffer, List.drop_append, List.drop_of_length_le,
      List.take_append_of_le_length] using
      word_round_trip m.version
  · refine (meta_image_stored mem m j 12 (by omega) short).trans ?_
    simpa [metaBuffer, List.drop_append, List.drop_of_length_le,
      List.take_append_of_le_length] using
      word_round_trip m.size

/-- The whole record reads back. -/
theorem meta_image_whole (mem : Memory) (m : BlMeta) : blMeta (metaImage mem m 3) = m := by
  obtain ⟨magic, state⟩ := meta_image_marker mem m 3 (by omega) (by omega)
  obtain ⟨version, size⟩ := meta_image_version mem m 3 (by omega) (by omega)
  have crc : (blMeta (metaImage mem m 3)).crc32 = m.crc32 := by
    refine (meta_image_stored mem m 3 16 (by omega) (by omega)).trans ?_
    simpa [metaBuffer, List.drop_append, List.drop_of_length_le,
      List.take_append_of_le_length] using
      word_round_trip m.crc32
  cases m
  simp_all [blMeta]

/-- With only the first doubleword stored, the version still reads as erased. -/
theorem meta_image_torn (mem : Memory) (m : BlMeta) :
    (blMeta (metaImage mem m 1)).version = 0xFFFFFFFF :=
  meta_image_erased mem m 1 8 (by omega) (by omega)

/-- A rewrite changes the meta page only. -/
theorem meta_image_elsewhere (mem : Memory) (m : BlMeta) (j a : Nat) (below : a < metaBase) :
    metaImage mem m j a = mem a := by
  have start : stmFlash.pageStart metaPage = metaBase := rfl
  rw [metaImage, program_elsewhere _ _ _ _ (Or.inl below),
    erase_elsewhere _ _ _ _ (Or.inl (by rw [start]; exact below))]

/-! ## What the gate looks at -/

/-- The meta words depend on the first 20 bytes of the page only. -/
theorem bl_meta_congr {mem mem' : Memory}
    (same : ∀ a, metaBase ≤ a → a < metaBase + 20 → mem a = mem' a) :
    blMeta mem = blMeta mem' := by
  have word (off : Nat) (inside : off + 4 ≤ 20) :
      word32 mem (metaBase + off) = word32 mem' (metaBase + off) := by
    rw [word32, word32, read_bytes_congr (fun a low high => same a (by omega) (by omega))]
  simp only [blMeta, BlMeta.mk.injEq]
  exact ⟨word 0 (by omega), word 4 (by omega), word 8 (by omega), word 12 (by omega),
    word 16 (by omega)⟩

/-- The vectors depend on the first eight bytes of the slot only. -/
theorem bl_app_vectors_congr {mem mem' : Memory}
    (same : ∀ a, appBase ≤ a → a < appBase + 8 → mem a = mem' a) :
    blAppVectorsOk mem = blAppVectorsOk mem' := by
  have sp : word32 mem appBase = word32 mem' appBase := by
    rw [word32, word32, read_bytes_congr (fun a low high => same a (by omega) (by omega))]
  have rst : word32 mem (appBase + 4) = word32 mem' (appBase + 4) := by
    rw [word32, word32, read_bytes_congr (fun a low high => same a (by omega) (by omega))]
  rw [blAppVectorsOk, blAppVectorsOk, sp, rst]

/-- An absent record has erased magic, so it is neither VALID nor UPDATING. -/
theorem meta_absent_magic (mem : Memory) (absent : blMetaAbsent mem = true) :
    (blMeta mem).magic = 0xFFFFFFFF := by
  have first := List.all_eq_true.mp absent 0 (by decide)
  exact beq_iff_eq.mp first

/-- The record carries the UPDATING marker. -/
def Updating (mem : Memory) : Prop :=
  (blMeta mem).magic = blMetaMagic ∧ (blMeta mem).state = blMetaStateUpdating

/-- The record carries the VALID marker. -/
def Valid (mem : Memory) : Prop :=
  (blMeta mem).magic = blMetaMagic ∧ (blMeta mem).state = blMetaStateValid

instance (mem : Memory) : Decidable (Updating mem) := inferInstanceAs (Decidable (_ ∧ _))

instance (mem : Memory) : Decidable (Valid mem) := inferInstanceAs (Decidable (_ ∧ _))

/-- Under the UPDATING marker a boot without the flag stays in the bootloader. -/
theorem updating_stays (mem : Memory) (updating : Updating mem) : bootGate false mem = .stay := by
  have present : blMetaAbsent mem = false := by
    by_contra absent
    have erased := meta_absent_magic mem (by simpa using absent)
    rw [updating.1] at erased
    exact absurd erased (by decide)
  have invalid : blAppCrcOk mem = false := by
    have other : (blMeta mem).state ≠ blMetaStateValid := by
      rw [updating.2]
      decide
    simp [blAppCrcOk, other]
  simp [bootGate, present, invalid]

/-- With an absent record the gate looks at the vectors only. -/
theorem absent_gate (mem : Memory) (absent : blMetaAbsent mem = true) :
    bootGate false mem = .jump ↔ blAppVectorsOk mem = true := by
  by_cases vectors : blAppVectorsOk mem = true <;> simp [bootGate, absent, vectors]

end ObdSimulator
