import ObdSimulator.Lib.NorFlash

/-!
# The flash driver

`ota_flash.c` over the single-bank array of the STM32G431: 2 KB pages, 8-byte
program words. Erases go page by page and writes word by word, each loop leaving
at the first primitive that is not done. Interrupt masking, the watchdog reload
and the flash lock have no effect on memory and are left out.
-/

namespace ObdSimulator

open NorFlash

/-! ## Flash map of `bl_handoff.h` -/

/-- The first address of the flash. -/
def flashBase : Nat := 0x08000000

/-- The first address of the application's slot. -/
def appBase : Nat := 0x08007000

/-- The bytes of the application's slot. -/
def appSlotSize : Nat := 0x17000

/-- The first address of the page of the metadata. -/
def metaBase : Nat := 0x0801E000

/-- The first address behind the flash. -/
def flashEnd : Nat := 0x08020000

/-- The pages of the device. -/
def flashPageSize : Nat := 2048

/-- The flash as a geometry, programmed by doublewords. -/
def stmFlash : Geometry := ⟨flashBase, flashPageSize, 8⟩

/-- Value stored in a `uint32_t`. -/
def u32 (n : Nat) : Nat := n % 2 ^ 32

/-- `in_range`: inside the slot of the application, in 32-bit arithmetic. -/
def inRange (addr size : Nat) : Bool :=
  decide (appBase ≤ addr) && decide (u32 (addr + size) ≤ flashEnd)

/-- The page loop, by the number of pages left. -/
def otaFlashEraseLoop (d : Device) (page : Nat) : Nat → Device × Bool
  | 0 => (d, true)
  | pages + 1 =>
    match d.erase stmFlash page with
    | (d, false) => (d, false)
    | (d, true) => otaFlashEraseLoop d (page + 1) pages

/-- `true` is the return value 0. -/
def otaFlashErase (d : Device) (addr size : Nat) : Device × Bool :=
  if inRange addr size then
    otaFlashEraseLoop d ((addr - flashBase) / flashPageSize)
      (u32 (size + flashPageSize - 1) / flashPageSize)
  else (d, false)

/-- A chunk of at most eight bytes, padded with the erased value. -/
def paddedChunk (chunk : List UInt8) : List UInt8 :=
  chunk ++ List.replicate (8 - chunk.length) 0xFF

/-- The doubleword loop, by the number of doublewords left. -/
def otaFlashWriteLoop (d : Device) (addr : Nat) (data : List UInt8) : Nat → Device × Bool
  | 0 => (d, true)
  | words + 1 =>
    match d.program stmFlash addr (paddedChunk (data.take 8)) with
    | (d, false) => (d, false)
    | (d, true) => otaFlashWriteLoop d (u32 (addr + 8)) (data.drop 8) words

/-- A length of `len` bytes takes `⌈len / 8⌉` doublewords. -/
def doublewords (len : Nat) : Nat := (len + 7) / 8

/-- `ota_flash_write`. -/
def otaFlashWrite (d : Device) (addr : Nat) (data : List UInt8) : Device × Bool :=
  if inRange addr data.length then
    otaFlashWriteLoop d addr data (doublewords data.length)
  else (d, false)

/-! ## Erasing -/

/-- The page erases of an erase, in order. -/
def eraseOps (page pages : Nat) : List Op := (List.range' page pages).map Op.erase

/-- The erase loop attempts the erases of its own pages, in order. -/
theorem erase_loop_attempts (d : Device) (page pages : Nat) :
    d.Attempts stmFlash (eraseOps page pages) (otaFlashEraseLoop d page pages).1
      (otaFlashEraseLoop d page pages).2 := by
  induction pages generalizing d page with
  | zero => exact Device.Attempts.refl _ _
  | succ pages ih =>
    have first := d.perform_attempts stmFlash (.erase page)
    rw [← Device.erase] at first
    have split : eraseOps page (pages + 1) = [.erase page] ++ eraseOps (page + 1) pages := by
      simp [eraseOps, List.range'_succ]
    generalize step : d.erase stmFlash page = outcome at first
    obtain ⟨after, done⟩ := outcome
    rw [split, otaFlashEraseLoop, step]
    cases done with
    | false => exact first.stopped _
    | true => exact first.trans (ih after (page + 1))

/-- Erasing consecutive pages erases their whole range. -/
theorem erase_ops_erased (mem : Memory) (page pages : Nat) :
    Erased (replay stmFlash mem (doneEvents (eraseOps page pages)))
      (stmFlash.pageStart page) (stmFlash.pageStart (page + pages)) := by
  induction pages generalizing mem page with
  | zero =>
    intro a low high
    exact absurd (Nat.lt_of_le_of_lt low high) (Nat.lt_irrefl _)
  | succ pages ih =>
    intro a low high
    have split : doneEvents (eraseOps page (pages + 1)) =
        ⟨.erase page, true⟩ :: doneEvents (eraseOps (page + 1) pages) := by
      simp [doneEvents, eraseOps, List.range'_succ]
    have size : stmFlash.pageSize = 2048 := rfl
    have next : stmFlash.pageStart (page + 1) = stmFlash.pageStart page + 2048 := by
      simp only [Geometry.pageStart, size]
      omega
    have last : page + (pages + 1) = page + 1 + pages := by omega
    rw [split, replay_cons]
    rw [last] at high
    by_cases first : a < stmFlash.pageStart (page + 1)
    · -- later erases do not reach back into this page
      have kept : replay stmFlash (NorFlash.Event.apply stmFlash mem ⟨.erase page, true⟩)
          (doneEvents (eraseOps (page + 1) pages)) a =
            NorFlash.Event.apply stmFlash mem ⟨.erase page, true⟩ a := by
        apply replay_untouched
        intro e member touched
        obtain ⟨op, inside, rfl⟩ := List.mem_map.mp member
        obtain ⟨p, range, rfl⟩ := List.mem_map.mp inside
        have later := (List.mem_range'_1.mp range).1
        have start : stmFlash.pageStart (page + 1) ≤ stmFlash.pageStart p := by
          simp only [Geometry.pageStart, size]
          omega
        have reach := touched.1
        omega
      rw [kept]
      exact erase_erased stmFlash mem page a low (by omega)
    · exact ih _ (page + 1) a (by omega) high

/-! ## Programming -/

/-- The doubleword programs of a write, in order. -/
def programOps (addr : Nat) (data : List UInt8) : Nat → List Op
  | 0 => []
  | words + 1 =>
    .program addr (paddedChunk (data.take 8)) :: programOps (u32 (addr + 8)) (data.drop 8) words

/-- Data padded with the erased value to whole doublewords. -/
def padded (data : List UInt8) (words : Nat) : List UInt8 :=
  data ++ List.replicate (8 * words - data.length) 0xFF

/-- A padded chunk is a doubleword. -/
@[simp] theorem padded_chunk_length (data : List UInt8) :
    (paddedChunk (data.take 8)).length = 8 := by
  simp only [paddedChunk, List.length_append, List.length_replicate, List.length_take]
  omega

/-- The padded data fill their doublewords. -/
theorem padded_length (data : List UInt8) (words : Nat) (fits : data.length ≤ 8 * words) :
    (padded data words).length = 8 * words := by
  simp only [padded, List.length_append, List.length_replicate]
  omega

/-- The doublewords of some data hold all of them. -/
theorem length_le_doublewords (len : Nat) : len ≤ 8 * doublewords len := by
  simp only [doublewords]
  omega

/-- The first doubleword and the padded rest make up the padded data. -/
theorem padded_succ (data : List UInt8) (words : Nat) :
    padded data (words + 1) = paddedChunk (data.take 8) ++ padded (data.drop 8) words := by
  rcases Nat.le_total data.length 8 with short | long
  · have count : 8 * (words + 1) - data.length = (8 - data.length) + 8 * words := by omega
    simp only [padded, paddedChunk, List.take_of_length_le short, List.drop_of_length_le short,
      count, List.replicate_add, List.length_nil, Nat.sub_zero, List.nil_append,
      List.append_assoc]
  · have count : 8 * (words + 1) - data.length = 8 * words - (data.length - 8) := by omega
    have full : 8 - min 8 data.length = 0 := by omega
    simp only [padded, paddedChunk, List.length_take, List.length_drop, count, full,
      List.replicate_zero, List.append_nil]
    rw [← List.append_assoc, List.take_append_drop]

/-- Below the end of the address space the programs do not wrap around. -/
theorem program_ops_range (addr : Nat) (data : List UInt8) (words : Nat)
    (bounded : addr + 8 * words < 2 ^ 32) (op : Op) (member : op ∈ programOps addr data words) :
    ∃ i word, i < words ∧ word.length = 8 ∧ op = .program (addr + 8 * i) word := by
  induction words generalizing addr data with
  | zero => simp [programOps] at member
  | succ words ih =>
    have next : u32 (addr + 8) = addr + 8 := Nat.mod_eq_of_lt (by omega)
    rcases List.mem_cons.mp member with first | later
    · exact ⟨0, _, by omega, padded_chunk_length data, first⟩
    · rw [next] at later
      obtain ⟨i, word, inside, length, same⟩ := ih (addr + 8) _ (by omega) later
      refine ⟨i + 1, word, by omega, length, ?_⟩
      rw [same]
      congr 1
      ring

/-- Programming all doublewords stores the padded data. -/
theorem replay_program_ops (mem : Memory) (addr : Nat) (data : List UInt8) (words : Nat)
    (bounded : addr + 8 * words < 2 ^ 32) (fits : data.length ≤ 8 * words) :
    replay stmFlash mem (doneEvents (programOps addr data words)) =
      programWord mem addr (padded data words) := by
  induction words generalizing mem addr data with
  | zero =>
    have empty : data = [] := List.eq_nil_of_length_eq_zero (by omega)
    funext a
    have missed : ¬ (addr ≤ a ∧ a < addr) := by omega
    simp [programOps, doneEvents, replay_nil, programWord, padded, empty, missed]
  | succ words ih =>
    have next : u32 (addr + 8) = addr + 8 := Nat.mod_eq_of_lt (by omega)
    have rest : (data.drop 8).length ≤ 8 * words := by
      rw [List.length_drop]
      omega
    have stored := program_word_append mem addr (paddedChunk (data.take 8))
      (padded (data.drop 8) words)
    rw [padded_chunk_length] at stored
    rw [programOps, doneEvents, List.map_cons, replay_cons, ← doneEvents, next,
      ih _ _ _ (by omega) rest, padded_succ, ← stored]
    rfl

/-- The write loop gives the device a front part of its doubleword programs, all
of them exactly when it succeeds; a program that is done was aligned. -/
theorem write_loop_ran (d : Device) (addr : Nat) (data : List UInt8) (words : Nat) :
    ∃ events, d.Ran stmFlash events (otaFlashWriteLoop d addr data words).1 ∧
      events.map Event.op <+: programOps addr data words ∧
      ((otaFlashWriteLoop d addr data words).2 = true →
        events = doneEvents (programOps addr data words)) ∧
      (d.Aligning stmFlash → ∀ e ∈ events, e.done = true →
        ∃ a word, e.op = .program a word ∧ a % 8 = 0) := by
  induction words generalizing d addr data with
  | zero =>
    exact ⟨[], Device.Ran.refl _ _, List.prefix_refl _, fun _ => rfl, by simp⟩
  | succ words ih =>
    have first := d.perform_ran stmFlash (.program addr (paddedChunk (data.take 8)))
      (d.accepts d.mem addr)
    have aligned : d.Aligning stmFlash →
        (d.program stmFlash addr (paddedChunk (data.take 8))).2 = true → addr % 8 = 0 := by
      intro aligning done
      simp only [Device.program, Device.perform, Bool.and_eq_true] at done
      exact aligning d.mem addr done.1
    generalize step : d.program stmFlash addr (paddedChunk (data.take 8)) = outcome at aligned
    obtain ⟨after, done⟩ := outcome
    rw [Device.program] at step
    rw [step] at first
    have head_aligned : d.Aligning stmFlash →
        ∀ e ∈ [(⟨.program addr (paddedChunk (data.take 8)), done⟩ : Event)], e.done = true →
          ∃ a word, e.op = .program a word ∧ a % 8 = 0 := by
      intro aligning e member finished
      rw [List.mem_singleton.mp member] at finished ⊢
      exact ⟨addr, _, rfl, aligned aligning finished⟩
    cases done with
    | false =>
      have stopped : otaFlashWriteLoop d addr data (words + 1) = (after, false) := by
        simp [otaFlashWriteLoop, Device.program, step]
      refine ⟨_, by rw [stopped]; exact first, ?_, by simp [stopped], head_aligned⟩
      exact ⟨programOps (u32 (addr + 8)) (data.drop 8) words, rfl⟩
    | true =>
      have continued : otaFlashWriteLoop d addr data (words + 1) =
          otaFlashWriteLoop after (u32 (addr + 8)) (data.drop 8) words := by
        simp [otaFlashWriteLoop, Device.program, step]
      obtain ⟨events, ran, front, complete, rest_aligned⟩ :=
        ih after (u32 (addr + 8)) (data.drop 8)
      refine ⟨_, by rw [continued]; exact first.trans ran, ?_, ?_, ?_⟩
      · simpa [programOps] using front
      · intro success
        rw [continued] at success
        simp [complete success, programOps, doneEvents]
      · intro aligning e member finished
        rcases List.mem_append.mp member with head | tail
        · exact head_aligned aligning e head finished
        · exact rest_aligned (aligning.ran first) e tail finished

/-- Over aligned and erased doublewords the write loop attempts all its programs. -/
theorem write_loop_attempts (d : Device) (addr : Nat) (data : List UInt8) (words : Nat)
    (standard : d.accepts = writable stmFlash) (aligned : addr % 8 = 0)
    (bounded : addr + 8 * words < 2 ^ 32) (erased : Erased d.mem addr (addr + 8 * words)) :
    d.Attempts stmFlash (programOps addr data words) (otaFlashWriteLoop d addr data words).1
      (otaFlashWriteLoop d addr data words).2 := by
  induction words generalizing d addr data with
  | zero => exact Device.Attempts.refl _ _
  | succ words ih =>
    have word : stmFlash.wordSize = 8 := rfl
    have accepted : d.accepts d.mem addr = true := by
      rw [standard]
      exact (writable_iff stmFlash d.mem addr).mpr
        ⟨aligned, fun a low high => erased a low (by omega)⟩
    have first := d.perform_attempts stmFlash (.program addr (paddedChunk (data.take 8)))
    have step : d.program stmFlash addr (paddedChunk (data.take 8)) =
        d.perform stmFlash (.program addr (paddedChunk (data.take 8))) true := by
      rw [Device.program, accepted]
    have next : u32 (addr + 8) = addr + 8 := Nat.mod_eq_of_lt (by omega)
    rw [otaFlashWriteLoop, programOps, next, step]
    generalize d.perform stmFlash (.program addr (paddedChunk (data.take 8))) true = outcome
      at first
    obtain ⟨after, done⟩ := outcome
    cases done with
    | false => exact first.stopped _
    | true =>
      have still : Erased after.mem (addr + 8) (addr + 8 + 8 * words) := by
        intro a low high
        have elsewhere : after.mem a = d.mem a := by
          rw [first.ran.mem, replay_untouched]
          intro e member
          rw [List.mem_singleton.mp (attempted_op _ _ e member)]
          simp only [Op.Touches, padded_chunk_length]
          omega
        rw [elsewhere]
        exact erased a (by omega) (by omega)
      exact first.trans (ih after (addr + 8) (data.drop 8) (first.ran.accepts.trans standard)
        (by omega) (by omega) still)

/-- A loop of the driver that stops early had a primitive that was not done. -/
theorem erase_loop_reports (d : Device) (page pages : Nat) :
    d.Reports (otaFlashEraseLoop d page pages).1 (otaFlashEraseLoop d page pages).2 := by
  induction pages generalizing d page with
  | zero => exact Device.Reports.refl d
  | succ pages ih =>
    have first := d.perform_reports stmFlash (.erase page) true
    rw [← Device.erase] at first
    generalize step : d.erase stmFlash page = outcome at first
    obtain ⟨after, done⟩ := outcome
    rw [otaFlashEraseLoop, step]
    cases done with
    | false => exact first
    | true => exact first.trans (ih after (page + 1))

/-- A write that fails has logged the primitive that did. -/
theorem write_loop_reports (d : Device) (addr : Nat) (data : List UInt8) (words : Nat) :
    d.Reports (otaFlashWriteLoop d addr data words).1 (otaFlashWriteLoop d addr data words).2 := by
  induction words generalizing d addr data with
  | zero => exact Device.Reports.refl d
  | succ words ih =>
    have first := d.perform_reports stmFlash (.program addr (paddedChunk (data.take 8)))
      (d.accepts d.mem addr)
    rw [← Device.program] at first
    generalize step : d.program stmFlash addr (paddedChunk (data.take 8)) = outcome at first
    obtain ⟨after, done⟩ := outcome
    rw [otaFlashWriteLoop, step]
    cases done with
    | false => exact first
    | true => exact first.trans (ih after (u32 (addr + 8)) (data.drop 8))

/-- An address off the doubleword grid stops the loop at its first program. -/
theorem write_loop_misaligned (d : Device) (addr : Nat) (data : List UInt8) (words : Nat)
    (aligning : d.Aligning stmFlash) (some_words : 0 < words)
    (misaligned : addr % 8 ≠ 0) : (otaFlashWriteLoop d addr data words).2 = false := by
  obtain ⟨more, rfl⟩ : ∃ more, words = more + 1 := ⟨words - 1, by omega⟩
  have refused : d.accepts d.mem addr = false := by
    by_contra accepted
    exact misaligned (aligning d.mem addr (eq_true_of_ne_false accepted))
  simp [otaFlashWriteLoop, Device.program, Device.perform, refused]

end ObdSimulator
