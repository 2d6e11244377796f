import ObdSimulator.OtaFlash

/-!
# The range of the flash driver

`in_range` adds the address and the size in 32 bits, and the erase takes its page
count from the size alone. A range that runs through the end of the address space
can therefore pass the check, and an erase from inside a page can leave the end of
its range as it was. Which calls keep to the range is decided by the two arguments.

The write is modelled here with its own index, a `uint32_t` that wraps around too,
and for a number of rounds, since there are lengths it does not come to an end for.
-/

namespace ObdSimulator.FlashRange

open NorFlash

/-! ## The write loop by its index -/

/-- The doubleword of the data at an index: at most eight bytes, padded with the
erased value. -/
def chunkAt (data : Nat → UInt8) (len i : Nat) : List UInt8 :=
  paddedChunk ((List.range (if 8 ≤ len - i then 8 else len - i)).map fun j => data (i + j))

/-- At most `rounds` rounds of the write loop from an index; no result while it runs. -/
def otaFlashWriteRounds (addr : Nat) (data : Nat → UInt8) (len : Nat) :
    Nat → Device → Nat → Device × Option Bool
  | 0, d, _ => (d, none)
  | rounds + 1, d, i =>
    if i < len then
      match d.program stmFlash (u32 (addr + i)) (chunkAt data len i) with
      | (d, false) => (d, some false)
      | (d, true) => otaFlashWriteRounds addr data len rounds d (u32 (i + 8))
    else (d, some true)

/-- `ota_flash_write` with its data pointer, which may be `NULL`. -/
def otaFlashWriteFor (rounds : Nat) (d : Device) (addr : Nat) (data : Option (Nat → UInt8))
    (len : Nat) : Device × Option Bool :=
  if inRange addr len then
    match data with
    | none => (d, some false)
    | some data => otaFlashWriteRounds addr data len rounds d 0
  else (d, some false)

/-! ## The rule -/

/-- The range lies in the slot and the pages above it, as integers. -/
def Contained (addr size : Nat) : Prop :=
  ∀ a, addr ≤ a → a < addr + size → appBase ≤ a ∧ a < flashEnd

/-- The primitives a device was given between two states. -/
def given (d d' : Device) : List Event := d'.log.drop d.log.length

/-- Every primitive lies inside the range of the driver. -/
def Confined (events : List Event) : Prop :=
  ∀ e ∈ events, ∀ a, e.op.Touches stmFlash a → appBase ≤ a ∧ a < flashEnd

/-- What is promised of an erase. -/
structure EraseKeepsRange (d : Device) (addr size : Nat) : Prop where
  confined : Confined (given d (otaFlashErase d addr size).1)
  refused : ¬ Contained addr size → otaFlashErase d addr size = (d, false)
  erased : (otaFlashErase d addr size).2 = true →
    Erased (otaFlashErase d addr size).1.mem addr (addr + size)

/-- What is promised of a write, whose data may be missing. -/
structure WriteKeepsRange (d : Device) (addr : Nat) (data : Option (Nat → UInt8)) (len : Nat) :
    Prop where
  confined : ∀ rounds, Confined (given d (otaFlashWriteFor rounds d addr data len).1)
  refused : ¬ Contained addr len →
    ∀ rounds, otaFlashWriteFor rounds d addr data len = (d, some false)

/-- The pages an erase takes by its size reach the end of its range. -/
structure PagesCover (addr size : Nat) : Prop where
  ends : addr + size ≤ flashEnd
  offset : 0 < size → addr % flashPageSize + size ≤
    flashPageSize * ((size + flashPageSize - 1) / flashPageSize)

/-- The last doubleword of a write ends inside the flash. -/
def WordsFit (addr len : Nat) : Prop := addr + 8 * doublewords len ≤ flashEnd

/-- A device that does every primitive, its memory all zero. -/
def obliging : Device := ⟨fun _ => 0, fun _ _ => true, [], []⟩

/-! ## The check -/

/-- The addresses as the source spells them. -/
theorem flash_values : appBase = 0x08007000 ∧ flashEnd = 0x08020000 ∧ flashPageSize = 2048 ∧
    flashBase = 0x08000000 := ⟨rfl, rfl, rfl, rfl⟩

/-- The guard as a statement about addresses, the wrap of their sum included. -/
theorem in_range_iff (addr size : Nat) :
    inRange addr size = true ↔ appBase ≤ addr ∧ u32 (addr + size) ≤ flashEnd := by
  simp only [inRange, Bool.and_eq_true, decide_eq_true_eq]

/-- A range that passes the check without reaching the end of the address space is
contained. -/
theorem contained_of_ends (addr size : Nat) (low : appBase ≤ addr)
    (ends : addr + size ≤ flashEnd) : Contained addr size := by
  intro a above below
  omega

/-- A range that runs through the end of the address space is not contained. -/
theorem not_contained_of_wraps (addr size : Nat) (address : addr < 2 ^ 32)
    (wraps : 2 ^ 32 ≤ addr + size) : ¬ Contained addr size := by
  obtain ⟨_, ends, _⟩ := flash_values
  intro contained
  have last := (contained (2 ^ 32 - 1) (by omega) (by omega)).2
  omega

/-- The primitives a device was given are those it ran. -/
theorem given_ran {d d' : Device} {events : List Event} (ran : d.Ran stmFlash events d') :
    given d d' = events := by
  rw [given, ran.log, List.drop_left]

/-- A device that was left alone was given none. -/
theorem given_refl (d : Device) : given d d = [] := given_ran (Device.Ran.refl stmFlash d)

/-- No primitives are confined to the range. -/
theorem confined_nil : Confined [] := by simp [Confined]

/-! ## Erasing -/

/-- The first address of a page, as a number. -/
theorem page_start (page : Nat) : stmFlash.pageStart page = 0x08000000 + page * 2048 := rfl

/-- The page of an address, as a number. -/
theorem page_of (addr : Nat) : (addr - flashBase) / flashPageSize = (addr - 0x08000000) / 2048 :=
  rfl

/-- The pages of an erase whose range ends inside the flash lie inside the flash. -/
theorem erase_pages_confined (addr size pages : Nat) (low : appBase ≤ addr)
    (ends : addr + size ≤ flashEnd) (count : pages = (size + 2047) / 2048) (events : List Event)
    (ops : ∀ e ∈ events, e.op ∈ eraseOps ((addr - flashBase) / flashPageSize) pages) :
    Confined events := by
  obtain ⟨app, last, size_eq, base⟩ := flash_values
  intro e member a touched
  obtain ⟨page, inside, op⟩ := List.mem_map.mp (ops e member)
  obtain ⟨above, below⟩ := List.mem_range'_1.mp inside
  have whole : stmFlash.pageSize = 2048 := rfl
  rw [page_of] at above below
  rw [← op, Op.Touches, page_start, whole] at touched
  omega

/-- Where the size decides the pages in 32 bits as it does in the integers. -/
theorem page_count (size : Nat) (bounded : size ≤ flashEnd) :
    u32 (size + flashPageSize - 1) / flashPageSize = (size + 2047) / 2048 := by
  obtain ⟨_, last, size_eq, _⟩ := flash_values
  have exact_sum : u32 (size + flashPageSize - 1) = size + 2047 := Nat.mod_eq_of_lt (by omega)
  rw [exact_sum, size_eq]

/-- An erase that is refused or whose pages cover its range keeps to the range. -/
theorem erase_keeps_range (d : Device) (addr size : Nat)
    (condition : inRange addr size = false ∨ PagesCover addr size) :
    EraseKeepsRange d addr size := by
  cases checked : inRange addr size with
  | false =>
    have rejected : otaFlashErase d addr size = (d, false) := by
      rw [otaFlashErase, checked]
      rfl
    constructor
    · rw [rejected, given_refl]
      exact confined_nil
    · exact fun _ => rejected
    · intro success
      rw [rejected] at success
      cases success
  | true =>
    obtain ⟨low, _⟩ := (in_range_iff addr size).mp checked
    obtain ⟨ends, offset⟩ := condition.resolve_left (by simp [checked])
    obtain ⟨app, last, size_eq, base⟩ := flash_values
    have accepted : otaFlashErase d addr size = otaFlashEraseLoop d
        ((addr - flashBase) / flashPageSize) ((size + 2047) / 2048) := by
      rw [otaFlashErase, if_pos checked, page_count size (by omega)]
    have attempts := erase_loop_attempts d ((addr - flashBase) / flashPageSize)
      ((size + 2047) / 2048)
    rw [← accepted] at attempts
    constructor
    · rw [given_ran attempts.ran]
      exact erase_pages_confined addr size _ low ends rfl _
        fun e member => attempted_op _ _ e member
    · intro outside
      exact absurd (contained_of_ends addr size low ends) outside
    · intro success a above below
      obtain ⟨events, ran, _, whole⟩ := attempts.follows
      rw [ran.mem, whole success]
      apply erase_ops_erased
      · rw [page_start, page_of]
        omega
      · rw [page_start, page_of]
        have reach := offset (by omega)
        rw [size_eq] at reach
        omega

/-- An accepted erase that keeps to the range on the obliging device has pages that
cover its range. -/
theorem pages_cover_of_keeps (addr size : Nat) (address : addr < 2 ^ 32) (length : size < 2 ^ 32)
    (checked : inRange addr size = true) (keeps : EraseKeepsRange obliging addr size) :
    PagesCover addr size := by
  obtain ⟨low, high⟩ := (in_range_iff addr size).mp checked
  obtain ⟨app, last, size_eq, base⟩ := flash_values
  have attempts := erase_loop_attempts obliging ((addr - flashBase) / flashPageSize)
    (u32 (size + flashPageSize - 1) / flashPageSize)
  have accepted : otaFlashErase obliging addr size = otaFlashEraseLoop obliging
      ((addr - flashBase) / flashPageSize) (u32 (size + flashPageSize - 1) / flashPageSize) := by
    rw [otaFlashErase, if_pos checked]
  rw [← accepted] at attempts
  obtain ⟨success, ran⟩ := attempts.clean rfl
  have fits : addr + size < 2 ^ 32 := by
    by_contra wraps
    have refused := keeps.refused (not_contained_of_wraps addr size address (by omega))
    rw [refused] at success
    cases success
  have ends : addr + size ≤ flashEnd := by
    have plain : u32 (addr + size) = addr + size := Nat.mod_eq_of_lt fits
    rwa [plain] at high
  refine ⟨ends, fun some_size => ?_⟩
  by_contra short
  rw [size_eq] at short
  -- the last byte of the range lies behind the last page, and is still zero
  have erased := keeps.erased success (addr + size - 1) (by omega) (by omega)
  have untouched : (otaFlashErase obliging addr size).1.mem (addr + size - 1) =
      obliging.mem (addr + size - 1) := by
    rw [ran.mem]
    apply replay_untouched
    intro e member touched
    obtain ⟨op, listed, rfl⟩ := List.mem_map.mp member
    obtain ⟨page, inside, rfl⟩ := List.mem_map.mp listed
    obtain ⟨above, below⟩ := List.mem_range'_1.mp inside
    have whole : stmFlash.pageSize = 2048 := rfl
    rw [page_of] at above below
    rw [page_count size (by omega)] at below
    rw [Op.Touches, page_start, whole] at touched
    omega
  rw [untouched] at erased
  cases erased

/-! ## Writing -/

/-- A chunk is a doubleword. -/
@[simp] theorem chunk_at_length (data : Nat → UInt8) (len i : Nat) :
    (chunkAt data len i).length = 8 := by
  simp only [chunkAt, paddedChunk, List.length_append, List.length_replicate, List.length_map,
    List.length_range]
  split <;> omega

/-- One round programs the doubleword at its index and goes on to the next one. -/
theorem round_succ (addr : Nat) (data : Nat → UInt8) (len rounds : Nat) (d : Device) (i : Nat)
    (more : i < len) : otaFlashWriteRounds addr data len (rounds + 1) d i =
      if (d.program stmFlash (u32 (addr + i)) (chunkAt data len i)).2 then
        otaFlashWriteRounds addr data len rounds
          (d.program stmFlash (u32 (addr + i)) (chunkAt data len i)).1 (u32 (i + 8))
      else ((d.program stmFlash (u32 (addr + i)) (chunkAt data len i)).1, some false) := by
  rw [otaFlashWriteRounds, if_pos more]
  generalize d.program stmFlash (u32 (addr + i)) (chunkAt data len i) = outcome
  obtain ⟨after, done⟩ := outcome
  cases done <;> rfl

/-- The loop stops where the data end. -/
theorem round_done (addr : Nat) (data : Nat → UInt8) (len rounds : Nat) (d : Device) (i : Nat)
    (finished : ¬ i < len) :
    otaFlashWriteRounds addr data len (rounds + 1) d i = (d, some true) := by
  rw [otaFlashWriteRounds, if_neg finished]

/-- While its doublewords fit, the loop programs inside the range of the driver. -/
theorem rounds_confined (addr : Nat) (data : Nat → UInt8) (len : Nat) (low : appBase ≤ addr)
    (fit : WordsFit addr len) (rounds : Nat) (d : Device) (i : Nat) (grid : i % 8 = 0) :
    ∃ events, d.Ran stmFlash events (otaFlashWriteRounds addr data len rounds d i).1 ∧
      Confined events := by
  obtain ⟨app, last, _⟩ := flash_values
  simp only [WordsFit, doublewords] at fit
  induction rounds generalizing d i with
  | zero => exact ⟨[], Device.Ran.refl stmFlash d, confined_nil⟩
  | succ rounds ih =>
    by_cases more : i < len
    · have here : u32 (addr + i) = addr + i := Nat.mod_eq_of_lt (by omega)
      have next : u32 (i + 8) = i + 8 := Nat.mod_eq_of_lt (by omega)
      have first := d.perform_ran stmFlash (.program (addr + i) (chunkAt data len i))
        (d.accepts d.mem (addr + i))
      rw [← Device.program] at first
      have inside : Confined [⟨.program (addr + i) (chunkAt data len i),
          (d.program stmFlash (addr + i) (chunkAt data len i)).2⟩] := by
        intro e member a touched
        rw [List.mem_singleton.mp member, Op.Touches, chunk_at_length] at touched
        omega
      rw [round_succ addr data len rounds d i more, here, next]
      split
      · obtain ⟨events, ran, confined⟩ := ih
          (d.program stmFlash (addr + i) (chunkAt data len i)).1 (i + 8) (by omega)
        refine ⟨_, first.trans ran, ?_⟩
        intro e member
        rcases List.mem_append.mp member with head | tail
        · exact inside e head
        · exact confined e tail
      · exact ⟨_, first, inside⟩
    · rw [round_done addr data len rounds d i more]
      exact ⟨[], Device.Ran.refl stmFlash d, confined_nil⟩

/-- A write that is refused or whose doublewords fit keeps to the range. -/
theorem write_keeps_range (d : Device) (addr : Nat) (data : Option (Nat → UInt8)) (len : Nat)
    (condition : inRange addr len = false ∨ WordsFit addr len) :
    WriteKeepsRange d addr data len := by
  have untouched (rejected : ∀ rounds, otaFlashWriteFor rounds d addr data len = (d, some false)) :
      WriteKeepsRange d addr data len := by
    constructor
    · intro rounds
      rw [rejected, given_refl]
      exact confined_nil
    · exact fun _ => rejected
  cases checked : inRange addr len with
  | false =>
    apply untouched
    intro rounds
    simp [otaFlashWriteFor, checked]
  | true =>
    obtain ⟨low, _⟩ := (in_range_iff addr len).mp checked
    have fit := condition.resolve_left (by simp [checked])
    cases data with
    | none =>
      apply untouched
      intro rounds
      simp only [otaFlashWriteFor, ite_self]
    | some data =>
      have ends : addr + len ≤ flashEnd := by
        have covered := length_le_doublewords len
        rw [WordsFit] at fit
        omega
      constructor
      · intro rounds
        obtain ⟨events, ran, confined⟩ := rounds_confined addr data len low fit rounds d 0 rfl
        rw [otaFlashWriteFor, if_pos checked, given_ran ran]
        exact confined
      · intro outside
        exact absurd (contained_of_ends addr len low ends) outside

/-- A device that does every primitive it will be given. -/
structure Obliging (d : Device) : Prop where
  accepts : ∀ mem addr, d.accepts mem addr = true
  faults : d.faults = []

/-- The obliging device never refuses a primitive. -/
theorem obliging_obliges : Obliging obliging := ⟨fun _ _ => rfl, rfl⟩

/-- A program on an obliging device is done, and the device goes on obliging. -/
theorem Obliging.program {d : Device} (obliges : Obliging d) (addr : Nat) (word : List UInt8) :
    (d.program stmFlash addr word).2 = true ∧ Obliging (d.program stmFlash addr word).1 := by
  have done : (d.program stmFlash addr word).2 = true := by
    simp [Device.program, Device.perform, obliges.accepts, obliges.faults]
  refine ⟨done, obliges.accepts, ?_⟩
  simp [Device.program, Device.perform, obliges.faults]

/-- An obliging device is given the doubleword at every place of the grid inside the
length. -/
theorem rounds_reach (addr : Nat) (data : Nat → UInt8) (len : Nat) (bounded : len + 8 ≤ 2 ^ 32)
    (words : Nat) (d : Device) (i : Nat) (obliges : Obliging d) (inside : i + 8 * words < len) :
    ∃ events, d.Ran stmFlash events (otaFlashWriteRounds addr data len (words + 1) d i).1 ∧
      ∃ e ∈ events, ∃ word, word.length = 8 ∧
        e.op = .program (u32 (addr + (i + 8 * words))) word := by
  induction words generalizing d i with
  | zero =>
    have first := d.perform_ran stmFlash (.program (u32 (addr + i)) (chunkAt data len i))
      (d.accepts d.mem (u32 (addr + i)))
    rw [← Device.program] at first
    rw [round_succ addr data len 0 d i (by omega), if_pos (obliges.program _ _).1]
    exact ⟨_, first, _, List.mem_singleton.mpr rfl, _, chunk_at_length data len i, rfl⟩
  | succ words ih =>
    have first := d.perform_ran stmFlash (.program (u32 (addr + i)) (chunkAt data len i))
      (d.accepts d.mem (u32 (addr + i)))
    rw [← Device.program] at first
    have next : u32 (i + 8) = i + 8 := Nat.mod_eq_of_lt (by omega)
    obtain ⟨done, still⟩ := obliges.program (u32 (addr + i)) (chunkAt data len i)
    obtain ⟨events, ran, e, member, word, length, op⟩ := ih
      (d.program stmFlash (u32 (addr + i)) (chunkAt data len i)).1 (i + 8) still (by omega)
    have place : i + 8 + 8 * words = i + 8 * (words + 1) := by omega
    rw [round_succ addr data len (words + 1) d i (by omega), if_pos done, next]
    rw [place] at op
    exact ⟨_, first.trans ran, e, List.mem_append_right _ member, word, length, op⟩

/-- An accepted write that keeps to the range on the obliging device has doublewords
that fit. -/
theorem words_fit_of_keeps (addr len : Nat) (address : addr < 2 ^ 32)
    (checked : inRange addr len = true)
    (keeps : WriteKeepsRange obliging addr (some fun _ => 0) len) : WordsFit addr len := by
  obtain ⟨low, high⟩ := (in_range_iff addr len).mp checked
  obtain ⟨app, last, _⟩ := flash_values
  have accepted (rounds : Nat) : otaFlashWriteFor rounds obliging addr (some fun _ => 0) len =
      otaFlashWriteRounds addr (fun _ => 0) len rounds obliging 0 := by
    rw [otaFlashWriteFor, if_pos checked]
  have fits : addr + len < 2 ^ 32 := by
    by_contra wraps
    -- a refused write has its result before the first round
    have refused := keeps.refused (not_contained_of_wraps addr len address (by omega)) 0
    rw [accepted] at refused
    cases refused
  have ends : addr + len ≤ flashEnd := by
    have plain : u32 (addr + len) = addr + len := Nat.mod_eq_of_lt fits
    rwa [plain] at high
  simp only [WordsFit, doublewords]
  by_cases empty : len = 0
  · omega
  · obtain ⟨events, ran, e, member, word, length, op⟩ := rounds_reach addr (fun _ => 0) len
      (by omega) ((len - 1) / 8) obliging 0 obliging_obliges (by omega)
    have confined := keeps.confined ((len - 1) / 8 + 1)
    rw [accepted, given_ran ran] at confined
    have here : u32 (addr + (0 + 8 * ((len - 1) / 8))) = addr + 8 * ((len - 1) / 8) := by
      rw [Nat.zero_add]
      exact Nat.mod_eq_of_lt (by omega)
    have top := confined e member (addr + 8 * ((len - 1) / 8) + 7) (by
      rw [op, here, Op.Touches, length]
      omega)
    omega

/-! ## The two models of the write -/

/-- The chunk at an index is the front of what is left of the data. -/
theorem chunk_at_data (data : List UInt8) (i : Nat) :
    chunkAt (fun j => data.getD j 0) data.length i = paddedChunk ((data.drop i).take 8) := by
  have same : (List.range (if 8 ≤ data.length - i then 8 else data.length - i)).map
      (fun j => data.getD (i + j) 0) = (data.drop i).take 8 := by
    apply List.ext_getElem
    · simp only [List.length_map, List.length_range, List.length_take, List.length_drop]
      split <;> omega
    · intro j left right
      have inside : i + j < data.length := by
        simp only [List.length_take, List.length_drop] at right
        omega
      simp [List.getD_eq_getElem?_getD, List.getElem?_eq_getElem inside]
  rw [chunkAt, same]

/-- Where the index does not wrap around, the rounds end with what the doublewords of
the data give. -/
theorem rounds_end (addr : Nat) (data : List UInt8) (bounded : data.length + 8 ≤ 2 ^ 32)
    (words : Nat) (d : Device) (i : Nat) (grid : i % 8 = 0)
    (count : doublewords (data.length - i) = words) :
    otaFlashWriteRounds addr (fun j => data.getD j 0) data.length (words + 1) d i =
      ((otaFlashWriteLoop d (u32 (addr + i)) (data.drop i) words).1,
        some (otaFlashWriteLoop d (u32 (addr + i)) (data.drop i) words).2) := by
  simp only [doublewords] at count
  induction words generalizing d i with
  | zero =>
    rw [round_done _ _ _ _ _ _ (by omega)]
    rfl
  | succ words ih =>
    have next : u32 (i + 8) = i + 8 := Nat.mod_eq_of_lt (by omega)
    have place : u32 (u32 (addr + i) + 8) = u32 (addr + (i + 8)) := by
      simp only [u32]
      omega
    rw [round_succ _ _ _ _ _ _ (by omega), chunk_at_data, next, otaFlashWriteLoop, List.drop_drop,
      place]
    generalize d.program stmFlash (u32 (addr + i)) (paddedChunk ((data.drop i).take 8)) = outcome
    obtain ⟨after, done⟩ := outcome
    cases done with
    | false => rfl
    | true => exact ih after (i + 8) (by omega) (by omega)

/-- A write of a length whose index cannot wrap around ends, as the write by
doublewords does. -/
theorem write_for_ends (d : Device) (addr : Nat) (data : List UInt8) (address : addr < 2 ^ 32)
    (bounded : data.length + 8 ≤ 2 ^ 32) :
    otaFlashWriteFor (doublewords data.length + 1) d addr (some fun j => data.getD j 0)
        data.length =
      ((otaFlashWrite d addr data).1, some (otaFlashWrite d addr data).2) := by
  have start : u32 (addr + 0) = addr := Nat.mod_eq_of_lt address
  have ends := rounds_end addr data bounded (doublewords data.length) d 0 rfl rfl
  rw [start, List.drop_zero] at ends
  rw [otaFlashWriteFor, otaFlashWrite]
  split
  · exact ends
  · rfl

/-- A longer write does not end on a device that does what it is given: the index
wraps around before it gets to the length. -/
theorem rounds_endless (addr : Nat) (data : Nat → UInt8) (len : Nat) (long : 2 ^ 32 < len + 8)
    (rounds : Nat) (d : Device) (i : Nat) (obliges : Obliging d) (grid : i % 8 = 0)
    (index : i < 2 ^ 32) : (otaFlashWriteRounds addr data len rounds d i).2 = none := by
  induction rounds generalizing d i with
  | zero => rfl
  | succ rounds ih =>
    obtain ⟨done, still⟩ := obliges.program (u32 (addr + i)) (chunkAt data len i)
    have wrapped : u32 (i + 8) % 8 = 0 ∧ u32 (i + 8) < 2 ^ 32 := by
      simp only [u32]
      omega
    rw [round_succ addr data len rounds d i (by omega), if_pos done]
    exact ih _ _ still wrapped.1 wrapped.2

/-! ## Every call -/

/-- Which calls keep to the range: those that are refused, the erases whose range ends
inside the flash and whose pages reach its end, and the writes whose last doubleword
ends inside the flash. -/
theorem driver_range_iff (addr size : UInt32) :
    ((∀ d, EraseKeepsRange d addr.toNat size.toNat) ↔
      inRange addr.toNat size.toNat = false ∨ PagesCover addr.toNat size.toNat) ∧
    ((∀ d data, WriteKeepsRange d addr.toNat data size.toNat) ↔
      inRange addr.toNat size.toNat = false ∨ WordsFit addr.toNat size.toNat) := by
  have address := addr.toNat_lt
  have length := size.toNat_lt
  constructor
  · constructor
    · intro keeps
      cases checked : inRange addr.toNat size.toNat with
      | false => exact Or.inl rfl
      | true => exact Or.inr (pages_cover_of_keeps _ _ address length checked (keeps obliging))
    · intro condition d
      exact erase_keeps_range d _ _ condition
  · constructor
    · intro keeps
      cases checked : inRange addr.toNat size.toNat with
      | false => exact Or.inl rfl
      | true => exact Or.inr (words_fit_of_keeps _ _ address checked (keeps obliging _))
    · intro condition d data
      exact write_keeps_range d _ data _ condition

/-- An erase of 2048 bytes from the middle of the first page takes that page only, and
an erase of nearly the whole address space takes none, both with success; a write of
four bytes at the end of the flash programs past it. -/
theorem driver_leaves_range :
    (otaFlashErase obliging 0x08007400 2048).2 = true ∧
      ¬ EraseKeepsRange obliging 0x08007400 2048 ∧
    otaFlashErase obliging 0x08007000 0xFFFFFFFF = (obliging, true) ∧
      ¬ EraseKeepsRange obliging 0x08007000 0xFFFFFFFF ∧
    ¬ WriteKeepsRange obliging 0x0801FFFC (some fun _ => 0) 4 := by
  refine ⟨rfl, ?_, rfl, ?_, ?_⟩
  · intro keeps
    cases keeps.erased rfl 0x08007800 (by decide) (by decide)
  · intro keeps
    have refused := keeps.refused (not_contained_of_wraps _ _ (by decide) (by decide))
    cases congrArg Prod.snd refused
  · intro keeps
    have programmed := keeps.confined 1 ⟨.program 0x0801FFFC [0, 0, 0, 0, 255, 255, 255, 255], true⟩
      (by decide) 0x08020000 ⟨by decide, by decide⟩
    exact absurd programmed.2 (by decide)

end ObdSimulator.FlashRange
