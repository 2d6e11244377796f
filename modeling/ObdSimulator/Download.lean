import ObdSimulator.BlUds

/-!
# A whole download

The sequence a tester sends to program an image: the download request, its
blocks with a running counter, the transfer exit and CheckMemory. Over a device
that programs exactly aligned and erased doublewords, the sequence is answered
positively throughout, and leaves the image and its VALID record, exactly when
every block but the last fills whole doublewords: a shorter block is padded in
the flash, and the block after it starts off the doubleword grid.
-/

namespace ObdSimulator.BlUds

open NorFlash Bytes

/-! ## The requests -/

/-- A download request with a four-byte address and a size of `slen` bytes. -/
def downloadRequest (slen size : Nat) : List UInt8 :=
  [udsSidRequestDownload, UInt8.ofNat (16 * slen + 4)] ++ be 4 appBase ++ be slen size

/-- The blocks with their running counter. -/
def blockRequests (seq : UInt8) : List (List UInt8) → List (List UInt8)
  | [] => []
  | block :: rest => (udsSidTransferData :: seq :: block) :: blockRequests (seq + 1) rest

/-- The request that ends a transfer. -/
def exitRequest : List UInt8 := [udsSidRequestTransferExit]

/-- The request that checks an image. -/
def checkMemoryRequest (version crc : UInt32) : List UInt8 :=
  [udsSidRoutineControl, 0x01, 0x02, 0x03] ++ be 4 version.toNat ++ be 4 crc.toNat

/-- The tester's sequence for an image cut into blocks. -/
def downloadSequence (slen : Nat) (version : UInt32) (blocks : List (List UInt8)) :
    List (List UInt8) :=
  [downloadRequest slen blocks.flatten.length] ++ blockRequests 1 blocks ++
    [exitRequest, checkMemoryRequest version (zlibCrc32 blocks.flatten)]

/-- Requests served one after the other on the physical address, the `n`-th at
tick `clock n`; the responses in order. -/
def exchange (clock : Nat → Nat) : Nat → Server → List (List UInt8) → Server × List (List UInt8)
  | _, s, [] => (s, [])
  | n, s, request :: rest =>
    let (s, reply) := udsDispatchRequest s (clock n) request .physical
    let (s, responses) := exchange clock (n + 1) s rest
    (s, reply.response :: responses)

/-- The image is in the slot and its record is VALID. -/
structure Programmed (mem : Memory) (image : List UInt8) (version : UInt32) : Prop where
  bytes : readBytes mem appBase image.length = image
  record : blMeta mem =
    ⟨blMetaMagic, blMetaStateValid, version, UInt32.ofNat image.length, zlibCrc32 image⟩
  bootable : blAppCrcOk mem = true

/-- Every block but the last fills whole doublewords. -/
def Aligned (blocks : List (List UInt8)) : Prop :=
  ∀ block ∈ blocks.dropLast, block.length % 8 = 0

/-- An exchange goes on with the server it came to. -/
theorem exchange_append (clock : Nat → Nat) (n : Nat) (s : Server)
    (before after : List (List UInt8)) :
    exchange clock n s (before ++ after) =
      ((exchange clock (n + before.length) (exchange clock n s before).1 after).1,
        (exchange clock n s before).2 ++
          (exchange clock (n + before.length) (exchange clock n s before).1 after).2) := by
  induction before generalizing n s with
  | nil => simp [exchange]
  | cons request rest ih =>
    have count : n + 1 + rest.length = n + (rest.length + 1) := by omega
    simp only [List.cons_append, exchange, ih, count, List.length_cons]

/-! ## Each request -/

/-- Programming session, unlocked, over a device that meets no fault. -/
structure Open (s : Server) : Prop where
  session : diagSessionGet s.session = .programming
  unlocked : diagSessionSecurityUnlocked s.session = true
  standard : s.flash.accepts = writable stmFlash
  faults : s.flash.faults = []

/-- An open server lets flash services through. -/
theorem Open.gate {s : Server} (opened : Open s) : gateFlashServices s.session = none := by
  simp [gateFlashServices, opened.session, opened.unlocked]

/-- Only the session's gate and the device matter. -/
theorem Open.of_same {s s' : Server} (opened : Open s)
    (session : s'.session = diagSessionResetS3Timeout s.session now)
    (standard : s'.flash.accepts = writable stmFlash) (faults : s'.flash.faults = []) :
    Open s' where
  session := by
    rw [session]
    exact opened.session
  unlocked := by
    rw [session]
    exact opened.unlocked
  standard := standard
  faults := faults

/-- On the physical address an accepted request runs its command, and a positive
download response is never suppressed. -/
theorem dispatch_command (s : Server) (now : Nat) (request : List UInt8) (c : Command)
    (is_command : command s request .physical = some c)
    (plain : byte request 0 ∉ suppressibleSids ∨ byte request 1 &&& 0x80 = 0) :
    udsDispatchRequest s now request .physical = c.run (stamped s now) := by
  have served := (serve_request_command s now request .physical).1 c is_command
  have sent : suppressed request (c.run (stamped s now)).2.response = false := by
    unfold suppressed
    rcases plain with other | clear
    · simp [other]
    · simp [clear]
  simp [udsDispatchRequest, served, sent]

/-- Behind the gate the checks of each service decide whether its request is a command.
-/
theorem command_of_check (s : Server) (request : List UInt8) (nonempty : request ≠ [])
    (gate : gateFlashServices s.session = none) :
    (∀ size, byte request 0 = udsSidRequestDownload → checkRequestDownload request = .ok size →
      command s request .physical = some (.requestDownload size)) ∧
    (∀ seq data, byte request 0 = udsSidTransferData →
      checkTransferData s.xfer request = .ok (seq, data) →
      command s request .physical = some (.transferData seq data)) ∧
    (∀ version crc, byte request 0 = udsSidRoutineControl →
      checkRoutineControl s request = .ok (version, crc) →
      command s request .physical =
        some (.checkMemory (subFunction (byte request 1)) version crc)) := by
  have reaches : admitted request .physical = true := by
    simp [admitted, nonempty]
  have through : ¬ (admitted request .physical = false ∨
      (gateFlashServices s.session).isSome = true) := by
    simp [reaches, gate]
  have transfer_sid : udsSidTransferData ≠ udsSidRequestDownload := by decide
  have routine_sid : udsSidRoutineControl ≠ udsSidRequestDownload ∧
      udsSidRoutineControl ≠ udsSidTransferData := by decide
  refine ⟨?_, ?_, ?_⟩
  · intro size service accepted
    simp only [command, if_neg through, service, if_true, accepted]
  · intro seq data service accepted
    simp only [command, if_neg through, service, if_neg transfer_sid, if_true, accepted]
  · intro version crc service accepted
    simp only [command, if_neg through, service, if_neg routine_sid.1, if_neg routine_sid.2,
      if_true, accepted]

/-- The download request of an image that fits is accepted with its size. -/
theorem check_download_request (slen size : Nat) (some_bytes : 1 ≤ slen) (few : slen ≤ 4)
    (fits : size < 256 ^ slen) (positive : 0 < size) (slot : size ≤ appSlotSize) :
    checkRequestDownload (downloadRequest slen size) = .ok size := by
  have second : byte (downloadRequest slen size) 1 = UInt8.ofNat (16 * slen + 4) := rfl
  have low : ((UInt8.ofNat (16 * slen + 4)) &&& 0x0F).toNat = 4 ∧
      (((UInt8.ofNat (16 * slen + 4)) >>> 4) &&& 0x0F).toNat = slen := by
    match slen, some_bytes, few with
    | 1, _, _ => decide
    | 2, _, _ => decide
    | 3, _, _ => decide
    | 4, _, _ => decide
  have addr : ofBe (((downloadRequest slen size).drop 2).take 4) = appBase := by
    have field : ((downloadRequest slen size).drop 2).take 4 = be 4 appBase := by
      simp [downloadRequest]
    rw [field, of_be_be]
    rfl
  have count : ofBe (((downloadRequest slen size).drop (2 + 4)).take slen) = size := by
    have field : ((downloadRequest slen size).drop (2 + 4)).take slen = be slen size := by
      simp [downloadRequest, List.take_of_length_le]
    rw [field, of_be_be, Nat.mod_eq_of_lt fits]
  have length : (downloadRequest slen size).length = 6 + slen := by
    simp [downloadRequest]
    omega
  unfold checkRequestDownload
  simp only [second, low.1, low.2, addr, count, length]
  rw [if_neg (by omega), if_neg (by omega), if_neg (by omega), if_neg (by simp; omega)]

/-- An open transfer of an image: `done` is stored, the marker is set, and from an
aligned offset on the slot is still erased. -/
structure Transferring (s : Server) (size : Nat) (saved : UInt32) (done : List UInt8) : Prop where
  openGate : Open s
  xfer : ∃ seq, s.xfer = ⟨true, false, size, done.length, seq⟩
  saved : s.savedRollback = saved
  fits : done.length ≤ size ∧ size ≤ appSlotSize
  stored : readBytes s.flash.mem appBase done.length = done
  erased : done.length % 8 = 0 →
    Erased s.flash.mem (appBase + done.length) (appBase + 8 * doublewords size)

/-- The pages of an image cover its doublewords. -/
theorem doublewords_le_pages (size : Nat) : 8 * doublewords size ≤ 2048 * imagePages size := by
  simp only [doublewords, imagePages]
  omega

/-- The confirmation of an announcement is positive. -/
theorem request_download_positive : Positive requestDownloadResponse := by decide

/-- The download request of a conforming image opens a transfer. -/
theorem download_opens (s : Server) (now slen size : Nat) (opened : Open s)
    (some_bytes : 1 ≤ slen) (few : slen ≤ 4) (fits : size < 256 ^ slen) (positive : 0 < size)
    (slot : size ≤ appSlotSize) :
    Positive (udsDispatchRequest s now (downloadRequest slen size) .physical).2.response ∧
      Transferring (udsDispatchRequest s now (downloadRequest slen size) .physical).1 size
        (blMetaRollbackCounter s.flash.mem) [] ∧
      (udsDispatchRequest s now (downloadRequest slen size) .physical).1.xfer.blockSeq = 1 := by
  have accepted := check_download_request slen size some_bytes few fits positive slot
  have is_command := (command_of_check s (downloadRequest slen size) (by simp [downloadRequest])
    opened.gate).1 size rfl accepted
  have ran := dispatch_command s now _ _ is_command (Or.inl (by
    have first : byte (downloadRequest slen size) 0 = udsSidRequestDownload := rfl
    rw [first]
    decide))
  obtain ⟨flash, ok, attempts, result⟩ :=
    request_download_attempts (stamped s now) size opened.standard slot
  obtain ⟨success, done⟩ := attempts.clean opened.faults
  rw [ran, Command.run, result, success, if_pos rfl]
  have erased : Erased flash.mem appBase (appBase + 8 * doublewords size) := by
    have split := done.mem
    rw [downloadOps, doneEvents, List.map_append, ← doneEvents, ← doneEvents,
      replay_append] at split
    rw [split]
    have pages := doublewords_le_pages size
    have first : stmFlash.pageStart slotPage = appBase := rfl
    have last : stmFlash.pageStart (slotPage + imagePages size) =
        appBase + 2048 * imagePages size := by
      have size_ : stmFlash.pageSize = 2048 := rfl
      have base : stmFlash.base = 0x08000000 := rfl
      have page : slotPage = 14 := rfl
      obtain ⟨app, _⟩ := slot_values
      simp only [Geometry.pageStart, size_, base, page, app]
      omega
    intro a low high
    exact erase_ops_erased _ slotPage (imagePages size) a (by rw [first]; exact low)
      (by rw [last]; omega)
  refine ⟨request_download_positive, ?_, rfl⟩
  refine ⟨opened.of_same rfl ?_ ?_, ⟨1, rfl⟩, rfl, ⟨Nat.zero_le _, slot⟩, rfl, fun _ => erased⟩
  · exact done.accepts.trans opened.standard
  · have clean := done.faults
    rw [show (stamped s now).flash.faults = [] from opened.faults, List.drop_nil] at clean
    exact clean

/-- The next block of an open transfer is accepted. -/
theorem block_command (s : Server) (size : Nat) (saved : UInt32) (done block : List UInt8)
    (transferring : Transferring s size saved done) (some_data : 0 < block.length)
    (room : done.length + block.length ≤ size) :
    command s (udsSidTransferData :: s.xfer.blockSeq :: block) .physical =
      some (.transferData s.xfer.blockSeq block) := by
  obtain ⟨seq, xfer⟩ := transferring.xfer
  obtain ⟨_, slot⟩ := transferring.fits
  obtain ⟨_, slot_size, _, _⟩ := slot_values
  refine (command_of_check s _ (by simp) transferring.openGate.gate).2.1 _ _ rfl ?_
  have sum : u32 (done.length + block.length) = done.length + block.length :=
    Nat.mod_eq_of_lt (by omega)
  unfold checkTransferData
  simp only [xfer, List.drop_succ_cons, List.drop_zero, sum]
  rw [if_neg (by simp; omega), if_neg (by simp [byte]), if_neg (by omega)]
  rfl

/-- The block lands on the doubleword grid or not at all. -/
theorem block_dispatch (s : Server) (now size : Nat) (saved : UInt32) (done block : List UInt8)
    (transferring : Transferring s size saved done) (some_data : 0 < block.length)
    (room : done.length + block.length ≤ size) :
    udsDispatchRequest s now (udsSidTransferData :: s.xfer.blockSeq :: block) .physical =
      transferData (stamped s now) s.xfer.blockSeq block := by
  refine dispatch_command s now _ _ (block_command s size saved done block transferring some_data
    room) (Or.inl ?_)
  have first : byte (udsSidTransferData :: s.xfer.blockSeq :: block) 0 = udsSidTransferData := rfl
  rw [first]
  decide

/-- A block programmed behind the stored bytes is read back with them. -/
theorem read_appended (mem : Memory) (addr : Nat) (done block : List UInt8)
    (stored : readBytes mem addr done.length = done) :
    readBytes (programWord mem (addr + done.length) (padded block (doublewords block.length))) addr
      (done ++ block).length = done ++ block := by
  have block_bytes := read_bytes_program mem (addr + done.length)
    (padded block (doublewords block.length)) 0 block.length (by simp [padded])
  rw [List.length_append, read_bytes_add,
    read_bytes_program_elsewhere _ _ _ _ _ (Or.inl (Nat.le_refl _)), stored]
  simpa [padded] using block_bytes

/-- A block at an aligned offset is programmed and answered positively. -/
theorem block_stored (s : Server) (now size : Nat) (saved : UInt32) (done block : List UInt8)
    (transferring : Transferring s size saved done) (aligned : done.length % 8 = 0)
    (some_data : 0 < block.length) (room : done.length + block.length ≤ size) :
    Positive (udsDispatchRequest s now (udsSidTransferData :: s.xfer.blockSeq :: block)
        .physical).2.response ∧
      Transferring (udsDispatchRequest s now (udsSidTransferData :: s.xfer.blockSeq :: block)
        .physical).1 size saved (done ++ block) ∧
      (udsDispatchRequest s now (udsSidTransferData :: s.xfer.blockSeq :: block)
        .physical).1.xfer.blockSeq = s.xfer.blockSeq + 1 := by
  rw [block_dispatch s now size saved done block transferring some_data room]
  obtain ⟨seq, xfer⟩ := transferring.xfer
  obtain ⟨inside, slot⟩ := transferring.fits
  obtain ⟨app, slot_size, record, _⟩ := slot_values
  have written : s.xfer.written = done.length := by rw [xfer]
  have total : s.xfer.size = size := by rw [xfer]
  obtain ⟨events, flash, ok, ran, _, stored, result, loop⟩ := transfer_data_ran (stamped s now)
    s.xfer.blockSeq block (Device.aligning_of_standard transferring.openGate.standard)
    ⟨by simpa [stamped, xfer] using inside, by simpa [stamped, xfer] using slot⟩ some_data
    (by simpa [stamped, xfer] using room)
  simp only [stamped, written] at stored result loop
  have words : doublewords block.length = (block.length + 7) / 8 := rfl
  have all_words : doublewords size = (size + 7) / 8 := rfl
  have blank : Erased s.flash.mem (appBase + done.length)
      (appBase + done.length + 8 * doublewords block.length) := by
    intro a low high
    exact transferring.erased aligned a low (by omega)
  have attempts := write_loop_attempts s.flash (appBase + done.length) block
    (doublewords block.length) transferring.openGate.standard (by omega) (by omega) blank
  have success : ok = true := by
    rw [loop]
    exact (attempts.clean transferring.openGate.faults).1
  obtain ⟨_, image⟩ := stored success
  rw [show stamped s now = { s with session := diagSessionResetS3Timeout s.session now } from rfl,
    result, success, if_pos rfl]
  refine ⟨⟨by simp, by simp [byte]; decide⟩, ⟨transferring.openGate.of_same rfl ?_ ?_,
    ⟨s.xfer.blockSeq + 1, ?_⟩, transferring.saved, ⟨?_, slot⟩, ?_, ?_⟩, rfl⟩
  · exact ran.accepts.trans transferring.openGate.standard
  · have clean := ran.faults
    rw [show (stamped s now).flash.faults = [] from transferring.openGate.faults,
      List.drop_nil] at clean
    exact clean
  · simp [xfer]
  · rw [List.length_append]
    exact room
  · simp only [image]
    exact read_appended s.flash.mem appBase done block transferring.stored
  · intro still a low high
    rw [List.length_append] at still low
    have length := padded_length block (doublewords block.length)
      (length_le_doublewords block.length)
    simp only [image]
    rw [program_elsewhere _ _ _ _ (Or.inr (by omega))]
    exact transferring.erased aligned a (by omega) high

/-- A block at an offset off the grid is refused. -/
theorem block_refused (s : Server) (now size : Nat) (saved : UInt32) (done block : List UInt8)
    (transferring : Transferring s size saved done) (misaligned : done.length % 8 ≠ 0)
    (some_data : 0 < block.length) (room : done.length + block.length ≤ size) :
    ¬ Positive (udsDispatchRequest s now (udsSidTransferData :: s.xfer.blockSeq :: block)
      .physical).2.response := by
  rw [block_dispatch s now size saved done block transferring some_data room]
  obtain ⟨seq, xfer⟩ := transferring.xfer
  obtain ⟨inside, slot⟩ := transferring.fits
  obtain ⟨app, slot_size, record, _⟩ := slot_values
  have written : s.xfer.written = done.length := by rw [xfer]
  obtain ⟨events, flash, ok, _, _, stored, result, _⟩ := transfer_data_ran (stamped s now)
    s.xfer.blockSeq block (Device.aligning_of_standard transferring.openGate.standard)
    ⟨by simpa [stamped, xfer] using inside, by simpa [stamped, xfer] using slot⟩ some_data
    (by simpa [stamped, xfer] using room)
  have failed : ok = false := by
    cases ok with
    | false => rfl
    | true =>
      have grid := (stored rfl).1
      simp only [stamped, written] at grid
      omega
  rw [result, failed]
  exact nrc_not_positive _ _

/-! ## Blocks in a row -/

/-- The first of several blocks fills whole doublewords. -/
theorem aligned_cons (block next : List UInt8) (rest : List (List UInt8)) :
    Aligned (block :: next :: rest) ↔ block.length % 8 = 0 ∧ Aligned (next :: rest) := by
  simp [Aligned]

/-- From an aligned offset the blocks are all answered positively exactly when
every one but the last fills whole doublewords; then all of them are stored.

Proof: induction on the blocks. A block at an aligned offset is stored; if it
does not fill its doublewords, the block after it is refused. -/
theorem blocks_stored_iff (clock : Nat → Nat) (n : Nat) (s : Server) (size : Nat)
    (saved : UInt32) (done : List UInt8) (blocks : List (List UInt8))
    (transferring : Transferring s size saved done) (aligned : done.length % 8 = 0)
    (some_data : ∀ block ∈ blocks, 0 < block.length)
    (room : done.length + blocks.flatten.length ≤ size) :
    ((∀ response ∈ (exchange clock n s (blockRequests s.xfer.blockSeq blocks)).2,
        Positive response) ↔ Aligned blocks) ∧
      (Aligned blocks → Transferring (exchange clock n s
        (blockRequests s.xfer.blockSeq blocks)).1 size saved (done ++ blocks.flatten)) := by
  induction blocks generalizing n s done with
  | nil =>
    refine ⟨by simp [blockRequests, exchange, Aligned], fun _ => ?_⟩
    simpa [blockRequests, exchange] using transferring
  | cons block rest ih =>
    have data := some_data block List.mem_cons_self
    rw [List.flatten_cons, List.length_append] at room
    obtain ⟨positive, next, seq⟩ := block_stored s (clock n) size saved done block transferring
      aligned data (by omega)
    simp only [blockRequests, exchange, List.mem_cons, forall_eq_or_imp]
    generalize udsDispatchRequest s (clock n) (udsSidTransferData :: s.xfer.blockSeq :: block)
      .physical = out at positive next seq
    obtain ⟨after, reply⟩ := out
    simp only at positive next seq
    have later : ∀ b ∈ rest, 0 < b.length :=
      fun b member => some_data b (List.mem_cons_of_mem _ member)
    have room' : (done ++ block).length + rest.flatten.length ≤ size := by
      rw [List.length_append]
      omega
    cases rest with
    | nil =>
      refine ⟨by simp [blockRequests, exchange, Aligned, positive], fun _ => ?_⟩
      simpa [blockRequests, exchange] using next
    | cons second rest =>
      rw [aligned_cons]
      by_cases whole : block.length % 8 = 0
      · have still : (done ++ block).length % 8 = 0 := by
          rw [List.length_append]
          omega
        have tail := ih (n + 1) after (done ++ block) next still later room'
        rw [seq] at tail
        simp only [positive, true_and, whole]
        refine ⟨tail.1, fun rest_aligned => ?_⟩
        rw [List.flatten_cons, ← List.append_assoc]
        exact tail.2 rest_aligned
      · have off : (done ++ block).length % 8 ≠ 0 := by
          rw [List.length_append]
          omega
        have refused := block_refused after (clock (n + 1)) size saved (done ++ block) second next
          off (later second List.mem_cons_self) (by
            simp only [List.flatten_cons, List.length_append] at room' ⊢
            omega)
        rw [seq] at refused
        simp only [whole, false_and, iff_false, not_and, false_implies, and_true]
        intro _ all
        refine refused (all _ ?_)
        simp [blockRequests, exchange]

/-! ## Exit and check -/

/-- A closed transfer of an image. -/
structure Closed (s : Server) (saved : UInt32) (image : List UInt8) : Prop where
  openGate : Open s
  active : s.xfer.active = true
  closed : s.xfer.closed = true
  written : s.xfer.written = image.length
  saved : s.savedRollback = saved
  stored : readBytes s.flash.mem appBase image.length = image

/-- The exit closes a transfer, whatever of it was received. -/
theorem exit_closes (s : Server) (now size : Nat) (saved : UInt32) (image : List UInt8)
    (transferring : Transferring s size saved image) :
    Positive (udsDispatchRequest s now exitRequest .physical).2.response ∧
      Closed (udsDispatchRequest s now exitRequest .physical).1 saved image := by
  obtain ⟨seq, xfer⟩ := transferring.xfer
  have opened := transferring.openGate
  have served : serveRequest s now exitRequest .physical =
      handleRequestTransferExit (stamped s now) exitRequest := by
    have reaches : admitted exitRequest .physical = true := by decide
    have switch := (serve_download (stamped s now) now exitRequest opened.gate).2.2.1 rfl
    rw [← switch, serveRequest, if_pos reaches]
    rfl
  have handled : handleRequestTransferExit (stamped s now) exitRequest =
      ({ stamped s now with xfer := { s.xfer with closed := true } },
        { response := [udsSidRequestTransferExit + udsResponseSidOffset] }) := by
    unfold handleRequestTransferExit
    rw [if_neg (by simp [stamped, xfer, exitRequest])]
    rfl
  have answer : Positive [udsSidRequestTransferExit + udsResponseSidOffset] := by decide
  have sent : suppressed exitRequest [udsSidRequestTransferExit + udsResponseSidOffset] =
      false := by decide
  rw [udsDispatchRequest, served, handled]
  simp only [sent, Bool.false_eq_true, if_false]
  refine ⟨answer, opened.of_same rfl opened.standard opened.faults, ?_, rfl, ?_,
    transferring.saved, transferring.stored⟩
  · simp [xfer]
  · simp [xfer]

/-- The VALID record over a stored image makes it bootable. -/
theorem image_programmed (mem : Memory) (image : List UInt8) (version : UInt32)
    (stored : readBytes mem appBase image.length = image) (some_data : 0 < image.length)
    (slot : image.length ≤ appSlotSize) :
    Programmed (metaImage mem (validMeta version (zlibCrc32 image) image.length) 3) image
      version := by
  obtain ⟨app, slot_size, record, _⟩ := slot_values
  have bytes : readBytes (metaImage mem (validMeta version (zlibCrc32 image) image.length) 3)
      appBase image.length = image := by
    refine Eq.trans (read_bytes_congr ?_) stored
    intro a _ high
    exact meta_image_elsewhere _ _ 3 a (by omega)
  have meta_record := meta_image_whole mem (validMeta version (zlibCrc32 image) image.length)
  have size : (UInt32.ofNat image.length).toNat = image.length := by
    rw [UInt32.toNat_ofNat', Nat.mod_eq_of_lt (by omega)]
  generalize metaImage mem (validMeta version (zlibCrc32 image) image.length) 3 = after
    at bytes meta_record
  refine ⟨bytes, meta_record, ?_⟩
  rw [blAppCrcOk]
  simp only [meta_record, validMeta, size]
  rw [if_neg (by simp), if_neg (by omega), bytes, bl_crc32_zlib]
  simp

/-- CheckMemory over a closed transfer stores the VALID record. -/
theorem check_programs (s : Server) (now : Nat) (saved version : UInt32) (image : List UInt8)
    (closed : Closed s saved image) (some_data : 0 < image.length)
    (slot : image.length ≤ appSlotSize) (floor : saved ≤ version) :
    Positive (udsDispatchRequest s now (checkMemoryRequest version (zlibCrc32 image))
        .physical).2.response ∧
      Programmed (udsDispatchRequest s now (checkMemoryRequest version (zlibCrc32 image))
        .physical).1.flash.mem image version := by
  have word (x : UInt32) : UInt32.ofNat (ofBe (be 4 x.toNat)) = x := by
    have bound : x.toNat < 256 ^ 4 := x.toNat_lt
    rw [of_be_be, Nat.mod_eq_of_lt bound, UInt32.ofNat_toNat]
  have version_field : requestVersion (checkMemoryRequest version (zlibCrc32 image)) = version := by
    rw [requestVersion]
    simpa [checkMemoryRequest, List.take_append_of_le_length] using word version
  have crc_field : requestCrc (checkMemoryRequest version (zlibCrc32 image)) =
      zlibCrc32 image := by
    rw [requestCrc]
    simpa [checkMemoryRequest, List.drop_append, List.drop_of_length_le,
      List.take_of_length_le] using word (zlibCrc32 image)
  have length : (checkMemoryRequest version (zlibCrc32 image)).length = 12 := by
    simp [checkMemoryRequest]
  have crc : blCrc32 (readBytes s.flash.mem appBase s.xfer.written) = zlibCrc32 image := by
    rw [closed.written, closed.stored, bl_crc32_zlib]
  have accepted : checkRoutineControl s (checkMemoryRequest version (zlibCrc32 image)) =
      .ok (version, zlibCrc32 image) := by
    have sub : byte (checkMemoryRequest version (zlibCrc32 image)) 1 = 0x01 := rfl
    have routine : subFunction 0x01 = 0x01 := by decide
    have named : byte (checkMemoryRequest version (zlibCrc32 image)) 2 = 0x02 ∧
        byte (checkMemoryRequest version (zlibCrc32 image)) 3 = 0x03 := ⟨rfl, rfl⟩
    have some_image : image ≠ [] := List.length_pos_iff.mp some_data
    unfold checkRoutineControl
    simp only [version_field, crc_field, length, crc, named.1, named.2, sub, routine]
    have proceeds : ¬ (s.xfer.active = false ∨ s.xfer.closed = false ∨ (12 : Nat) ≠ 12 ∨
        s.xfer.written = 0) := by
      simp [closed.active, closed.closed, closed.written, some_image]
    have newer : ¬ version < s.savedRollback := by
      rw [closed.saved]
      exact UInt32.not_lt.mpr floor
    rw [if_neg (by omega), if_neg (by simp), if_neg (by simp), if_neg proceeds, if_neg newer,
      if_neg (by simp)]
  have is_command := (command_of_check s _ (by simp [checkMemoryRequest])
    closed.openGate.gate).2.2 _ _ rfl accepted
  have shown : byte (checkMemoryRequest version (zlibCrc32 image)) 1 &&& 0x80 = 0 := by
    have sub : byte (checkMemoryRequest version (zlibCrc32 image)) 1 = 0x01 := rfl
    rw [sub]
    decide
  have ran := dispatch_command s now _ _ is_command (Or.inr shown)
  obtain ⟨flash, ok, attempts, result⟩ := check_memory_attempts (stamped s now)
    (subFunction (byte (checkMemoryRequest version (zlibCrc32 image)) 1)) version
    (zlibCrc32 image) closed.openGate.standard
  obtain ⟨success, done⟩ := attempts.clean closed.openGate.faults
  have image_mem : flash.mem = metaImage s.flash.mem
      (validMeta version (zlibCrc32 image) image.length) 3 := by
    have all := replay_meta_ops s.flash.mem (validMeta version (zlibCrc32 image) image.length) 3
      (by omega)
    rw [List.take_of_length_le (by rw [meta_ops_length])] at all
    rw [← all, done.mem, ← closed.written]
    rfl
  rw [ran, Command.run, result, success, if_pos rfl]
  refine ⟨⟨by simp [checkMemoryResponse], by simp [checkMemoryResponse, byte]; decide⟩, ?_⟩
  rw [image_mem]
  exact image_programmed s.flash.mem image version closed.stored some_data slot

/-! ## The whole sequence -/

/-- What a tester may ask for: an encodable image of 1 to 92 KB in non-empty
blocks of at most the announced request length, at a version that is not below
the counter. -/
structure Conforming (s : Server) (slen : Nat) (version : UInt32)
    (blocks : List (List UInt8)) : Prop where
  size_bytes : 1 ≤ slen ∧ slen ≤ 4
  encodes : blocks.flatten.length < 256 ^ slen
  some_data : 0 < blocks.flatten.length
  fits : blocks.flatten.length ≤ appSlotSize
  nonempty : ∀ block ∈ blocks, 0 < block.length
  announced : ∀ block ∈ blocks, 2 + block.length ≤ 0xF8
  floor : blMetaRollbackCounter s.flash.mem ≤ version

/-- A conforming download is answered positively at every step and programs the
exact image exactly when every block but the last fills whole doublewords.

Proof: the download request opens the transfer over an erased slot, the blocks
go by induction, and exit and check follow from a stored image. -/
theorem conforming_download_iff (clock : Nat → Nat) (s : Server) (slen : Nat) (version : UInt32)
    (blocks : List (List UInt8)) (opened : Open s)
    (conforming : Conforming s slen version blocks) :
    ((∀ response ∈ (exchange clock 0 s (downloadSequence slen version blocks)).2,
        Positive response) ∧
      Programmed (exchange clock 0 s (downloadSequence slen version blocks)).1.flash.mem
        blocks.flatten version) ↔ Aligned blocks := by
  obtain ⟨positive, transferring, seq⟩ := download_opens s (clock 0) slen blocks.flatten.length
    opened conforming.size_bytes.1 conforming.size_bytes.2 conforming.encodes
    conforming.some_data conforming.fits
  rw [downloadSequence, List.append_assoc, exchange_append, exchange_append]
  simp only [exchange, List.length_singleton, Nat.zero_add]
  generalize udsDispatchRequest s (clock 0) (downloadRequest slen blocks.flatten.length)
    .physical = first at positive transferring seq
  obtain ⟨s₁, reply⟩ := first
  simp only at positive transferring seq
  obtain ⟨all_positive, stored⟩ := blocks_stored_iff clock 1 s₁ blocks.flatten.length _ [] blocks
    transferring rfl conforming.nonempty (by simp)
  rw [seq] at all_positive stored
  generalize exchange clock 1 s₁ (blockRequests 1 blocks) = second at all_positive stored
  obtain ⟨s₂, responses⟩ := second
  simp only [List.nil_append] at all_positive stored
  constructor
  · rintro ⟨every, _⟩
    refine all_positive.mp ?_
    intro response member
    exact every response (by simp [member])
  · intro aligned
    have image := stored aligned
    obtain ⟨exit_positive, closed⟩ := exit_closes s₂ (clock (1 + (blockRequests 1 blocks).length))
      blocks.flatten.length _ blocks.flatten image
    generalize udsDispatchRequest s₂ (clock (1 + (blockRequests 1 blocks).length)) exitRequest
      .physical = third at exit_positive closed
    obtain ⟨s₃, exit_reply⟩ := third
    simp only at exit_positive closed
    obtain ⟨check_positive, programmed⟩ := check_programs s₃
      (clock (1 + (blockRequests 1 blocks).length + 1)) _ version blocks.flatten closed
      conforming.some_data conforming.fits conforming.floor
    refine ⟨?_, programmed⟩
    have blocks_positive := all_positive.mpr aligned
    intro response member
    simp only [List.cons_append, List.nil_append, List.mem_cons, List.mem_append,
      List.not_mem_nil, or_false] at member
    rcases member with rfl | inside | rfl | rfl
    · exact positive
    · exact blocks_positive response inside
    · exact exit_positive
    · exact check_positive

/-- An unlocked server in the programming session over an erased flash. -/
def unlockedServer : Server where
  session := { sessionType := .programming, securityLevel := .level1 }
  flash := Device.standard stmFlash (fun _ => 0xFF) []

/-- Two one-byte blocks conform, and the second is refused. -/
theorem short_block_refused : ¬ ∀ (clock : Nat → Nat) (s : Server) (slen : Nat)
    (version : UInt32) (blocks : List (List UInt8)), Open s → Conforming s slen version blocks →
    (∀ response ∈ (exchange clock 0 s (downloadSequence slen version blocks)).2,
        Positive response) ∧
      Programmed (exchange clock 0 s (downloadSequence slen version blocks)).1.flash.mem
        blocks.flatten version := by
  intro claimed
  have conforming : Conforming unlockedServer 1 0 [[0x31], [0x32]] := by
    refine ⟨by decide, by decide, by decide, by decide, by decide, by decide, ?_⟩
    decide +kernel
  have positive := (claimed (fun _ => 0) unlockedServer 1 0 [[0x31], [0x32]] ⟨rfl, rfl, rfl, rfl⟩
    conforming).1
  have answers : (exchange (fun _ => 0) 0 unlockedServer
      (downloadSequence 1 0 [[0x31], [0x32]])).2 =
        [requestDownloadResponse, [0x76, 1], nrc udsSidTransferData nrcGeneralProgrammingFailure,
          [0x77], nrc udsSidRoutineControl nrcGeneralProgrammingFailure] := by
    decide +kernel
  rw [answers] at positive
  exact nrc_not_positive _ _
    (positive (nrc udsSidTransferData nrcGeneralProgrammingFailure) (by simp))

/-- An image of ten bytes in blocks of eight and two is programmed. -/
theorem aligned_blocks_programmed :
    (∀ response ∈ (exchange (fun _ => 0) 0 unlockedServer (downloadSequence 1 3
        [[1, 2, 3, 4, 5, 6, 7, 8], [9, 10]])).2, Positive response) ∧
      Programmed (exchange (fun _ => 0) 0 unlockedServer (downloadSequence 1 3
        [[1, 2, 3, 4, 5, 6, 7, 8], [9, 10]])).1.flash.mem [1, 2, 3, 4, 5, 6, 7, 8, 9, 10] 3 := by
  have conforming : Conforming unlockedServer 1 3 [[1, 2, 3, 4, 5, 6, 7, 8], [9, 10]] := by
    refine ⟨by decide, by decide, by decide, by decide, by decide, by decide, ?_⟩
    decide +kernel
  refine (conforming_download_iff (fun _ => 0) unlockedServer 1 3
    [[1, 2, 3, 4, 5, 6, 7, 8], [9, 10]] ⟨rfl, rfl, rfl, rfl⟩ conforming).mpr ?_
  unfold Aligned
  decide

end ObdSimulator.BlUds
