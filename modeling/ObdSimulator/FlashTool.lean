import ObdSimulator.Download
import ObdSimulator.EcuService

/-!
# The flash tool

`flash_full_cycle` of `fbl_test.py` against the device, on the bus. Two results. When
the tester reports success, the image is in the flash and bootable, whatever was lost,
however often the device was reset or lost power, and whichever flash primitives
failed. And on a bus on which nothing goes wrong the tester does report success.

The first is proved over assertions that no drift of the device ends; the part that
was stored is what they speak of, and that a transfer that is still active goes on
behind it.
-/

namespace ObdSimulator.TesterBus

open Bytes NorFlash Tester Calls BlUds
open IsoTp (World)
open Ecu (Node ecuUpper)

variable {allowed : World Node → Other → Prop}

/-! ## What a positive reply tells -/

/-- A call of a service that acts on the flash. -/
structure Flashing (c : Call) : Prop where
  filled : 0 < c.payload.length
  service : byte c.payload 0 = c.sid
  kind : c.sid = udsSidRequestDownload ∨ c.sid = udsSidTransferData ∨
    (c.sid = udsSidRoutineControl ∧ 4 ≤ c.payload.length ∧ byte c.payload 2 = 0x02 ∧
      byte c.payload 3 = 0x03)

/-- The tester calls a reply positive by its first byte. -/
theorem positive_first (response : List UInt8) (sid : UInt8)
    (positive : (replyOf response sid).positive = true) :
    (byte response 0).toNat = sid.toNat + 0x40 := by
  by_contra other
  rw [replyOf, if_neg other] at positive
  split at positive
  · cases positive
  · cases positive

/-- Silence is no positive reply. -/
theorem nothing_not_positive (response : List UInt8) (sid : UInt8)
    (positive : (byte response 0).toNat = sid.toNat + 0x40) : response ≠ [] := by
  rintro rfl
  have zero : (byte [] 0).toNat = 0 := rfl
  omega

/-- A positive answer to a flash call is one that only a download gives, and not a
negative response. -/
theorem flashing_answer (c : Call) (flashing : Flashing c) (first : UInt8)
    (positive : first.toNat = c.sid.toNat + 0x40) : first ∈ downloadAnswers ∧ first ≠ 0x7F := by
  have same (code : UInt8) (value : c.sid.toNat + 0x40 = code.toNat) : first = code :=
    UInt8.toNat_inj.mp (positive.trans value)
  rcases flashing.kind with download | transfer | ⟨routine, _⟩
  · rw [same 0x74 (by rw [download]; rfl)]
    decide
  · rw [same 0x76 (by rw [transfer]; rfl)]
    decide
  · rw [same 0x71 (by rw [routine]; rfl)]
    decide

/-- The application refuses what the tool asks of the bootloader. -/
theorem app_refuses (n : Node) (c : Call) (hal : Nat) (buffer : List UInt8)
    (flashing : Flashing c) (stored : buffer.take c.payload.length = c.payload) :
    byte (UdsService.udsDispatchRequest n.mem n.app hal buffer c.payload.length .physical).2 0 =
      0x7F := by
  have service : byte buffer 0 = c.sid :=
    (buffer_byte buffer c.payload stored 0 flashing.filled).trans flashing.service
  have unknown (among : byte buffer 0 ∈
      [udsSidRequestDownload, udsSidTransferData, udsSidRequestTransferExit]) :
      byte (UdsService.udsDispatchRequest n.mem n.app hal buffer c.payload.length .physical).2 0 =
        0x7F := by
    rw [app_unsupported n.mem n.app hal buffer c.payload.length flashing.filled among]
    rfl
  rcases flashing.kind with download | transfer | ⟨routine, long, high, low⟩
  · apply unknown
    rw [service, download]
    decide
  · apply unknown
    rw [service, transfer]
    decide
  · have third := buffer_byte buffer c.payload stored 2 (by omega)
    have fourth := buffer_byte buffer c.payload stored 3 (by omega)
    rw [high] at third
    rw [low] at fourth
    have refused (s : UdsService.App) : ∃ code,
        (UdsService.serve n.mem s hal buffer c.payload.length).2 =
          nrc udsSidRoutineControl code := by
      have served : UdsService.serve n.mem s hal buffer c.payload.length =
          UdsService.gated s udsSidRoutineControl
            (UdsService.handleRoutineControl s buffer c.payload.length) := by
        simp only [UdsService.serve, service, routine]
        rfl
      rw [served, UdsService.gated, UdsService.handleRoutineControl, third, fourth]
      split
      · exact ⟨_, rfl⟩
      · simp only
        split
        · exact ⟨_, rfl⟩
        · split
          · exact ⟨_, rfl⟩
          · exact ⟨_, rfl⟩
    obtain ⟨code, response⟩ := refused (UdsService.stamped n.app hal)
    rw [UdsService.udsDispatchRequest,
      if_neg (by rw [UdsService.admitted_physical _ _ flashing.filled]; decide)]
    simp only [response]
    have negative : UdsService.suppressed buffer c.payload.length
        (nrc udsSidRoutineControl code) = false := by
      have first : byte (nrc udsSidRoutineControl code) 0 = 0x7F := rfl
      simp [UdsService.suppressed, first]
    rw [negative]
    rfl

/-- Behind a positive reply there is a command that the server ran. -/
theorem flash_answered (n n' : Node) (c : Call) (reply : Tester.Reply) (flashing : Flashing c)
    (answered : (ecu allowed).answers n c n' reply) (positive : reply.positive = true) :
    ∃ hal cmd uds, command n.uds c.payload .physical = some cmd ∧
      (cmd.run (stamped n.uds hal)).1.Alike uds ∧ n'.bl.state = { n.bl.state with uds } ∧
      byte (cmd.run (stamped n.uds hal)).2.response 0 ≠ 0x7F := by
  obtain ⟨hal, buffer, stored, rfl, rfl⟩ := answered
  have first := positive_first _ _ positive
  obtain ⟨among, other⟩ := flashing_answer c flashing _ first
  cases mode : n.mode with
  | off =>
    rw [Ecu.dispatch_off n hal buffer _ _ mode] at first
    exact absurd rfl (nothing_not_positive _ _ first)
  | app =>
    rw [Ecu.dispatch_app n hal buffer _ _ mode] at other
    exact absurd (app_refuses n c hal buffer flashing stored) other
  | server =>
    obtain ⟨uds, alike, state, _, response⟩ :=
      Ecu.dispatch_server n hal buffer c.payload.length .physical mode
    rw [stored] at alike response
    rw [response] at first among other
    obtain ⟨run, idle⟩ := serve_request_command n.uds hal c.payload .physical
    have reply : (udsDispatchRequest n.uds hal c.payload .physical).2.response =
        (serveRequest n.uds hal c.payload .physical).2.response := by
      have whole : (udsDispatchRequest n.uds hal c.payload .physical).2 =
          if suppressed c.payload (serveRequest n.uds hal c.payload .physical).2.response then
            { (serveRequest n.uds hal c.payload .physical).2 with response := [] }
          else (serveRequest n.uds hal c.payload .physical).2 := rfl
      rw [whole] at first ⊢
      split
      · rename_i quiet
        rw [if_pos quiet] at first
        exact absurd rfl (nothing_not_positive _ _ first)
      · rfl
    rw [reply] at among other
    cases asked : command n.uds c.payload .physical with
    | none => exact absurd among (idle asked).2
    | some cmd =>
      have served := run cmd asked
      rw [served] at other
      have alike' : (cmd.run (stamped n.uds hal)).1.Alike uds := by
        rw [← served]
        exact alike
      exact ⟨hal, cmd, uds, rfl, alike', state, other⟩

/-! ## What the tool stores -/

/-- The bytes are in the slot, and a transfer that is active goes on behind them. -/
structure Stored (done : List UInt8) (n : Node) : Prop where
  regular : Bootloader.Regular n.bl.state
  bytes : readBytes n.uds.flash.mem appBase done.length = done
  written : n.uds.xfer.active = true → n.uds.xfer.written = done.length

/-- What the device does by itself leaves the flash alone, and the transfer or none. -/
theorem drift_rests (n n' : Node) (drift : (ecu allowed).drifts n n') :
    Bootloader.Rests n.bl.state n'.bl.state ∧
      (n'.uds.xfer.active = true → n'.uds.xfer.written = n.uds.xfer.written ∧
        n.uds.xfer.active = true) ∧
      (Bootloader.Regular n.bl.state → Bootloader.Regular n'.bl.state) := by
  obtain ⟨w, o, rfl, _, inOrder, rfl⟩ := drift
  have after := Ecu.step_bootloader w o.input inOrder
  have idle : ∀ j, Ecu.blInput w o.input = some j →
      Bootloader.commanded w.upper.bl.state j = none := by
    intro j input
    cases o with
    | tick now hal => cases input
    | work hal k =>
      cases k with
      | loader k start =>
        simp only [Other.input, Ecu.blInput] at input
        split at input
        · cases k with
          | sessionTick stamp =>
            cases input
            rfl
          | check =>
            cases input
            rfl
        · cases input
      | main k => cases input
      | store sram => cases input
    | reset start =>
      cases input
      rfl
    | powerCycle start sram =>
      cases input
      rfl
  have kept (x x' : Transfer) (rests : x' = {} ∨ (x' = x ∨
      (x' = { x with closed := true } ∧ x.active = true ∧ x.closed = false)))
      (active : x'.active = true) : x'.written = x.written ∧ x.active = true := by
    rcases rests with gone | same | ⟨closed, _⟩
    · rw [gone] at active
      cases active
    · rw [same] at active ⊢
      exact ⟨rfl, active⟩
    · rw [closed] at active ⊢
      exact ⟨rfl, active⟩
  cases input : Ecu.blInput w o.input with
  | none =>
    rw [input] at after
    have same : (Ecu.step w o.input).1.upper.bl = w.upper.bl := after
    rw [Node.uds, same]
    exact ⟨.same _, fun active => ⟨rfl, active⟩, id⟩
  | some j =>
    rw [input] at after
    have stepped : (Ecu.step w o.input).1.upper.bl = ⟨_, _⟩ := after
    obtain ⟨rests, _⟩ := Bootloader.step_rests w.upper.bl.state j (idle j input)
    have regular := Bootloader.step_regular w.upper.bl.state j
    rw [Node.uds, stepped]
    exact ⟨rests, kept _ _ (rests.xfer.imp_right And.right), regular⟩

/-- No drift of the device makes its bootloader irregular. -/
theorem regular_stable : Stable (ecu allowed) fun n => Bootloader.Regular n.bl.state :=
  fun n n' regular drift => (drift_rests n n' drift).2.2 regular

/-- What is stored of a transfer stays stored as long as the transfer is active. -/
theorem stored_stable (done : List UInt8) : Stable (ecu allowed) (Stored done) := by
  intro n n' stored drift
  obtain ⟨rests, active, regular⟩ := drift_rests n n' drift
  refine ⟨regular stored.regular, ?_, ?_⟩
  · have mem : n'.uds.flash.mem = n.uds.flash.mem := rests.mem
    rw [mem]
    exact stored.bytes
  · intro still
    obtain ⟨same, before⟩ := active still
    rw [same]
    exact stored.written before

/-- What the device does by itself leaves a programmed image programmed. -/
theorem programmed_stable (image : List UInt8) (version : UInt32) :
    Stable (ecu allowed) fun n => Programmed n.uds.flash.mem image version := by
  intro n n' programmed drift
  have mem : n'.uds.flash.mem = n.uds.flash.mem := (drift_rests n n' drift).1.mem
  rw [mem]
  exact programmed

/-! ## The calls of the tool -/

/-! Each service has one command. -/

/-- A command of service 0x34 is an announcement. -/
theorem download_command (cmd : Command) (service : cmd.sid = udsSidRequestDownload) :
    ∃ size, cmd = .requestDownload size := by
  cases cmd with
  | requestDownload size => exact ⟨size, rfl⟩
  | transferData seq data =>
    have same : udsSidTransferData = udsSidRequestDownload := service
    exact absurd same (by decide)
  | checkMemory sub version crc =>
    have same : udsSidRoutineControl = udsSidRequestDownload := service
    exact absurd same (by decide)

/-- A command of service 0x36 is a block. -/
theorem transfer_command (cmd : Command) (service : cmd.sid = udsSidTransferData) :
    ∃ seq data, cmd = .transferData seq data := by
  cases cmd with
  | requestDownload size =>
    have same : udsSidRequestDownload = udsSidTransferData := service
    exact absurd same (by decide)
  | transferData seq data => exact ⟨seq, data, rfl⟩
  | checkMemory sub version crc =>
    have same : udsSidRoutineControl = udsSidTransferData := service
    exact absurd same (by decide)

/-- A command of service 0x31 is a check of the memory. -/
theorem check_command (cmd : Command) (service : cmd.sid = udsSidRoutineControl) :
    ∃ sub version crc, cmd = .checkMemory sub version crc := by
  cases cmd with
  | requestDownload size =>
    have same : udsSidRequestDownload = udsSidRoutineControl := service
    exact absurd same (by decide)
  | transferData seq data =>
    have same : udsSidTransferData = udsSidRoutineControl := service
    exact absurd same (by decide)
  | checkMemory sub version crc => exact ⟨sub, version, crc, rfl⟩

/-- A positively answered download request leaves a transfer of nothing yet. -/
theorem download_answered (n n' : Node) (c : Call) (reply : Tester.Reply) (flashing : Flashing c)
    (download : c.sid = udsSidRequestDownload) (short : c.payload.length < 2 ^ 16)
    (regular : Bootloader.Regular n.bl.state) (answered : (ecu allowed).answers n c n' reply)
    (positive : reply.positive = true) : Stored [] n' := by
  obtain ⟨hal, cmd, uds, asked, alike, state, answer⟩ :=
    flash_answered n n' c reply flashing answered positive
  have service := (command_sid n.uds c.payload .physical cmd asked).symm
  rw [flashing.service, download] at service
  obtain ⟨size, rfl⟩ := download_command cmd service
  obtain ⟨_, slot⟩ := command_fits n.uds c.payload .physical _ regular.bounded short asked
  obtain ⟨flash, ok, attempts, result⟩ :=
    request_download_attempts (stamped n.uds hal) size regular.standard slot
  simp only [Command.run, result] at alike answer
  cases ok with
  | false => exact absurd rfl answer
  | true =>
    obtain ⟨device, rfl, same⟩ := alike
    have uds' : n'.uds = _ := congrArg Bootloader.State.uds state
    refine ⟨⟨?_, ?_⟩, rfl, ?_⟩
    · rw [state]
      exact same.accepts.trans (attempts.ran.accepts.trans regular.standard)
    · rw [state]
      exact ⟨Nat.zero_le _, slot⟩
    · intro _
      rw [uds']
      rfl

/-- A positively answered block is stored behind the others. -/
theorem block_answered (n n' : Node) (c : Call) (reply : Tester.Reply) (flashing : Flashing c)
    (transfer : c.sid = udsSidTransferData) (short : c.payload.length < 2 ^ 16)
    (done : List UInt8) (stored : Stored done n) (answered : (ecu allowed).answers n c n' reply)
    (positive : reply.positive = true) : Stored (done ++ c.payload.drop 2) n' := by
  obtain ⟨hal, cmd, uds, asked, alike, state, answer⟩ :=
    flash_answered n n' c reply flashing answered positive
  have service := (command_sid n.uds c.payload .physical cmd asked).symm
  rw [flashing.service, transfer] at service
  have regular := stored.regular
  obtain ⟨seq, data, rfl⟩ := transfer_command cmd service
  obtain ⟨active, _, _, data_eq, some_data, room⟩ :=
    command_fits n.uds c.payload .physical _ regular.bounded short asked
  obtain ⟨events, flash, ok, ran, _, programmed, result, _⟩ := transfer_data_ran
    (stamped n.uds hal) seq data (Device.aligning_of_standard regular.standard) regular.bounded
    some_data room
  simp only [Command.run, result] at alike answer
  cases ok with
  | false => exact absurd rfl answer
  | true =>
    obtain ⟨device, rfl, same⟩ := alike
    have uds' : n'.uds = _ := congrArg Bootloader.State.uds state
    have written := stored.written active
    obtain ⟨_, mem⟩ := programmed rfl
    have before : (stamped n.uds hal).flash.mem = n.uds.flash.mem := rfl
    have offset : (stamped n.uds hal).xfer.written = done.length := written
    rw [before, offset] at mem
    have same_mem : device.mem = flash.mem := same.mem
    refine ⟨⟨?_, ?_⟩, ?_, ?_⟩
    · rw [state]
      exact same.accepts.trans (ran.accepts.trans regular.standard)
    · rw [state]
      exact ⟨room, regular.bounded.2⟩
    · have after : n'.uds.flash.mem = flash.mem := by
        rw [uds']
        exact same_mem
      rw [after, mem, ← data_eq]
      exact read_appended n.uds.flash.mem appBase done data stored.bytes
    · intro _
      rw [uds', List.length_append, ← data_eq, ← written]
      rfl

/-- A request without a command keeps what is stored. -/
theorem other_stored (n n' : Node) (c : Call) (reply : Tester.Reply) (done : List UInt8)
    (no_command : command n.uds c.payload .physical = none) (stored : Stored done n)
    (answered : (ecu allowed).answers n c n' reply) : Stored done n' := by
  obtain ⟨hal, buffer, received, rfl, _⟩ := answered
  cases mode : n.mode with
  | off =>
    rw [Ecu.dispatch_off n hal buffer _ _ mode]
    exact stored
  | app =>
    rw [Ecu.dispatch_app n hal buffer _ _ mode]
    exact ⟨stored.regular, stored.bytes, stored.written⟩
  | server =>
    obtain ⟨uds, alike, state, _, _⟩ :=
      Ecu.dispatch_server n hal buffer c.payload.length .physical mode
    rw [received] at alike
    obtain ⟨idle, _⟩ := (serve_request_command n.uds hal c.payload .physical).2 no_command
    obtain ⟨device, rfl, same⟩ := alike
    have flash : (udsDispatchRequest n.uds hal c.payload .physical).1.flash = n.uds.flash :=
      idle.flash
    rw [flash] at same
    generalize (ecuUpper.dispatch n hal buffer c.payload.length .physical).state = n' at state
    have uds' : n'.uds = _ := congrArg Bootloader.State.uds state
    have xfer : n'.uds.xfer = (serveRequest n.uds hal c.payload .physical).1.xfer := by
      rw [uds']
      rfl
    refine ⟨⟨?_, ?_⟩, ?_, ?_⟩
    · rw [state]
      exact same.accepts.trans stored.regular.standard
    · change n'.uds.xfer.Bounded
      rw [xfer]
      rcases idle.xfer with kept | ⟨closed, _⟩
      · rw [kept]
        exact stored.regular.bounded
      · rw [closed]
        exact stored.regular.bounded
    · rw [uds']
      simp only [same.mem]
      exact stored.bytes
    · intro active
      rw [xfer] at active ⊢
      rcases idle.xfer with kept | ⟨closed, _⟩
      · rw [kept] at active ⊢
        exact stored.written active
      · rw [closed] at active ⊢
        exact stored.written active

/-- A positively answered CheckMemory leaves the image programmed. -/
theorem check_answered (n n' : Node) (reply : Tester.Reply) (image : List UInt8) (version : UInt32)
    (pending : Bool) (stored : Stored image n)
    (answered : (ecu allowed).answers n
      ⟨checkMemoryRequest version (zlibCrc32 image), udsSidRoutineControl, pending⟩ n' reply)
    (positive : reply.positive = true) : Programmed n'.uds.flash.mem image version := by
  have length : (checkMemoryRequest version (zlibCrc32 image)).length = 12 := by
    simp [checkMemoryRequest]
  have flashing : Flashing
      ⟨checkMemoryRequest version (zlibCrc32 image), udsSidRoutineControl, pending⟩ :=
    ⟨by rw [length]; decide, rfl, Or.inr (Or.inr ⟨rfl, by rw [length]; decide, rfl, rfl⟩)⟩
  obtain ⟨hal, cmd, uds, asked, alike, state, answer⟩ :=
    flash_answered n n' _ reply flashing answered positive
  have regular := stored.regular
  obtain ⟨sub, named, crc, rfl⟩ :=
    check_command cmd (command_sid n.uds _ .physical cmd asked).symm
  obtain ⟨active, _, some_data, named_eq, _, crc_eq⟩ := command_fits n.uds _ .physical _
    regular.bounded (by rw [length]; decide) asked
  have word (x : UInt32) : UInt32.ofNat (ofBe (be 4 x.toNat)) = x := by
    have bound : x.toNat < 256 ^ 4 := x.toNat_lt
    rw [of_be_be, Nat.mod_eq_of_lt bound, UInt32.ofNat_toNat]
  have version_field : requestVersion (checkMemoryRequest version (zlibCrc32 image)) =
      version := by
    rw [requestVersion]
    simpa [checkMemoryRequest, List.take_append_of_le_length] using word version
  have written := stored.written active
  rw [written, stored.bytes, bl_crc32_zlib] at crc_eq
  rw [version_field] at named_eq
  subst named_eq crc_eq
  obtain ⟨flash, ok, attempts, result⟩ :=
    check_memory_attempts (stamped n.uds hal) sub named (zlibCrc32 image) regular.standard
  simp only [Command.run, result] at alike answer
  cases ok with
  | false => exact absurd rfl answer
  | true =>
    obtain ⟨device, rfl, same⟩ := alike
    have uds' : n'.uds = _ := congrArg Bootloader.State.uds state
    have mem : flash.mem = metaImage n.uds.flash.mem
        (validMeta named (zlibCrc32 image) image.length) 3 := by
      have all := replay_meta_ops n.uds.flash.mem
        (validMeta named (zlibCrc32 image) image.length) 3 (by omega)
      rw [List.take_of_length_le (by rw [meta_ops_length])] at all
      have offset : (stamped n.uds hal).xfer.written = image.length := written
      rw [← all, attempts.all, offset]
      rfl
    have after : n'.uds.flash.mem = flash.mem := by
      rw [uds']
      exact same.mem
    rw [after, mem]
    refine image_programmed n.uds.flash.mem image named stored.bytes ?_ ?_
    · rw [← written]
      exact some_data
    · rw [← written]
      exact regular.bounded.1.trans regular.bounded.2

/-! ## The tool reports only what is there -/

/-- A reply that is positive only where the assertion holds. -/
def Vouches (assertion : Node → Prop) (reply : Tester.Reply) (n : Node) : Prop :=
  reply.positive = true → assertion n

/-- A report of success over a programmed image only. -/
def Reports (image : List UInt8) (version : UInt32) (ok : Bool) (n : Node) : Prop :=
  ok = true → Programmed n.uds.flash.mem image version

/-- What a reply vouches for stays true when the assertion does. -/
theorem vouches_stable {assertion : Node → Prop} (stable : Stable (ecu allowed) assertion)
    (reply : Tester.Reply) : Stable (ecu allowed) (Vouches assertion reply) := stable.imp _

/-- The report of the whole cycle stays true while the device goes on by itself. -/
theorem reports_stable (image : List UInt8) (version : UInt32) (ok : Bool) :
    Stable (ecu allowed) (Reports image version ok) :=
  (programmed_stable image version).imp _

/-- A reported failure claims nothing. -/
theorem failure_reports (image : List UInt8) (version : UInt32) (n : Node) :
    Ensures (ecu allowed) (Reports image version) (pure false) n :=
  Ensures.done (reports_stable image version false) fun ok => by cases ok

/-- A block is a flash call. -/
theorem block_flashing (seq : UInt8) (block : List UInt8) :
    Flashing ⟨0x36 :: seq :: block, 0x36, false⟩ :=
  ⟨Nat.succ_pos _, rfl, Or.inr (Or.inl rfl)⟩

/-- After a positive reply to all blocks they are all stored.

Proof: induction on the blocks; what is stored so far is the assertion between them. -/
theorem transfer_loop_vouches (seq : Nat) (blocks : List (List UInt8))
    (small : ∀ block ∈ blocks, block.length ≤ 248) (done : List UInt8) (n : Node)
    (stored : Stored done n) :
    Ensures (ecu allowed) (Vouches (Stored (done ++ blocks.flatten)))
      (transferLoop seq blocks) n := by
  induction blocks generalizing seq done n with
  | nil =>
    rw [List.flatten_nil, List.append_nil]
    exact Ensures.done (vouches_stable (stored_stable done) _) fun _ => stored
  | cons block rest ih =>
    rw [List.flatten_cons, ← List.append_assoc]
    have first : Ensures (ecu allowed) (Vouches (Stored (done ++ block)))
        (call (0x36 :: UInt8.ofNat seq :: block) 0x36) n := by
      refine Ensures.question (stored_stable done) (vouches_stable (stored_stable _)) stored ?_
      intro n n' reply before answered positive
      have length := small block List.mem_cons_self
      exact block_answered n n' _ reply (block_flashing _ block) rfl
        (by simp only [List.length_cons]; omega) done before answered positive
    rw [transferLoop]
    refine first.bind ?_
    intro reply n' vouched
    by_cases positive : reply.positive = true
    · rw [if_pos positive]
      exact ih (seq + 1) (fun b member => small b (List.mem_cons_of_mem block member)) _ n'
        (vouched positive)
    · rw [if_neg positive]
      exact Ensures.done (vouches_stable (stored_stable _) reply) fun yes => absurd yes positive

/-- The download request of the tool has four bytes for address and size. -/
theorem request_download_payload (size : Nat) :
    Tester.requestDownload size =
      Program.question ⟨downloadRequest 4 size, udsSidRequestDownload, true⟩ := rfl

/-- The four-byte size makes the announcement ten bytes long. -/
theorem download_request_length (size : Nat) : (downloadRequest 4 size).length = 10 := by
  simp [downloadRequest]

/-- A positive reply to the announcement vouches for an active transfer with nothing
stored yet. -/
theorem request_download_vouches (size : Nat) (n : Node)
    (regular : Bootloader.Regular n.bl.state) :
    Ensures (ecu allowed) (Vouches (Stored [])) (Tester.requestDownload size) n := by
  rw [request_download_payload]
  refine Ensures.question regular_stable (vouches_stable (stored_stable [])) regular ?_
  intro n n' reply regular answered positive
  have length := download_request_length size
  exact download_answered n n' _ reply ⟨by rw [length]; decide, rfl, Or.inl rfl⟩ rfl
    (by rw [length]; decide) regular answered positive

/-- The exit ends the transfer and changes nothing of what is stored. -/
theorem exit_vouches (image : List UInt8) (n : Node) (stored : Stored image n) :
    Ensures (ecu allowed) (Vouches (Stored image)) (call [0x37] 0x37) n := by
  refine Ensures.question (stored_stable image) (vouches_stable (stored_stable image)) stored ?_
  intro n n' reply before answered _
  refine other_stored n n' _ reply image ?_ before answered
  cases asked : command n.uds [0x37] .physical with
  | none => rfl
  | some cmd =>
    have service := command_sid n.uds [0x37] .physical cmd asked
    cases cmd with
    | requestDownload size =>
      have same : (0x37 : UInt8) = udsSidRequestDownload := service
      exact absurd same (by decide)
    | transferData seq data =>
      have same : (0x37 : UInt8) = udsSidTransferData := service
      exact absurd same (by decide)
    | checkMemory sub version crc =>
      have same : (0x37 : UInt8) = udsSidRoutineControl := service
      exact absurd same (by decide)

/-- A positive reply to the memory check vouches for the image in the flash, marked
valid. -/
theorem check_memory_vouches (image : List UInt8) (version : UInt32) (n : Node)
    (stored : Stored image n) :
    Ensures (ecu allowed) (Vouches fun n => Programmed n.uds.flash.mem image version)
      (Tester.checkMemory version (zlibCrc32 image)) n :=
  Ensures.question (stored_stable image) (vouches_stable (programmed_stable image version)) stored
    fun n n' reply before answered positive =>
      check_answered n n' reply image version false before answered positive

/-- A part of the tool that goes on after a positive reply, and fails otherwise. -/
theorem ensures_checked {assertion : Node → Prop} {image : List UInt8} {version : UInt32}
    {part : Test Tester.Reply} {rest : Test Bool} {n : Node}
    (first : Ensures (ecu allowed) (Vouches assertion) part n)
    (second : ∀ n, assertion n → Ensures (ecu allowed) (Reports image version) rest n) :
    Ensures (ecu allowed) (Reports image version)
      (part >>= fun reply => if (!reply.positive) = true then pure false else rest) n := by
  refine first.bind ?_
  intro reply n' vouched
  cases positive : reply.positive with
  | true => exact second n' (vouched positive)
  | false => exact failure_reports image version n'

/-- What the tool asks of the device, one part after the other. -/
theorem flash_full_cycle_reports (image : List UInt8) (version : UInt32) (n : Node)
    (regular : Bootloader.Regular n.bl.state) :
    Ensures (ecu allowed) (Reports image version) (flashFullCycle image version) n := by
  unfold flashFullCycle
  refine ensures_checked (request_download_vouches image.length n regular) fun n opened => ?_
  have blocks : Ensures (ecu allowed)
      (Vouches (Stored ([] ++ (Chunks.chunks maxBlock image).flatten))) (transferBlocks image) n :=
    transfer_loop_vouches 1 _
      (fun block member => (Chunks.chunks_sized maxBlock image block member).2) [] n opened
  rw [List.nil_append, Chunks.chunks_flatten] at blocks
  refine ensures_checked blocks fun n stored => ?_
  refine ensures_checked (exit_vouches image n stored) fun n stored => ?_
  refine (check_memory_vouches image version n stored).bind ?_
  intro reply n' programmed
  exact Ensures.done (reports_stable image version reply.positive) programmed

/-! ## The tool stops where it gets no reply -/

/-- A call of a flash service whose response is not suppressed. -/
structure FlashCall (c : Call) : Prop extends Proper c where
  flash : c.sid ∈ flashSids
  shown : c.sid ∉ suppressibleSids ∨ byte c.payload 1 &&& 0x80 = 0

variable {lossy : Prop}

/-- A single call stops without a reply. -/
theorem orderly_question (c : Call) (flash : FlashCall c) :
    Orderly lossy FlashCall (· = .nothing) (Program.question c) :=
  ⟨flash, fun _ => ⟨.nothing, rfl, rfl⟩, fun _ => trivial⟩

/-- What makes a payload a call of the flash services that the device answers. -/
theorem flash_call (payload : List UInt8) (sid : UInt8) (pending : Bool)
    (filled : 0 < payload.length) (fits : payload.length ≤ 512) (service : byte payload 0 = sid)
    (kind : (pending = true ↔ sid = udsSidRequestDownload) ∧ sid ∈ flashSids)
    (shown : sid ∉ suppressibleSids ∨ byte payload 1 &&& 0x80 = 0) :
    FlashCall ⟨payload, sid, pending⟩ := by
  have other : sid ≠ udsSidReadMemByAddr ∧ sid ≠ udsSidReadDataPeriodic := by
    have among : ∀ sid ∈ flashSids, sid ≠ udsSidReadMemByAddr ∧ sid ≠ udsSidReadDataPeriodic := by
      decide +kernel
    exact among sid kind.2
  exact ⟨⟨filled, fits, service, kind.1, other.1, other.2⟩, kind.2, shown⟩

/-- A block of at most 248 bytes is a call of a flash service. -/
theorem block_call (seq : UInt8) (block : List UInt8) (small : block.length ≤ 248) :
    FlashCall ⟨0x36 :: seq :: block, 0x36, false⟩ := by
  refine flash_call _ _ _ (Nat.succ_pos _) ?_ rfl (by decide) (Or.inl (by decide))
  simp only [List.length_cons]
  omega

/-- The transfer loop makes such calls only, and stops where it gets no reply. -/
theorem transfer_loop_orderly (seq : Nat) (blocks : List (List UInt8))
    (small : ∀ block ∈ blocks, block.length ≤ 248) :
    Orderly lossy FlashCall (· = .nothing) (transferLoop seq blocks) := by
  induction blocks generalizing seq with
  | nil => trivial
  | cons block rest ih =>
    rw [transferLoop]
    refine (orderly_question _ (block_call _ block (small block List.mem_cons_self))).bind ?_ ?_
    · rintro _ _ rfl
      exact ⟨.nothing, rfl, rfl⟩
    · intro reply
      split
      · exact ih (seq + 1) fun b member => small b (List.mem_cons_of_mem block member)
      · trivial

/-- The announcement is a call of a flash service. -/
theorem download_call (size : Nat) :
    FlashCall ⟨downloadRequest 4 size, udsSidRequestDownload, true⟩ := by
  have length := download_request_length size
  exact flash_call _ _ _ (by rw [length]; decide) (by rw [length]; decide) rfl (by decide)
    (Or.inl (by decide))

/-- The transfer exit is a call of a flash service. -/
theorem exit_call : FlashCall ⟨exitRequest, 0x37, false⟩ :=
  flash_call _ _ _ (by decide) (by decide) rfl (by decide) (Or.inl (by decide))

/-- The request for the check of the memory has twelve bytes. -/
theorem check_memory_length (version crc : UInt32) :
    (checkMemoryRequest version crc).length = 12 := by
  simp [checkMemoryRequest]

/-- The check of the memory is a call of a flash service. -/
theorem check_memory_call (version crc : UInt32) :
    FlashCall ⟨checkMemoryRequest version crc, udsSidRoutineControl, false⟩ := by
  have length := check_memory_length version crc
  have sub : byte (checkMemoryRequest version crc) 1 = 0x01 := rfl
  exact flash_call _ _ _ (by rw [length]; decide) (by rw [length]; decide) rfl (by decide)
    (Or.inr (by rw [sub]; decide))

/-- A part of the tool that stops without a reply stops the tool with a failure. -/
theorem orderly_checked {post : Bool → Node → Prop} {part : Test Tester.Reply} {rest : Test Bool}
    (failure : lossy → Always post false) (first : Orderly lossy FlashCall (· = .nothing) part)
    (second : Orderly lossy FlashCall (Always post) rest) :
    Orderly lossy FlashCall (Always post)
      (part >>= fun reply => if (!reply.positive) = true then pure false else rest) := by
  refine first.bind ?_ ?_
  · rintro loses _ rfl
    exact ⟨false, rfl, failure loses⟩
  · intro reply
    split
    · trivial
    · exact second

/-- The whole cycle makes such calls only and ends early on nothing but silence. -/
theorem flash_full_cycle_orderly {post : Bool → Node → Prop}
    (failure : lossy → Always post false) (image : List UInt8) (version : UInt32) :
    Orderly lossy FlashCall (Always post) (flashFullCycle image version) := by
  unfold flashFullCycle
  refine orderly_checked failure (orderly_question _ (download_call image.length)) ?_
  refine orderly_checked failure (transfer_loop_orderly 1 _ fun block member =>
    (Chunks.chunks_sized maxBlock image block member).2) ?_
  refine orderly_checked failure (orderly_question _ exit_call) ?_
  refine (orderly_question _ (check_memory_call version (zlibCrc32 image))).bind ?_ ?_
  · rintro loses _ rfl
    exact ⟨false, rfl, failure loses⟩
  · intro reply
    trivial

/-! ## What success means -/

/-- From any state of the device that nobody has subscribed to and whose transport sends
nothing, over any losses, delays, resets, power failures and flash faults: when the tool
reports success, the image is in the flash and bootable, and stays so.

Proof: the phases of the calls give the tool the answers of the device or none, and the
assertions between the calls lead from each positive answer to the next. -/
theorem flash_tool_reports (faults : List Bool) (flash : NorFlash.Device)
    (standard : flash.accepts = writable stmFlash) (start : Ecu.Startup) (sram : Memory)
    (inputs : List Ecu.Input) (w : World Node)
    (reached : w = Run.final Ecu.step (Ecu.powerUp faults flash start sram) inputs)
    (unsubscribed : ∀ p ∈ w.upper.app.periodic, p.divider = 0)
    (idle : w.link.ctx.txState = .idle) (image : List UInt8) (version : UInt32)
    (moves : List Move)
    (reported : (Dialogue.run ecuServer ⟨onBus (flashFullCycle image version), [], w, []⟩
      moves).client = .done true) :
    Programmed (Dialogue.run ecuServer ⟨onBus (flashFullCycle image version), [], w, []⟩
      moves).server.upper.uds.flash.mem image version := by
  subst reached
  obtain ⟨inOrder, ready⟩ := Ecu.reached_in_order faults flash start sram inputs
  have settled := Ecu.reached_settled faults flash start sram inputs unsubscribed
  have regular := Ecu.reached_regular faults flash start sram inputs standard
  have failure : True → Always (Reports image version) false := fun _ _ success => by
    cases success
  have orderly : Orderly True Proper (Always (Reports image version))
      (flashFullCycle image version) :=
    (flash_full_cycle_orderly failure image version).mono fun _ flash => flash.toProper
  have ensures : Ensures (ecu fun _ _ => True) (Reports image version)
      (flashFullCycle image version) _ := flash_full_cycle_reports image version _ regular
  have stage : Stage True (ecu fun _ _ => True) Node.Settled Proper (Reports image version)
      ⟨onBus (flashFullCycle image version), [],
        Run.final Ecu.step (Ecu.powerUp faults flash start sram) inputs, []⟩ :=
    Or.inr ⟨settled, ⟨idle, inOrder, ready, Or.inl trivial⟩, .between _ _ ensures orderly⟩
  exact run_value disturbed_host _ stage moves true reported rfl

/-! A device over an erased flash, which a tester has taken to the programming session
and unlocked. -/

/-- A reset into the programming session and an unlock, for the witness. -/
def unlockedInputs : List Ecu.Input :=
  ([[0x10, 0x02]] ++ BlMain.unlockRequests).map fun request =>
    .frame (BlMain.singleFrameRequest request).1 (BlMain.singleFrameRequest request).2

/-- The device behind them. -/
def unlockedEcu : World Node :=
  Run.final Ecu.step (Ecu.powerUp [] BlMain.erasedFlash ⟨0, 0, 0, 0⟩ fun _ => 0) unlockedInputs

/-- An image whose last doubleword is not full. -/
def tenBytes : List UInt8 := [1, 2, 3, 4, 5, 6, 7, 8, 9, 10]

/-- Each request is sent, served and answered; the responsePending gets lost, and the
server runs its loop. -/
def lossyMoves : List Move :=
  [.act, .serve ⟨2000, none⟩, .loseReply 0, .act,
    .work (.work 2000 (.loader .check ⟨0, 0, 0, 0⟩)),
    .act, .serve ⟨2000, none⟩, .act, .act, .serve ⟨2000, none⟩, .act,
    .act, .serve ⟨2000, none⟩, .act]

/-- An image of ten bytes is flashed without the responsePending. -/
theorem lossy_moves_flash : Programmed (Dialogue.run ecuServer
    ⟨onBus (flashFullCycle tenBytes 3), [], unlockedEcu, []⟩
    lossyMoves).server.upper.uds.flash.mem tenBytes 3 := by
  have unsubscribed : ∀ p ∈ unlockedEcu.upper.app.periodic, p.divider = 0 := by decide +kernel
  have reported : Dialogue.result (Dialogue.run ecuServer
      ⟨onBus (flashFullCycle tenBytes 3), [], unlockedEcu, []⟩
      lossyMoves).client = some true := by decide +kernel
  exact flash_tool_reports [] BlMain.erasedFlash rfl ⟨0, 0, 0, 0⟩ (fun _ => 0) unlockedInputs
    unlockedEcu rfl unsubscribed (by decide +kernel) _ 3 lossyMoves
    (Dialogue.done_of_result _ true reported)

end ObdSimulator.TesterBus
