import ObdSimulator.Access
import ObdSimulator.BlUds

/-!
# The accesses of the flash server

The handlers of `bl_uds.c` and their dispatcher, as programs over their buffers. The
data of a block are read where `ota_flash_write` copies them: eight bytes before each
doubleword, and none behind a primitive that fails.
-/

namespace ObdSimulator.BlUds.Handler

open NorFlash Bytes ObdSimulator.Handler

/-- The response of a handler is written, whatever was sent before it. -/
def reply (out : Server × Reply) : Handler (Server × Reply) := do
  let response ← respond out.2.response
  pure (out.1, { out.2 with response })

/-- `nrc`. -/
def refuse (s : Server) (sid code : UInt8) : Handler (Server × Reply) :=
  reply (s, { response := nrc sid code })

/-! ## Session, reset, security and keep-alive -/

section Handlers

variable (s : Server) (now reqLen : Nat)

/-- `handle_session_control` of the bootloader. -/
def handleSessionControl : Handler (Server × Reply) :=
  if reqLen < 2 then refuse s udsSidDiagSessionCtrl nrcIncorrectMsgLen
  else do
    let subByte ← reqByte 1
    let sub := subFunction subByte
    if sub < 0x01 ∨ 0x03 < sub then refuse s udsSidDiagSessionCtrl nrcSubFuncNotSupported
    else
      match diagSessionSetSession s.session now sub with
      | none => refuse s udsSidDiagSessionCtrl nrcConditionsNotCorrect
      | some session => reply ({ s with session }, { response := sessionResponse sub })

/-- `handle_ecu_reset`: the reset itself is left to the main loop. -/
def handleEcuReset : Handler (Server × Reply) :=
  if reqLen < 2 then refuse s udsSidEcuReset nrcIncorrectMsgLen
  else do
    let subByte ← reqByte 1
    let sub := subFunction subByte
    if sub ≠ udsResetHard ∧ sub ≠ udsResetSoft then
      refuse s udsSidEcuReset nrcSubFuncNotSupported
    else
      reply ({ s with resetPending := true },
        { response := [udsSidEcuReset + udsResponseSidOffset, sub] })

/-- `handle_security_access`: the key bytes are read behind a check for four bytes. -/
def handleSecurityAccess : Handler (Server × Reply) :=
  if reqLen < 2 then refuse s udsSidSecurityAccess nrcIncorrectMsgLen
  else do
    let subByte ← reqByte 1
    let level := subFunction subByte
    if level &&& 0x01 ≠ 0 then
      match diagSessionCheckSecurityGate s.session now with
      | (session, .delay) => refuse { s with session } udsSidSecurityAccess nrcRequiredTimeDelay
      | (session, .locked) => refuse { s with session } udsSidSecurityAccess nrcExceededAttempts
      | (session, .ok) =>
        let (session, seed) := diagSessionGenerateSeed session now
        reply ({ s with session },
          { response := [udsSidSecurityAccess + udsResponseSidOffset, level,
              (seed >>> 8).toUInt8, seed.toUInt8] })
    else if reqLen < 4 then refuse s udsSidSecurityAccess nrcIncorrectMsgLen
    else do
      let high ← reqByte 2
      let low ← reqByte 3
      let key := high.toUInt16 <<< 8 ||| low.toUInt16
      match diagSessionVerifyKey s.session now key with
      | (session, .ok) =>
        reply ({ s with session },
          { response := [udsSidSecurityAccess + udsResponseSidOffset, level] })
      | (session, .exceededAttempts) =>
        refuse { s with session } udsSidSecurityAccess nrcExceededAttempts
      | (session, .delayNotExpired) =>
        refuse { s with session } udsSidSecurityAccess nrcRequiredTimeDelay
      | (session, .invalid) => refuse { s with session } udsSidSecurityAccess nrcInvalidKey

/-- `handle_tester_present`. -/
def handleTesterPresent : Handler (Server × Reply) :=
  if reqLen < 2 then refuse s udsSidTesterPresent nrcIncorrectMsgLen
  else do
    let subByte ← reqByte 1
    let sub := subFunction subByte
    if sub ≠ 0 then refuse s udsSidTesterPresent nrcSubFuncNotSupported
    else reply (s, { response := [udsSidTesterPresent + udsResponseSidOffset, sub] })

/-- The services 0x28 and 0x85, which are confirmed and do nothing. -/
def handleNoopControl (sid : UInt8) : Handler (Server × Reply) :=
  if reqLen < 2 then refuse s sid nrcIncorrectMsgLen
  else do
    let subByte ← reqByte 1
    reply (s, { response := [sid + udsResponseSidOffset, subFunction subByte] })

/-! ## Download -/

/-- The checks of 0x34: the size field is read only where the request has all of it. -/
def checkRequestDownload : Handler (Except UInt8 Nat) :=
  if reqLen < 3 then pure (.error nrcIncorrectMsgLen)
  else do
    let alfid ← reqByte 1
    let alen := (alfid &&& 0x0F).toNat
    let slen := ((alfid >>> 4) &&& 0x0F).toNat
    if alen = 0 ∨ slen = 0 ∨ 4 < alen ∨ 4 < slen then pure (.error nrcRequestOutOfRange)
    else if reqLen < 2 + alen + slen then pure (.error nrcIncorrectMsgLen)
    else do
      let addrBytes ← reqBytes 2 alen
      let sizeBytes ← reqBytes (2 + alen) slen
      let addr := ofBe addrBytes
      let size := ofBe sizeBytes
      if addr ≠ appBase ∨ size = 0 ∨ appSlotSize < size then pure (.error nrcRequestOutOfRange)
      else pure (.ok size)

/-- `handle_request_download`. -/
def handleRequestDownload : Handler (Server × Reply) := do
  let checked ← checkRequestDownload reqLen
  match checked with
  | .error code => refuse s udsSidRequestDownload code
  | .ok size => reply (requestDownload s size)

/-! ## Transfer -/

/-- The doubleword loop from `req[i]` on. -/
def otaFlashWriteLoop (d : Device) (addr i : Nat) : Nat → Handler (Device × Bool)
  | 0 => pure (d, true)
  | words + 1 => do
    let chunk ← reqBytes i (min 8 (reqLen - i))
    match d.program stmFlash addr (paddedChunk chunk) with
    | (d, false) => pure (d, false)
    | (d, true) => otaFlashWriteLoop d (u32 (addr + 8)) (i + 8) words

/-- `ota_flash_write` of the bytes behind `req[i]`. -/
def otaFlashWrite (d : Device) (addr i : Nat) : Handler (Device × Bool) :=
  if inRange addr (reqLen - i) then
    otaFlashWriteLoop reqLen d addr i (doublewords (reqLen - i))
  else pure (d, false)

/-- An accepted block: the driver reads the data behind the two header bytes. -/
def transferData (seq : UInt8) : Handler (Server × Reply) := do
  let written ← otaFlashWrite reqLen s.flash (u32 (appBase + s.xfer.written)) 2
  match written with
  | (flash, false) => refuse { s with flash } udsSidTransferData nrcGeneralProgrammingFailure
  | (flash, true) =>
    reply ({ s with flash, xfer := { s.xfer with written := u32 (s.xfer.written + (reqLen - 2)),
                                                 blockSeq := s.xfer.blockSeq + 1 } },
      { response := [udsSidTransferData + udsResponseSidOffset, seq] })

/-- `handle_transfer_data`: the sequence byte is read behind a length check of three. -/
def handleTransferData : Handler (Server × Reply) :=
  if s.xfer.active = false ∨ s.xfer.closed = true ∨ reqLen < 3 then
    refuse s udsSidTransferData nrcConditionsNotCorrect
  else do
    let seq ← reqByte 1
    if seq ≠ s.xfer.blockSeq then refuse s udsSidTransferData nrcWrongBlockSequence
    else if s.xfer.size < u32 (s.xfer.written + (reqLen - 2)) then
      refuse s udsSidTransferData nrcTransferDataSuspended
    else transferData s reqLen seq

/-- `handle_request_transfer_exit`: it reads nothing behind its service byte. -/
def handleRequestTransferExit : Handler (Server × Reply) :=
  if s.xfer.active = false ∨ s.xfer.closed = true ∨ reqLen < 1 then
    refuse s udsSidRequestTransferExit nrcConditionsNotCorrect
  else
    reply ({ s with xfer := { s.xfer with closed := true } },
      { response := [udsSidRequestTransferExit + udsResponseSidOffset] })

/-! ## CheckMemory -/

/-- Four bytes of the request as a number. -/
def reqLong (i : Nat) : Handler UInt32 := do
  let bytes ← reqBytes i 4
  pure (UInt32.ofNat (ofBe bytes))

/-- `handle_routine_control`: the version and the CRC are read behind one length check.
-/
def handleRoutineControl : Handler (Server × Reply) :=
  if reqLen < 4 then refuse s udsSidRoutineControl nrcIncorrectMsgLen
  else do
    let subByte ← reqByte 1
    let high ← reqByte 2
    let low ← reqByte 3
    let sub := subFunction subByte
    if high ≠ 0x02 ∨ low ≠ 0x03 then refuse s udsSidRoutineControl nrcRequestOutOfRange
    else if sub ≠ 0x01 then refuse s udsSidRoutineControl nrcSubFuncNotSupported
    else if s.xfer.active = false ∨ s.xfer.closed = false ∨ reqLen ≠ 12 ∨ s.xfer.written = 0 then
      refuse s udsSidRoutineControl nrcConditionsNotCorrect
    else do
      let version ← reqLong 4
      let expected ← reqLong 8
      let crc := blCrc32 (readBytes s.flash.mem appBase s.xfer.written)
      if version < s.savedRollback then refuse s udsSidRoutineControl nrcRequestOutOfRange
      else if crc ≠ expected then refuse s udsSidRoutineControl nrcGeneralProgrammingFailure
      else reply (checkMemory s sub version crc)

/-! ## Dispatcher -/

/-- A flash service behind its gate. -/
def gated (sid : UInt8) (handled : Handler (Server × Reply)) : Handler (Server × Reply) :=
  match gateFlashServices s.session with
  | some code => refuse s sid code
  | none => handled

/-- The service switch. -/
def serve (sid : UInt8) : Handler (Server × Reply) :=
  if sid = udsSidDiagSessionCtrl then handleSessionControl s now reqLen
  else if sid = udsSidEcuReset then handleEcuReset s reqLen
  else if sid = udsSidSecurityAccess then handleSecurityAccess s now reqLen
  else if sid = udsSidTesterPresent then handleTesterPresent s reqLen
  else if sid = udsSidCommunicationControl ∨ sid = udsSidControlDtcSetting then
    handleNoopControl s reqLen sid
  else if sid = udsSidRequestDownload then gated s sid (handleRequestDownload s reqLen)
  else if sid = udsSidTransferData then gated s sid (handleTransferData s reqLen)
  else if sid = udsSidRequestTransferExit then gated s sid (handleRequestTransferExit s reqLen)
  else if sid = udsSidRoutineControl then gated s sid (handleRoutineControl s reqLen)
  else refuse s sid nrcServiceNotSupported

/-- The suppression at the end of the dispatcher. -/
def suppressPositive (sid : UInt8) (out : Server × Reply) : Handler (Server × Reply) :=
  suppress reqLen (suppressibleSids.contains sid) out.2.response out
    (out.1, { out.2 with response := [] })

/-- The dispatcher of the bootloader: the service byte is read behind the check for an
empty request. -/
def udsDispatchRequest (addr : AddrType) : Handler (Server × Reply) :=
  if reqLen = 0 then pure (s, {})
  else do
    let sid ← reqByte 0
    if addr = .functional ∧ functionalSids.contains sid = false then pure (s, {})
    else do
      let out ← serve (stamped s now) now reqLen sid
      suppressPositive reqLen sid out

end Handlers

end ObdSimulator.BlUds.Handler

/-! ## Each service is safe -/

namespace ObdSimulator.BlUds

open NorFlash Bytes ObdSimulator.Safe
open UdsService (udsMaxResponseSize)

/-- A handler whose checks are done: the code of the one that failed, or the service. -/
def finish {α : Type} (s : Server) (sid : UInt8) (act : α → Server × Reply) :
    Except UInt8 α → Server × Reply
  | .error code => (s, { response := nrc sid code })
  | .ok accepted => act accepted

/-- The handler of 0x36 is its checks followed by the block. -/
theorem transfer_data_finish (s : Server) (request : List UInt8) :
    handleTransferData s request =
      finish s udsSidTransferData (fun block => transferData s block.1 block.2)
        (checkTransferData s.xfer request) := by
  unfold handleTransferData
  cases checkTransferData s.xfer request with
  | error code => rfl
  | ok block => rfl

/-- The handler of 0x31 is its checks followed by the memory check. -/
theorem routine_control_finish (s : Server) (request : List UInt8) :
    handleRoutineControl s request =
      finish s udsSidRoutineControl
        (fun image => checkMemory s (subFunction (byte request 1)) image.1 image.2)
        (checkRoutineControl s request) := by
  unfold handleRoutineControl
  cases checkRoutineControl s request with
  | error code => rfl
  | ok image => rfl

/-- The handler comes to `out`, whose response fits its buffer, and no access of it is
out of bounds. -/
abbrev Serves (mem : Memory) (request : List UInt8) (p : Handler (Server × Reply))
    (out : Server × Reply) : Prop :=
  p.Meets (buffers mem request) (Access.Inside request.length)
    (fun out => out.2.response.length ≤ udsMaxResponseSize) out

namespace Serves

variable {mem : Memory} {request : List UInt8}

/-- A response that fits the buffer may be written. -/
theorem reply {out : Server × Reply} (fits : out.2.response.length ≤ udsMaxResponseSize) :
    Serves mem request (Handler.reply out) out := by
  apply (respond fits).bind
  exact .give fits

/-- Three bytes are always free. -/
theorem refuse (s : Server) (sid code : UInt8) :
    Serves mem request (Handler.refuse s sid code) (s, { response := nrc sid code }) :=
  reply (Nat.le_of_ble_eq_true rfl)

/-- One check, made by the program on its way and by the function before it acts. -/
theorem check {α : Type} {s : Server} {sid code : UInt8} {act : α → Server × Reply} {c : Prop}
    [Decidable c] {p : Handler (Server × Reply)} {rest : Except UInt8 α}
    (passed : ¬c → Serves mem request p (finish s sid act rest)) :
    Serves mem request (if c then Handler.refuse s sid code else p)
      (finish s sid act (if c then .error code else rest)) := by
  rw [apply_ite (finish s sid act)]
  exact Program.Meets.ite (fun _ => refuse s sid code) passed

section Handlers

variable (s : Server) (now : Nat)

/-- 0x10 stays inside both buffers and computes what the model says. -/
theorem handleSessionControl :
    Serves mem request (Handler.handleSessionControl s now request.length)
      (BlUds.handleSessionControl s now request) := by
  apply Program.Meets.ite (fun _ => refuse s _ _)
  intro long
  apply (reqByte (by omega)).bind
  apply Program.Meets.ite (fun _ => refuse s _ _)
  intro _
  cases diagSessionSetSession s.session now (subFunction (byte request 1)) with
  | none => exact refuse s _ _
  | some session => exact reply (Nat.le_of_ble_eq_true rfl)

/-- 0x11 stays inside both buffers. -/
theorem handleEcuReset :
    Serves mem request (Handler.handleEcuReset s request.length)
      (BlUds.handleEcuReset s request) := by
  apply Program.Meets.ite (fun _ => refuse s _ _)
  intro long
  apply (reqByte (by omega)).bind
  apply Program.Meets.ite (fun _ => refuse s _ _)
  intro _
  exact reply (Nat.le_of_ble_eq_true rfl)

/-- 0x27 stays inside both buffers, key bytes included. -/
theorem handleSecurityAccess :
    Serves mem request (Handler.handleSecurityAccess s now request.length)
      (BlUds.handleSecurityAccess s now request) := by
  apply Program.Meets.ite (fun _ => refuse s _ _)
  intro long
  apply (reqByte (by omega)).bind
  apply Program.Meets.ite
  · intro _
    generalize diagSessionCheckSecurityGate s.session now = outcome
    obtain ⟨session, gate⟩ := outcome
    cases gate with
    | delay => exact refuse _ _ _
    | locked => exact refuse _ _ _
    | ok => exact reply (Nat.le_of_ble_eq_true rfl)
  · intro _
    apply Program.Meets.ite (fun _ => refuse s _ _)
    intro longer
    apply (reqByte (by omega)).bind
    apply (reqByte (by omega)).bind
    simp only
    generalize diagSessionVerifyKey s.session now _ = outcome
    obtain ⟨session, result⟩ := outcome
    cases result with
    | ok => exact reply (Nat.le_of_ble_eq_true rfl)
    | invalid => exact refuse _ _ _
    | exceededAttempts => exact refuse _ _ _
    | delayNotExpired => exact refuse _ _ _

/-- 0x3E stays inside both buffers. -/
theorem handleTesterPresent :
    Serves mem request (Handler.handleTesterPresent s request.length)
      (BlUds.handleTesterPresent s request) := by
  apply Program.Meets.ite (fun _ => refuse s _ _)
  intro long
  apply (reqByte (by omega)).bind
  apply Program.Meets.ite (fun _ => refuse s _ _)
  intro _
  exact reply (Nat.le_of_ble_eq_true rfl)

/-- 0x28 and 0x85 stay inside both buffers. -/
theorem handleNoopControl (sid : UInt8) :
    Serves mem request (Handler.handleNoopControl s request.length sid)
      (BlUds.handleNoopControl s sid request) := by
  apply Program.Meets.ite (fun _ => refuse s _ _)
  intro long
  apply (reqByte (by omega)).bind
  exact reply (Nat.le_of_ble_eq_true rfl)

/-! ## Download -/

/-- The size field lies inside a request that passes the length check. -/
theorem checkRequestDownload :
    Safe mem request request.length (Handler.checkRequestDownload request.length)
      (BlUds.checkRequestDownload request) := by
  apply Program.Meets.ite (fun _ => .done _)
  intro long
  apply (reqByte (by omega)).bind
  apply Program.Meets.ite (fun _ => .done _)
  intro _
  apply Program.Meets.ite (fun _ => .done _)
  intro whole
  apply (reqBytes (by omega) (Nat.le_refl _)).bind
  apply (reqBytes (by omega) (Nat.le_refl _)).bind
  apply Program.Meets.ite (fun _ => .done _)
  intro _
  exact .done _

/-- Either answer to an accepted 0x34 is short. -/
theorem request_download_fits (size : Nat) :
    (BlUds.requestDownload s size).2.response.length ≤ udsMaxResponseSize := by
  simp only [BlUds.requestDownload]
  generalize blMetaWrite s.flash _ = marked
  obtain ⟨flash, done⟩ := marked
  cases done with
  | false => exact Nat.le_of_ble_eq_true rfl
  | true =>
    simp only
    generalize otaFlashErase flash appBase size = erased
    obtain ⟨flash, done⟩ := erased
    cases done <;> exact Nat.le_of_ble_eq_true rfl

/-- 0x34 reads the request only in its checks. -/
theorem handleRequestDownload :
    Serves mem request (Handler.handleRequestDownload s request.length)
      (BlUds.handleRequestDownload s request) := by
  apply checkRequestDownload.bind
  unfold BlUds.handleRequestDownload
  cases BlUds.checkRequestDownload request with
  | error code => exact refuse s _ _
  | ok size => exact reply (request_download_fits s size)

/-! ## Transfer -/

/-- The loop copies what is left of the block, eight bytes at a time. -/
theorem otaFlashWriteLoop (d : Device) (addr i words : Nat)
    (bounded : i + 8 * words < request.length + 8) :
    Safe mem request request.length (Handler.otaFlashWriteLoop request.length d addr i words)
      (ObdSimulator.otaFlashWriteLoop d addr (request.drop i) words) := by
  induction words generalizing d addr i with
  | zero => exact .done _
  | succ words ih =>
    have chunk : (request.drop i).take 8 = (request.drop i).take (min 8 (request.length - i)) := by
      rw [List.take_eq_take_min, List.length_drop]
    rw [Handler.otaFlashWriteLoop, ObdSimulator.otaFlashWriteLoop, List.drop_drop, chunk]
    apply (reqBytes (by omega) (Nat.le_refl _)).bind
    generalize d.program stmFlash addr _ = programmed
    obtain ⟨d', done⟩ := programmed
    cases done with
    | false => exact .done _
    | true => exact ih d' _ (i + 8) (by omega)

/-- The driver copies from the data of the block, eight bytes or the rest at a time. -/
theorem otaFlashWrite (d : Device) (addr i : Nat) (header : i ≤ request.length) :
    Safe mem request request.length (Handler.otaFlashWrite request.length d addr i)
      (ObdSimulator.otaFlashWrite d addr (request.drop i)) := by
  unfold ObdSimulator.otaFlashWrite
  rw [List.length_drop]
  apply Program.Meets.ite
  · intro _
    apply otaFlashWriteLoop
    simp only [doublewords]
    omega
  · intro _
    exact .done _

/-- The data of a block start behind its header and end with the request. -/
theorem transferData (seq : UInt8) (header : 2 ≤ request.length) :
    Serves mem request (Handler.transferData s request.length seq)
      (BlUds.transferData s seq (request.drop 2)) := by
  apply (otaFlashWrite s.flash _ 2 header).bind
  rw [BlUds.transferData, List.length_drop]
  generalize ObdSimulator.otaFlashWrite s.flash _ (request.drop 2) = written
  obtain ⟨flash, done⟩ := written
  cases done with
  | false => exact refuse _ _ _
  | true => exact reply (Nat.le_of_ble_eq_true rfl)

/-- 0x36 stays inside both buffers for a block of any length. -/
theorem handleTransferData :
    Serves mem request (Handler.handleTransferData s request.length)
      (BlUds.handleTransferData s request) := by
  rw [transfer_data_finish]
  apply check
  intro ready
  apply (reqByte (by omega)).bind
  apply check
  intro _
  rw [List.length_drop]
  apply check
  intro _
  exact transferData s _ (by omega)

/-- 0x37 needs no byte but the service. -/
theorem handleRequestTransferExit :
    Serves mem request (Handler.handleRequestTransferExit s request.length)
      (BlUds.handleRequestTransferExit s request) := by
  apply Program.Meets.ite (fun _ => refuse s _ _)
  intro _
  exact reply (Nat.le_of_ble_eq_true rfl)

/-! ## CheckMemory -/

/-- The version field lies inside a request of eight bytes. -/
theorem requestVersion (long : 8 ≤ request.length) :
    Safe mem request request.length (Handler.reqLong 4) (BlUds.requestVersion request) := by
  apply (reqBytes (by omega) (Nat.le_refl _)).bind
  exact .done _

/-- The CRC field lies inside a request of twelve bytes. -/
theorem requestCrc (long : 12 ≤ request.length) :
    Safe mem request request.length (Handler.reqLong 8) (BlUds.requestCrc request) := by
  apply (reqBytes (by omega) (Nat.le_refl _)).bind
  exact .done _

/-- The result of the memory check is short. -/
theorem check_memory_fits (sub : UInt8) (version crc : UInt32) :
    (BlUds.checkMemory s sub version crc).2.response.length ≤ udsMaxResponseSize := by
  unfold BlUds.checkMemory
  generalize blMetaWrite s.flash _ = recorded
  obtain ⟨flash, done⟩ := recorded
  cases done <;> exact Nat.le_of_ble_eq_true rfl

/-- 0x31 stays inside both buffers. -/
theorem handleRoutineControl :
    Serves mem request (Handler.handleRoutineControl s request.length)
      (BlUds.handleRoutineControl s request) := by
  rw [routine_control_finish]
  apply check
  intro long
  apply (reqByte (by omega)).bind
  apply (reqByte (by omega)).bind
  apply (reqByte (by omega)).bind
  apply check
  intro _
  apply check
  intro _
  apply check
  intro ready
  apply (requestVersion (by omega)).bind
  apply (requestCrc (by omega)).bind
  apply check
  intro _
  apply check
  intro _
  exact reply (check_memory_fits s _ _ _)

/-! ## Dispatcher -/

/-- The gate reads the session only. -/
theorem gated {sid : UInt8} {handled : Handler (Server × Reply)} {out : Server × Reply}
    (safe : Serves mem request handled out) :
    Serves mem request (Handler.gated s sid handled) (BlUds.gated s sid out) := by
  unfold Handler.gated BlUds.gated
  cases gateFlashServices s.session with
  | some code => exact refuse s _ _
  | none => exact safe

/-- The switch, branch by branch in its order. -/
theorem serve :
    Serves mem request (Handler.serve s now request.length (byte request 0))
      (BlUds.serve s now request) := by
  apply Program.Meets.ite (fun _ => handleSessionControl s now)
  intro _
  apply Program.Meets.ite (fun _ => handleEcuReset s)
  intro _
  apply Program.Meets.ite (fun _ => handleSecurityAccess s now)
  intro _
  apply Program.Meets.ite (fun _ => handleTesterPresent s)
  intro _
  apply Program.Meets.ite (fun _ => handleNoopControl s _)
  intro _
  apply Program.Meets.ite (fun _ => gated s (handleRequestDownload s))
  intro _
  apply Program.Meets.ite (fun _ => gated s (handleTransferData s))
  intro _
  apply Program.Meets.ite (fun _ => gated s (handleRequestTransferExit s))
  intro _
  apply Program.Meets.ite (fun _ => gated s (handleRoutineControl s))
  intro _
  exact refuse s _ _

/-- The suppression reads `req[1]` inside the request and only shortens the response. -/
theorem suppressPositive {out : Server × Reply}
    (fits : out.2.response.length ≤ udsMaxResponseSize) :
    Serves mem request (Handler.suppressPositive request.length (byte request 0) out)
      (out.1, if suppressed request out.2.response then { out.2 with response := [] }
        else out.2) := by
  have whole : (out.1, if suppressed request out.2.response then { out.2 with response := [] }
      else out.2) =
      if suppressed request out.2.response then (out.1, { out.2 with response := [] })
      else out := by
    split <;> rfl
  rw [whole]
  exact suppress _ _ fits (Nat.zero_le _)

/-- The dispatcher makes no access out of bounds, and comes to what it came to before. -/
theorem udsDispatchRequest (addr : AddrType) :
    Serves mem request (Handler.udsDispatchRequest s now request.length addr)
      (BlUds.udsDispatchRequest s now request addr) := by
  unfold Handler.udsDispatchRequest BlUds.udsDispatchRequest BlUds.serveRequest
  by_cases empty : request.length = 0
  · have ignored : admitted request addr = false := by
      simp [admitted, List.length_eq_zero_iff.mp empty]
    rw [if_pos empty, ignored]
    exact .give (Nat.zero_le _)
  rw [if_neg empty]
  apply (reqByte (by omega)).bind
  by_cases filtered : addr = .functional ∧ functionalSids.contains (byte request 0) = false
  · have ignored : admitted request addr = false := by
      rw [admitted, filtered.1, filtered.2]
      exact Bool.and_false _
    rw [if_pos filtered, ignored]
    exact .give (Nat.zero_le _)
  · have taken : admitted request addr = true := by
      rw [admitted]
      cases addr <;> simp_all
    rw [if_neg filtered, taken]
    have served : Serves mem request
        (Handler.serve (stamped s now) now request.length (byte request 0))
        (BlUds.serve (stamped s now) now request) := serve (stamped s now) now
    exact served.bind (suppressPositive served.good)

end Handlers

end Serves

end ObdSimulator.BlUds
