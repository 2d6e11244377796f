import ObdSimulator.BlBoot
import ObdSimulator.DiagSession

/-!
# The flash server of the bootloader

`bl_uds.c`. Each flash service first checks its request against the transfer
state and then acts; the two parts are separate definitions here, so that what a
request will do to the flash can be said before it is done. A reply holds the
messages a handler queued on its own, and the response handed back to the
transport, empty when none is sent.
-/

namespace ObdSimulator.BlUds

open NorFlash Bytes

/-- The static transfer variables. -/
structure Transfer where
  active : Bool := false
  closed : Bool := false
  size : Nat := 0
  written : Nat := 0
  blockSeq : UInt8 := 0
deriving DecidableEq, Repr

/-- The state of the server: its session, its static variables and the flash. -/
structure Server where
  session : DiagSession := {}
  xfer : Transfer := {}
  savedRollback : UInt32 := 0
  resetPending : Bool := false
  flash : Device

/-- The response of a request, behind a pending one where it took long. -/
structure Reply where
  sent : List (List UInt8) := []
  response : List UInt8 := []
deriving DecidableEq, Repr

/-- `BL_UDS_ResetTransfer`. -/
def resetTransfer (s : Server) : Server := { s with xfer := {} }

/-- The response code of `gate_flash_services`, if the gate is closed. -/
def gateFlashServices (session : DiagSession) : Option UInt8 :=
  if diagSessionGet session ≠ .programming then some nrcServiceNotSupportedInActiveSession
  else if diagSessionSecurityUnlocked session = false then some nrcSecurityAccessDenied
  else none

/-! ## Session, reset, security and keep-alive -/

/-- `handle_session_control`. -/
def handleSessionControl (s : Server) (now : Nat) (request : List UInt8) : Server × Reply :=
  let refuse code := (s, ({ response := nrc udsSidDiagSessionCtrl code } : Reply))
  let sub := subFunction (byte request 1)
  if request.length < 2 then refuse nrcIncorrectMsgLen
  else if sub < 0x01 ∨ 0x03 < sub then refuse nrcSubFuncNotSupported
  else
    match diagSessionSetSession s.session now sub with
    | none => refuse nrcConditionsNotCorrect
    | some session => ({ s with session }, { response := sessionResponse sub })

/-- `handle_ecu_reset`: the reset is left to the main loop. -/
def handleEcuReset (s : Server) (request : List UInt8) : Server × Reply :=
  let refuse code := (s, ({ response := nrc udsSidEcuReset code } : Reply))
  let sub := subFunction (byte request 1)
  if request.length < 2 then refuse nrcIncorrectMsgLen
  else if sub ≠ udsResetHard ∧ sub ≠ udsResetSoft then refuse nrcSubFuncNotSupported
  else
    ({ s with resetPending := true },
      { response := [udsSidEcuReset + udsResponseSidOffset, sub] })

/-- Odd levels request a seed, even ones send a key. -/
def handleSecurityAccess (s : Server) (now : Nat) (request : List UInt8) : Server × Reply :=
  let refuse (s : Server) code := (s, ({ response := nrc udsSidSecurityAccess code } : Reply))
  let level := subFunction (byte request 1)
  if request.length < 2 then refuse s nrcIncorrectMsgLen
  else if level &&& 0x01 ≠ 0 then
    match diagSessionCheckSecurityGate s.session now with
    | (session, .delay) => refuse { s with session } nrcRequiredTimeDelay
    | (session, .locked) => refuse { s with session } nrcExceededAttempts
    | (session, .ok) =>
      let (session, seed) := diagSessionGenerateSeed session now
      ({ s with session },
        { response := [udsSidSecurityAccess + udsResponseSidOffset, level,
            (seed >>> 8).toUInt8, seed.toUInt8] })
  else if request.length < 4 then refuse s nrcIncorrectMsgLen
  else
    let key := (byte request 2).toUInt16 <<< 8 ||| (byte request 3).toUInt16
    match diagSessionVerifyKey s.session now key with
    | (session, .ok) =>
      ({ s with session }, { response := [udsSidSecurityAccess + udsResponseSidOffset, level] })
    | (session, .exceededAttempts) => refuse { s with session } nrcExceededAttempts
    | (session, .delayNotExpired) => refuse { s with session } nrcRequiredTimeDelay
    | (session, .invalid) => refuse { s with session } nrcInvalidKey

/-- `handle_tester_present`. -/
def handleTesterPresent (s : Server) (request : List UInt8) : Server × Reply :=
  let refuse code := (s, ({ response := nrc udsSidTesterPresent code } : Reply))
  let sub := subFunction (byte request 1)
  if request.length < 2 then refuse nrcIncorrectMsgLen
  else if sub ≠ 0 then refuse nrcSubFuncNotSupported
  else (s, { response := [udsSidTesterPresent + udsResponseSidOffset, sub] })

/-- 0x28 and 0x85 are accepted and have no effect. -/
def handleNoopControl (s : Server) (sid : UInt8) (request : List UInt8) : Server × Reply :=
  if request.length < 2 then (s, { response := nrc sid nrcIncorrectMsgLen })
  else (s, { response := [sid + udsResponseSidOffset, subFunction (byte request 1)] })

/-! ## Download -/

/-- The size of an acceptable 0x34 request, or its response code. -/
def checkRequestDownload (request : List UInt8) : Except UInt8 Nat :=
  let alfid := byte request 1
  let alen := (alfid &&& 0x0F).toNat
  let slen := ((alfid >>> 4) &&& 0x0F).toNat
  let addr := ofBe ((request.drop 2).take alen)
  let size := ofBe ((request.drop (2 + alen)).take slen)
  if request.length < 3 then .error nrcIncorrectMsgLen
  else if alen = 0 ∨ slen = 0 ∨ 4 < alen ∨ 4 < slen then .error nrcRequestOutOfRange
  else if request.length < 2 + alen + slen then .error nrcIncorrectMsgLen
  else if addr ≠ appBase ∨ size = 0 ∨ appSlotSize < size then .error nrcRequestOutOfRange
  else .ok size

/-- The record that marks an update in progress and carries the counter. -/
def updatingMeta (savedRollback : UInt32) : BlMeta where
  magic := blMetaMagic
  state := blMetaStateUpdating
  version := savedRollback
  size := 0
  crc32 := 0

/-- The confirmation announces the longest block, in two bytes. -/
def requestDownloadResponse : List UInt8 :=
  [udsSidRequestDownload + udsResponseSidOffset, 0x22, 0x00, 0xF8]

/-- Mark the meta page, then erase the slot, then open the transfer. -/
def requestDownload (s : Server) (size : Nat) : Server × Reply :=
  let pending := [nrc udsSidRequestDownload nrcResponsePending]
  let failure := nrc udsSidRequestDownload nrcGeneralProgrammingFailure
  let saved := blMetaRollbackCounter s.flash.mem
  let s := { s with savedRollback := saved }
  match blMetaWrite s.flash (updatingMeta saved) with
  | (flash, false) => ({ s with flash }, ⟨pending, failure⟩)
  | (flash, true) =>
    match otaFlashErase flash appBase size with
    | (flash, false) => ({ s with flash }, ⟨pending, failure⟩)
    | (flash, true) =>
      ({ s with flash, xfer := ⟨true, false, size, 0, 1⟩ }, ⟨pending, requestDownloadResponse⟩)

/-- `handle_request_download`: the checks come before the first primitive. -/
def handleRequestDownload (s : Server) (request : List UInt8) : Server × Reply :=
  match checkRequestDownload request with
  | .error code => (s, { response := nrc udsSidRequestDownload code })
  | .ok size => requestDownload s size

/-! ## Transfer -/

/-- The block counter and the data of an acceptable 0x36 request. -/
def checkTransferData (x : Transfer) (request : List UInt8) :
    Except UInt8 (UInt8 × List UInt8) :=
  let seq := byte request 1
  let data := request.drop 2
  if x.active = false ∨ x.closed = true ∨ request.length < 3 then .error nrcConditionsNotCorrect
  else if seq ≠ x.blockSeq then .error nrcWrongBlockSequence
  else if x.size < u32 (x.written + data.length) then .error nrcTransferDataSuspended
  else .ok (seq, data)

/-- An accepted block is programmed behind the others; a primitive that fails ends the
transfer. -/
def transferData (s : Server) (seq : UInt8) (data : List UInt8) : Server × Reply :=
  match otaFlashWrite s.flash (u32 (appBase + s.xfer.written)) data with
  | (flash, false) =>
    ({ s with flash }, { response := nrc udsSidTransferData nrcGeneralProgrammingFailure })
  | (flash, true) =>
    ({ s with flash, xfer := { s.xfer with written := u32 (s.xfer.written + data.length),
                                           blockSeq := s.xfer.blockSeq + 1 } },
      { response := [udsSidTransferData + udsResponseSidOffset, seq] })

/-- `handle_transfer_data`. -/
def handleTransferData (s : Server) (request : List UInt8) : Server × Reply :=
  match checkTransferData s.xfer request with
  | .error code => (s, { response := nrc udsSidTransferData code })
  | .ok (seq, data) => transferData s seq data

/-- `handle_request_transfer_exit`: the transfer stays active for the check of the
memory. -/
def handleRequestTransferExit (s : Server) (request : List UInt8) : Server × Reply :=
  if s.xfer.active = false ∨ s.xfer.closed = true ∨ request.length < 1 then
    (s, { response := nrc udsSidRequestTransferExit nrcConditionsNotCorrect })
  else
    ({ s with xfer := { s.xfer with closed := true } },
      { response := [udsSidRequestTransferExit + udsResponseSidOffset] })

/-! ## CheckMemory -/

/-- Version and CRC fields of a CheckMemory request. -/
def requestVersion (request : List UInt8) : UInt32 :=
  UInt32.ofNat (ofBe ((request.drop 4).take 4))

/-- The CRC field of the memory check. -/
def requestCrc (request : List UInt8) : UInt32 := UInt32.ofNat (ofBe ((request.drop 8).take 4))

/-- The version and the CRC of an acceptable 0x31 0x0203 request: it ends a
closed transfer, does not go below the saved counter and names the CRC of the
written bytes. -/
def checkRoutineControl (s : Server) (request : List UInt8) : Except UInt8 (UInt32 × UInt32) :=
  let sub := subFunction (byte request 1)
  let version := requestVersion request
  let expected := requestCrc request
  let crc := blCrc32 (readBytes s.flash.mem appBase s.xfer.written)
  if request.length < 4 then .error nrcIncorrectMsgLen
  else if byte request 2 ≠ 0x02 ∨ byte request 3 ≠ 0x03 then .error nrcRequestOutOfRange
  else if sub ≠ 0x01 then .error nrcSubFuncNotSupported
  else if s.xfer.active = false ∨ s.xfer.closed = false ∨ request.length ≠ 12 ∨
      s.xfer.written = 0 then .error nrcConditionsNotCorrect
  else if version < s.savedRollback then .error nrcRequestOutOfRange
  else if crc ≠ expected then .error nrcGeneralProgrammingFailure
  else .ok (version, crc)

/-- The record of a valid image. -/
def validMeta (version crc : UInt32) (written : Nat) : BlMeta where
  magic := blMetaMagic
  state := blMetaStateValid
  version := version
  size := UInt32.ofNat written
  crc32 := crc

/-- `[0x71, 01, 02, 03, crc]`. -/
def checkMemoryResponse (sub : UInt8) (crc : UInt32) : List UInt8 :=
  [udsSidRoutineControl + udsResponseSidOffset, sub, 0x02, 0x03] ++ be 4 crc.toNat

/-- A passed check writes the record and ends the transfer. -/
def checkMemory (s : Server) (sub : UInt8) (version crc : UInt32) : Server × Reply :=
  match blMetaWrite s.flash (validMeta version crc s.xfer.written) with
  | (flash, false) =>
    ({ s with flash }, { response := nrc udsSidRoutineControl nrcGeneralProgrammingFailure })
  | (flash, true) =>
    ({ s with flash, xfer := { s.xfer with active := false } },
      { response := checkMemoryResponse sub crc })

/-- `handle_routine_control`. -/
def handleRoutineControl (s : Server) (request : List UInt8) : Server × Reply :=
  match checkRoutineControl s request with
  | .error code => (s, { response := nrc udsSidRoutineControl code })
  | .ok (version, crc) => checkMemory s (subFunction (byte request 1)) version crc

/-! ## Dispatcher -/

/-- The services answered on the functional address. -/
def functionalSids : List UInt8 := [udsSidTesterPresent, udsSidDiagSessionCtrl, udsSidEcuReset]

/-- The services whose positive response bit 7 of the sub-function suppresses. -/
def suppressibleSids : List UInt8 :=
  [udsSidDiagSessionCtrl, udsSidEcuReset, udsSidSecurityAccess, udsSidRoutineControl,
    udsSidTesterPresent, udsSidControlDtcSetting]

/-- A flash service behind its gate. -/
def gated (s : Server) (sid : UInt8) (handler : Server × Reply) : Server × Reply :=
  match gateFlashServices s.session with
  | some code => (s, { response := nrc sid code })
  | none => handler

/-- The service switch. -/
def serve (s : Server) (now : Nat) (request : List UInt8) : Server × Reply :=
  let sid := byte request 0
  if sid = udsSidDiagSessionCtrl then handleSessionControl s now request
  else if sid = udsSidEcuReset then handleEcuReset s request
  else if sid = udsSidSecurityAccess then handleSecurityAccess s now request
  else if sid = udsSidTesterPresent then handleTesterPresent s request
  else if sid = udsSidCommunicationControl ∨ sid = udsSidControlDtcSetting then
    handleNoopControl s sid request
  else if sid = udsSidRequestDownload then gated s sid (handleRequestDownload s request)
  else if sid = udsSidTransferData then gated s sid (handleTransferData s request)
  else if sid = udsSidRequestTransferExit then gated s sid (handleRequestTransferExit s request)
  else if sid = udsSidRoutineControl then gated s sid (handleRoutineControl s request)
  else (s, { response := nrc sid nrcServiceNotSupported })

/-- Whether a request reaches the service switch at all. -/
def admitted (request : List UInt8) (addr : AddrType) : Bool :=
  !request.isEmpty && (addr != .functional || functionalSids.contains (byte request 0))

/-- The reply before suppression of positive responses. -/
def serveRequest (s : Server) (now : Nat) (request : List UInt8) (addr : AddrType) :
    Server × Reply :=
  if admitted request addr then
    serve { s with session := diagSessionResetS3Timeout s.session now } now request
  else (s, {})

/-- A positive response to a request with the suppress bit, of a service that has
sub-functions. -/
def suppressed (request response : List UInt8) : Bool :=
  decide (0 < response.length) && byte response 0 != 0x7F && decide (2 ≤ request.length) &&
    (byte request 1 &&& 0x80 != 0) && suppressibleSids.contains (byte request 0)

/-- The dispatcher of the bootloader. -/
def udsDispatchRequest (s : Server) (now : Nat) (request : List UInt8) (addr : AddrType) :
    Server × Reply :=
  let (s, reply) := serveRequest s now request addr
  (s, if suppressed request reply.response then { reply with response := [] } else reply)

/-! ## What a request does -/

/-- What a request makes the server do to the flash. -/
inductive Command where
  | requestDownload (size : Nat)
  | transferData (seq : UInt8) (data : List UInt8)
  | checkMemory (sub : UInt8) (version crc : UInt32)
deriving DecidableEq, Repr

/-- What an accepted command does. -/
def Command.run (s : Server) : Command → Server × Reply
  | .requestDownload size => BlUds.requestDownload s size
  | .transferData seq data => BlUds.transferData s seq data
  | .checkMemory sub version crc => BlUds.checkMemory s sub version crc

/-- The command of a request that passes the address filter, the gate and the
checks of its service. -/
def command (s : Server) (request : List UInt8) (addr : AddrType) : Option Command :=
  let sid := byte request 0
  if admitted request addr = false ∨ (gateFlashServices s.session).isSome then none
  else if sid = udsSidRequestDownload then
    match checkRequestDownload request with
    | .error _ => none
    | .ok size => some (.requestDownload size)
  else if sid = udsSidTransferData then
    match checkTransferData s.xfer request with
    | .error _ => none
    | .ok (seq, data) => some (.transferData seq data)
  else if sid = udsSidRoutineControl then
    match checkRoutineControl s request with
    | .error _ => none
    | .ok (version, crc) => some (.checkMemory (subFunction (byte request 1)) version crc)
  else none

/-- The positive answers of the services that act on the flash. -/
def downloadAnswers : List UInt8 := [0x74, 0x76, 0x71]

/-- The server after a request without a flash command: the transfer is at most
closed. -/
structure Idle (s s' : Server) : Prop where
  flash : s'.flash = s.flash
  saved : s'.savedRollback = s.savedRollback
  xfer : s'.xfer = s.xfer ∨
    (s'.xfer = { s.xfer with closed := true } ∧ s.xfer.active = true ∧ s.xfer.closed = false)

/-- The session as a request finds it: only its activity stamp is renewed. -/
def stamped (s : Server) (now : Nat) : Server :=
  { s with session := diagSessionResetS3Timeout s.session now }

/-- The gate does not look at the activity stamp. -/
@[simp] theorem gate_stamped (s : Server) (now : Nat) :
    gateFlashServices (stamped s now).session = gateFlashServices s.session := rfl

/-- No refusal looks like an answer of a download. -/
theorem nrc_not_download (sid code : UInt8) : byte (nrc sid code) 0 ∉ downloadAnswers := by
  have first : byte (nrc sid code) 0 = 0x7F := rfl
  rw [first]
  decide

/-- A server that nothing happened to is idle. -/
theorem Idle.same (s : Server) : Idle s s := ⟨rfl, rfl, Or.inl rfl⟩

/-- A server of which only the session changed is idle. -/
theorem Idle.session (s : Server) (session : DiagSession) : Idle s { s with session } :=
  ⟨rfl, rfl, Or.inl rfl⟩

/-- 0x10 leaves the server idle and answers otherwise than a download. -/
theorem session_control_idle (s : Server) (now : Nat) (request : List UInt8) :
    Idle s (handleSessionControl s now request).1 ∧
      byte (handleSessionControl s now request).2.response 0 ∉ downloadAnswers := by
  unfold handleSessionControl
  simp only
  split
  · exact ⟨Idle.same s, nrc_not_download _ _⟩
  · split
    · exact ⟨Idle.same s, nrc_not_download _ _⟩
    · split
      · exact ⟨Idle.same s, nrc_not_download _ _⟩
      · exact ⟨Idle.session s _, by simp [sessionResponse, byte]; decide⟩

/-- 0x11 leaves the server idle and answers otherwise than a download. -/
theorem ecu_reset_idle (s : Server) (request : List UInt8) :
    Idle s (handleEcuReset s request).1 ∧
      byte (handleEcuReset s request).2.response 0 ∉ downloadAnswers := by
  unfold handleEcuReset
  simp only
  split
  · exact ⟨Idle.same s, nrc_not_download _ _⟩
  · split
    · exact ⟨Idle.same s, nrc_not_download _ _⟩
    · exact ⟨⟨rfl, rfl, Or.inl rfl⟩, by simp [byte]; decide⟩

/-- 0x27 leaves the server idle and answers otherwise than a download. -/
theorem security_access_idle (s : Server) (now : Nat) (request : List UInt8) :
    Idle s (handleSecurityAccess s now request).1 ∧
      byte (handleSecurityAccess s now request).2.response 0 ∉ downloadAnswers := by
  unfold handleSecurityAccess
  simp only
  split
  · exact ⟨Idle.same s, nrc_not_download _ _⟩
  · split
    · split
      · exact ⟨Idle.session s _, nrc_not_download _ _⟩
      · exact ⟨Idle.session s _, nrc_not_download _ _⟩
      · exact ⟨Idle.session s _, by simp [byte]; decide⟩
    · split
      · exact ⟨Idle.same s, nrc_not_download _ _⟩
      · split
        · exact ⟨Idle.session s _, by simp [byte]; decide⟩
        · exact ⟨Idle.session s _, nrc_not_download _ _⟩
        · exact ⟨Idle.session s _, nrc_not_download _ _⟩
        · exact ⟨Idle.session s _, nrc_not_download _ _⟩

/-- 0x3E leaves the server idle and answers otherwise than a download. -/
theorem tester_present_idle (s : Server) (request : List UInt8) :
    Idle s (handleTesterPresent s request).1 ∧
      byte (handleTesterPresent s request).2.response 0 ∉ downloadAnswers := by
  unfold handleTesterPresent
  simp only
  split
  · exact ⟨Idle.same s, nrc_not_download _ _⟩
  · split
    · exact ⟨Idle.same s, nrc_not_download _ _⟩
    · exact ⟨Idle.same s, by simp [byte]; decide⟩

/-- 0x28 and 0x85 leave the server idle and answer otherwise than a download. -/
theorem noop_control_idle (s : Server) (sid : UInt8) (request : List UInt8)
    (noop : sid = udsSidCommunicationControl ∨ sid = udsSidControlDtcSetting) :
    Idle s (handleNoopControl s sid request).1 ∧
      byte (handleNoopControl s sid request).2.response 0 ∉ downloadAnswers := by
  unfold handleNoopControl
  split
  · exact ⟨Idle.same s, nrc_not_download _ _⟩
  · refine ⟨Idle.same s, ?_⟩
    rcases noop with rfl | rfl <;> · simp [byte]; decide

/-- 0x37 at most closes the transfer, and its answer is none of a flash command. -/
theorem transfer_exit_idle (s : Server) (request : List UInt8) :
    Idle s (handleRequestTransferExit s request).1 ∧
      byte (handleRequestTransferExit s request).2.response 0 ∉ downloadAnswers := by
  unfold handleRequestTransferExit
  split
  · exact ⟨Idle.same s, nrc_not_download _ _⟩
  · rename_i opened
    simp only [not_or, Bool.not_eq_false, Bool.not_eq_true] at opened
    exact ⟨⟨rfl, rfl, Or.inr ⟨rfl, opened.1, opened.2.1⟩⟩, by simp [byte]; decide⟩

/-- Behind a closed gate a flash service is refused. -/
theorem gated_closed (s : Server) (sid code : UInt8) (handler : Server × Reply)
    (closed : gateFlashServices s.session = some code) :
    Idle s (gated s sid handler).1 ∧
      byte (gated s sid handler).2.response 0 ∉ downloadAnswers := by
  rw [gated, closed]
  exact ⟨Idle.same s, nrc_not_download sid code⟩

/-- With the gate closed no service acts on the flash. -/
theorem serve_closed (s : Server) (now : Nat) (request : List UInt8) (code : UInt8)
    (closed : gateFlashServices s.session = some code) :
    Idle s (serve s now request).1 ∧
      byte (serve s now request).2.response 0 ∉ downloadAnswers := by
  unfold serve
  simp only
  split
  · exact session_control_idle s now request
  split
  · exact ecu_reset_idle s request
  split
  · exact security_access_idle s now request
  split
  · exact tester_present_idle s request
  split
  case isTrue noop => exact noop_control_idle s _ request noop
  split
  · exact gated_closed s _ code _ closed
  split
  · exact gated_closed s _ code _ closed
  split
  · exact gated_closed s _ code _ closed
  split
  · exact gated_closed s _ code _ closed
  exact ⟨Idle.same s, nrc_not_download _ _⟩

/-- A service that is not one of the three download services leaves the flash
alone. -/
theorem serve_other (s : Server) (now : Nat) (request : List UInt8)
    (download : byte request 0 ≠ udsSidRequestDownload)
    (transfer : byte request 0 ≠ udsSidTransferData)
    (routine : byte request 0 ≠ udsSidRoutineControl) :
    Idle s (serve s now request).1 ∧
      byte (serve s now request).2.response 0 ∉ downloadAnswers := by
  cases gate : gateFlashServices s.session with
  | some code => exact serve_closed s now request code gate
  | none =>
    unfold serve
    simp only [if_neg download, if_neg transfer, if_neg routine, gated, gate]
    split
    · exact session_control_idle s now request
    split
    · exact ecu_reset_idle s request
    split
    · exact security_access_idle s now request
    split
    · exact tester_present_idle s request
    split
    case isTrue noop => exact noop_control_idle s _ request noop
    split
    · exact transfer_exit_idle s request
    exact ⟨Idle.same s, nrc_not_download _ _⟩

/-- Behind an open gate the download services are their handlers. -/
theorem serve_download (s : Server) (now : Nat) (request : List UInt8)
    (opened : gateFlashServices s.session = none) :
    (byte request 0 = udsSidRequestDownload →
      serve s now request = handleRequestDownload s request) ∧
    (byte request 0 = udsSidTransferData →
      serve s now request = handleTransferData s request) ∧
    (byte request 0 = udsSidRequestTransferExit →
      serve s now request = handleRequestTransferExit s request) ∧
    (byte request 0 = udsSidRoutineControl →
      serve s now request = handleRoutineControl s request) := by
  refine ⟨?_, ?_, ?_, ?_⟩ <;>
  · intro service
    simp only [serve, service, gated, opened]
    rfl

/-- What a request does: one with a flash command runs it on the stamped
session; every other one leaves the flash alone and gives no positive download
answer. -/
theorem serve_request_command (s : Server) (now : Nat) (request : List UInt8) (addr : AddrType) :
    (∀ c, command s request addr = some c →
      serveRequest s now request addr = c.run (stamped s now)) ∧
    (command s request addr = none →
      Idle s (serveRequest s now request addr).1 ∧
        byte (serveRequest s now request addr).2.response 0 ∉ downloadAnswers) := by
  have idle (handled : Idle (stamped s now) (serve (stamped s now) now request).1 ∧
      byte (serve (stamped s now) now request).2.response 0 ∉ downloadAnswers) :
      Idle s (serve (stamped s now) now request).1 ∧
        byte (serve (stamped s now) now request).2.response 0 ∉ downloadAnswers :=
    ⟨⟨handled.1.flash, handled.1.saved, handled.1.xfer⟩, handled.2⟩
  have refused (sid code : UInt8) : Idle s (stamped s now) ∧
      byte (nrc sid code) 0 ∉ downloadAnswers := ⟨Idle.session s _, nrc_not_download sid code⟩
  by_cases reaches : admitted request addr = true
  swap
  · have none_command : command s request addr = none := by simp [command, reaches]
    have silent : serveRequest s now request addr = (s, {}) := by simp [serveRequest, reaches]
    have no_answer : byte [] 0 ∉ downloadAnswers := by decide
    rw [none_command, silent]
    exact ⟨by simp, fun _ => ⟨Idle.same s, no_answer⟩⟩
  have served : serveRequest s now request addr = serve (stamped s now) now request := by
    simp [serveRequest, reaches, stamped]
  rw [served]
  cases gate : gateFlashServices s.session with
  | some code =>
    have none_command : command s request addr = none := by simp [command, gate]
    rw [none_command]
    exact ⟨by simp, fun _ => idle (serve_closed (stamped s now) now request code gate)⟩
  | none =>
    obtain ⟨download, transfer, _, routine⟩ := serve_download (stamped s now) now request gate
    have through : ¬ (admitted request addr = false ∨ (none : Option UInt8).isSome = true) := by
      simp [reaches]
    simp only [command, gate, if_neg through]
    by_cases is_download : byte request 0 = udsSidRequestDownload
    · rw [download is_download, handleRequestDownload, if_pos is_download]
      cases checkRequestDownload request with
      | error code => exact ⟨by simp, fun _ => refused _ code⟩
      | ok size => exact ⟨by rintro c ⟨⟩; rfl, by simp⟩
    · rw [if_neg is_download]
      by_cases is_transfer : byte request 0 = udsSidTransferData
      · rw [transfer is_transfer, handleTransferData, if_pos is_transfer]
        have same : checkTransferData (stamped s now).xfer request =
          checkTransferData s.xfer request := rfl
        rw [same]
        cases checkTransferData s.xfer request with
        | error code => exact ⟨by simp, fun _ => refused _ code⟩
        | ok block => exact ⟨by rintro c ⟨⟩; rfl, by simp⟩
      · rw [if_neg is_transfer]
        by_cases is_routine : byte request 0 = udsSidRoutineControl
        · rw [routine is_routine, handleRoutineControl, if_pos is_routine]
          have same : checkRoutineControl (stamped s now) request =
            checkRoutineControl s request := rfl
          rw [same]
          cases checkRoutineControl s request with
          | error code => exact ⟨by simp, fun _ => refused _ code⟩
          | ok checked => exact ⟨by rintro c ⟨⟩; rfl, by simp⟩
        · rw [if_neg is_routine]
          exact ⟨by simp, fun _ =>
            idle (serve_other (stamped s now) now request is_download is_transfer is_routine)⟩

/-! ## What a command does to the flash -/

/-- First page of the application slot. -/
def slotPage : Nat := 14

/-- Pages of an image. -/
def imagePages (size : Nat) : Nat := (size + 2047) / 2048

/-- The primitives of a download request: the meta rewrite, then the erases of
the pages of the image. -/
def downloadOps (savedRollback : UInt32) (size : Nat) : List Op :=
  metaOps (updatingMeta savedRollback) ++ eraseOps slotPage (imagePages size)

/-- The transfer is inside its announced size, and that inside the slot. -/
def Transfer.Bounded (x : Transfer) : Prop := x.written ≤ x.size ∧ x.size ≤ appSlotSize

/-- The addresses as the source spells them. -/
theorem slot_values : appBase = 0x08007000 ∧ appSlotSize = 0x17000 ∧ metaBase = 0x0801E000 ∧
    flashEnd = 0x08020000 := ⟨rfl, rfl, rfl, rfl⟩

/-- An acceptable download size is positive and fits the slot. -/
theorem check_download_size (request : List UInt8) (size : Nat)
    (accepted : checkRequestDownload request = .ok size) : 0 < size ∧ size ≤ appSlotSize := by
  unfold checkRequestDownload at accepted
  simp only at accepted
  split at accepted
  · cases accepted
  split at accepted
  · cases accepted
  split at accepted
  · cases accepted
  split at accepted
  · cases accepted
  · rename_i inside
    cases accepted
    simp only [not_or, not_lt] at inside
    exact ⟨Nat.pos_of_ne_zero inside.2.1, inside.2.2⟩

/-- An acceptable block has the expected counter, some data, and ends inside the
announced size. -/
theorem check_transfer_data (x : Transfer) (request : List UInt8) (seq : UInt8)
    (data : List UInt8) (bounded : x.Bounded) (short : request.length < 2 ^ 16)
    (accepted : checkTransferData x request = .ok (seq, data)) :
    x.active = true ∧ x.closed = false ∧ seq = x.blockSeq ∧ data = request.drop 2 ∧
      0 < data.length ∧ x.written + data.length ≤ x.size := by
  obtain ⟨inside, slot⟩ := bounded
  obtain ⟨_, slot_size, _, _⟩ := slot_values
  unfold checkTransferData at accepted
  simp only at accepted
  split at accepted
  · cases accepted
  rename_i opened
  split at accepted
  · cases accepted
  rename_i counter
  split at accepted
  · cases accepted
  rename_i room
  cases accepted
  simp only [not_or, Bool.not_eq_false, Bool.not_eq_true, not_lt] at opened
  have length : (request.drop 2).length = request.length - 2 := List.length_drop
  have exact_sum : u32 (x.written + (request.drop 2).length) =
      x.written + (request.drop 2).length := Nat.mod_eq_of_lt (by omega)
  refine ⟨opened.1, opened.2.1, not_not.mp counter, rfl, by omega, ?_⟩
  rw [exact_sum] at room
  omega

/-- An accepted CheckMemory ends a closed transfer of some bytes, keeps the saved
counter and names the CRC of what is in the slot. -/
theorem check_routine_control (s : Server) (request : List UInt8) (version crc : UInt32)
    (accepted : checkRoutineControl s request = .ok (version, crc)) :
    s.xfer.active = true ∧ s.xfer.closed = true ∧ 0 < s.xfer.written ∧
      version = requestVersion request ∧ s.savedRollback ≤ version ∧
      crc = blCrc32 (readBytes s.flash.mem appBase s.xfer.written) := by
  unfold checkRoutineControl at accepted
  simp only at accepted
  split at accepted
  · cases accepted
  split at accepted
  · cases accepted
  split at accepted
  · cases accepted
  split at accepted
  · cases accepted
  rename_i open_transfer
  split at accepted
  · cases accepted
  rename_i kept
  split at accepted
  · cases accepted
  cases accepted
  simp only [not_or, Bool.not_eq_false] at open_transfer
  exact ⟨open_transfer.1, open_transfer.2.1, Nat.pos_of_ne_zero open_transfer.2.2.2, rfl,
    UInt32.not_lt.mp kept, rfl⟩

/-- What the checks of a service establish about its command. -/
def Command.Fits (s : Server) (request : List UInt8) : Command → Prop
  | .requestDownload size => 0 < size ∧ size ≤ appSlotSize
  | .transferData seq data =>
    s.xfer.active = true ∧ s.xfer.closed = false ∧ seq = s.xfer.blockSeq ∧
      data = request.drop 2 ∧ 0 < data.length ∧ s.xfer.written + data.length ≤ s.xfer.size
  | .checkMemory _ version crc =>
    s.xfer.active = true ∧ s.xfer.closed = true ∧ 0 < s.xfer.written ∧
      version = requestVersion request ∧ s.savedRollback ≤ version ∧
      crc = blCrc32 (readBytes s.flash.mem appBase s.xfer.written)

/-- The service of a command. -/
def Command.sid : Command → UInt8
  | .requestDownload _ => udsSidRequestDownload
  | .transferData _ _ => udsSidTransferData
  | .checkMemory _ _ _ => udsSidRoutineControl

/-- A command comes of a request for its service. -/
theorem command_sid (s : Server) (request : List UInt8) (addr : AddrType) (c : Command)
    (is_command : command s request addr = some c) : byte request 0 = c.sid := by
  unfold command at is_command
  simp only at is_command
  split at is_command
  · cases is_command
  split at is_command
  case isTrue service =>
    split at is_command
    · cases is_command
    · cases is_command
      exact service
  split at is_command
  case isTrue service =>
    split at is_command
    · cases is_command
    · cases is_command
      exact service
  split at is_command
  case isTrue service =>
    split at is_command
    · cases is_command
    · cases is_command
      exact service
  cases is_command

/-- A request that becomes a command fits it, lengths included. -/
theorem command_fits (s : Server) (request : List UInt8) (addr : AddrType) (c : Command)
    (bounded : s.xfer.Bounded) (short : request.length < 2 ^ 16)
    (is_command : command s request addr = some c) : c.Fits s request := by
  unfold command at is_command
  simp only at is_command
  split at is_command
  · cases is_command
  split at is_command
  · split at is_command
    · cases is_command
    · rename_i size accepted
      cases is_command
      exact check_download_size request size accepted
  split at is_command
  · split at is_command
    · cases is_command
    · rename_i seq data accepted
      cases is_command
      exact check_transfer_data s.xfer request seq data bounded short accepted
  split at is_command
  · split at is_command
    · cases is_command
    · rename_i version crc accepted
      cases is_command
      exact check_routine_control s request version crc accepted
  · cases is_command

/-- The erase of an image is inside the range of the driver, and of its pages. -/
theorem slot_erase_loop (d : Device) (size : Nat) (fits : size ≤ appSlotSize) :
    otaFlashErase d appBase size = otaFlashEraseLoop d slotPage (imagePages size) := by
  obtain ⟨app, slot, _, last⟩ := slot_values
  have inside : u32 (appBase + size) = appBase + size := Nat.mod_eq_of_lt (by omega)
  have pages : u32 (size + flashPageSize - 1) / flashPageSize = imagePages size := by
    have page : flashPageSize = 2048 := rfl
    have rounded : size + 2048 - 1 = size + 2047 := by omega
    rw [imagePages, page, rounded, u32, Nat.mod_eq_of_lt (by omega)]
  have ranged : inRange appBase size = true := by
    simp only [inRange, inside, Bool.and_eq_true, decide_eq_true_eq]
    omega
  rw [otaFlashErase, if_pos ranged, pages]
  rfl

/-- A download request attempts its primitives in order; it is answered
positively, and opens a transfer, exactly when all of them were done. -/
theorem request_download_attempts (s : Server) (size : Nat)
    (standard : s.flash.accepts = writable stmFlash) (fits : size ≤ appSlotSize) :
    ∃ flash ok,
      s.flash.Attempts stmFlash (downloadOps (blMetaRollbackCounter s.flash.mem) size) flash ok ∧
      requestDownload s size =
        (if ok then
          ({ s with savedRollback := blMetaRollbackCounter s.flash.mem, flash,
                    xfer := ⟨true, false, size, 0, 1⟩ },
            ⟨[nrc udsSidRequestDownload nrcResponsePending], requestDownloadResponse⟩)
        else
          ({ s with savedRollback := blMetaRollbackCounter s.flash.mem, flash },
            ⟨[nrc udsSidRequestDownload nrcResponsePending],
              nrc udsSidRequestDownload nrcGeneralProgrammingFailure⟩)) := by
  have marked := meta_write_attempts s.flash (updatingMeta (blMetaRollbackCounter s.flash.mem))
    standard
  rw [requestDownload]
  simp only
  generalize blMetaWrite s.flash (updatingMeta (blMetaRollbackCounter s.flash.mem)) = outcome
    at marked
  obtain ⟨after, done⟩ := outcome
  cases done with
  | false => exact ⟨after, false, marked.stopped _, rfl⟩
  | true =>
    have erased := erase_loop_attempts after slotPage (imagePages size)
    simp only [slot_erase_loop after size fits]
    generalize otaFlashEraseLoop after slotPage (imagePages size) = second at erased
    obtain ⟨last, finished⟩ := second
    refine ⟨last, finished, marked.trans erased, ?_⟩
    cases finished <;> rfl

/-- On any device a download request gives a front part of its primitives, and
opens a transfer or keeps the one there was. -/
theorem request_download_follows (s : Server) (size : Nat) (fits : size ≤ appSlotSize) :
    ∃ ok, s.flash.Follows stmFlash (downloadOps (blMetaRollbackCounter s.flash.mem) size)
        (requestDownload s size).1.flash ok ∧
      ((requestDownload s size).1.xfer = s.xfer ∨
        (requestDownload s size).1.xfer = ⟨true, false, size, 0, 1⟩) := by
  have marked := meta_write_follows s.flash (updatingMeta (blMetaRollbackCounter s.flash.mem))
  rw [requestDownload]
  simp only
  generalize blMetaWrite s.flash (updatingMeta (blMetaRollbackCounter s.flash.mem)) = outcome
    at marked
  obtain ⟨after, done⟩ := outcome
  cases done with
  | false => exact ⟨false, marked.stopped _, Or.inl rfl⟩
  | true =>
    have erased := (erase_loop_attempts after slotPage (imagePages size)).follows
    simp only [slot_erase_loop after size fits]
    generalize otaFlashEraseLoop after slotPage (imagePages size) = second at erased
    obtain ⟨last, finished⟩ := second
    have whole := marked.trans erased
    cases finished with
    | false => exact ⟨false, whole, Or.inl rfl⟩
    | true => exact ⟨true, whole, Or.inr rfl⟩

/-- On any device an accepted CheckMemory gives a front part of a meta rewrite. -/
theorem check_memory_follows (s : Server) (sub : UInt8) (version crc : UInt32) :
    ∃ ok, s.flash.Follows stmFlash (metaOps (validMeta version crc s.xfer.written))
        (checkMemory s sub version crc).1.flash ok ∧
      ((checkMemory s sub version crc).1.xfer = s.xfer ∨
        (checkMemory s sub version crc).1.xfer = { s.xfer with active := false }) := by
  have marked := meta_write_follows s.flash (validMeta version crc s.xfer.written)
  rw [checkMemory]
  generalize blMetaWrite s.flash (validMeta version crc s.xfer.written) = outcome at marked
  obtain ⟨after, done⟩ := outcome
  cases done with
  | false => exact ⟨false, marked, Or.inl rfl⟩
  | true => exact ⟨true, marked, Or.inr rfl⟩

/-- An accepted CheckMemory attempts a meta rewrite; it is answered positively,
and consumes the transfer, exactly when all four primitives were done. -/
theorem check_memory_attempts (s : Server) (sub : UInt8) (version crc : UInt32)
    (standard : s.flash.accepts = writable stmFlash) :
    ∃ flash ok,
      s.flash.Attempts stmFlash (metaOps (validMeta version crc s.xfer.written)) flash ok ∧
      checkMemory s sub version crc =
        (if ok then
          ({ s with flash, xfer := { s.xfer with active := false } },
            { response := checkMemoryResponse sub crc })
        else
          ({ s with flash },
            { response := nrc udsSidRoutineControl nrcGeneralProgrammingFailure })) := by
  have marked := meta_write_attempts s.flash (validMeta version crc s.xfer.written) standard
  rw [checkMemory]
  generalize blMetaWrite s.flash (validMeta version crc s.xfer.written) = outcome at marked
  obtain ⟨after, done⟩ := outcome
  refine ⟨after, done, marked, ?_⟩
  cases done <;> rfl

/-- The interval a primitive may change lies in a range. -/
def Within (lo hi : Nat) (op : Op) : Prop := ∀ a, op.Touches stmFlash a → lo ≤ a ∧ a < hi

/-- A primitive starts in a range, and what it changes lies in it. -/
structure Targets (lo hi : Nat) (e : NorFlash.Event) : Prop where
  low : lo ≤ e.op.first stmFlash
  high : e.op.first stmFlash < hi
  within : e.done = true → Within lo hi e.op

/-- A block programs doublewords of the slot behind the written bytes only. It is
answered positively exactly when all were done; then its offset was aligned and
the padded data is stored there. -/
theorem transfer_data_ran (s : Server) (seq : UInt8) (data : List UInt8)
    (aligning : s.flash.Aligning stmFlash) (bounded : s.xfer.Bounded)
    (some_data : 0 < data.length) (room : s.xfer.written + data.length ≤ s.xfer.size) :
    ∃ events flash ok, s.flash.Ran stmFlash events flash ∧
      (∀ e ∈ events, Targets (appBase + s.xfer.written) metaBase e) ∧
      (ok = true → (appBase + s.xfer.written) % 8 = 0 ∧
        flash.mem = programWord s.flash.mem (appBase + s.xfer.written)
          (padded data (doublewords data.length))) ∧
      transferData s seq data =
        (if ok then
          ({ s with flash, xfer := { s.xfer with written := s.xfer.written + data.length,
                                                 blockSeq := s.xfer.blockSeq + 1 } },
            { response := [udsSidTransferData + udsResponseSidOffset, seq] })
        else
          ({ s with flash },
            { response := nrc udsSidTransferData nrcGeneralProgrammingFailure })) ∧
      ok = (otaFlashWriteLoop s.flash (appBase + s.xfer.written) data
        (doublewords data.length)).2 := by
  obtain ⟨app, slot, record, last⟩ := slot_values
  obtain ⟨_, fits⟩ := bounded
  have start : u32 (appBase + s.xfer.written) = appBase + s.xfer.written :=
    Nat.mod_eq_of_lt (by omega)
  have inside : u32 (appBase + s.xfer.written + data.length) =
      appBase + s.xfer.written + data.length := Nat.mod_eq_of_lt (by omega)
  have ranged : inRange (appBase + s.xfer.written) data.length = true := by
    simp only [inRange, inside, Bool.and_eq_true, decide_eq_true_eq]
    omega
  have write : otaFlashWrite s.flash (u32 (appBase + s.xfer.written)) data =
      otaFlashWriteLoop s.flash (appBase + s.xfer.written) data (doublewords data.length) := by
    rw [start, otaFlashWrite, if_pos ranged]
  have words : doublewords data.length = (data.length + 7) / 8 := rfl
  have wrapless : appBase + s.xfer.written + 8 * doublewords data.length < 2 ^ 32 := by omega
  obtain ⟨events, ran, front, complete, aligned⟩ := write_loop_ran s.flash
    (appBase + s.xfer.written) data (doublewords data.length)
  have written : u32 (s.xfer.written + data.length) = s.xfer.written + data.length :=
    Nat.mod_eq_of_lt (by omega)
  have placed : ∀ e ∈ events, ∃ i word, i < doublewords data.length ∧ word.length = 8 ∧
      e.op = .program (appBase + s.xfer.written + 8 * i) word := by
    intro e member
    exact program_ops_range _ data _ wrapless e.op
      (front.subset (List.mem_map_of_mem member))
  refine ⟨events, (otaFlashWriteLoop s.flash (appBase + s.xfer.written) data
    (doublewords data.length)).1, (otaFlashWriteLoop s.flash (appBase + s.xfer.written) data
    (doublewords data.length)).2, ran, ?_, ?_, ?_, rfl⟩
  · intro e member
    obtain ⟨i, word, index, length, op⟩ := placed e member
    have first : e.op.first stmFlash = appBase + s.xfer.written + 8 * i := by rw [op, Op.first]
    refine ⟨by omega, by omega, ?_⟩
    intro done a touched
    obtain ⟨start', word', op', grid⟩ := aligned aligning e member done
    rw [op] at op' touched
    cases op'
    simp only [Op.Touches, length] at touched
    omega
  · intro ok
    have all := complete ok
    have stored := replay_program_ops s.flash.mem (appBase + s.xfer.written) data
      (doublewords data.length) wrapless (length_le_doublewords data.length)
    refine ⟨?_, by rw [ran.mem, all, stored]⟩
    by_contra misaligned
    have stops := write_loop_misaligned s.flash (appBase + s.xfer.written) data
      (doublewords data.length) aligning (by omega) misaligned
    rw [ok] at stops
    cases stops
  · rw [transferData, write]
    generalize otaFlashWriteLoop s.flash (appBase + s.xfer.written) data
      (doublewords data.length) = outcome
    obtain ⟨after, done⟩ := outcome
    cases done with
    | false => rfl
    | true => simp only [written, if_true]

end ObdSimulator.BlUds
