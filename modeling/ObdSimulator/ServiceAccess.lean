import ObdSimulator.ReadDtcAccess

/-!
# The accesses of the services

The handlers of `uds_service.c` and their dispatcher, as programs over the buffers.
Where the source stops a condition early, all bytes the condition names are asked
for.
-/

namespace ObdSimulator.Handler

open Bytes NorFlash UdsService

/-- `build_negative_response`. -/
def refuse {σ : Type} (s : σ) (sid code : UInt8) : Handler (σ × List UInt8) :=
  answer s (nrc sid code)

/-! ## Session, reset, security and keep-alive -/

section Handlers

variable (s : App) (now reqLen : Nat)

/-- `handle_session_control`: the sub-function byte is all it reads. -/
def handleSessionControl : Handler (App × List UInt8) :=
  if reqLen < 2 then refuse s udsSidDiagSessionCtrl nrcIncorrectMsgLen
  else do
    let subByte ← reqByte 1
    let sub := subFunction subByte
    if sub ≠ 0x01 ∧ sub ≠ 0x02 ∧ sub ≠ 0x03 then
      refuse s udsSidDiagSessionCtrl nrcSubFuncNotSupported
    else
      match SessionType.ofByte sub with
      | none => refuse s udsSidDiagSessionCtrl nrcConditionsNotCorrect
      | some t =>
        let s := enterSession s now t
        answer (if t = .programming then { s with handoff := true, softResetRequested := 1 } else s)
          (sessionResponse sub)

/-- `handle_ecu_reset`: it reads the reset type and defers the reset itself. -/
def handleEcuReset : Handler (App × List UInt8) :=
  if reqLen < 2 then refuse s udsSidEcuReset nrcIncorrectMsgLen
  else do
    let subByte ← reqByte 1
    let resetType := subFunction subByte
    let respond := [udsSidEcuReset + udsResponseSidOffset, resetType]
    if resetType = udsResetHard then answer { s with softResetRequested := 2 } respond
    else if resetType = udsResetSoft then answer { s with softResetRequested := 1 } respond
    else refuse s udsSidEcuReset nrcSubFuncNotSupported

/-- `handle_security_access`: an odd level hands out a seed and reads nothing further;
an even one reads the two key bytes, behind a length check of its own. -/
def handleSecurityAccess : Handler (App × List UInt8) :=
  if reqLen < 2 then refuse s udsSidSecurityAccess nrcIncorrectMsgLen
  else do
    let subByte ← reqByte 1
    let level := subFunction subByte
    if level &&& 0x01 ≠ 0 then
      match diagSessionCheckSecurityGate s.session now with
      | (session, .delay) => refuse { s with session } udsSidSecurityAccess nrcRequiredTimeDelay
      | (session, .locked) => refuse { s with session } udsSidSecurityAccess nrcExceededAttempts
      | (session, .ok) =>
        let (session, seed) := diagSessionGenerateSeed session now
        answer { s with session }
          ((udsSidSecurityAccess + udsResponseSidOffset) :: level :: wordBytes seed)
    else if reqLen < 4 then refuse s udsSidSecurityAccess nrcIncorrectMsgLen
    else do
      let key ← reqWord 2
      match diagSessionVerifyKey s.session now key with
      | (session, .ok) =>
        answer { s with session } [udsSidSecurityAccess + udsResponseSidOffset, level]
      | (session, .exceededAttempts) =>
        refuse { s with session } udsSidSecurityAccess nrcExceededAttempts
      | (session, .delayNotExpired) =>
        refuse { s with session } udsSidSecurityAccess nrcRequiredTimeDelay
      | (session, .invalid) => refuse { s with session } udsSidSecurityAccess nrcInvalidKey

/-- `handle_tester_present`: the only handler that honours the suppress bit itself. -/
def handleTesterPresent : Handler (App × List UInt8) :=
  if reqLen < 2 then refuse s udsSidTesterPresent nrcIncorrectMsgLen
  else do
    let sub ← reqByte 1
    if subFunction sub ≠ 0x00 then refuse s udsSidTesterPresent nrcSubFuncNotSupported
    else if sub &&& 0x80 ≠ 0 then pure (s, [])
    else answer s [udsSidTesterPresent + udsResponseSidOffset, sub]

/-! ## Faults, routines and controls -/

/-- `handle_clear_dtc`: the three bytes of the group are named in one condition. -/
def handleClearDtc : Handler (App × List UInt8) :=
  if reqLen ≠ 4 then refuse s udsSidClearDiagInfo nrcIncorrectMsgLen
  else do
    let high ← reqByte 1
    let mid ← reqByte 2
    let low ← reqByte 3
    if high ≠ 0xFF ∨ mid ≠ 0xFF ∨ low ≠ 0xFF then
      refuse s udsSidClearDiagInfo nrcRequestOutOfRange
    else
      answer { s with faults := obd2DtcClear s.faults } [udsSidClearDiagInfo + udsResponseSidOffset]

/-- `handle_routine_control`: sub-function and routine identifier are read before either
is judged. -/
def handleRoutineControl : Handler (App × List UInt8) :=
  if reqLen < 4 then refuse s udsSidRoutineControl nrcIncorrectMsgLen
  else do
    let sub ← reqByte 1
    let routineId ← reqWord 2
    if sub < 0x01 ∨ 0x03 < sub then refuse s udsSidRoutineControl nrcSubFuncNotSupported
    else if routineId ≠ udsRoutineIdDtcClear ∧ routineId ≠ udsRoutineIdSelfTest then
      refuse s udsSidRoutineControl nrcRequestOutOfRange
    else
      let faults :=
        if sub ≠ udsRoutineStart then s.faults
        else if routineId = udsRoutineIdDtcClear then obd2DtcClear s.faults
        else obd2DtcInjectDemo s.faults s.sim
      answer { s with faults }
        ((udsSidRoutineControl + udsResponseSidOffset) :: sub :: wordBytes routineId)

/-- `handle_communication_control`: the length check asks for two bytes, the
communication type behind them is never read. -/
def handleCommunicationControl : Handler (App × List UInt8) :=
  if reqLen < 2 then refuse s udsSidCommunicationControl nrcIncorrectMsgLen
  else do
    let subByte ← reqByte 1
    let control := subFunction subByte
    if 0x03 < control then refuse s udsSidCommunicationControl nrcSubFuncNotSupported
    else
      answer { s with commRxEnabled := control == 0x00 || control == 0x01,
                      commTxEnabled := control == 0x00 || control == 0x02 }
        [udsSidCommunicationControl + udsResponseSidOffset, control]

/-- `handle_control_dtc_setting`. -/
def handleControlDtcSetting : Handler (App × List UInt8) :=
  if reqLen < 2 then refuse s udsSidControlDtcSetting nrcIncorrectMsgLen
  else do
    let subByte ← reqByte 1
    let sub := subFunction subByte
    if sub ≠ 0x01 ∧ sub ≠ 0x02 then refuse s udsSidControlDtcSetting nrcSubFuncNotSupported
    else
      answer { s with faults := obd2DtcSettingControl s.faults (sub == 0x01) }
        [udsSidControlDtcSetting + udsResponseSidOffset, sub]

/-- `handle_write_data_by_id`: the seventeen bytes are copied only once the length is
exact. -/
def handleWriteDataById : Handler (App × List UInt8) :=
  if reqLen < 4 then refuse s udsSidWriteDataById nrcIncorrectMsgLen
  else do
    let did ← reqWord 1
    if did ≠ udsDidVin then refuse s udsSidWriteDataById nrcRequestOutOfRange
    else if reqLen - 3 ≠ 17 then refuse s udsSidWriteDataById nrcIncorrectMsgLen
    else do
      let vin ← reqBytes 3 17
      answer { s with vin } ((udsSidWriteDataById + udsResponseSidOffset) :: wordBytes did)

/-- `handle_input_output_control`: the new port value is read under a second length
check. -/
def handleInputOutputControl : Handler (App × List UInt8) :=
  if reqLen < 4 then refuse s udsSidIoControlById nrcIncorrectMsgLen
  else do
    let did ← reqWord 1
    let control ← reqByte 3
    let respond (s : App) :=
      answer s
        ((udsSidIoControlById + udsResponseSidOffset) :: (wordBytes did ++ [control, s.ioPort]))
    if did ≠ udsDidIoControl then refuse s udsSidIoControlById nrcRequestOutOfRange
    else if control = 0x00 then respond s
    else if control = 0x03 then
      if reqLen < 5 then refuse s udsSidIoControlById nrcIncorrectMsgLen
      else do
        let ioPort ← reqByte 4
        respond { s with ioPort }
    else refuse s udsSidIoControlById nrcSubFuncNotSupported

/-! ## Data and memory -/

/-- The body of the loop of `dyn_assemble`: only a record of raw memory is copied from
its address. -/
def dynRecData (r : DynRec) : Handler (Option (List UInt8)) :=
  if r.srcDid = udsDynSrcMem then do
    let data ← memBytes r.srcAddr r.size
    pure (some data)
  else
    match resolveSource s r.srcDid with
    | none => pure none
    | some data =>
      if r.position = 0 ∨ data.length < r.position - 1 + r.size then pure none
      else pure (some ((data.drop (r.position - 1)).take r.size))

/-- The loop of `dyn_assemble`; the room of the caller's buffer is checked before each
record. -/
def dynAssembleLoop : List UInt8 → List DynRec → Handler (Option (List UInt8))
  | out, [] => pure (some out)
  | out, r :: rest =>
    if udsDynMaxData < out.length + r.size then pure none
    else do
      let found ← dynRecData s r
      match found with
      | none => pure none
      | some data => dynAssembleLoop (out ++ data) rest

/-- `dyn_assemble`, into a buffer of its caller. -/
def dynAssemble (slot : DynSlot) : Handler (List UInt8) := do
  let assembled ← dynAssembleLoop s [] slot.recs
  pure (assembled.getD [])

/-- `handle_read_data_by_id`: the registered identifiers come before the dynamic ones.
-/
def handleReadDataById : Handler (App × List UInt8) :=
  if reqLen < 3 then refuse s udsSidReadDataById nrcIncorrectMsgLen
  else do
    let did ← reqWord 1
    let respond data :=
      answer s ((udsSidReadDataById + udsResponseSidOffset) :: (wordBytes did ++ data))
    match registered s did with
    | some data => respond data
    | none =>
      match dynFind s did with
      | none => refuse s udsSidReadDataById nrcRequestOutOfRange
      | some slot => do
        let data ← dynAssemble s slot
        if data = [] then refuse s udsSidReadDataById nrcRequestOutOfRange else respond data

/-- `handle_read_mem_by_addr`: the widths of the two fields come from the request
itself, so the second length check depends on the first byte read. -/
def handleReadMemByAddr : Handler (App × List UInt8) :=
  if reqLen < 3 then refuse s udsSidReadMemByAddr nrcIncorrectMsgLen
  else do
    let alfid ← reqByte 1
    let alen := addressLength alfid
    let slen := sizeLength alfid
    if alfidInRange alfid = false then refuse s udsSidReadMemByAddr nrcRequestOutOfRange
    else if reqLen < 2 + alen + slen then refuse s udsSidReadMemByAddr nrcIncorrectMsgLen
    else do
      let addrBytes ← reqBytes 2 alen
      let sizeBytes ← reqBytes (2 + alen) slen
      let addr := ofBe addrBytes
      let size := ofBe sizeBytes
      if size = 0 ∨ udsMaxResponseSize - 1 < size then
        refuse s udsSidReadMemByAddr nrcRequestOutOfRange
      else if memReadable addr size = false then refuse s udsSidReadMemByAddr nrcRequestOutOfRange
      else do
        let data ← memBytes addr size
        answer s ((udsSidReadMemByAddr + udsResponseSidOffset) :: data)

/-! ## Dynamic identifiers -/

/-- The record loop of a definition: the bytes of a record are read before its check. -/
def dynRecords (parse : List UInt8 → Option DynRec) (stride : Nat) :
    Nat → Nat → Handler (Option (List DynRec))
  | _, 0 => pure (some [])
  | i, n + 1 => do
    let bytes ← reqBytes i stride
    match parse bytes with
    | none => pure none
    | some r => do
      let rest ← dynRecords parse stride (i + stride) n
      pure (rest.map (r :: ·))

/-- The records of a definition are parsed into a scratch slot, with their number and
total size checked. -/
def scratchRecords (parse : List UInt8 → Option DynRec) (stride i n : Nat) :
    Handler (Except UInt8 (List DynRec)) :=
  if n = 0 ∨ udsDynMaxRec < n then pure (.error nrcRequestOutOfRange)
  else do
    let parsed ← dynRecords parse stride i n
    match parsed with
    | none => pure (.error nrcRequestOutOfRange)
    | some recs =>
      if totalSize recs = 0 ∨ udsDynMaxData < totalSize recs then
        pure (.error nrcRequestOutOfRange)
      else pure (.ok recs)

/-- The records of sub-function 0x01, four bytes each from `req[4]` on; their number is
a `uint8_t`. -/
def defineByIdentifier : Handler (Except UInt8 (List DynRec)) :=
  if reqLen < 8 ∨ (reqLen - 4) % 4 ≠ 0 then pure (.error nrcIncorrectMsgLen)
  else scratchRecords (identifierRecord s) 4 4 ((reqLen - 4) / 4 % 256)

/-- The records of sub-function 0x02, as wide as the format byte says. -/
def defineByMemoryAddress : Handler (Except UInt8 (List DynRec)) :=
  if reqLen < 5 then pure (.error nrcIncorrectMsgLen)
  else do
    let alfid ← reqByte 4
    let alen := addressLength alfid
    let slen := sizeLength alfid
    let stride := alen + slen
    if alfidInRange alfid = false then pure (.error nrcRequestOutOfRange)
    else if reqLen < 5 + stride ∨ (reqLen - 5) % stride ≠ 0 then pure (.error nrcIncorrectMsgLen)
    else scratchRecords (memoryRecord alen slen) stride 5 ((reqLen - 5) / stride % 256)

/-- A parsed definition takes its slot; a refused one leaves the table alone. -/
def commitDynamic (sub : UInt8) (did : UInt16) (recs : Except UInt8 (List DynRec)) :
    Handler (App × List UInt8) :=
  match recs with
  | .error code => refuse s udsSidDynamicDefineDid code
  | .ok recs =>
    match dynSlotFor s.dyn did with
    | none => refuse s udsSidDynamicDefineDid nrcRequestOutOfRange
    | some i => answer { s with dyn := s.dyn.set i ⟨did, recs⟩ } (dynResponse sub did)

/-- `handle_dynamic_define_did`. -/
def handleDynamicDefineDid : Handler (App × List UInt8) :=
  if reqLen < 4 then refuse s udsSidDynamicDefineDid nrcIncorrectMsgLen
  else do
    let subByte ← reqByte 1
    let sub := subFunction subByte
    let did ← reqWord 2
    if did < udsDidDynamicBase ∨ udsDidDynamicEnd < did then
      refuse s udsSidDynamicDefineDid nrcRequestOutOfRange
    else if sub = 0x01 then do
      let recs ← defineByIdentifier s reqLen
      commitDynamic s sub did recs
    else if sub = 0x02 then do
      let recs ← defineByMemoryAddress reqLen
      commitDynamic s sub did recs
    else if sub = 0x03 then
      match s.dyn.findIdx? (·.did == did) with
      | none => refuse s udsSidDynamicDefineDid nrcRequestOutOfRange
      | some i => answer { s with dyn := s.dyn.set i {} } (dynResponse sub did)
    else refuse s udsSidDynamicDefineDid nrcSubFuncNotSupported

/-! ## Periodic transmission -/

/-- The loop of stopSending from `req[i]` on. -/
def stopSending (subs : List PeriodicSub) : Nat → Nat → Handler (List PeriodicSub × Bool)
  | _, 0 => pure (subs, true)
  | i, n + 1 => do
    let pdid ← reqByte i
    if subs.any (·.serves pdid) then
      stopSending (subs.map fun p => if p.serves pdid then { p with divider := 0 } else p) (i + 1) n
    else pure (subs, false)

/-- The subscription loop from `req[i]` on. -/
def startSending (divider : UInt8) (subs : List PeriodicSub) :
    Nat → Nat → Handler (List PeriodicSub × Bool)
  | _, 0 => pure (subs, true)
  | i, n + 1 => do
    let pdid ← reqByte i
    if (dynFind s (periodicDid pdid)).isNone then pure (subs, false)
    else
      match (subs.findIdx? (·.serves pdid)).or (subs.findIdx? (·.divider == 0)) with
      | none => pure (subs, false)
      | some j => startSending divider (subs.set j ⟨pdid, divider, 0⟩) (i + 1) n

/-- `handle_read_data_periodic`: the loops run over every byte behind the sub-function.
-/
def handleReadDataPeriodic : Handler (App × List UInt8) :=
  let respond (mode : UInt8) (outcome : List PeriodicSub × Bool) : Handler (App × List UInt8) :=
    if outcome.2 then
      answer { s with periodic := outcome.1 } [udsSidReadDataPeriodic + udsResponseSidOffset, mode]
    else refuse { s with periodic := outcome.1 } udsSidReadDataPeriodic nrcRequestOutOfRange
  if reqLen < 2 then refuse s udsSidReadDataPeriodic nrcIncorrectMsgLen
  else do
    let subByte ← reqByte 1
    let mode := subFunction subByte
    if mode = 0x04 then
      if reqLen = 2 then respond mode (udsPeriodicStopAll s.periodic, true)
      else do
        let outcome ← stopSending s.periodic 2 (reqLen - 2)
        respond mode outcome
    else
      match periodicDivider mode with
      | none => refuse s udsSidReadDataPeriodic nrcSubFuncNotSupported
      | some divider =>
        if reqLen < 3 then refuse s udsSidReadDataPeriodic nrcIncorrectMsgLen
        else do
          let outcome ← startSending s divider s.periodic 2 (reqLen - 2)
          respond mode outcome

/-! ## OBD-II modes -/

/-- The OBD-II service 0x01: one parameter identifier is read. -/
def handleObd2Service01 : Handler (App × List UInt8) :=
  if reqLen < 2 then refuse s udsSidObd2CurrentData nrcIncorrectMsgLen
  else do
    let pid ← reqByte 1
    let (buffer, len) := obd2HandleService01 s.sim pid
    if len = 0 then pure (s, []) else answer s ((buffer.drop 1).take len)

/-- The OBD-II service 0x09: the VIN is copied up to its terminator. -/
def handleObd2Service09 : Handler (App × List UInt8) :=
  if reqLen < 2 then pure (s, [])
  else do
    let infType ← reqByte 1
    let respond data := answer s ((udsSidObd2VehicleInfo + udsResponseSidOffset) :: infType :: data)
    if infType = 0x00 then respond [0x02, 0x00, 0x00, 0x00]
    else if infType = 0x02 then respond (0x01 :: cString s.vin)
    else pure (s, [])

/-! ## Dispatcher -/

/-- A service behind the access table. -/
def gated (sid : UInt8) (handled : Handler (App × List UInt8)) : Handler (App × List UInt8) :=
  match accessGate s sid with
  | some code => refuse s sid code
  | none => handled

/-- The service switch. -/
def serve (sid : UInt8) : Handler (App × List UInt8) :=
  if sid = udsSidObd2CurrentData then handleObd2Service01 s reqLen
  else if sid = udsSidObd2StoredDtc then answer s (handleObd2Service03 s)
  else if sid = udsSidObd2ClearDtc then
    answer (handleObd2Service04 s).1 (handleObd2Service04 s).2
  else if sid = udsSidObd2PendingDtc then answer s (handleObd2Service07 s)
  else if sid = udsSidObd2VehicleInfo then handleObd2Service09 s reqLen
  else if sid = udsSidDiagSessionCtrl then handleSessionControl s now reqLen
  else if sid = udsSidEcuReset then handleEcuReset s reqLen
  else if sid = udsSidClearDiagInfo then gated s sid (handleClearDtc s reqLen)
  else if sid = udsSidReadDataById then handleReadDataById s reqLen
  else if sid = udsSidReadMemByAddr then gated s sid (handleReadMemByAddr s reqLen)
  else if sid = udsSidReadDataPeriodic then gated s sid (handleReadDataPeriodic s reqLen)
  else if sid = udsSidDynamicDefineDid then gated s sid (handleDynamicDefineDid s reqLen)
  else if sid = udsSidReadDtcInformation then do
    let response ← handleReadDtcInformation s.faults reqLen
    pure (s, response)
  else if sid = udsSidSecurityAccess then handleSecurityAccess s now reqLen
  else if sid = udsSidRoutineControl then gated s sid (handleRoutineControl s reqLen)
  else if sid = udsSidTesterPresent then handleTesterPresent s reqLen
  else if sid = udsSidCommunicationControl then gated s sid (handleCommunicationControl s reqLen)
  else if sid = udsSidControlDtcSetting then gated s sid (handleControlDtcSetting s reqLen)
  else if sid = udsSidWriteDataById then gated s sid (handleWriteDataById s reqLen)
  else if sid = udsSidIoControlById then gated s sid (handleInputOutputControl s reqLen)
  else refuse s sid nrcServiceNotSupported

/-- The suppression at the end of the dispatcher reads `req[1]` only of a request that
has it. -/
def suppressPositive (sid : UInt8) (out : App × List UInt8) : Handler (App × List UInt8) :=
  suppress reqLen (suppressibleSids.contains sid) out.2 out (out.1, [])

/-- `uds_dispatch_request`: the service byte is read behind the check for an empty
request. -/
def udsDispatchRequest (addr : AddrType) : Handler (App × List UInt8) :=
  if reqLen = 0 then pure (s, [])
  else do
    let sid ← reqByte 0
    if addr = .functional ∧ functionalSids.contains sid = false then pure (s, [])
    else do
      let out ← serve (stamped s now) now reqLen sid
      suppressPositive reqLen sid out

end Handlers

end ObdSimulator.Handler

/-! ## Each service is safe -/

namespace ObdSimulator.Safe

open Bytes NorFlash UdsService

variable {mem : Memory} {req : List UInt8} {reqLen : Nat}

/-- Three bytes are always free. -/
theorem refuse {σ : Type} (s : σ) (sid code : UInt8) :
    Replies mem req reqLen (Handler.refuse s sid code) (s, nrc sid code) :=
  answer (Nat.le_of_ble_eq_true rfl)

section Handlers

variable (s : App) (now : Nat)

/-- The session handler stays inside both buffers and computes what the model says. -/
theorem handleSessionControl :
    Replies mem req reqLen (Handler.handleSessionControl s now reqLen)
      (UdsService.handleSessionControl s now req reqLen) := by
  apply Program.Meets.ite (fun _ => refuse s _ _)
  intro long
  apply (reqByte (by omega)).bind
  apply Program.Meets.ite (fun _ => refuse s _ _)
  intro _
  cases SessionType.ofByte (subFunction (byte req 1)) with
  | none => exact refuse s _ _
  | some t => exact answer (Nat.le_of_ble_eq_true rfl)

/-- The reset handler stays inside both buffers. -/
theorem handleEcuReset :
    Replies mem req reqLen (Handler.handleEcuReset s reqLen)
      (UdsService.handleEcuReset s req reqLen) := by
  apply Program.Meets.ite (fun _ => refuse s _ _)
  intro long
  apply (reqByte (by omega)).bind
  apply Program.Meets.ite (fun _ => answer (Nat.le_of_ble_eq_true rfl))
  intro _
  apply Program.Meets.ite (fun _ => answer (Nat.le_of_ble_eq_true rfl))
  intro _
  exact refuse s _ _

/-- The key bytes are read only where the request has four bytes. -/
theorem handleSecurityAccess :
    Replies mem req reqLen (Handler.handleSecurityAccess s now reqLen)
      (UdsService.handleSecurityAccess s now req reqLen) := by
  apply Program.Meets.ite (fun _ => refuse s _ _)
  intro long
  apply (reqByte (by omega)).bind
  apply Program.Meets.ite
  · intro _
    generalize diagSessionCheckSecurityGate s.session now = outcome
    obtain ⟨session, gate⟩ := outcome
    cases gate with
    | delay => exact refuse _ _ _
    | locked => exact refuse _ _ _
    | ok => exact answer (Nat.le_of_ble_eq_true rfl)
  · intro even
    rw [not_not] at even
    by_cases brief : reqLen < 4
    · have none_sent : sentKey req reqLen = none := by
        rw [sentKey, if_neg]
        omega
      rw [if_pos brief, none_sent]
      exact refuse s _ _
    · have sent : sentKey req reqLen = some (word (byte req 2) (byte req 3)) :=
        if_pos ⟨Nat.not_lt.mp brief, even⟩
      rw [if_neg brief, sent]
      apply (reqWord (by omega)).bind
      simp only
      generalize diagSessionVerifyKey s.session now (word (byte req 2) (byte req 3)) = outcome
      obtain ⟨session, result⟩ := outcome
      cases result with
      | ok => exact answer (Nat.le_of_ble_eq_true rfl)
      | invalid => exact refuse _ _ _
      | exceededAttempts => exact refuse _ _ _
      | delayNotExpired => exact refuse _ _ _

/-- TesterPresent reads one byte and writes at most two. -/
theorem handleTesterPresent :
    Replies mem req reqLen (Handler.handleTesterPresent s reqLen)
      (s, UdsService.handleTesterPresent req reqLen) := by
  unfold UdsService.handleTesterPresent
  simp only [apply_ite (Prod.mk s)]
  apply Program.Meets.ite (fun _ => refuse s _ _)
  intro long
  apply (reqByte (by omega)).bind
  apply Program.Meets.ite (fun _ => refuse s _ _)
  intro _
  apply Program.Meets.ite (fun _ => silent s)
  intro _
  exact answer (Nat.le_of_ble_eq_true rfl)

/-- An exact length of four covers the three group bytes. -/
theorem handleClearDtc :
    Replies mem req reqLen (Handler.handleClearDtc s reqLen)
      (UdsService.handleClearDtc s req reqLen) := by
  apply Program.Meets.ite (fun _ => refuse s _ _)
  intro long
  apply (reqByte (by omega)).bind
  apply (reqByte (by omega)).bind
  apply (reqByte (by omega)).bind
  apply Program.Meets.ite (fun _ => refuse s _ _)
  intro _
  exact answer (Nat.le_of_ble_eq_true rfl)

/-- Four bytes cover the sub-function and the identifier. -/
theorem handleRoutineControl :
    Replies mem req reqLen (Handler.handleRoutineControl s reqLen)
      (UdsService.handleRoutineControl s req reqLen) := by
  apply Program.Meets.ite (fun _ => refuse s _ _)
  intro long
  apply (reqByte (by omega)).bind
  apply (reqWord (by omega)).bind
  apply Program.Meets.ite (fun _ => refuse s _ _)
  intro _
  apply Program.Meets.ite (fun _ => refuse s _ _)
  intro _
  exact answer (Nat.le_of_ble_eq_true rfl)

/-- Two bytes cover the only byte that is read. -/
theorem handleCommunicationControl :
    Replies mem req reqLen (Handler.handleCommunicationControl s reqLen)
      (UdsService.handleCommunicationControl s req reqLen) := by
  apply Program.Meets.ite (fun _ => refuse s _ _)
  intro long
  apply (reqByte (by omega)).bind
  apply Program.Meets.ite (fun _ => refuse s _ _)
  intro _
  exact answer (Nat.le_of_ble_eq_true rfl)

/-- Two bytes cover the only byte that is read. -/
theorem handleControlDtcSetting :
    Replies mem req reqLen (Handler.handleControlDtcSetting s reqLen)
      (UdsService.handleControlDtcSetting s req reqLen) := by
  apply Program.Meets.ite (fun _ => refuse s _ _)
  intro long
  apply (reqByte (by omega)).bind
  apply Program.Meets.ite (fun _ => refuse s _ _)
  intro _
  exact answer (Nat.le_of_ble_eq_true rfl)

/-- Seventeen bytes behind the identifier are inside the request when the length is
exact. -/
theorem handleWriteDataById (room : reqLen ≤ req.length) :
    Replies mem req reqLen (Handler.handleWriteDataById s reqLen)
      (UdsService.handleWriteDataById s req reqLen) := by
  apply Program.Meets.ite (fun _ => refuse s _ _)
  intro long
  apply (reqWord (by omega)).bind
  apply Program.Meets.ite (fun _ => refuse s _ _)
  intro _
  apply Program.Meets.ite (fun _ => refuse s _ _)
  intro whole
  apply (reqBytes (by omega) room).bind
  exact answer (Nat.le_of_ble_eq_true rfl)

/-- The port value is read only behind the check for a fifth byte. -/
theorem handleInputOutputControl :
    Replies mem req reqLen (Handler.handleInputOutputControl s reqLen)
      (UdsService.handleInputOutputControl s req reqLen) := by
  apply Program.Meets.ite (fun _ => refuse s _ _)
  intro long
  apply (reqWord (by omega)).bind
  apply (reqByte (by omega)).bind
  apply Program.Meets.ite (fun _ => refuse s _ _)
  intro _
  apply Program.Meets.ite (fun _ => answer (Nat.le_of_ble_eq_true rfl))
  intro _
  apply Program.Meets.ite
  · intro _
    apply Program.Meets.ite (fun _ => refuse s _ _)
    intro longer
    apply (reqByte (by omega)).bind
    exact answer (Nat.le_of_ble_eq_true rfl)
  · intro _
    exact refuse s _ _

/-! ## Data and memory -/

/-- What the accesses of the application depend on: the VIN keeps its array, the fault
table its entries, and records of raw memory stay in flash or SRAM. -/
structure Sound (s : App) : Prop where
  vin : s.vin.length ≤ 17
  table : s.faults.table.length = obd2DtcCount
  readable : ∀ slot ∈ s.dyn, ∀ r ∈ slot.recs, r.srcDid = udsDynSrcMem →
    memReadable r.srcAddr r.size = true

/-- A record of raw memory is read where its definition was let in, so inside a readable
region. -/
theorem dynRecData {r : DynRec}
    (readable : r.srcDid = udsDynSrcMem → memReadable r.srcAddr r.size = true) :
    Safe mem req reqLen (Handler.dynRecData s r) (UdsService.dynRecData mem s r) := by
  apply Program.Meets.ite
  · intro raw
    apply (memBytes (readable raw)).bind
    exact .done _
  · intro _
    cases resolveSource s r.srcDid with
    | none => exact .done _
    | some data =>
      apply Program.Meets.ite
      · intro _
        exact .done _
      · intro _
        exact .done _

/-- The loop reads memory only through its records, each readable. -/
theorem dynAssembleLoop (out : List UInt8) (recs : List DynRec)
    (readable : ∀ r ∈ recs, r.srcDid = udsDynSrcMem → memReadable r.srcAddr r.size = true) :
    Safe mem req reqLen (Handler.dynAssembleLoop s out recs)
      (UdsService.dynAssembleLoop mem s out recs) := by
  induction recs generalizing out with
  | nil => exact .done _
  | cons r rest ih =>
    rw [Handler.dynAssembleLoop, UdsService.dynAssembleLoop]
    apply Program.Meets.ite (fun _ => .done _)
    intro _
    apply (dynRecData s (readable r List.mem_cons_self)).bind
    cases UdsService.dynRecData mem s r with
    | none => exact .done _
    | some data => exact ih _ fun later member => readable later (List.mem_cons_of_mem _ member)

/-- The assembled data of a slot whose records are all readable. -/
theorem dynAssemble {slot : DynSlot} (readable : ∀ r ∈ slot.recs, r.srcDid = udsDynSrcMem →
      memReadable r.srcAddr r.size = true) :
    Safe mem req reqLen (Handler.dynAssemble s slot) (UdsService.dynAssemble mem s slot) := by
  apply (dynAssembleLoop s [] slot.recs readable).bind
  exact .done _

/-- The source of a record gives at most its size. -/
theorem rec_data_fits (r : DynRec) (data : List UInt8)
    (found : UdsService.dynRecData mem s r = some data) : data.length ≤ r.size := by
  unfold UdsService.dynRecData at found
  split at found
  · cases found
    rw [read_bytes_length]
  · split at found
    · cases found
    · split at found
      · cases found
      · cases found
        exact List.length_take_le _ _

/-- The loop never passes the room it checks before each record. -/
theorem assemble_loop_fits (out data : List UInt8) (recs : List DynRec)
    (fits : out.length ≤ udsDynMaxData)
    (assembled : UdsService.dynAssembleLoop mem s out recs = some data) :
    data.length ≤ udsDynMaxData := by
  induction recs generalizing out with
  | nil =>
    cases assembled
    exact fits
  | cons r rest ih =>
    rw [UdsService.dynAssembleLoop] at assembled
    split at assembled
    · cases assembled
    · rename_i room
      cases found : UdsService.dynRecData mem s r with
      | none =>
        rw [found] at assembled
        cases assembled
      | some more =>
        rw [found] at assembled
        have size := rec_data_fits s r more found
        exact ih _ (by rw [List.length_append]; omega) assembled

/-- The assembled data of any slot fits the caller's buffer. -/
theorem assemble_fits (slot : DynSlot) :
    (UdsService.dynAssemble mem s slot).length ≤ udsDynMaxData := by
  unfold UdsService.dynAssemble
  cases assembled : UdsService.dynAssembleLoop mem s [] slot.recs with
  | none => exact Nat.zero_le _
  | some data => exact assemble_loop_fits s [] data slot.recs (Nat.zero_le _) assembled

/-- A terminator only shortens what is copied. -/
theorem c_string_length (bytes : List UInt8) : (cString bytes).length ≤ bytes.length :=
  (List.takeWhile_prefix _).length_le

/-- Every registered identifier answers with at most the seventeen bytes of a VIN. -/
theorem registered_fits (sound : Sound s) (did : UInt16) (data : List UInt8)
    (found : registered s did = some data) : data.length ≤ 17 := by
  obtain ⟨entry, listed, rfl⟩ := Option.map_eq_some_iff.mp found
  have member := List.mem_of_find?_eq_some listed
  refine (c_string_length entry.2).trans ?_
  simp only [kDidRead, List.mem_cons, List.not_mem_nil, or_false] at member
  rcases member with rfl | rfl | rfl | rfl
  · exact sound.vin
  · decide
  · decide
  · decide

/-- Three bytes precede the data of an identifier. -/
theorem data_response_fits (did : UInt16) (data : List UInt8) (short : data.length ≤ 61) :
    ((udsSidReadDataById + udsResponseSidOffset) :: (wordBytes did ++ data)).length ≤
      udsMaxResponseSize := by
  have two : (wordBytes did).length = 2 := rfl
  have limit : udsMaxResponseSize = 64 := rfl
  rw [List.length_cons, List.length_append, two]
  omega

/-- Three bytes cover the identifier, and every answer fits the response buffer. -/
theorem handleReadDataById (sound : Sound s) :
    Replies mem req reqLen (Handler.handleReadDataById s reqLen)
      (s, UdsService.handleReadDataById mem s req reqLen) := by
  have most : udsDynMaxData = 56 := rfl
  unfold UdsService.handleReadDataById
  simp only [apply_ite (Prod.mk s)]
  apply Program.Meets.ite (fun _ => refuse s _ _)
  intro long
  apply (reqWord (by omega)).bind
  cases found : registered s (word (byte req 1) (byte req 2)) with
  | some data =>
    have short := registered_fits s sound _ data found
    exact answer (data_response_fits _ _ (by omega))
  | none =>
    cases bound : dynFind s (word (byte req 1) (byte req 2)) with
    | none => exact refuse s _ _
    | some slot =>
      have readable := sound.readable slot (List.mem_of_find?_eq_some bound)
      have short : (UdsService.dynAssemble mem s slot).length ≤ udsDynMaxData :=
        assemble_fits s slot
      simp only [apply_ite (Prod.mk s)]
      apply (dynAssemble s readable).bind
      apply Program.Meets.ite (fun _ => refuse s _ _)
      intro _
      exact answer (data_response_fits _ _ (by omega))

/-- The address and size fields lie inside a request that passes both length checks, and
the copied bytes inside a readable region. -/
theorem handleReadMemByAddr (room : reqLen ≤ req.length) :
    Replies mem req reqLen (Handler.handleReadMemByAddr s reqLen)
      (s, UdsService.handleReadMemByAddr mem req reqLen) := by
  have limit : udsMaxResponseSize = 64 := rfl
  unfold UdsService.handleReadMemByAddr
  simp only [apply_ite (Prod.mk s)]
  apply Program.Meets.ite (fun _ => refuse s _ _)
  intro long
  apply (reqByte (by omega)).bind
  apply Program.Meets.ite (fun _ => refuse s _ _)
  intro _
  apply Program.Meets.ite (fun _ => refuse s _ _)
  intro whole
  apply (reqBytes (by omega) room).bind
  apply (reqBytes (by omega) room).bind
  apply Program.Meets.ite (fun _ => refuse s _ _)
  intro sized
  apply Program.Meets.ite (fun _ => refuse s _ _)
  intro readable
  apply (memBytes (eq_true_of_ne_false readable)).bind
  apply answer
  rw [List.length_cons, read_bytes_length]
  omega

/-! ## Dynamic identifiers -/

/-- A run of `n` records of `stride` bytes reads exactly those bytes of the request. -/
theorem dynRecords (parse : List UInt8 → Option DynRec) (stride i n : Nat)
    (inside : i + n * stride ≤ reqLen) (room : reqLen ≤ req.length) :
    Safe mem req reqLen (Handler.dynRecords parse stride i n)
      (UdsService.dynRecords parse stride n (req.drop i)) := by
  induction n generalizing i with
  | zero => exact .done _
  | succ n ih =>
    rw [Nat.succ_mul] at inside
    rw [Handler.dynRecords, UdsService.dynRecords, List.drop_drop]
    apply (reqBytes (by omega) room).bind
    cases parse ((req.drop i).take stride) with
    | none => exact .done _
    | some r =>
      apply (ih (i + stride) (by omega)).bind
      exact .done _

/-- The checks behind the records ask for no further byte. -/
theorem scratchRecords (parse : List UInt8 → Option DynRec) (stride i n : Nat)
    (inside : i + n * stride ≤ reqLen) (room : reqLen ≤ req.length) :
    Safe mem req reqLen (Handler.scratchRecords parse stride i n)
      (UdsService.scratchRecords parse stride n (req.drop i)) := by
  apply Program.Meets.ite (fun _ => .done _)
  intro _
  apply (dynRecords parse stride i n inside room).bind
  cases UdsService.dynRecords parse stride n (req.drop i) with
  | none => exact .done _
  | some recs => exact Program.Meets.ite (fun _ => .done _) (fun _ => .done _)

/-- As many records as fit, counted in a byte, stay inside. -/
theorem records_inside (i stride : Nat) (header : i ≤ reqLen) :
    i + (reqLen - i) / stride % 256 * stride ≤ reqLen := by
  have truncated : (reqLen - i) / stride % 256 * stride ≤ (reqLen - i) / stride * stride :=
    Nat.mul_le_mul_right _ (Nat.mod_le _ _)
  have whole := Nat.div_mul_le_self (reqLen - i) stride
  omega

/-- The divisibility check keeps the last record inside the request. -/
theorem defineByIdentifier (room : reqLen ≤ req.length) :
    Safe mem req reqLen (Handler.defineByIdentifier s reqLen)
      (UdsService.defineByIdentifier s req reqLen) := by
  apply Program.Meets.ite (fun _ => .done _)
  intro long
  exact scratchRecords _ _ _ _ (records_inside 4 4 (by omega)) room

/-- A definition by address reads its records at the stride the format byte gives. -/
theorem defineByMemoryAddress (room : reqLen ≤ req.length) :
    Safe mem req reqLen (Handler.defineByMemoryAddress reqLen)
      (UdsService.defineByMemoryAddress req reqLen) := by
  apply Program.Meets.ite (fun _ => .done _)
  intro long
  apply (reqByte (by omega)).bind
  apply Program.Meets.ite (fun _ => .done _)
  intro _
  apply Program.Meets.ite (fun _ => .done _)
  intro _
  exact scratchRecords _ _ _ _ (records_inside 5 _ (by omega)) room

/-- Writing the slot touches neither buffer. -/
theorem commitDynamic (sub : UInt8) (did : UInt16) (recs : Except UInt8 (List DynRec)) :
    Replies mem req reqLen (Handler.commitDynamic s sub did recs)
      (UdsService.commitDynamic s sub did recs) := by
  cases recs with
  | error code => exact refuse s _ _
  | ok accepted =>
    unfold Handler.commitDynamic UdsService.commitDynamic
    cases dynSlotFor s.dyn did with
    | none => exact refuse s _ _
    | some i => exact answer (Nat.le_of_ble_eq_true rfl)

/-- Four bytes cover the sub-function and the identifier; the records are the callee's.
-/
theorem handleDynamicDefineDid (room : reqLen ≤ req.length) :
    Replies mem req reqLen (Handler.handleDynamicDefineDid s reqLen)
      (UdsService.handleDynamicDefineDid s req reqLen) := by
  apply Program.Meets.ite (fun _ => refuse s _ _)
  intro long
  apply (reqByte (by omega)).bind
  apply (reqWord (by omega)).bind
  apply Program.Meets.ite (fun _ => refuse s _ _)
  intro _
  apply Program.Meets.ite
  · intro _
    apply (defineByIdentifier s room).bind
    exact commitDynamic s _ _ _
  · intro _
    apply Program.Meets.ite
    · intro _
      apply (defineByMemoryAddress room).bind
      exact commitDynamic s _ _ _
    · intro _
      apply Program.Meets.ite
      · intro _
        cases s.dyn.findIdx? (·.did == word (byte req 2) (byte req 3)) with
        | none => exact refuse s _ _
        | some i => exact answer (Nat.le_of_ble_eq_true rfl)
      · intro _
        exact refuse s _ _

/-! ## Periodic transmission -/

/-- The identifiers of a request from `req[i]` on, one by one. -/
theorem pdids_cons (i n : Nat) (whole : i + (n + 1) = reqLen) (room : reqLen ≤ req.length) :
    (req.take reqLen).drop i = byte req i :: (req.take reqLen).drop (i + 1) := by
  have here : i < (req.take reqLen).length := by
    rw [List.length_take]
    omega
  have inside : i < req.length := by omega
  rw [List.drop_eq_getElem_cons here, List.getElem_take, byte, ← List.getElem_eq_getD 0]

/-- Past the last byte of the request no identifier is left. -/
theorem pdids_nil (i : Nat) (whole : i + 0 = reqLen) : (req.take reqLen).drop i = [] := by
  apply List.drop_eq_nil_of_le
  rw [List.length_take]
  omega

/-- The stop loop reads the bytes behind its index and no other. -/
theorem stopSending (subs : List PeriodicSub) (i n : Nat) (whole : i + n = reqLen)
    (room : reqLen ≤ req.length) :
    Safe mem req reqLen (Handler.stopSending subs i n)
      (UdsService.stopSending subs ((req.take reqLen).drop i)) := by
  induction n generalizing subs i with
  | zero =>
    rw [pdids_nil i whole]
    exact .done _
  | succ n ih =>
    rw [pdids_cons i n whole room, Handler.stopSending, UdsService.stopSending]
    apply (reqByte (by omega)).bind
    exact Program.Meets.ite (fun _ => ih _ (i + 1) (by omega)) (fun _ => .done _)

/-- The start loop stays inside both buffers. -/
theorem startSending (divider : UInt8) (subs : List PeriodicSub) (i n : Nat)
    (whole : i + n = reqLen) (room : reqLen ≤ req.length) :
    Safe mem req reqLen (Handler.startSending s divider subs i n)
      (UdsService.startSending s divider subs ((req.take reqLen).drop i)) := by
  induction n generalizing subs i with
  | zero =>
    rw [pdids_nil i whole]
    exact .done _
  | succ n ih =>
    rw [pdids_cons i n whole room, Handler.startSending, UdsService.startSending]
    apply (reqByte (by omega)).bind
    apply Program.Meets.ite (fun _ => .done _)
    intro _
    cases (subs.findIdx? (·.serves (byte req i))).or (subs.findIdx? (·.divider == 0)) with
    | none => exact .done _
    | some j => exact ih _ (i + 1) (by omega)

/-- Every identifier byte of a periodic request lies inside it. -/
theorem handleReadDataPeriodic (room : reqLen ≤ req.length) :
    Replies mem req reqLen (Handler.handleReadDataPeriodic s reqLen)
      (UdsService.handleReadDataPeriodic s req reqLen) := by
  apply Program.Meets.ite (fun _ => refuse s _ _)
  intro long
  apply (reqByte (by omega)).bind
  apply Program.Meets.ite
  · intro _
    apply Program.Meets.ite
    · intro _
      exact answer (Nat.le_of_ble_eq_true rfl)
    · intro _
      apply (stopSending s.periodic 2 (reqLen - 2) (by omega) room).bind
      exact Program.Meets.ite (fun _ => answer (Nat.le_of_ble_eq_true rfl)) (fun _ => refuse _ _ _)
  · intro _
    cases periodicDivider (subFunction (byte req 1)) with
    | none => exact refuse s _ _
    | some divider =>
      apply Program.Meets.ite (fun _ => refuse s _ _)
      intro longer
      apply (startSending s divider s.periodic 2 (reqLen - 2) (by omega) room).bind
      exact Program.Meets.ite (fun _ => answer (Nat.le_of_ble_eq_true rfl)) (fun _ => refuse _ _ _)

/-! ## OBD-II modes -/

/-- A mode 01 answer fits the source's buffer of eight bytes. -/
theorem service01_fits (sim : SimState) (pid : UInt8) :
    (obd2HandleService01 sim pid).2 ≤ 6 := by
  unfold obd2HandleService01
  split
  · exact Nat.le_of_ble_eq_true rfl
  · split
    · exact Nat.le_of_ble_eq_true rfl
    · split
      · exact Nat.le_of_ble_eq_true rfl
      · split <;> exact Nat.le_of_ble_eq_true rfl

/-- Service 0x01 reads its parameter behind the length check. -/
theorem handleObd2Service01 :
    Replies mem req reqLen (Handler.handleObd2Service01 s reqLen)
      (s, UdsService.handleObd2Service01 s req reqLen) := by
  unfold UdsService.handleObd2Service01
  simp only [apply_ite (Prod.mk s)]
  apply Program.Meets.ite (fun _ => refuse s _ _)
  intro long
  have short := (service01_fits s.sim (byte req 1)).trans
    (Nat.le_of_ble_eq_true rfl : 6 ≤ udsMaxResponseSize)
  apply (reqByte (by omega)).bind
  apply Program.Meets.ite (fun _ => silent s)
  intro _
  exact answer ((List.length_take_le _ _).trans short)

/-- A list of fault codes takes two bytes a code. -/
theorem words_length (codes : List UInt16) :
    (codes.flatMap wordBytes).length = 2 * codes.length := by
  induction codes with
  | nil => rfl
  | cons code rest ih =>
    have two : (wordBytes code).length = 2 := rfl
    rw [List.flatMap_cons, List.length_append, two, ih, List.length_cons]
    omega

/-- At most three codes are reported. -/
theorem codes_fit (m : FaultManager) (state : DtcState) :
    ((dtcGetInState m state obd2DtcCount).flatMap wordBytes).length ≤ 6 := by
  have count : (dtcGetInState m state obd2DtcCount).length ≤ obd2DtcCount := by
    rw [dtcGetInState, List.length_map]
    exact List.length_take_le _ _
  have three : obd2DtcCount = 3 := rfl
  rw [words_length]
  omega

/-- The confirmed codes fit the response buffer. -/
theorem handleObd2Service03 :
    Replies mem req reqLen (Handler.answer s (UdsService.handleObd2Service03 s))
      (s, UdsService.handleObd2Service03 s) := by
  have short := codes_fit s.faults .confirmed
  have limit : udsMaxResponseSize = 64 := rfl
  apply answer
  unfold UdsService.handleObd2Service03 obd2DtcGetConfirmed
  rw [List.length_cons, List.length_cons]
  omega

/-- The pending codes stay inside both buffers. -/
theorem handleObd2Service07 :
    Replies mem req reqLen (Handler.answer s (UdsService.handleObd2Service07 s))
      (s, UdsService.handleObd2Service07 s) := by
  have short := codes_fit s.faults .pending
  have limit : udsMaxResponseSize = 64 := rfl
  apply answer
  unfold UdsService.handleObd2Service07 obd2DtcGetPending
  rw [List.length_cons]
  omega

/-- The VIN answer fits, the VIN being at most seventeen bytes. -/
theorem handleObd2Service09 (sound : Sound s) :
    Replies mem req reqLen (Handler.handleObd2Service09 s reqLen)
      (s, UdsService.handleObd2Service09 s req reqLen) := by
  have short := (c_string_length s.vin).trans sound.vin
  have limit : udsMaxResponseSize = 64 := rfl
  unfold UdsService.handleObd2Service09
  simp only [apply_ite (Prod.mk s)]
  apply Program.Meets.ite (fun _ => silent s)
  intro long
  apply (reqByte (by omega)).bind
  apply Program.Meets.ite (fun _ => answer (Nat.le_of_ble_eq_true rfl))
  intro _
  apply Program.Meets.ite
  · intro _
    apply answer
    rw [List.length_cons, List.length_cons, List.length_cons]
    omega
  · intro _
    exact silent s

/-! ## Dispatcher -/

/-- The access gate reads the state only, so a gated handler is as safe as the handler.
-/
theorem gated {sid : UInt8} {handled : Handler (App × List UInt8)} {v : App × List UInt8}
    (safe : Replies mem req reqLen handled v) :
    Replies mem req reqLen (Handler.gated s sid handled) (UdsService.gated s sid v) := by
  unfold Handler.gated UdsService.gated
  cases accessGate s sid with
  | some code => exact refuse s _ _
  | none => exact safe

/-- The switch, branch by branch in its order. -/
theorem serve (sound : Sound s) (room : reqLen ≤ req.length) :
    Replies mem req reqLen (Handler.serve s now reqLen (byte req 0))
      (UdsService.serve mem s now req reqLen) := by
  have dtc : Replies mem req reqLen
      (Handler.handleReadDtcInformation s.faults reqLen >>= fun response => pure (s, response))
      (s, ObdSimulator.handleReadDtcInformation s.faults req reqLen) := by
    have report : Reports mem req reqLen (Handler.handleReadDtcInformation s.faults reqLen)
        (ObdSimulator.handleReadDtcInformation s.faults req reqLen) :=
      handleReadDtcInformation s.faults sound.table
    exact report.bind (.give report.good)
  apply Program.Meets.ite (fun _ => handleObd2Service01 s)
  intro _
  apply Program.Meets.ite (fun _ => handleObd2Service03 s)
  intro _
  apply Program.Meets.ite (fun _ => answer (Nat.le_of_ble_eq_true rfl))
  intro _
  apply Program.Meets.ite (fun _ => handleObd2Service07 s)
  intro _
  apply Program.Meets.ite (fun _ => handleObd2Service09 s sound)
  intro _
  apply Program.Meets.ite (fun _ => handleSessionControl s now)
  intro _
  apply Program.Meets.ite (fun _ => handleEcuReset s)
  intro _
  apply Program.Meets.ite (fun _ => gated s (handleClearDtc s))
  intro _
  apply Program.Meets.ite (fun _ => handleReadDataById s sound)
  intro _
  apply Program.Meets.ite (fun _ => gated s (handleReadMemByAddr s room))
  intro _
  apply Program.Meets.ite (fun _ => gated s (handleReadDataPeriodic s room))
  intro _
  apply Program.Meets.ite (fun _ => gated s (handleDynamicDefineDid s room))
  intro _
  apply Program.Meets.ite (fun _ => dtc)
  intro _
  apply Program.Meets.ite (fun _ => handleSecurityAccess s now)
  intro _
  apply Program.Meets.ite (fun _ => gated s (handleRoutineControl s))
  intro _
  apply Program.Meets.ite (fun _ => handleTesterPresent s)
  intro _
  apply Program.Meets.ite (fun _ => gated s (handleCommunicationControl s))
  intro _
  apply Program.Meets.ite (fun _ => gated s (handleControlDtcSetting s))
  intro _
  apply Program.Meets.ite (fun _ => gated s (handleWriteDataById s room))
  intro _
  apply Program.Meets.ite (fun _ => gated s (handleInputOutputControl s))
  intro _
  exact refuse s _ _

/-- The suppression reads `req[1]` inside the request and only shortens the response. -/
theorem suppressPositive {out : App × List UInt8} (fits : out.2.length ≤ udsMaxResponseSize) :
    Replies mem req reqLen (Handler.suppressPositive reqLen (byte req 0) out)
      (out.1, if suppressed req reqLen out.2 then [] else out.2) := by
  have whole : (out.1, if suppressed req reqLen out.2 then [] else out.2) =
      if suppressed req reqLen out.2 then (out.1, []) else out := by
    split <;> rfl
  rw [whole]
  exact suppress _ _ fits (Nat.zero_le _)

/-- The dispatcher makes no access out of bounds, and comes to what it came to before. -/
theorem udsDispatchRequest (sound : Sound s) (room : reqLen ≤ req.length) (addr : AddrType) :
    Replies mem req reqLen (Handler.udsDispatchRequest s now reqLen addr)
      (UdsService.udsDispatchRequest mem s now req reqLen addr) := by
  have sound' : Sound (stamped s now) := ⟨sound.vin, sound.table, sound.readable⟩
  unfold Handler.udsDispatchRequest UdsService.udsDispatchRequest
  by_cases empty : reqLen = 0
  · have ignored : admitted req reqLen addr = false := by simp [admitted, empty]
    rw [if_pos empty, if_pos ignored]
    exact silent s
  rw [if_neg empty]
  apply (reqByte (by omega)).bind
  have same : (addr = .functional ∧ functionalSids.contains (byte req 0) = false) ↔
      admitted req reqLen addr = false := by
    cases addr <;> simp [admitted, empty]
  apply Program.Meets.ite_iff same (fun _ => silent s)
  intro _
  have served : Replies mem req reqLen (Handler.serve (stamped s now) now reqLen (byte req 0))
      (UdsService.serve mem (stamped s now) now req reqLen) := serve (stamped s now) now sound' room
  exact served.bind (suppressPositive served.good)

end Handlers

end ObdSimulator.Safe
