import ObdSimulator.DiagSession
import ObdSimulator.OtaFlash
import ObdSimulator.ReadDtc

/-!
# The diagnostic services of the application

`uds_service.c`. The static variables of the services, of the session manager and
of the simulator are one record. A handler gets the receive buffer and a length,
and gives the response, empty when none is sent. Flash and SRAM, as an address in
a request reaches them, are an argument of the functions that read them.
-/

namespace ObdSimulator.UdsService

open Bytes NorFlash

/-- `UDS_MAX_RESPONSE_SIZE`. -/
def udsMaxResponseSize : Nat := 64

/-- The identifier of the VIN, the only one that can be written. -/
def udsDidVin : UInt16 := 0xF190

/-- The identifier of the hardware version. -/
def udsDidHwVersion : UInt16 := 0xF193

/-- The identifier of the software version. -/
def udsDidSwVersion : UInt16 := 0xF195

/-- The identifier of the ECU's name. -/
def udsDidEcuName : UInt16 := 0xF198

/-- The simulated output port, which 0x22 reads through a dynamic identifier only. -/
def udsDidIoControl : UInt16 := 0x0200

/-- The first dynamic identifier. -/
def udsDidDynamicBase : UInt16 := 0xF200

/-- The last dynamic identifier. -/
def udsDidDynamicEnd : UInt16 := 0xF3FF

/-- The sub-function of 0x31 that runs a routine. -/
def udsRoutineStart : UInt8 := 0x01

/-- The routine that clears the fault memory. -/
def udsRoutineIdDtcClear : UInt16 := 0x0201

/-- The routine that injects the demonstration fault. -/
def udsRoutineIdSelfTest : UInt16 := 0x0202

/-- `UDS_DYN_SLOTS`. -/
def udsDynSlots : Nat := 4

/-- `UDS_DYN_MAX_REC`: records of one definition. -/
def udsDynMaxRec : Nat := 3

/-- `UDS_DYN_MAX_DATA`: bytes of one definition. -/
def udsDynMaxData : Nat := 56

/-- `UDS_DYN_SRC_MEM` marks a record of raw memory. -/
def udsDynSrcMem : UInt16 := 0xFFFF

/-- `UDS_PERIODIC_SLOTS`. -/
def udsPeriodicSlots : Nat := 4

/-- The characters of a string literal. -/
def ascii (text : String) : List UInt8 := text.toList.map fun c => UInt8.ofNat c.toNat

/-- The VIN before the first write. -/
def vehicleVin : List UInt8 := ascii "WVWZZZ3CZWE000001"

/-- The hardware version as text. -/
def vehicleHwVersion : List UInt8 := ascii "HW Rev1.0"

/-- The software version as text. -/
def vehicleSwVersion : List UInt8 := ascii "SW Phase1.0"

/-- The name of the ECU as text. -/
def ecuName : List UInt8 := ascii "OBD-SIM-G431"

/-! ## State -/

/-- `dyn_rec_t`. Positions count from one; the address counts for raw memory. -/
structure DynRec where
  srcDid : UInt16
  srcAddr : Nat := 0
  position : Nat := 0
  size : Nat
deriving DecidableEq, Repr

/-- `dyn_slot_t` with the records in use; DID zero is an empty slot. -/
structure DynSlot where
  did : UInt16 := 0
  recs : List DynRec := []
deriving DecidableEq, Repr

/-- `periodic_sub_t`; divider zero is inactive. -/
structure PeriodicSub where
  pdid : UInt8 := 0
  divider : UInt8 := 0
  counter : UInt8 := 0
deriving DecidableEq, Repr

/-- The application. The VIN is the array without its final NUL, which stays. -/
structure App where
  session : DiagSession := {}
  vin : List UInt8 := vehicleVin
  ioPort : UInt8 := 0
  dyn : List DynSlot := List.replicate udsDynSlots {}
  periodic : List PeriodicSub := List.replicate udsPeriodicSlots {}
  softResetRequested : UInt8 := 0
  /-- The no-init record asks the bootloader to stay. -/
  handoff : Bool := false
  commRxEnabled : Bool := true
  commTxEnabled : Bool := true
  sim : SimState := {}
  faults : FaultManager := {}
deriving DecidableEq, Repr

/-- `main` up to the scheduler: `DiagSession_Init`, then `DiagSession_MarkBootReady`. -/
def appInit (now ready : Nat) : App :=
  { session := diagSessionMarkBootReady (diagSessionInit {} now) ready }

/-- The bytes of an array up to its first NUL. -/
def cString (bytes : List UInt8) : List UInt8 := bytes.takeWhile (· != 0)

/-- `k_did_read`. -/
def kDidRead (s : App) : List (UInt16 × List UInt8) :=
  [(udsDidVin, s.vin), (udsDidHwVersion, vehicleHwVersion),
    (udsDidSwVersion, vehicleSwVersion), (udsDidEcuName, ecuName)]

/-- The data of a DID in the registry. -/
def registered (s : App) (did : UInt16) : Option (List UInt8) :=
  ((kDidRead s).find? (·.1 == did)).map fun entry => cString entry.2

/-- `resolve_source`. -/
def resolveSource (s : App) (did : UInt16) : Option (List UInt8) :=
  if did = udsDidIoControl then some [s.ioPort] else registered s did

/-- `dyn_find`. -/
def dynFind (s : App) (did : UInt16) : Option DynSlot := s.dyn.find? (·.did == did)

/-- The bytes a record stands for, if its source is there and long enough. -/
def dynRecData (mem : Memory) (s : App) (r : DynRec) : Option (List UInt8) :=
  if r.srcDid = udsDynSrcMem then some (readBytes mem r.srcAddr r.size)
  else
    match resolveSource s r.srcDid with
    | none => none
    | some data =>
      if r.position = 0 ∨ data.length < r.position - 1 + r.size then none
      else some ((data.drop (r.position - 1)).take r.size)

/-- The record loop of `dyn_assemble`, behind the bytes of the records before. -/
def dynAssembleLoop (mem : Memory) (s : App) : List UInt8 → List DynRec → Option (List UInt8)
  | out, [] => some out
  | out, r :: rest =>
    if udsDynMaxData < out.length + r.size then none
    else
      match dynRecData mem s r with
      | none => none
      | some data => dynAssembleLoop mem s (out ++ data) rest

/-- `dyn_assemble`; no bytes is its zero. -/
def dynAssemble (mem : Memory) (s : App) (slot : DynSlot) : List UInt8 :=
  (dynAssembleLoop mem s [] slot.recs).getD []

/-! ## Session, reset, security and keep-alive -/

/-- `UDS_PeriodicStopAll`. -/
def udsPeriodicStopAll (subs : List PeriodicSub) : List PeriodicSub :=
  subs.map fun p => { p with divider := 0 }

/-- `DiagSession_SetSession` with the hooks of the application: Default restores
DTC setting and stops periodic transmission. -/
def enterSession (s : App) (now : Nat) (t : SessionType) : App :=
  let s := { s with session := diagSessionEnter s.session now t }
  if t = .default then
    { s with faults := obd2DtcSettingControl s.faults true,
             periodic := udsPeriodicStopAll s.periodic }
  else s

/-- The response code of `access_gate`, if the gate is closed. -/
def accessGate (s : App) (sid : UInt8) : Option UInt8 :=
  match diagSessionCheckAccess s.session sid with
  | .wrongSession => some nrcServiceNotSupportedInActiveSession
  | .locked => some nrcSecurityAccessDenied
  | .ok => none

/-- `handle_session_control`: entering Programming also leaves the magic for the
bootloader and defers a reset. -/
def handleSessionControl (s : App) (now : Nat) (req : List UInt8) (reqLen : Nat) :
    App × List UInt8 :=
  let refuse code := (s, nrc udsSidDiagSessionCtrl code)
  let sub := subFunction (byte req 1)
  if reqLen < 2 then refuse nrcIncorrectMsgLen
  else if sub ≠ 0x01 ∧ sub ≠ 0x02 ∧ sub ≠ 0x03 then refuse nrcSubFuncNotSupported
  else
    match SessionType.ofByte sub with
    | none => refuse nrcConditionsNotCorrect
    | some t =>
      let s := enterSession s now t
      -- a programming session is served by the bootloader after a reset
      (if t = .programming then { s with handoff := true, softResetRequested := 1 } else s,
        sessionResponse sub)

/-- `handle_ecu_reset`: the reset itself is deferred until the response is out. -/
def handleEcuReset (s : App) (req : List UInt8) (reqLen : Nat) : App × List UInt8 :=
  let refuse code := (s, nrc udsSidEcuReset code)
  let resetType := subFunction (byte req 1)
  let respond := [udsSidEcuReset + udsResponseSidOffset, resetType]
  if reqLen < 2 then refuse nrcIncorrectMsgLen
  else if resetType = udsResetHard then ({ s with softResetRequested := 2 }, respond)
  else if resetType = udsResetSoft then ({ s with softResetRequested := 1 }, respond)
  else refuse nrcSubFuncNotSupported

/-- The key a SecurityAccess request sends, which even levels do. -/
def sentKey (req : List UInt8) (reqLen : Nat) : Option UInt16 :=
  if 4 ≤ reqLen ∧ subFunction (byte req 1) &&& 0x01 = 0 then some (word (byte req 2) (byte req 3))
  else none

/-- `handle_security_access`: odd levels ask for a seed, even ones bring a key. -/
def handleSecurityAccess (s : App) (now : Nat) (req : List UInt8) (reqLen : Nat) :
    App × List UInt8 :=
  let refuse (s : App) code := (s, nrc udsSidSecurityAccess code)
  let level := subFunction (byte req 1)
  if reqLen < 2 then refuse s nrcIncorrectMsgLen
  else if level &&& 0x01 ≠ 0 then
    match diagSessionCheckSecurityGate s.session now with
    | (session, .delay) => refuse { s with session } nrcRequiredTimeDelay
    | (session, .locked) => refuse { s with session } nrcExceededAttempts
    | (session, .ok) =>
      let (session, seed) := diagSessionGenerateSeed session now
      ({ s with session },
        (udsSidSecurityAccess + udsResponseSidOffset) :: level :: wordBytes seed)
  else
    match sentKey req reqLen with
    | none => refuse s nrcIncorrectMsgLen
    | some key =>
      match diagSessionVerifyKey s.session now key with
      | (session, .ok) =>
        ({ s with session }, [udsSidSecurityAccess + udsResponseSidOffset, level])
      | (session, .exceededAttempts) => refuse { s with session } nrcExceededAttempts
      | (session, .delayNotExpired) => refuse { s with session } nrcRequiredTimeDelay
      | (session, .invalid) => refuse { s with session } nrcInvalidKey

/-- `handle_tester_present`: the one handler that suppresses its own response. -/
def handleTesterPresent (req : List UInt8) (reqLen : Nat) : List UInt8 :=
  let sub := byte req 1
  if reqLen < 2 then nrc udsSidTesterPresent nrcIncorrectMsgLen
  else if subFunction sub ≠ 0x00 then nrc udsSidTesterPresent nrcSubFuncNotSupported
  else if sub &&& 0x80 ≠ 0 then []
  else [udsSidTesterPresent + udsResponseSidOffset, sub]

/-! ## Faults, routines and controls -/

/-- `handle_clear_dtc`: only the group of all faults. -/
def handleClearDtc (s : App) (req : List UInt8) (reqLen : Nat) : App × List UInt8 :=
  let refuse code := (s, nrc udsSidClearDiagInfo code)
  if reqLen ≠ 4 then refuse nrcIncorrectMsgLen
  else if byte req 1 ≠ 0xFF ∨ byte req 2 ≠ 0xFF ∨ byte req 3 ≠ 0xFF then
    refuse nrcRequestOutOfRange
  else ({ s with faults := obd2DtcClear s.faults }, [udsSidClearDiagInfo + udsResponseSidOffset])

/-- Bit 7 of the sub-function is not masked here. -/
def handleRoutineControl (s : App) (req : List UInt8) (reqLen : Nat) : App × List UInt8 :=
  let refuse code := (s, nrc udsSidRoutineControl code)
  let sub := byte req 1
  let routineId := word (byte req 2) (byte req 3)
  if reqLen < 4 then refuse nrcIncorrectMsgLen
  else if sub < 0x01 ∨ 0x03 < sub then refuse nrcSubFuncNotSupported
  else if routineId ≠ udsRoutineIdDtcClear ∧ routineId ≠ udsRoutineIdSelfTest then
    refuse nrcRequestOutOfRange
  else
    let faults :=
      if sub ≠ udsRoutineStart then s.faults
      else if routineId = udsRoutineIdDtcClear then obd2DtcClear s.faults
      else obd2DtcInjectDemo s.faults s.sim
    ({ s with faults }, (udsSidRoutineControl + udsResponseSidOffset) :: sub :: wordBytes routineId)

/-- `handle_communication_control`: the four control types, whatever the communication
type. -/
def handleCommunicationControl (s : App) (req : List UInt8) (reqLen : Nat) : App × List UInt8 :=
  let refuse code := (s, nrc udsSidCommunicationControl code)
  let control := subFunction (byte req 1)
  if reqLen < 2 then refuse nrcIncorrectMsgLen
  else if 0x03 < control then refuse nrcSubFuncNotSupported
  else
    ({ s with commRxEnabled := control == 0x00 || control == 0x01,
              commTxEnabled := control == 0x00 || control == 0x02 },
      [udsSidCommunicationControl + udsResponseSidOffset, control])

/-- `handle_control_dtc_setting`. -/
def handleControlDtcSetting (s : App) (req : List UInt8) (reqLen : Nat) : App × List UInt8 :=
  let refuse code := (s, nrc udsSidControlDtcSetting code)
  let sub := subFunction (byte req 1)
  if reqLen < 2 then refuse nrcIncorrectMsgLen
  else if sub ≠ 0x01 ∧ sub ≠ 0x02 then refuse nrcSubFuncNotSupported
  else
    ({ s with faults := obd2DtcSettingControl s.faults (sub == 0x01) },
      [udsSidControlDtcSetting + udsResponseSidOffset, sub])

/-- Only the VIN is writable. -/
def handleWriteDataById (s : App) (req : List UInt8) (reqLen : Nat) : App × List UInt8 :=
  let refuse code := (s, nrc udsSidWriteDataById code)
  let did := word (byte req 1) (byte req 2)
  if reqLen < 4 then refuse nrcIncorrectMsgLen
  else if did ≠ udsDidVin then refuse nrcRequestOutOfRange
  else if reqLen - 3 ≠ 17 then refuse nrcIncorrectMsgLen
  else
    ({ s with vin := (req.drop 3).take 17 },
      (udsSidWriteDataById + udsResponseSidOffset) :: wordBytes did)

/-- `handle_input_output_control`: the answer carries the port as it is behind the
request. -/
def handleInputOutputControl (s : App) (req : List UInt8) (reqLen : Nat) : App × List UInt8 :=
  let refuse code := (s, nrc udsSidIoControlById code)
  let did := word (byte req 1) (byte req 2)
  let control := byte req 3
  let respond (s : App) :=
    (s, (udsSidIoControlById + udsResponseSidOffset) :: (wordBytes did ++ [control, s.ioPort]))
  if reqLen < 4 then refuse nrcIncorrectMsgLen
  else if did ≠ udsDidIoControl then refuse nrcRequestOutOfRange
  else if control = 0x00 then respond s
  else if control = 0x03 then
    if reqLen < 5 then refuse nrcIncorrectMsgLen else respond { s with ioPort := byte req 4 }
  else refuse nrcSubFuncNotSupported

/-! ## Data and memory -/

/-- `handle_read_data_by_id`: a dynamic identifier without data is out of range like an
unknown one. -/
def handleReadDataById (mem : Memory) (s : App) (req : List UInt8) (reqLen : Nat) : List UInt8 :=
  let refuse code := nrc udsSidReadDataById code
  let did := word (byte req 1) (byte req 2)
  let respond data := (udsSidReadDataById + udsResponseSidOffset) :: (wordBytes did ++ data)
  if reqLen < 3 then refuse nrcIncorrectMsgLen
  else
    match registered s did with
    | some data => respond data
    | none =>
      match dynFind s did with
      | none => refuse nrcRequestOutOfRange
      | some slot =>
        let data := dynAssemble mem s slot
        if data = [] then refuse nrcRequestOutOfRange else respond data

/-- The first address of the readable flash. -/
def udsMemFlashBase : Nat := flashBase

/-- The first address behind the readable flash. -/
def udsMemFlashEnd : Nat := flashEnd

/-- The first address of the readable RAM. -/
def udsMemSramBase : Nat := 0x20000000

/-- The first address behind the readable RAM. -/
def udsMemSramEnd : Nat := 0x20008000

/-- A slice inside one region, as compared without overflow. -/
def inRegion (base last addr size : Nat) : Bool :=
  decide (base ≤ addr) && decide (addr < last) && decide (size ≤ last - addr)

/-- Flash and SRAM are readable. -/
def memReadable (addr size : Nat) : Bool :=
  inRegion udsMemFlashBase udsMemFlashEnd addr size ||
    inRegion udsMemSramBase udsMemSramEnd addr size

/-- The lengths of the address and size fields an ALFID stands for. -/
def addressLength (alfid : UInt8) : Nat := (alfid &&& 0x0F).toNat

/-- The width of the size field, in the high half of the format byte. -/
def sizeLength (alfid : UInt8) : Nat := ((alfid >>> 4) &&& 0x0F).toNat

/-- Fields of one to four bytes. -/
def alfidInRange (alfid : UInt8) : Bool :=
  decide (addressLength alfid ≠ 0) && decide (sizeLength alfid ≠ 0) &&
    decide (addressLength alfid ≤ 4) && decide (sizeLength alfid ≤ 4)

/-- `handle_read_mem_by_addr`: 63 bytes at most, all of them inside one region. -/
def handleReadMemByAddr (mem : Memory) (req : List UInt8) (reqLen : Nat) : List UInt8 :=
  let refuse code := nrc udsSidReadMemByAddr code
  let alfid := byte req 1
  let alen := addressLength alfid
  let slen := sizeLength alfid
  let addr := ofBe ((req.drop 2).take alen)
  let size := ofBe ((req.drop (2 + alen)).take slen)
  if reqLen < 3 then refuse nrcIncorrectMsgLen
  else if alfidInRange alfid = false then refuse nrcRequestOutOfRange
  else if reqLen < 2 + alen + slen then refuse nrcIncorrectMsgLen
  else if size = 0 ∨ udsMaxResponseSize - 1 < size then refuse nrcRequestOutOfRange
  else if memReadable addr size = false then refuse nrcRequestOutOfRange
  else (udsSidReadMemByAddr + udsResponseSidOffset) :: readBytes mem addr size

/-! ## Dynamic identifiers -/

/-- A record `{sourceDID(2) position(1) size(1)}`, checked against its source. -/
def identifierRecord (s : App) (r : List UInt8) : Option DynRec :=
  let src := word (byte r 0) (byte r 1)
  let pos := (byte r 2).toNat
  let sz := (byte r 3).toNat
  match resolveSource s src with
  | none => none
  | some data =>
    if sz = 0 ∨ pos = 0 ∨ data.length < pos - 1 + sz then none
    else some { srcDid := src, position := pos, size := sz }

/-- A record `{address size}` of readable memory. -/
def memoryRecord (alen slen : Nat) (r : List UInt8) : Option DynRec :=
  let addr := ofBe (r.take alen)
  let size := ofBe ((r.drop alen).take slen)
  if size = 0 ∨ udsDynMaxData < size ∨ memReadable addr size = false then none
  else some { srcDid := udsDynSrcMem, srcAddr := addr, size }

/-- The record loop of a definition. A record that fails its check ends the loop,
which leaves the last scratch record empty and rejects the definition. -/
def dynRecords (parse : List UInt8 → Option DynRec) (stride : Nat) :
    Nat → List UInt8 → Option (List DynRec)
  | 0, _ => some []
  | n + 1, data =>
    match parse (data.take stride) with
    | none => none
    | some r => (dynRecords parse stride n (data.drop stride)).map (r :: ·)

/-- The bytes a definition assembles. -/
def totalSize (recs : List DynRec) : Nat := (recs.map (·.size)).sum

/-- The scratch slot of a definition: one to three records of at most 56 bytes. -/
def scratchRecords (parse : List UInt8 → Option DynRec) (stride n : Nat) (data : List UInt8) :
    Except UInt8 (List DynRec) :=
  if n = 0 ∨ udsDynMaxRec < n then .error nrcRequestOutOfRange
  else
    match dynRecords parse stride n data with
    | none => .error nrcRequestOutOfRange
    | some recs =>
      if totalSize recs = 0 ∨ udsDynMaxData < totalSize recs then .error nrcRequestOutOfRange
      else .ok recs

/-- Sub-function 0x01. The record count is a byte. -/
def defineByIdentifier (s : App) (req : List UInt8) (reqLen : Nat) : Except UInt8 (List DynRec) :=
  if reqLen < 8 ∨ (reqLen - 4) % 4 ≠ 0 then .error nrcIncorrectMsgLen
  else scratchRecords (identifierRecord s) 4 ((reqLen - 4) / 4 % 256) (req.drop 4)

/-- Sub-function 0x02. -/
def defineByMemoryAddress (req : List UInt8) (reqLen : Nat) : Except UInt8 (List DynRec) :=
  let alfid := byte req 4
  let alen := addressLength alfid
  let slen := sizeLength alfid
  let stride := alen + slen
  if reqLen < 5 then .error nrcIncorrectMsgLen
  else if alfidInRange alfid = false then .error nrcRequestOutOfRange
  else if reqLen < 5 + stride ∨ (reqLen - 5) % stride ≠ 0 then .error nrcIncorrectMsgLen
  else scratchRecords (memoryRecord alen slen) stride ((reqLen - 5) / stride % 256) (req.drop 5)

/-- The slot a definition goes to: its own, else the first empty one. -/
def dynSlotFor (dyn : List DynSlot) (did : UInt16) : Option Nat :=
  (dyn.findIdx? (·.did == did)).or (dyn.findIdx? (·.did == 0))

/-- A definition or its clearing is confirmed with the identifier. -/
def dynResponse (sub : UInt8) (did : UInt16) : List UInt8 :=
  (udsSidDynamicDefineDid + udsResponseSidOffset) :: sub :: wordBytes did

/-- The common end of sub-functions 0x01 and 0x02. -/
def commitDynamic (s : App) (sub : UInt8) (did : UInt16) (recs : Except UInt8 (List DynRec)) :
    App × List UInt8 :=
  let refuse code := (s, nrc udsSidDynamicDefineDid code)
  match recs with
  | .error code => refuse code
  | .ok recs =>
    match dynSlotFor s.dyn did with
    | none => refuse nrcRequestOutOfRange
    | some i => ({ s with dyn := s.dyn.set i ⟨did, recs⟩ }, dynResponse sub did)

/-- `handle_dynamic_define_did`. -/
def handleDynamicDefineDid (s : App) (req : List UInt8) (reqLen : Nat) : App × List UInt8 :=
  let refuse code := (s, nrc udsSidDynamicDefineDid code)
  let sub := subFunction (byte req 1)
  let did := word (byte req 2) (byte req 3)
  if reqLen < 4 then refuse nrcIncorrectMsgLen
  else if did < udsDidDynamicBase ∨ udsDidDynamicEnd < did then refuse nrcRequestOutOfRange
  else if sub = 0x01 then commitDynamic s sub did (defineByIdentifier s req reqLen)
  else if sub = 0x02 then commitDynamic s sub did (defineByMemoryAddress req reqLen)
  else if sub = 0x03 then
    match s.dyn.findIdx? (·.did == did) with
    | none => refuse nrcRequestOutOfRange
    | some i => ({ s with dyn := s.dyn.set i {} }, dynResponse sub did)
  else refuse nrcSubFuncNotSupported

/-! ## Periodic transmission -/

/-- The DID of a periodic identifier. -/
def periodicDid (pdid : UInt8) : UInt16 := udsDidDynamicBase ||| pdid.toUInt16

/-- An active subscription of an identifier. -/
def PeriodicSub.serves (p : PeriodicSub) (pdid : UInt8) : Bool := p.divider != 0 && p.pdid == pdid

/-- The loop of stopSending. An identifier without a subscription ends it; those
before it stay stopped. -/
def stopSending : List PeriodicSub → List UInt8 → List PeriodicSub × Bool
  | subs, [] => (subs, true)
  | subs, pdid :: rest =>
    if subs.any (·.serves pdid) then
      stopSending (subs.map fun p => if p.serves pdid then { p with divider := 0 } else p) rest
    else (subs, false)

/-- The subscription loop. An identifier that is not defined or finds no slot ends
it; those before it stay subscribed. -/
def startSending (s : App) (divider : UInt8) :
    List PeriodicSub → List UInt8 → List PeriodicSub × Bool
  | subs, [] => (subs, true)
  | subs, pdid :: rest =>
    if (dynFind s (periodicDid pdid)).isNone then (subs, false)
    else
      match (subs.findIdx? (·.serves pdid)).or (subs.findIdx? (·.divider == 0)) with
      | none => (subs, false)
      | some i => startSending s divider (subs.set i ⟨pdid, divider, 0⟩) rest

/-- Transmission modes as dividers of the 10 ms tick. -/
def periodicDivider (mode : UInt8) : Option UInt8 :=
  if mode = 0x01 then some 100
  else if mode = 0x02 then some 10
  else if mode = 0x03 then some 2
  else none

/-- `handle_read_data_periodic`: identifiers before the one that fails have taken
effect. -/
def handleReadDataPeriodic (s : App) (req : List UInt8) (reqLen : Nat) : App × List UInt8 :=
  let refuse (s : App) code := (s, nrc udsSidReadDataPeriodic code)
  let mode := subFunction (byte req 1)
  let pdids := (req.take reqLen).drop 2
  let respond (periodic : List PeriodicSub) (done : Bool) : App × List UInt8 :=
    if done then ({ s with periodic }, [udsSidReadDataPeriodic + udsResponseSidOffset, mode])
    else refuse { s with periodic } nrcRequestOutOfRange
  if reqLen < 2 then refuse s nrcIncorrectMsgLen
  else if mode = 0x04 then
    if reqLen = 2 then respond (udsPeriodicStopAll s.periodic) true
    else
      let (periodic, done) := stopSending s.periodic pdids
      respond periodic done
  else
    match periodicDivider mode with
    | none => refuse s nrcSubFuncNotSupported
    | some divider =>
      if reqLen < 3 then refuse s nrcIncorrectMsgLen
      else
        let (periodic, done) := startSending s divider s.periodic pdids
        respond periodic done

/-- A subscription whose period ends with this tick. -/
def PeriodicSub.due (p : PeriodicSub) : Bool :=
  p.divider != 0 && !decide (p.counter + 1 < p.divider)

/-- What a due subscription sends; no bytes if its source cannot be assembled. -/
def periodicData (mem : Memory) (s : App) (pdid : UInt8) : List UInt8 :=
  match dynFind s (periodicDid pdid) with
  | none => []
  | some slot => dynAssemble mem s slot

/-- The body of the slot loop of `UDS_PeriodicTick`. -/
def periodicTickSub (mem : Memory) (s : App) (p : PeriodicSub) : PeriodicSub × List (List UInt8) :=
  if p.divider = 0 then (p, [])
  else if p.counter + 1 < p.divider then ({ p with counter := p.counter + 1 }, [])
  else
    let data := periodicData mem s p.pdid
    if data = [] then ({ p with counter := 0, divider := 0 }, [])
    else ({ p with counter := 0 }, [p.pdid :: data])

/-- `UDS_PeriodicTick`, with the messages it hands to `ISO_TP_SendResponse`. -/
def udsPeriodicTick (mem : Memory) (s : App) : App × List (List UInt8) :=
  let ticked := s.periodic.map (periodicTickSub mem s)
  ({ s with periodic := ticked.map (·.1) }, ticked.flatMap (·.2))

/-! ## OBD-II modes -/

/-- Service 0x01: an unsupported parameter gets no answer. -/
def handleObd2Service01 (s : App) (req : List UInt8) (reqLen : Nat) : List UInt8 :=
  if reqLen < 2 then nrc udsSidObd2CurrentData nrcIncorrectMsgLen
  else
    let (buffer, len) := obd2HandleService01 s.sim (byte req 1)
    if len = 0 then [] else (buffer.drop 1).take len

/-- Service 0x03: the confirmed faults behind their number. -/
def handleObd2Service03 (s : App) : List UInt8 :=
  let codes := obd2DtcGetConfirmed s.faults obd2DtcCount
  (udsSidObd2StoredDtc + udsResponseSidOffset) :: UInt8.ofNat codes.length ::
    codes.flatMap wordBytes

/-- Service 0x04: the fault memory is cleared, without a gate. -/
def handleObd2Service04 (s : App) : App × List UInt8 :=
  ({ s with faults := obd2DtcClear s.faults }, [udsSidObd2ClearDtc + udsResponseSidOffset])

/-- Service 0x07: the pending faults, without a number. -/
def handleObd2Service07 (s : App) : List UInt8 :=
  (udsSidObd2PendingDtc + udsResponseSidOffset) ::
    (obd2DtcGetPending s.faults obd2DtcCount).flatMap wordBytes

/-- Service 0x09: the supported types or the VIN, and no answer to others. -/
def handleObd2Service09 (s : App) (req : List UInt8) (reqLen : Nat) : List UInt8 :=
  let infType := byte req 1
  let respond data := (udsSidObd2VehicleInfo + udsResponseSidOffset) :: infType :: data
  if reqLen < 2 then []
  else if infType = 0x00 then respond [0x02, 0x00, 0x00, 0x00]
  else if infType = 0x02 then respond (0x01 :: cString s.vin)
  else []

/-! ## Dispatcher -/

/-- `UDS_IsFunctionallyAddressable`. -/
def functionalSids : List UInt8 :=
  [udsSidObd2CurrentData, udsSidObd2StoredDtc, udsSidObd2ClearDtc, udsSidObd2PendingDtc,
    udsSidObd2VehicleInfo, udsSidTesterPresent, udsSidCommunicationControl,
    udsSidControlDtcSetting]

/-- The services whose positive response bit 7 of the sub-function suppresses. -/
def suppressibleSids : List UInt8 :=
  [udsSidDiagSessionCtrl, udsSidEcuReset, udsSidSecurityAccess, udsSidRoutineControl,
    udsSidTesterPresent, udsSidReadDtcInformation, udsSidControlDtcSetting,
    udsSidReadDataPeriodic, udsSidDynamicDefineDid]

/-- A service behind the access table. -/
def gated (s : App) (sid : UInt8) (handled : App × List UInt8) : App × List UInt8 :=
  match accessGate s sid with
  | some code => (s, nrc sid code)
  | none => handled

/-- The service switch. -/
def serve (mem : Memory) (s : App) (now : Nat) (req : List UInt8) (reqLen : Nat) :
    App × List UInt8 :=
  let sid := byte req 0
  if sid = udsSidObd2CurrentData then (s, handleObd2Service01 s req reqLen)
  else if sid = udsSidObd2StoredDtc then (s, handleObd2Service03 s)
  else if sid = udsSidObd2ClearDtc then handleObd2Service04 s
  else if sid = udsSidObd2PendingDtc then (s, handleObd2Service07 s)
  else if sid = udsSidObd2VehicleInfo then (s, handleObd2Service09 s req reqLen)
  else if sid = udsSidDiagSessionCtrl then handleSessionControl s now req reqLen
  else if sid = udsSidEcuReset then handleEcuReset s req reqLen
  else if sid = udsSidClearDiagInfo then gated s sid (handleClearDtc s req reqLen)
  else if sid = udsSidReadDataById then (s, handleReadDataById mem s req reqLen)
  else if sid = udsSidReadMemByAddr then gated s sid (s, handleReadMemByAddr mem req reqLen)
  else if sid = udsSidReadDataPeriodic then gated s sid (handleReadDataPeriodic s req reqLen)
  else if sid = udsSidDynamicDefineDid then gated s sid (handleDynamicDefineDid s req reqLen)
  else if sid = udsSidReadDtcInformation then (s, handleReadDtcInformation s.faults req reqLen)
  else if sid = udsSidSecurityAccess then handleSecurityAccess s now req reqLen
  else if sid = udsSidRoutineControl then gated s sid (handleRoutineControl s req reqLen)
  else if sid = udsSidTesterPresent then (s, handleTesterPresent req reqLen)
  else if sid = udsSidCommunicationControl then
    gated s sid (handleCommunicationControl s req reqLen)
  else if sid = udsSidControlDtcSetting then gated s sid (handleControlDtcSetting s req reqLen)
  else if sid = udsSidWriteDataById then gated s sid (handleWriteDataById s req reqLen)
  else if sid = udsSidIoControlById then gated s sid (handleInputOutputControl s req reqLen)
  else (s, nrc sid nrcServiceNotSupported)

/-- How the switch reaches 0x10. -/
theorem serve_session_control (mem : Memory) (s : App) (now : Nat) (req : List UInt8)
    (reqLen : Nat) (service : byte req 0 = udsSidDiagSessionCtrl) :
    serve mem s now req reqLen = handleSessionControl s now req reqLen := by
  unfold serve
  rw [service]
  rfl

/-- Whether a request reaches the service switch at all. -/
def admitted (req : List UInt8) (reqLen : Nat) (addr : AddrType) : Bool :=
  reqLen != 0 && (addr != .functional || functionalSids.contains (byte req 0))

/-- A positive response to a request with the suppress bit, of a service that has
sub-functions. -/
def suppressed (req : List UInt8) (reqLen : Nat) (response : List UInt8) : Bool :=
  decide (0 < response.length) && byte response 0 != 0x7F && decide (2 ≤ reqLen) &&
    (byte req 1 &&& 0x80 != 0) && suppressibleSids.contains (byte req 0)

/-- The application as a request finds it: its activity stamp is renewed. -/
def stamped (s : App) (now : Nat) : App :=
  { s with session := diagSessionResetS3Timeout s.session now }

/-- `UDS_DispatchRequest`. -/
def udsDispatchRequest (mem : Memory) (s : App) (now : Nat) (req : List UInt8) (reqLen : Nat)
    (addr : AddrType) : App × List UInt8 :=
  if admitted req reqLen addr = false then (s, [])
  else
    let (s, response) := serve mem (stamped s now) now req reqLen
    (s, if suppressed req reqLen response then [] else response)

/-- Every physical request reaches its service. -/
theorem admitted_physical (req : List UInt8) (reqLen : Nat) (some_bytes : 0 < reqLen) :
    admitted req reqLen .physical = true := by
  have nonzero : reqLen ≠ 0 := Nat.ne_of_gt some_bytes
  simp [admitted, nonzero]

/-- A request that reaches no service leaves no trace, not even on the session timer. -/
theorem dispatch_ignored (mem : Memory) (s : App) (now : Nat) (req : List UInt8) (reqLen : Nat)
    (addr : AddrType) (ignored : admitted req reqLen addr = false) :
    udsDispatchRequest mem s now req reqLen addr = (s, []) := by
  simp [udsDispatchRequest, ignored]

/-- What a request does is what its service does, behind the restart of the session
timer. -/
theorem dispatch_served (mem : Memory) (s : App) (now : Nat) (req : List UInt8) (reqLen : Nat)
    (addr : AddrType) (reaches : admitted req reqLen addr = true) :
    (udsDispatchRequest mem s now req reqLen addr).1 =
      (serve mem (stamped s now) now req reqLen).1 := by
  simp [udsDispatchRequest, reaches]

/-- What a service keeps a request keeps, unless it is the stamp. -/
theorem dispatch_keeps {α : Type*} (part : App → α) (mem : Memory) (s : App) (now : Nat)
    (req : List UInt8) (reqLen : Nat) (addr : AddrType) (unstamped : part (stamped s now) = part s)
    (kept : part (serve mem (stamped s now) now req reqLen).1 = part (stamped s now)) :
    part (udsDispatchRequest mem s now req reqLen addr).1 = part s := by
  cases reaches : admitted req reqLen addr with
  | false => rw [dispatch_ignored mem s now req reqLen addr reaches]
  | true => rw [dispatch_served mem s now req reqLen addr reaches, kept, unstamped]

/-- Services outside the list are answered as they are served. -/
theorem dispatch_unsuppressed (mem : Memory) (s : App) (now : Nat) (req : List UInt8)
    (reqLen : Nat) (addr : AddrType) (reaches : admitted req reqLen addr = true)
    (plain : byte req 0 ∉ suppressibleSids) :
    (udsDispatchRequest mem s now req reqLen addr).2 =
      (serve mem (stamped s now) now req reqLen).2 := by
  have sent (response : List UInt8) : suppressed req reqLen response = false := by
    simp [suppressed, plain]
  simp [udsDispatchRequest, reaches, sent]

/-- A gate is open in the Extended session, unlocked where the rule asks for that. -/
theorem access_gate_iff (s : App) (sid : UInt8) (security : Bool)
    (rule : kAccessRules.find? (fun rule => rule.1 == sid) = some (sid, true, security)) :
    accessGate s sid = none ↔ s.session.sessionType = .extended ∧
      (security = true → s.session.securityLevel ≠ .locked) := by
  unfold accessGate diagSessionCheckAccess
  rw [rule]
  by_cases extended : s.session.sessionType = .extended
  · cases security with
    | false => simp [extended]
    | true => by_cases locked : s.session.securityLevel = .locked <;> simp [extended, locked]
  · simp [extended]

/-- A gate that asks for both is open in an unlocked Extended session only. -/
theorem gate_opened (s : App) (sid : UInt8)
    (rule : kAccessRules.find? (fun rule => rule.1 == sid) = some (sid, true, true))
    (opened : accessGate s sid = none) :
    s.session.sessionType = .extended ∧ s.session.securityLevel ≠ .locked := by
  obtain ⟨extended, unlocked⟩ := (access_gate_iff s sid true rule).mp opened
  exact ⟨extended, unlocked rfl⟩

/-! ## What a request changes -/

/-- The control block after a SecurityAccess request. -/
inductive Secured (d : DiagSession) (now : Nat) (req : List UInt8) (reqLen : Nat) :
    DiagSession → Prop
  | kept : Secured d now req reqLen d
  | stopped (closed : (diagSessionCheckSecurityGate d now).2 ≠ .ok) :
      Secured d now req reqLen (diagSessionCheckSecurityGate d now).1
  | seeded (opened : (diagSessionCheckSecurityGate d now).2 = .ok) :
      Secured d now req reqLen
        (diagSessionGenerateSeed (diagSessionCheckSecurityGate d now).1 now).1
  | verified (key : UInt16) (sent : sentKey req reqLen = some key) :
      Secured d now req reqLen (diagSessionVerifyKey d now key).1

/-- The records a positive definition stores. -/
def Defines (s : App) (req : List UInt8) (reqLen : Nat) (recs : List DynRec) : Prop :=
  defineByIdentifier s req reqLen = .ok recs ∨ defineByMemoryAddress req reqLen = .ok recs

/-- Every stored record passed its check. -/
theorem dyn_records_parsed (parse : List UInt8 → Option DynRec) (stride n : Nat)
    (data : List UInt8) (recs : List DynRec)
    (accepted : dynRecords parse stride n data = some recs) :
    ∀ r ∈ recs, ∃ bytes, parse bytes = some r := by
  induction n generalizing data recs with
  | zero =>
    cases accepted
    intro r member
    cases member
  | succ n ih =>
    rw [dynRecords] at accepted
    cases parsed : parse (data.take stride) with
    | none =>
      rw [parsed] at accepted
      cases accepted
    | some first =>
      rw [parsed] at accepted
      obtain ⟨rest, later, rfl⟩ := Option.map_eq_some_iff.mp accepted
      intro r member
      rcases List.mem_cons.mp member with rfl | within
      · exact ⟨_, parsed⟩
      · exact ih _ rest later r within

/-- Accepted records were parsed one by one and fit the data of a slot. -/
theorem scratch_records_parsed (parse : List UInt8 → Option DynRec) (stride n : Nat)
    (data : List UInt8) (recs : List DynRec)
    (accepted : scratchRecords parse stride n data = .ok recs) :
    totalSize recs ≤ udsDynMaxData ∧ ∀ r ∈ recs, ∃ bytes, parse bytes = some r := by
  unfold scratchRecords at accepted
  split at accepted
  · cases accepted
  · cases parsed : dynRecords parse stride n data with
    | none =>
      rw [parsed] at accepted
      cases accepted
    | some scratch =>
      rw [parsed] at accepted
      simp only at accepted
      split at accepted
      · cases accepted
      · rename_i sized
        cases accepted
        rw [not_or, Nat.not_lt] at sized
        exact ⟨sized.2, dyn_records_parsed parse stride n data recs parsed⟩

/-- Everything the service switch can do to the application, with the gate of the
service where it has one. -/
inductive Change (s : App) (now : Nat) (req : List UInt8) (reqLen : Nat) : App → Prop
  | unchanged : Change s now req reqLen s
  | session (t : SessionType) (service : byte req 0 = udsSidDiagSessionCtrl)
      (other : t ≠ .programming) : Change s now req reqLen (enterSession s now t)
  | programming (service : byte req 0 = udsSidDiagSessionCtrl) :
      Change s now req reqLen
        { enterSession s now .programming with handoff := true, softResetRequested := 1 }
  | reset (kind : UInt8) (service : byte req 0 = udsSidEcuReset) :
      Change s now req reqLen { s with softResetRequested := kind }
  | security (session : DiagSession) (service : byte req 0 = udsSidSecurityAccess)
      (secured : Secured s.session now req reqLen session) :
      Change s now req reqLen { s with session }
  | faults (faults : FaultManager) : Change s now req reqLen { s with faults }
  | communication (rx tx : Bool) (opened : accessGate s udsSidCommunicationControl = none) :
      Change s now req reqLen { s with commRxEnabled := rx, commTxEnabled := tx }
  | vin (vin : List UInt8) (opened : accessGate s udsSidWriteDataById = none) :
      Change s now req reqLen { s with vin }
  | ioPort (value : UInt8) (opened : accessGate s udsSidIoControlById = none) :
      Change s now req reqLen { s with ioPort := value }
  | defined (i : Nat) (did : UInt16) (recs : List DynRec)
      (opened : accessGate s udsSidDynamicDefineDid = none)
      (inside : udsDidDynamicBase ≤ did ∧ did ≤ udsDidDynamicEnd)
      (slot : dynSlotFor s.dyn did = some i) (checked : Defines s req reqLen recs) :
      Change s now req reqLen { s with dyn := s.dyn.set i ⟨did, recs⟩ }
  | undefined (i : Nat) (opened : accessGate s udsSidDynamicDefineDid = none) :
      Change s now req reqLen { s with dyn := s.dyn.set i {} }
  | periodic (periodic : List PeriodicSub) (opened : accessGate s udsSidReadDataPeriodic = none) :
      Change s now req reqLen { s with periodic }

section Handlers

variable (mem mem' : Memory) (s : App) (now : Nat) (req : List UInt8) (reqLen : Nat)

/-- 0x10 changes the session and what hangs on it. -/
theorem session_control_change (service : byte req 0 = udsSidDiagSessionCtrl) :
    Change s now req reqLen (handleSessionControl s now req reqLen).1 := by
  unfold handleSessionControl
  simp only
  split
  · exact .unchanged
  · split
    · exact .unchanged
    · cases SessionType.ofByte (subFunction (byte req 1)) with
      | none => exact .unchanged
      | some t =>
        cases t with
        | default => exact .session .default service nofun
        | programming => exact .programming service
        | extended => exact .session .extended service nofun

/-- 0x11 defers a reset. -/
theorem ecu_reset_change (service : byte req 0 = udsSidEcuReset) :
    Change s now req reqLen (handleEcuReset s req reqLen).1 := by
  unfold handleEcuReset
  simp only
  split
  · exact .unchanged
  · split
    · exact .reset 2 service
    · split
      · exact .reset 1 service
      · exact .unchanged

/-- 0x27 changes the session's security. -/
theorem security_access_change (service : byte req 0 = udsSidSecurityAccess) :
    Change s now req reqLen (handleSecurityAccess s now req reqLen).1 := by
  unfold handleSecurityAccess
  simp only
  split
  · exact .unchanged
  · split
    · have stopped : (diagSessionCheckSecurityGate s.session now).2 ≠ .ok →
          Secured s.session now req reqLen (diagSessionCheckSecurityGate s.session now).1 :=
        .stopped
      have seeded : (diagSessionCheckSecurityGate s.session now).2 = .ok →
          Secured s.session now req reqLen
            (diagSessionGenerateSeed (diagSessionCheckSecurityGate s.session now).1 now).1 :=
        .seeded
      cases gated : diagSessionCheckSecurityGate s.session now with
      | mk session gate =>
        rw [gated] at stopped seeded
        cases gate with
        | delay => exact .security session service (stopped nofun)
        | locked => exact .security session service (stopped nofun)
        | ok => exact .security _ service (seeded rfl)
    · cases sent : sentKey req reqLen with
      | none => exact .unchanged
      | some key =>
        have verified : Secured s.session now req reqLen
            (diagSessionVerifyKey s.session now key).1 := .verified key sent
        simp only
        cases outcome : diagSessionVerifyKey s.session now key with
        | mk session result =>
          rw [outcome] at verified
          cases result with
          | ok => exact .security session service verified
          | invalid => exact .security session service verified
          | exceededAttempts => exact .security session service verified
          | delayNotExpired => exact .security session service verified

/-- 0x14 clears the faults. -/
theorem clear_dtc_change : Change s now req reqLen (handleClearDtc s req reqLen).1 := by
  unfold handleClearDtc
  simp only
  split
  · exact .unchanged
  · split
    · exact .unchanged
    · exact .faults _

/-- 0x31 works on the faults. -/
theorem routine_control_change : Change s now req reqLen (handleRoutineControl s req reqLen).1 := by
  unfold handleRoutineControl
  simp only
  split
  · exact .unchanged
  · split
    · exact .unchanged
    · split
      · exact .unchanged
      · exact .faults _

/-- An open 0x28 sets the two flags. -/
theorem communication_control_change
    (opened : accessGate s udsSidCommunicationControl = none) :
    Change s now req reqLen (handleCommunicationControl s req reqLen).1 := by
  unfold handleCommunicationControl
  simp only
  split
  · exact .unchanged
  · split
    · exact .unchanged
    · exact .communication _ _ opened

/-- 0x85 sets the fault setting. -/
theorem control_dtc_setting_change :
    Change s now req reqLen (handleControlDtcSetting s req reqLen).1 := by
  unfold handleControlDtcSetting
  simp only
  split
  · exact .unchanged
  · split
    · exact .unchanged
    · exact .faults _

/-- An open 0x2E writes the VIN. -/
theorem write_data_change (opened : accessGate s udsSidWriteDataById = none) :
    Change s now req reqLen (handleWriteDataById s req reqLen).1 := by
  unfold handleWriteDataById
  simp only
  split
  · exact .unchanged
  · split
    · exact .unchanged
    · split
      · exact .unchanged
      · exact .vin _ opened

/-- An open 0x2F writes the port. -/
theorem input_output_change (opened : accessGate s udsSidIoControlById = none) :
    Change s now req reqLen (handleInputOutputControl s req reqLen).1 := by
  unfold handleInputOutputControl
  simp only
  split
  · exact .unchanged
  · split
    · exact .unchanged
    · split
      · exact .unchanged
      · split
        · split
          · exact .unchanged
          · exact .ioPort _ opened
        · exact .unchanged

/-- An open definition of a dynamic identifier writes a slot with accepted records. -/
theorem commit_dynamic_change (sub : UInt8) (did : UInt16) (recs : Except UInt8 (List DynRec))
    (opened : accessGate s udsSidDynamicDefineDid = none)
    (inside : udsDidDynamicBase ≤ did ∧ did ≤ udsDidDynamicEnd)
    (checked : ∀ accepted, recs = .ok accepted → Defines s req reqLen accepted) :
    Change s now req reqLen (commitDynamic s sub did recs).1 := by
  cases recs with
  | error code => exact .unchanged
  | ok accepted =>
    cases slot : dynSlotFor s.dyn did with
    | none =>
      simp only [commitDynamic, slot]
      exact .unchanged
    | some i =>
      simp only [commitDynamic, slot]
      exact .defined i did accepted opened inside slot (checked accepted rfl)

/-- An open 0x2C does no other change than this or emptying a slot. -/
theorem dynamic_define_change (opened : accessGate s udsSidDynamicDefineDid = none) :
    Change s now req reqLen (handleDynamicDefineDid s req reqLen).1 := by
  unfold handleDynamicDefineDid
  simp only
  split
  · exact .unchanged
  · split
    · exact .unchanged
    · rename_i outside
      rw [not_or, UInt16.not_lt, UInt16.not_lt] at outside
      split
      · exact commit_dynamic_change s now req reqLen _ _ _ opened outside fun _ => Or.inl
      · split
        · exact commit_dynamic_change s now req reqLen _ _ _ opened outside fun _ => Or.inr
        · split
          · split
            · exact .unchanged
            · exact .undefined _ opened
          · exact .unchanged

/-- An open 0x2A changes the subscriptions. -/
theorem read_periodic_change (opened : accessGate s udsSidReadDataPeriodic = none) :
    Change s now req reqLen (handleReadDataPeriodic s req reqLen).1 := by
  unfold handleReadDataPeriodic
  simp only
  split
  · exact .unchanged
  · split
    · split
      · exact .periodic _ opened
      · split
        · exact .periodic _ opened
        · exact .periodic _ opened
    · split
      · exact .unchanged
      · split
        · exact .unchanged
        · split
          · exact .periodic _ opened
          · exact .periodic _ opened

/-- The outcomes of the service switch, one for each service. A closed gate answers
for the service behind it. -/
inductive Serves : App × List UInt8 → Prop
  | stopped (code : UInt8) (closed : accessGate s (byte req 0) = some code) :
      Serves (s, nrc (byte req 0) code)
  | unsupported : Serves (s, nrc (byte req 0) nrcServiceNotSupported)
  | currentData (service : byte req 0 = udsSidObd2CurrentData) :
      Serves (s, handleObd2Service01 s req reqLen)
  | storedDtc (service : byte req 0 = udsSidObd2StoredDtc) : Serves (s, handleObd2Service03 s)
  | clearDtc (service : byte req 0 = udsSidObd2ClearDtc) : Serves (handleObd2Service04 s)
  | pendingDtc (service : byte req 0 = udsSidObd2PendingDtc) : Serves (s, handleObd2Service07 s)
  | vehicleInfo (service : byte req 0 = udsSidObd2VehicleInfo) :
      Serves (s, handleObd2Service09 s req reqLen)
  | sessionCtrl (service : byte req 0 = udsSidDiagSessionCtrl) :
      Serves (handleSessionControl s now req reqLen)
  | ecuReset (service : byte req 0 = udsSidEcuReset) : Serves (handleEcuReset s req reqLen)
  | clearDiagInfo (service : byte req 0 = udsSidClearDiagInfo)
      (opened : accessGate s udsSidClearDiagInfo = none) : Serves (handleClearDtc s req reqLen)
  | readDataById (service : byte req 0 = udsSidReadDataById) :
      Serves (s, handleReadDataById mem s req reqLen)
  | readMemByAddr (service : byte req 0 = udsSidReadMemByAddr)
      (opened : accessGate s udsSidReadMemByAddr = none) :
      Serves (s, handleReadMemByAddr mem req reqLen)
  | readDataPeriodic (service : byte req 0 = udsSidReadDataPeriodic)
      (opened : accessGate s udsSidReadDataPeriodic = none) :
      Serves (handleReadDataPeriodic s req reqLen)
  | dynamicDefineDid (service : byte req 0 = udsSidDynamicDefineDid)
      (opened : accessGate s udsSidDynamicDefineDid = none) :
      Serves (handleDynamicDefineDid s req reqLen)
  | readDtcInformation (service : byte req 0 = udsSidReadDtcInformation) :
      Serves (s, handleReadDtcInformation s.faults req reqLen)
  | securityAccess (service : byte req 0 = udsSidSecurityAccess) :
      Serves (handleSecurityAccess s now req reqLen)
  | routineControl (service : byte req 0 = udsSidRoutineControl)
      (opened : accessGate s udsSidRoutineControl = none) :
      Serves (handleRoutineControl s req reqLen)
  | testerPresent (service : byte req 0 = udsSidTesterPresent) :
      Serves (s, handleTesterPresent req reqLen)
  | communicationControl (service : byte req 0 = udsSidCommunicationControl)
      (opened : accessGate s udsSidCommunicationControl = none) :
      Serves (handleCommunicationControl s req reqLen)
  | controlDtcSetting (service : byte req 0 = udsSidControlDtcSetting)
      (opened : accessGate s udsSidControlDtcSetting = none) :
      Serves (handleControlDtcSetting s req reqLen)
  | writeDataById (service : byte req 0 = udsSidWriteDataById)
      (opened : accessGate s udsSidWriteDataById = none) :
      Serves (handleWriteDataById s req reqLen)
  | ioControlById (service : byte req 0 = udsSidIoControlById)
      (opened : accessGate s udsSidIoControlById = none) :
      Serves (handleInputOutputControl s req reqLen)

/-- A service behind its gate, which its outcome needs open. -/
theorem gated_serves (sid : UInt8) (handled : App × List UInt8) (service : byte req 0 = sid)
    (outcome : accessGate s sid = none → Serves mem s now req reqLen handled) :
    Serves mem s now req reqLen (gated s (byte req 0) handled) := by
  unfold gated
  cases gate : accessGate s (byte req 0) with
  | some code => exact .stopped code gate
  | none => exact outcome (service ▸ gate)

/-- The switch, branch by branch in its order. -/
theorem serve_serves : Serves mem s now req reqLen (serve mem s now req reqLen) := by
  have gate := gated_serves mem s now req reqLen
  unfold serve
  apply iteInduction .currentData
  intro _
  apply iteInduction .storedDtc
  intro _
  apply iteInduction .clearDtc
  intro _
  apply iteInduction .pendingDtc
  intro _
  apply iteInduction .vehicleInfo
  intro _
  apply iteInduction .sessionCtrl
  intro _
  apply iteInduction .ecuReset
  intro _
  apply iteInduction fun service => gate _ _ service (.clearDiagInfo service)
  intro _
  apply iteInduction .readDataById
  intro _
  apply iteInduction fun service => gate _ _ service (.readMemByAddr service)
  intro _
  apply iteInduction fun service => gate _ _ service (.readDataPeriodic service)
  intro _
  apply iteInduction fun service => gate _ _ service (.dynamicDefineDid service)
  intro _
  apply iteInduction .readDtcInformation
  intro _
  apply iteInduction .securityAccess
  intro _
  apply iteInduction fun service => gate _ _ service (.routineControl service)
  intro _
  apply iteInduction .testerPresent
  intro _
  apply iteInduction fun service => gate _ _ service (.communicationControl service)
  intro _
  apply iteInduction fun service => gate _ _ service (.controlDtcSetting service)
  intro _
  apply iteInduction fun service => gate _ _ service (.writeDataById service)
  intro _
  apply iteInduction fun service => gate _ _ service (.ioControlById service)
  intro _
  exact .unsupported

/-- The service switch changes the application in one of these ways. -/
theorem serve_change : Change s now req reqLen (serve mem s now req reqLen).1 := by
  generalize outcome : serve mem s now req reqLen = served
  have serves := serve_serves mem s now req reqLen
  rw [outcome] at serves
  cases serves with
  | clearDtc => exact .faults _
  | sessionCtrl service => exact session_control_change s now req reqLen service
  | ecuReset service => exact ecu_reset_change s now req reqLen service
  | clearDiagInfo => exact clear_dtc_change s now req reqLen
  | readDataPeriodic _ opened => exact read_periodic_change s now req reqLen opened
  | dynamicDefineDid _ opened => exact dynamic_define_change s now req reqLen opened
  | securityAccess service => exact security_access_change s now req reqLen service
  | routineControl => exact routine_control_change s now req reqLen
  | communicationControl _ opened => exact communication_control_change s now req reqLen opened
  | controlDtcSetting => exact control_dtc_setting_change s now req reqLen
  | writeDataById _ opened => exact write_data_change s now req reqLen opened
  | ioControlById _ opened => exact input_output_change s now req reqLen opened
  | _ => exact .unchanged

/-- A request the dispatcher does not admit changes nothing. -/
theorem dispatch_change (addr : AddrType) :
    (udsDispatchRequest mem s now req reqLen addr).1 = s ∨ admitted req reqLen addr = true ∧
      Change (stamped s now) now req reqLen (udsDispatchRequest mem s now req reqLen addr).1 := by
  unfold udsDispatchRequest
  split
  · exact Or.inl rfl
  · rename_i admitted
    exact Or.inr ⟨eq_true_of_ne_false admitted, serve_change mem (stamped s now) now req reqLen⟩

end Handlers

end ObdSimulator.UdsService
