import ObdSimulator.Obd2Simulator

/-!
# ReadDTCInformation

`handle_read_dtc_information` of `uds_service.c`. Every sub-function checks its
own request and reports from the fault table or the mirror memory; a request has
a buffer and a length. The cases of the source switch are separate definitions,
in its order.
-/

namespace ObdSimulator

open Bytes

/-- The severity bits that are supported. -/
def udsDtcSevAvailMask : UInt8 := 0xE2

/-- The format of the fault numbers in most reports. -/
def udsDtcFmtIso14229 : UInt8 := 0x01

/-- The format of the fault numbers in the reports on emissions. -/
def udsDtcFmtWwhObd : UInt8 := 0x04

/-- The functional group of the emissions. -/
def udsFgidEmissions : UInt8 := 0x33

/-- The functional group that stands for all. -/
def udsFgidAll : UInt8 := 0xFF

/-- The one user-defined memory. -/
def udsMemorySelection1 : UInt8 := 0x01

/-- The number of the one snapshot record. -/
def udsDtcSnapshotRecord : UInt8 := 0x01

/-- The functional unit of every fault. -/
def dtcFunctionalUnit : UInt8 := 0x01

/-- The identifier the snapshot data stand under. -/
def dtcSnapshotDid : UInt16 := 0xF500

/-- The number of the one extended record, the occurrence counter. -/
def dtcExtRecordOccurrence : UInt8 := 0x01

/-- Two bytes of a request as a word. -/
def word (hi lo : UInt8) : UInt16 := hi.toUInt16 <<< 8 ||| lo.toUInt16

/-- The two bytes of a word, high byte first. -/
def wordBytes (w : UInt16) : List UInt8 := [(w >>> 8).toUInt8, w.toUInt8]

/-- A word is read back from its bytes. -/
theorem word_word_bytes (w : UInt16) : word (w >>> 8).toUInt8 w.toUInt8 = w := by
  apply UInt16.toNat_inj.mp
  have bounded := w.toNat_lt
  have low : w.toUInt8.toNat < 2 ^ 8 := w.toUInt8.toNat_lt
  have high : ((w >>> 8).toUInt8.toUInt16 <<< 8).toNat = 2 ^ 8 * (w.toNat / 256) := by
    have shift : (8 : UInt16).toNat % 16 = 8 := rfl
    rw [UInt16.toNat_shiftLeft, UInt8.toNat_toUInt16, UInt16.toNat_toUInt8,
      UInt16.toNat_shiftRight, shift, Nat.shiftLeft_eq, Nat.shiftRight_eq_div_pow]
    omega
  rw [word, UInt16.toNat_or, high, UInt8.toNat_toUInt16, ← Nat.two_pow_add_eq_or_of_lt low,
    UInt16.toNat_toUInt8]
  exact Nat.div_add_mod w.toNat 256

/-- `dtc_put3`. -/
def dtcPut3 (code : UInt16) : List UInt8 := wordBytes code ++ [0x00]

/-- `dtc_put_snapshot`. -/
def dtcPutSnapshot (d : DtcEntry) : List UInt8 :=
  wordBytes dtcSnapshotDid ++ wordBytes d.snapshot.rpm ++ [d.snapshot.speed, d.snapshot.coolant]

/-- `dtc_mask_match`. -/
def dtcMaskMatch (d : DtcEntry) (mask : UInt8) : Bool := statusMatch (obd2DtcStatusByte d) mask

/-- `{DTC(3) status}` of an entry. -/
def dtcStatusRecord (d : DtcEntry) : List UInt8 := dtcPut3 d.code ++ [obd2DtcStatusByte d]

/-- `build_negative_response` for this service. -/
def refuseReadDtc (code : UInt8) : List UInt8 := nrc udsSidReadDtcInformation code

/-- A positive answer to a sub-function. -/
def reportDtc (sub : UInt8) (data : List UInt8) : List UInt8 :=
  (udsSidReadDtcInformation + udsResponseSidOffset) :: sub :: data

/-- The four bytes of a count. -/
def dtcCount (count : Nat) : List UInt8 :=
  [obd2DtcStatusAvailabilityMask, udsDtcFmtIso14229, 0x00, UInt8.ofNat count]

/-- 0x01, 0x11 (mirror memory) and 0x12. -/
def reportNumberByStatusMask (m : FaultManager) (sub : UInt8) (req : List UInt8) (reqLen : Nat) :
    List UInt8 :=
  if reqLen < 3 then refuseReadDtc nrcIncorrectMsgLen
  else
    let mask := byte req 2
    let count := if sub = 0x11 then obd2MirrorCountByMask m mask else obd2DtcCountByMask m mask
    reportDtc sub (dtcCount count)

/-- 0x02, 0x0F (mirror memory), 0x13 and 0x17 (user defined memory). -/
def reportByStatusMask (m : FaultManager) (sub : UInt8) (req : List UInt8) (reqLen : Nat) :
    List UInt8 :=
  let minLen := if sub = 0x17 then 4 else 3
  if reqLen < minLen then refuseReadDtc nrcIncorrectMsgLen
  else
    let mask := byte req 2
    let records := if sub = 0x0F then obd2MirrorGetByMask m obd2DtcCount mask
      else obd2DtcGetByMask m obd2DtcCount mask
    let data := obd2DtcStatusAvailabilityMask :: records.flatMap fun r => dtcPut3 r.1 ++ [r.2]
    if sub = 0x17 then
      if byte req 3 ≠ udsMemorySelection1 then refuseReadDtc nrcRequestOutOfRange
      else reportDtc sub (byte req 3 :: data)
    else reportDtc sub data

/-- 0x03: the faults with a valid snapshot. -/
def reportSnapshotIdentification (m : FaultManager) (sub : UInt8) : List UInt8 :=
  reportDtc sub ((m.table.filter (·.snapshot.valid)).flatMap fun d =>
    dtcPut3 d.code ++ [udsDtcSnapshotRecord])

/-- The entry of a DTC in a request; its third byte must be zero. -/
def requestedDtc (m : FaultManager) (req : List UInt8) : Option DtcEntry :=
  if byte req 4 = 0x00 then obd2DtcFindByCode m (word (byte req 2) (byte req 3)) else none

/-- 0x04 and 0x18 (user defined memory). -/
def reportSnapshotByDtc (m : FaultManager) (sub : UInt8) (req : List UInt8) (reqLen : Nat) :
    List UInt8 :=
  let minLen := if sub = 0x18 then 7 else 6
  let recNum := byte req 5
  if reqLen < minLen then refuseReadDtc nrcIncorrectMsgLen
  else if sub = 0x18 ∧ byte req 6 ≠ udsMemorySelection1 then refuseReadDtc nrcRequestOutOfRange
  else
    match requestedDtc m req with
    | none => refuseReadDtc nrcRequestOutOfRange
    | some d =>
      if recNum = 0x00 ∨ (recNum ≠ udsDtcSnapshotRecord ∧ recNum ≠ 0xFF) then
        refuseReadDtc nrcRequestOutOfRange
      else
        let echo := if sub = 0x18 then [byte req 6] else []
        let snapshot :=
          if d.snapshot.valid then [udsDtcSnapshotRecord, 1] ++ dtcPutSnapshot d else []
        reportDtc sub (echo ++ dtcStatusRecord d ++ snapshot)

/-- 0x05: the snapshots by their record number. -/
def reportStoredData (m : FaultManager) (sub : UInt8) (req : List UInt8) (reqLen : Nat) :
    List UInt8 :=
  if reqLen < 3 then refuseReadDtc nrcIncorrectMsgLen
  else if byte req 2 = 0x00 ∨ (byte req 2 ≠ udsDtcSnapshotRecord ∧ byte req 2 ≠ 0xFF) then
    refuseReadDtc nrcRequestOutOfRange
  else
    reportDtc sub ((m.table.filter (·.snapshot.valid)).flatMap fun d =>
      udsDtcSnapshotRecord :: (dtcStatusRecord d ++ [1] ++ dtcPutSnapshot d))

/-- 0x06, 0x10 (mirror memory) and 0x19 (user defined memory). -/
def reportExtDataByDtc (m : FaultManager) (sub : UInt8) (req : List UInt8) (reqLen : Nat) :
    List UInt8 :=
  let minLen := if sub = 0x19 then 7 else 6
  let extNum := byte req 5
  let code := word (byte req 2) (byte req 3)
  let found : Option (UInt8 × UInt8) :=
    if sub = 0x10 then
      if byte req 4 = 0x00 then (obd2MirrorFindByCode m code).map fun e => (e.status, e.occurrence)
      else none
    else (requestedDtc m req).map fun d => (obd2DtcStatusByte d, d.occurrence)
  if reqLen < minLen then refuseReadDtc nrcIncorrectMsgLen
  else if sub = 0x19 ∧ byte req 6 ≠ udsMemorySelection1 then refuseReadDtc nrcRequestOutOfRange
  else
    match found with
    | none => refuseReadDtc nrcRequestOutOfRange
    | some (status, occurrence) =>
      if extNum = 0x00 ∨ (extNum ≠ dtcExtRecordOccurrence ∧ extNum ≠ 0xFF) then
        refuseReadDtc nrcRequestOutOfRange
      else
        let echo := if sub = 0x19 then [byte req 6] else []
        let ext := if occurrence ≠ 0 then [dtcExtRecordOccurrence, occurrence] else []
        reportDtc sub (echo ++ dtcPut3 code ++ [status] ++ ext)

/-- An entry meets a severity mask and a status mask. -/
def severityMatch (severityMask statusMask : UInt8) (d : DtcEntry) : Bool :=
  (d.severity &&& severityMask &&& udsDtcSevAvailMask != 0) && dtcMaskMatch d statusMask

/-- 0x07: the count by severity and status. -/
def reportNumberBySeverityMask (m : FaultManager) (sub : UInt8) (req : List UInt8)
    (reqLen : Nat) : List UInt8 :=
  if reqLen < 4 then refuseReadDtc nrcIncorrectMsgLen
  else reportDtc sub (dtcCount (m.table.countP (severityMatch (byte req 2) (byte req 3))))

/-- 0x08: the list by severity and status. -/
def reportBySeverityMask (m : FaultManager) (sub : UInt8) (req : List UInt8) (reqLen : Nat) :
    List UInt8 :=
  if reqLen < 4 then refuseReadDtc nrcIncorrectMsgLen
  else
    reportDtc sub (obd2DtcStatusAvailabilityMask ::
      (m.table.filter (severityMatch (byte req 2) (byte req 3))).flatMap fun d =>
        d.severity :: dtcFunctionalUnit :: dtcStatusRecord d)

/-- 0x09: the severity of one fault. -/
def reportSeverityOfDtc (m : FaultManager) (sub : UInt8) (req : List UInt8) (reqLen : Nat) :
    List UInt8 :=
  if reqLen < 5 then refuseReadDtc nrcIncorrectMsgLen
  else
    match requestedDtc m req with
    | none => refuseReadDtc nrcRequestOutOfRange
    | some d =>
      reportDtc sub (obd2DtcStatusAvailabilityMask :: d.severity :: dtcFunctionalUnit ::
        dtcStatusRecord d)

/-- 0x0A and 0x15 (permanent only). -/
def reportSupported (m : FaultManager) (sub : UInt8) : List UInt8 :=
  reportDtc sub (obd2DtcStatusAvailabilityMask ::
    (m.table.filter fun d => sub == 0x0A || d.permanent).flatMap dtcStatusRecord)

/-- 0x0B to 0x0E. -/
def reportPick (m : FaultManager) (sub : UInt8) (which : DtcPick) : List UInt8 :=
  reportDtc sub (obd2DtcStatusAvailabilityMask ::
    match obd2DtcPick m which with
    | none => []
    | some d => dtcStatusRecord d)

/-- 0x14: faults detected and not yet matured. -/
def reportFaultDetectionCounter (m : FaultManager) (sub : UInt8) : List UInt8 :=
  reportDtc sub
    ((m.table.filter fun d => decide (0 < obd2DtcFdc d) && decide (obd2DtcFdc d < 127)).flatMap
      fun d => dtcPut3 d.code ++ [UInt8.ofNat (obd2DtcFdc d)])

/-- 0x16: the faults that have occurred, with their counters. -/
def reportExtDataByRecord (m : FaultManager) (sub : UInt8) (req : List UInt8) (reqLen : Nat) :
    List UInt8 :=
  if reqLen < 3 then refuseReadDtc nrcIncorrectMsgLen
  else if byte req 2 ≠ dtcExtRecordOccurrence then refuseReadDtc nrcRequestOutOfRange
  else
    reportDtc sub (byte req 2 ::
      (m.table.filter (·.occurrence != 0)).flatMap fun d => dtcStatusRecord d ++ [d.occurrence])

/-- 0x42: the emission faults by status and severity. -/
def reportWwhObdByMask (m : FaultManager) (sub : UInt8) (req : List UInt8) (reqLen : Nat) :
    List UInt8 :=
  if reqLen < 5 then refuseReadDtc nrcIncorrectMsgLen
  else if byte req 2 ≠ udsFgidEmissions ∧ byte req 2 ≠ udsFgidAll then
    refuseReadDtc nrcRequestOutOfRange
  else
    reportDtc sub ([byte req 2, obd2DtcStatusAvailabilityMask, udsDtcSevAvailMask,
        udsDtcFmtWwhObd] ++
      (m.table.filter (severityMatch (byte req 4) (byte req 3))).flatMap fun d =>
        d.severity :: dtcStatusRecord d)

/-- 0x55: the permanent emission faults. -/
def reportWwhObdPermanent (m : FaultManager) (sub : UInt8) (req : List UInt8) (reqLen : Nat) :
    List UInt8 :=
  if reqLen < 3 then refuseReadDtc nrcIncorrectMsgLen
  else if byte req 2 ≠ udsFgidEmissions ∧ byte req 2 ≠ udsFgidAll then
    refuseReadDtc nrcRequestOutOfRange
  else
    reportDtc sub ([byte req 2, obd2DtcStatusAvailabilityMask, udsDtcFmtWwhObd] ++
      (m.table.filter (·.permanent)).flatMap dtcStatusRecord)

/-- `handle_read_dtc_information`. -/
def handleReadDtcInformation (m : FaultManager) (req : List UInt8) (reqLen : Nat) : List UInt8 :=
  let sub := subFunction (byte req 1)
  if reqLen < 2 then refuseReadDtc nrcIncorrectMsgLen
  else if sub = 0x01 ∨ sub = 0x11 ∨ sub = 0x12 then reportNumberByStatusMask m sub req reqLen
  else if sub = 0x02 ∨ sub = 0x0F ∨ sub = 0x13 ∨ sub = 0x17 then
    reportByStatusMask m sub req reqLen
  else if sub = 0x03 then reportSnapshotIdentification m sub
  else if sub = 0x04 ∨ sub = 0x18 then reportSnapshotByDtc m sub req reqLen
  else if sub = 0x05 then reportStoredData m sub req reqLen
  else if sub = 0x06 ∨ sub = 0x10 ∨ sub = 0x19 then reportExtDataByDtc m sub req reqLen
  else if sub = 0x07 then reportNumberBySeverityMask m sub req reqLen
  else if sub = 0x08 then reportBySeverityMask m sub req reqLen
  else if sub = 0x09 then reportSeverityOfDtc m sub req reqLen
  else if sub = 0x0A ∨ sub = 0x15 then reportSupported m sub
  else if sub = 0x0B then reportPick m sub .firstFailed
  else if sub = 0x0C then reportPick m sub .firstConfirmed
  else if sub = 0x0D then reportPick m sub .recentFailed
  else if sub = 0x0E then reportPick m sub .recentConfirmed
  else if sub = 0x14 then reportFaultDetectionCounter m sub
  else if sub = 0x16 then reportExtDataByRecord m sub req reqLen
  else if sub = 0x42 then reportWwhObdByMask m sub req reqLen
  else if sub = 0x55 then reportWwhObdPermanent m sub req reqLen
  else refuseReadDtc nrcSubFuncNotSupported

end ObdSimulator
