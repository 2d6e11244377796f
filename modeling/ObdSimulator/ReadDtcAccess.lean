import ObdSimulator.Access

/-!
# The accesses of ReadDTCInformation

`handle_read_dtc_information` again, as a program over its buffers. The first two
bytes of a positive response are written before the sub-function checks its
length, and a refusal writes over them. Each case is safe, and comes to the
response of the case before.
-/

namespace ObdSimulator.Handler

open Bytes

/-- `build_negative_response`. -/
def refuseReadDtc (code : UInt8) : Handler (List UInt8) := respond (ObdSimulator.refuseReadDtc code)

/-- A loop over the fault table that counts the selected entries. -/
def countEach (select : DtcEntry → Handler Bool) : List DtcEntry → Handler Nat
  | [] => pure 0
  | d :: rest => do
    let hit ← select d
    let count ← countEach select rest
    pure (if hit then count + 1 else count)

/-- A loop over the fault table that writes a record for each selected entry. -/
def emitEach (select : DtcEntry → Handler Bool) (record : DtcEntry → List UInt8) :
    List UInt8 → List DtcEntry → Handler (List UInt8)
  | out, [] => pure out
  | out, d :: rest => do
    let hit ← select d
    if hit then do
      let out ← emit out (record d)
      emitEach select record out rest
    else emitEach select record out rest

/-- The condition of the loops of 0x07, 0x08 and 0x42; the status mask is read for
entries of the severity only. -/
def severitySelect (severityIndex statusIndex : Nat) (d : DtcEntry) : Handler Bool := do
  let severityMask ← reqByte severityIndex
  if d.severity &&& severityMask &&& udsDtcSevAvailMask ≠ 0 then do
    let statusMask ← reqByte statusIndex
    pure (dtcMaskMatch d statusMask)
  else pure false

/-- The entry of a DTC in a request; its code is read only if its third byte is zero. -/
def requestedDtc (m : FaultManager) : Handler (Option DtcEntry) := do
  let failureType ← reqByte 4
  if failureType = 0x00 then do
    let code ← reqWord 2
    pure (obd2DtcFindByCode m code)
  else pure none

section Cases

variable (m : FaultManager) (sub : UInt8) (out : List UInt8) (reqLen : Nat)

/-- 0x01, 0x11 and 0x12. -/
def reportNumberByStatusMask : Handler (List UInt8) :=
  if reqLen < 3 then refuseReadDtc nrcIncorrectMsgLen
  else do
    let mask ← reqByte 2
    let count := if sub = 0x11 then obd2MirrorCountByMask m mask else obd2DtcCountByMask m mask
    emit out (dtcCount count)

/-- 0x02, 0x0F, 0x13 and 0x17; the memory selection is echoed before the records. -/
def reportByStatusMask : Handler (List UInt8) :=
  let minLen := if sub = 0x17 then 4 else 3
  let records mask := if sub = 0x0F then obd2MirrorGetByMask m obd2DtcCount mask
    else obd2DtcGetByMask m obd2DtcCount mask
  let data mask := obd2DtcStatusAvailabilityMask ::
    (records mask).flatMap fun r => dtcPut3 r.1 ++ [r.2]
  if reqLen < minLen then refuseReadDtc nrcIncorrectMsgLen
  else do
    let mask ← reqByte 2
    if sub = 0x17 then do
      let selection ← reqByte 3
      if selection ≠ udsMemorySelection1 then refuseReadDtc nrcRequestOutOfRange
      else emit out (selection :: data mask)
    else emit out (data mask)

/-- 0x03 reads nothing behind the sub-function. -/
def reportSnapshotIdentification : Handler (List UInt8) :=
  emitEach (fun d => pure d.snapshot.valid) (fun d => dtcPut3 d.code ++ [udsDtcSnapshotRecord])
    out m.table

/-- The memory selection of 0x18 and 0x19; the other sub-functions have none. -/
def memorySelection (selects : Prop) [Decidable selects] : Handler UInt8 :=
  if selects then reqByte 6 else pure 0

/-- 0x04 and 0x18. -/
def reportSnapshotByDtc : Handler (List UInt8) :=
  let minLen := if sub = 0x18 then 7 else 6
  if reqLen < minLen then refuseReadDtc nrcIncorrectMsgLen
  else do
    let selection ← memorySelection (sub = 0x18)
    if sub = 0x18 ∧ selection ≠ udsMemorySelection1 then refuseReadDtc nrcRequestOutOfRange
    else do
      let recNum ← reqByte 5
      let found ← requestedDtc m
      match found with
      | none => refuseReadDtc nrcRequestOutOfRange
      | some d =>
        if recNum = 0x00 ∨ (recNum ≠ udsDtcSnapshotRecord ∧ recNum ≠ 0xFF) then
          refuseReadDtc nrcRequestOutOfRange
        else
          let echo := if sub = 0x18 then [selection] else []
          let snapshot :=
            if d.snapshot.valid then [udsDtcSnapshotRecord, 1] ++ dtcPutSnapshot d else []
          emit out (echo ++ dtcStatusRecord d ++ snapshot)

/-- 0x05 reads the record number behind its length check. -/
def reportStoredData : Handler (List UInt8) :=
  if reqLen < 3 then refuseReadDtc nrcIncorrectMsgLen
  else do
    let recNum ← reqByte 2
    if recNum = 0x00 ∨ (recNum ≠ udsDtcSnapshotRecord ∧ recNum ≠ 0xFF) then
      refuseReadDtc nrcRequestOutOfRange
    else
      emitEach (fun d => pure d.snapshot.valid)
        (fun d => udsDtcSnapshotRecord :: (dtcStatusRecord d ++ [1] ++ dtcPutSnapshot d))
        out m.table

/-- The status and the occurrences of the DTC of 0x06, 0x10 and 0x19. -/
def requestedStatus (code : UInt16) : Handler (Option (UInt8 × UInt8)) := do
  let failureType ← reqByte 4
  if sub = 0x10 then
    pure (if failureType = 0x00 then
      (obd2MirrorFindByCode m code).map fun e => (e.status, e.occurrence) else none)
  else
    pure (if failureType = 0x00 then
      (obd2DtcFindByCode m code).map fun d => (obd2DtcStatusByte d, d.occurrence) else none)

/-- 0x06, 0x10 and 0x19. -/
def reportExtDataByDtc : Handler (List UInt8) :=
  let minLen := if sub = 0x19 then 7 else 6
  if reqLen < minLen then refuseReadDtc nrcIncorrectMsgLen
  else do
    let extNum ← reqByte 5
    let selection ← memorySelection (sub = 0x19)
    if sub = 0x19 ∧ selection ≠ udsMemorySelection1 then refuseReadDtc nrcRequestOutOfRange
    else do
      let code ← reqWord 2
      let found ← requestedStatus m sub code
      match found with
      | none => refuseReadDtc nrcRequestOutOfRange
      | some (status, occurrence) =>
        if extNum = 0x00 ∨ (extNum ≠ dtcExtRecordOccurrence ∧ extNum ≠ 0xFF) then
          refuseReadDtc nrcRequestOutOfRange
        else
          let echo := if sub = 0x19 then [selection] else []
          let ext := if occurrence ≠ 0 then [dtcExtRecordOccurrence, occurrence] else []
          emit out (echo ++ dtcPut3 code ++ [status] ++ ext)

/-- 0x07 reads both masks behind its length check. -/
def reportNumberBySeverityMask : Handler (List UInt8) :=
  if reqLen < 4 then refuseReadDtc nrcIncorrectMsgLen
  else do
    let count ← countEach (severitySelect 2 3) m.table
    emit out (dtcCount count)

/-- 0x08 reads both masks behind its length check. -/
def reportBySeverityMask : Handler (List UInt8) :=
  if reqLen < 4 then refuseReadDtc nrcIncorrectMsgLen
  else do
    let out ← emit out [obd2DtcStatusAvailabilityMask]
    emitEach (severitySelect 2 3)
      (fun d => d.severity :: dtcFunctionalUnit :: dtcStatusRecord d) out m.table

/-- 0x09 reads the code behind its length check. -/
def reportSeverityOfDtc : Handler (List UInt8) :=
  if reqLen < 5 then refuseReadDtc nrcIncorrectMsgLen
  else do
    let found ← requestedDtc m
    match found with
    | none => refuseReadDtc nrcRequestOutOfRange
    | some d =>
      emit out (obd2DtcStatusAvailabilityMask :: d.severity :: dtcFunctionalUnit ::
        dtcStatusRecord d)

/-- 0x0A and 0x15. -/
def reportSupported : Handler (List UInt8) := do
  let out ← emit out [obd2DtcStatusAvailabilityMask]
  emitEach (fun d => pure (sub == 0x0A || d.permanent)) dtcStatusRecord out m.table

/-- 0x0B to 0x0E. -/
def reportPick (which : DtcPick) : Handler (List UInt8) :=
  emit out (obd2DtcStatusAvailabilityMask ::
    match obd2DtcPick m which with
    | none => []
    | some d => dtcStatusRecord d)

/-- 0x14 reads nothing behind the sub-function. -/
def reportFaultDetectionCounter : Handler (List UInt8) :=
  emitEach (fun d => pure (decide (0 < obd2DtcFdc d) && decide (obd2DtcFdc d < 127)))
    (fun d => dtcPut3 d.code ++ [UInt8.ofNat (obd2DtcFdc d)]) out m.table

/-- 0x16 reads the record number behind its length check. -/
def reportExtDataByRecord : Handler (List UInt8) :=
  if reqLen < 3 then refuseReadDtc nrcIncorrectMsgLen
  else do
    let recNum ← reqByte 2
    if recNum ≠ dtcExtRecordOccurrence then refuseReadDtc nrcRequestOutOfRange
    else do
      let out ← emit out [recNum]
      emitEach (fun d => pure (d.occurrence != 0)) (fun d => dtcStatusRecord d ++ [d.occurrence])
        out m.table

/-- 0x42 reads the group and both masks behind its length check. -/
def reportWwhObdByMask : Handler (List UInt8) :=
  if reqLen < 5 then refuseReadDtc nrcIncorrectMsgLen
  else do
    let group ← reqByte 2
    if group ≠ udsFgidEmissions ∧ group ≠ udsFgidAll then refuseReadDtc nrcRequestOutOfRange
    else do
      let out ← emit out [group, obd2DtcStatusAvailabilityMask, udsDtcSevAvailMask,
        udsDtcFmtWwhObd]
      emitEach (severitySelect 4 3) (fun d => d.severity :: dtcStatusRecord d) out m.table

/-- 0x55 reads the group behind its length check. -/
def reportWwhObdPermanent : Handler (List UInt8) :=
  if reqLen < 3 then refuseReadDtc nrcIncorrectMsgLen
  else do
    let group ← reqByte 2
    if group ≠ udsFgidEmissions ∧ group ≠ udsFgidAll then refuseReadDtc nrcRequestOutOfRange
    else do
      let out ← emit out [group, obd2DtcStatusAvailabilityMask, udsDtcFmtWwhObd]
      emitEach (fun d => pure d.permanent) dtcStatusRecord out m.table

end Cases

/-- `handle_read_dtc_information`. -/
def handleReadDtcInformation (m : FaultManager) (reqLen : Nat) : Handler (List UInt8) :=
  if reqLen < 2 then refuseReadDtc nrcIncorrectMsgLen
  else do
    let subByte ← reqByte 1
    let sub := subFunction subByte
    let out ← respond [udsSidReadDtcInformation + udsResponseSidOffset, sub]
    if sub = 0x01 ∨ sub = 0x11 ∨ sub = 0x12 then reportNumberByStatusMask m sub out reqLen
    else if sub = 0x02 ∨ sub = 0x0F ∨ sub = 0x13 ∨ sub = 0x17 then
      reportByStatusMask m sub out reqLen
    else if sub = 0x03 then reportSnapshotIdentification m out
    else if sub = 0x04 ∨ sub = 0x18 then reportSnapshotByDtc m sub out reqLen
    else if sub = 0x05 then reportStoredData m out reqLen
    else if sub = 0x06 ∨ sub = 0x10 ∨ sub = 0x19 then reportExtDataByDtc m sub out reqLen
    else if sub = 0x07 then reportNumberBySeverityMask m out reqLen
    else if sub = 0x08 then reportBySeverityMask m out reqLen
    else if sub = 0x09 then reportSeverityOfDtc m out reqLen
    else if sub = 0x0A ∨ sub = 0x15 then reportSupported m sub out
    else if sub = 0x0B then reportPick m out .firstFailed
    else if sub = 0x0C then reportPick m out .firstConfirmed
    else if sub = 0x0D then reportPick m out .recentFailed
    else if sub = 0x0E then reportPick m out .recentConfirmed
    else if sub = 0x14 then reportFaultDetectionCounter m out
    else if sub = 0x16 then reportExtDataByRecord m out reqLen
    else if sub = 0x42 then reportWwhObdByMask m out reqLen
    else if sub = 0x55 then reportWwhObdPermanent m out reqLen
    else refuseReadDtc nrcSubFuncNotSupported

end ObdSimulator.Handler

/-! ## Each case is safe -/

namespace ObdSimulator.Safe

open Bytes NorFlash UdsService

variable {mem : Memory} {req : List UInt8} {reqLen : Nat}

/-- A refusal writes over the two header bytes. -/
theorem refuseReadDtc (code : UInt8) :
    Reports mem req reqLen (Handler.refuseReadDtc code) (ObdSimulator.refuseReadDtc code) :=
  respond (Nat.le_of_ble_eq_true rfl)

/-- A loop counts what its condition selects. -/
theorem countEach {select : DtcEntry → Handler Bool} {sel : DtcEntry → Bool} (table : List DtcEntry)
    (selects : ∀ d, Safe mem req reqLen (select d) (sel d)) :
    Safe mem req reqLen (Handler.countEach select table) (table.countP sel) := by
  induction table with
  | nil => exact .done _
  | cons d rest ih =>
    rw [Handler.countEach, List.countP_cons]
    apply (selects d).bind
    apply ih.bind
    cases sel d <;> exact .done _

/-- A loop writes the records of what its condition selects. -/
theorem emitEach {select : DtcEntry → Handler Bool} {sel : DtcEntry → Bool}
    {record : DtcEntry → List UInt8} (k : Nat) (table : List DtcEntry) (out : List UInt8)
    (selects : ∀ d, Safe mem req reqLen (select d) (sel d)) (short : ∀ d, (record d).length = k)
    (fits : out.length + k * table.length ≤ udsMaxResponseSize) :
    Reports mem req reqLen (Handler.emitEach select record out table)
      (out ++ (table.filter sel).flatMap record) := by
  induction table generalizing out with
  | nil =>
    rw [List.filter_nil, List.flatMap_nil, List.append_nil]
    exact .give (Nat.le_of_add_right_le fits)
  | cons d rest ih =>
    rw [List.length_cons, Nat.mul_succ] at fits
    have here := short d
    rw [Handler.emitEach]
    apply (selects d).bind
    cases taken : sel d with
    | false =>
      rw [List.filter_cons_of_neg (by simp [taken])]
      exact ih out (by omega)
    | true =>
      rw [List.filter_cons_of_pos taken, List.flatMap_cons, ← List.append_assoc]
      apply (emit (by omega)).bind
      exact ih _ (by rw [List.length_append]; omega)

/-- A loop over the whole table, whose records have `k` bytes. -/
theorem emitTable {select : DtcEntry → Handler Bool} {sel : DtcEntry → Bool}
    {record : DtcEntry → List UInt8} (k : Nat) {m : FaultManager} {out : List UInt8}
    (size : m.table.length = obd2DtcCount) (selects : ∀ d, Safe mem req reqLen (select d) (sel d))
    (short : ∀ d, (record d).length = k)
    (fits : out.length + k * obd2DtcCount ≤ udsMaxResponseSize) :
    Reports mem req reqLen (Handler.emitEach select record out m.table)
      (out ++ (m.table.filter sel).flatMap record) :=
  emitEach k m.table out selects short (by rw [size]; exact fits)

/-- The condition reads both masks inside the request. -/
theorem severitySelect {i j : Nat} (severity : i < reqLen) (status : j < reqLen) (d : DtcEntry) :
    Safe mem req reqLen (Handler.severitySelect i j d)
      (severityMatch (byte req i) (byte req j) d) := by
  apply (reqByte severity).bind
  have split : severityMatch (byte req i) (byte req j) d =
      if d.severity &&& byte req i &&& udsDtcSevAvailMask ≠ 0 then dtcMaskMatch d (byte req j)
      else false := by
    unfold severityMatch
    by_cases none_there : d.severity &&& byte req i &&& udsDtcSevAvailMask = 0 <;>
      simp [none_there]
  rw [split]
  apply Program.Meets.ite
  · intro _
    apply (reqByte status).bind
    exact .done _
  · intro _
    exact .done _

/-- The code lies inside a request of five bytes. -/
theorem requestedDtc {m : FaultManager} (long : 5 ≤ reqLen) :
    Safe mem req reqLen (Handler.requestedDtc m) (ObdSimulator.requestedDtc m req) := by
  apply (reqByte (by omega)).bind
  apply Program.Meets.ite
  · intro _
    apply (reqWord (by omega)).bind
    exact .done _
  · intro _
    exact .done _

section Cases

variable (m : FaultManager) (sub : UInt8) (size : m.table.length = obd2DtcCount)

/-- The first two bytes of a positive response. -/
def started (sub : UInt8) : List UInt8 := [udsSidReadDtcInformation + udsResponseSidOffset, sub]

/-- The counts by status stay inside both buffers. -/
theorem reportNumberByStatusMask :
    Reports mem req reqLen (Handler.reportNumberByStatusMask m sub (started sub) reqLen)
      (ObdSimulator.reportNumberByStatusMask m sub req reqLen) := by
  apply Program.Meets.ite (fun _ => refuseReadDtc _)
  intro long
  apply (reqByte (by omega)).bind
  exact emit (Nat.le_of_ble_eq_true rfl)

/-- A sub-function that names its memory has one byte more. -/
theorem minimal_length {selects : Prop} [Decidable selects] {n : Nat}
    (long : ¬ reqLen < if selects then n + 1 else n) :
    n ≤ reqLen ∧ (selects → n + 1 ≤ reqLen) := by
  split at long
  · omega
  · rename_i other
    exact ⟨by omega, fun selected => absurd selected other⟩

/-- A record of a fault and its status takes four bytes. -/
theorem status_records_length (records : List (UInt16 × UInt8)) :
    (records.flatMap fun r => dtcPut3 r.1 ++ [r.2]).length = 4 * records.length := by
  induction records with
  | nil => rfl
  | cons r rest ih =>
    have here : (dtcPut3 r.1 ++ [r.2]).length = 4 := rfl
    rw [List.flatMap_cons, List.length_append, here, ih, List.length_cons]
    omega

/-- Either memory returns at most as many records as it is asked for. -/
theorem by_mask_length (mask : UInt8) :
    (if sub = 0x0F then obd2MirrorGetByMask m obd2DtcCount mask
      else obd2DtcGetByMask m obd2DtcCount mask).length ≤ 3 := by
  split
  · simp only [obd2MirrorGetByMask, List.length_map, List.length_take]
    exact Nat.min_le_left _ _
  · simp only [obd2DtcGetByMask, List.length_map, List.length_take]
    exact Nat.min_le_left _ _

/-- The lists by status stay inside both buffers. -/
theorem reportByStatusMask :
    Reports mem req reqLen (Handler.reportByStatusMask m sub (started sub) reqLen)
      (ObdSimulator.reportByStatusMask m sub req reqLen) := by
  have header : (started sub).length = 2 := rfl
  have limit : udsMaxResponseSize = 64 := rfl
  apply Program.Meets.ite (fun _ => refuseReadDtc _)
  intro long
  have minimal := minimal_length long
  apply (reqByte (by omega)).bind
  have short := by_mask_length m sub (byte req 2)
  apply Program.Meets.ite
  · intro selects
    have inside := minimal.2 selects
    apply (reqByte (by omega)).bind
    apply Program.Meets.ite (fun _ => refuseReadDtc _)
    intro _
    apply emit
    simp only [List.length_cons, status_records_length]
    omega
  · intro _
    apply emit
    simp only [List.length_cons, status_records_length]
    omega

/-- The counts by severity read both masks inside the request. -/
theorem reportNumberBySeverityMask :
    Reports mem req reqLen (Handler.reportNumberBySeverityMask m (started sub) reqLen)
      (ObdSimulator.reportNumberBySeverityMask m sub req reqLen) := by
  apply Program.Meets.ite (fun _ => refuseReadDtc _)
  intro long
  apply (countEach m.table (severitySelect (by omega) (by omega))).bind
  exact emit (Nat.le_of_ble_eq_true rfl)

/-- The memory selection is read only of requests that have it. -/
theorem memorySelection {selects : Prop} [Decidable selects] (long : selects → 7 ≤ reqLen) :
    Safe mem req reqLen (Handler.memorySelection selects)
      (if selects then byte req 6 else 0) := by
  apply Program.Meets.ite
  · intro selected
    have inside := long selected
    exact reqByte (by omega)
  · intro _
    exact .done _

/-- The check of the memory selection, on the byte itself. -/
theorem selection_iff (selects : Prop) [Decidable selects] :
    (selects ∧ (if selects then byte req 6 else 0) ≠ udsMemorySelection1) ↔
      (selects ∧ byte req 6 ≠ udsMemorySelection1) :=
  and_congr_right fun selected => by rw [if_pos selected]

/-- The memory selection is written back only in answers to requests that have it. -/
theorem selection_echo (selects : Prop) [Decidable selects] :
    (if selects then [if selects then byte req 6 else 0] else []) =
      if selects then [byte req 6] else [] := by
  split <;> rfl

/-- A snapshot with its header fits the response. -/
theorem reportSnapshotByDtc :
    Reports mem req reqLen (Handler.reportSnapshotByDtc m sub (started sub) reqLen)
      (ObdSimulator.reportSnapshotByDtc m sub req reqLen) := by
  apply Program.Meets.ite (fun _ => refuseReadDtc _)
  intro long
  have minimal := minimal_length long
  apply (memorySelection minimal.2).bind
  apply Program.Meets.ite_iff (selection_iff _) (fun _ => refuseReadDtc _)
  intro _
  apply (reqByte (by omega)).bind
  apply (requestedDtc (by omega)).bind
  cases ObdSimulator.requestedDtc m req with
  | none => exact refuseReadDtc _
  | some d =>
    apply Program.Meets.ite (fun _ => refuseReadDtc _)
    intro _
    rw [selection_echo]
    apply emit
    split <;> split <;> exact Nat.le_of_ble_eq_true rfl

/-- The mirror is searched by the code, the table by the whole number. -/
theorem requestedStatus {code : UInt16} (coded : code = word (byte req 2) (byte req 3))
    (long : 5 ≤ reqLen) :
    Safe mem req reqLen (Handler.requestedStatus m sub code)
      (if sub = 0x10 then
        if byte req 4 = 0x00 then
          (obd2MirrorFindByCode m code).map fun e => (e.status, e.occurrence)
        else none
      else (ObdSimulator.requestedDtc m req).map fun d => (obd2DtcStatusByte d, d.occurrence)) := by
  have found :
      (ObdSimulator.requestedDtc m req).map (fun d => (obd2DtcStatusByte d, d.occurrence)) =
      if byte req 4 = 0x00 then
        (obd2DtcFindByCode m code).map fun d => (obd2DtcStatusByte d, d.occurrence)
      else none := by
    rw [ObdSimulator.requestedDtc, coded]
    split <;> rfl
  rw [found]
  apply (reqByte (by omega)).bind
  apply Program.Meets.ite
  · intro _
    exact .done _
  · intro _
    exact .done _

/-- The extended data of one fault stay inside both buffers. -/
theorem reportExtDataByDtc :
    Reports mem req reqLen (Handler.reportExtDataByDtc m sub (started sub) reqLen)
      (ObdSimulator.reportExtDataByDtc m sub req reqLen) := by
  apply Program.Meets.ite (fun _ => refuseReadDtc _)
  intro long
  have minimal := minimal_length long
  apply (reqByte (by omega)).bind
  apply (memorySelection minimal.2).bind
  apply Program.Meets.ite_iff (selection_iff _) (fun _ => refuseReadDtc _)
  intro _
  apply (reqWord (by omega)).bind
  apply (requestedStatus m sub rfl (by omega)).bind
  generalize (if sub = 0x10 then _ else _ : Option (UInt8 × UInt8)) = found
  cases found with
  | none => exact refuseReadDtc _
  | some entry =>
    apply Program.Meets.ite (fun _ => refuseReadDtc _)
    intro _
    rw [selection_echo]
    apply emit
    split <;> split <;> exact Nat.le_of_ble_eq_true rfl

/-- The severity of one fault stays inside both buffers. -/
theorem reportSeverityOfDtc :
    Reports mem req reqLen (Handler.reportSeverityOfDtc m (started sub) reqLen)
      (ObdSimulator.reportSeverityOfDtc m sub req reqLen) := by
  apply Program.Meets.ite (fun _ => refuseReadDtc _)
  intro long
  apply (requestedDtc (by omega)).bind
  cases ObdSimulator.requestedDtc m req with
  | none => exact refuseReadDtc _
  | some d => exact emit (Nat.le_of_ble_eq_true rfl)

/-- A picked fault fits the response. -/
theorem reportPick (which : DtcPick) :
    Reports mem req reqLen (Handler.reportPick m (started sub) which)
      (ObdSimulator.reportPick m sub which) := by
  unfold Handler.reportPick ObdSimulator.reportPick
  cases obd2DtcPick m which with
  | none => exact emit (Nat.le_of_ble_eq_true rfl)
  | some d => exact emit (Nat.le_of_ble_eq_true rfl)

include size

/-- The identification of all snapshots fits the response. -/
theorem reportSnapshotIdentification :
    Reports mem req reqLen (Handler.reportSnapshotIdentification m (started sub))
      (ObdSimulator.reportSnapshotIdentification m sub) :=
  emitTable 4 size (fun _ => .done _) (fun _ => rfl)
    (Nat.le_of_ble_eq_true rfl)

/-- The stored data of all faults fit the response. -/
theorem reportStoredData :
    Reports mem req reqLen (Handler.reportStoredData m (started sub) reqLen)
      (ObdSimulator.reportStoredData m sub req reqLen) := by
  apply Program.Meets.ite (fun _ => refuseReadDtc _)
  intro long
  apply (reqByte (by omega)).bind
  apply Program.Meets.ite (fun _ => refuseReadDtc _)
  intro _
  exact emitTable 12 size (fun _ => .done _) (fun _ => rfl)
    (Nat.le_of_ble_eq_true rfl)

/-- The list by severity stays inside both buffers. -/
theorem reportBySeverityMask :
    Reports mem req reqLen (Handler.reportBySeverityMask m (started sub) reqLen)
      (ObdSimulator.reportBySeverityMask m sub req reqLen) := by
  apply Program.Meets.ite (fun _ => refuseReadDtc _)
  intro long
  apply (emit (Nat.le_of_ble_eq_true rfl)).bind
  exact emitTable 6 size (severitySelect (by omega) (by omega)) (fun _ => rfl)
    (Nat.le_of_ble_eq_true rfl)

/-- The supported faults fit the response. -/
theorem reportSupported :
    Reports mem req reqLen (Handler.reportSupported m sub (started sub))
      (ObdSimulator.reportSupported m sub) := by
  apply (emit (Nat.le_of_ble_eq_true rfl)).bind
  exact emitTable 4 size (fun _ => .done _) (fun _ => rfl)
    (Nat.le_of_ble_eq_true rfl)

/-- The detection counters fit the response. -/
theorem reportFaultDetectionCounter :
    Reports mem req reqLen (Handler.reportFaultDetectionCounter m (started sub))
      (ObdSimulator.reportFaultDetectionCounter m sub) :=
  emitTable 4 size (fun _ => .done _) (fun _ => rfl)
    (Nat.le_of_ble_eq_true rfl)

/-- The extended data of one record number stay inside both buffers. -/
theorem reportExtDataByRecord :
    Reports mem req reqLen (Handler.reportExtDataByRecord m (started sub) reqLen)
      (ObdSimulator.reportExtDataByRecord m sub req reqLen) := by
  apply Program.Meets.ite (fun _ => refuseReadDtc _)
  intro long
  apply (reqByte (by omega)).bind
  apply Program.Meets.ite (fun _ => refuseReadDtc _)
  intro _
  apply (emit (Nat.le_of_ble_eq_true rfl)).bind
  exact emitTable 5 size (fun _ => .done _) (fun _ => rfl)
    (Nat.le_of_ble_eq_true rfl)

/-- The list of the emissions group stays inside both buffers. -/
theorem reportWwhObdByMask :
    Reports mem req reqLen (Handler.reportWwhObdByMask m (started sub) reqLen)
      (ObdSimulator.reportWwhObdByMask m sub req reqLen) := by
  apply Program.Meets.ite (fun _ => refuseReadDtc _)
  intro long
  apply (reqByte (by omega)).bind
  apply Program.Meets.ite (fun _ => refuseReadDtc _)
  intro _
  apply (emit (Nat.le_of_ble_eq_true rfl)).bind
  exact emitTable 5 size (severitySelect (by omega) (by omega)) (fun _ => rfl)
    (Nat.le_of_ble_eq_true rfl)

/-- The permanent faults of the emissions group stay inside both buffers. -/
theorem reportWwhObdPermanent :
    Reports mem req reqLen (Handler.reportWwhObdPermanent m (started sub) reqLen)
      (ObdSimulator.reportWwhObdPermanent m sub req reqLen) := by
  apply Program.Meets.ite (fun _ => refuseReadDtc _)
  intro long
  apply (reqByte (by omega)).bind
  apply Program.Meets.ite (fun _ => refuseReadDtc _)
  intro _
  apply (emit (Nat.le_of_ble_eq_true rfl)).bind
  exact emitTable 4 size (fun _ => .done _) (fun _ => rfl)
    (Nat.le_of_ble_eq_true rfl)

/-- The switch, case by case in its order. -/
theorem handleReadDtcInformation :
    Reports mem req reqLen (Handler.handleReadDtcInformation m reqLen)
      (ObdSimulator.handleReadDtcInformation m req reqLen) := by
  apply Program.Meets.ite (fun _ => refuseReadDtc _)
  intro long
  apply (reqByte (by omega)).bind
  apply (respond (Nat.le_of_ble_eq_true rfl)).bind
  apply Program.Meets.ite (fun _ => reportNumberByStatusMask m _)
  intro _
  apply Program.Meets.ite (fun _ => reportByStatusMask m _)
  intro _
  apply Program.Meets.ite (fun _ => reportSnapshotIdentification m _ size)
  intro _
  apply Program.Meets.ite (fun _ => reportSnapshotByDtc m _)
  intro _
  apply Program.Meets.ite (fun _ => reportStoredData m _ size)
  intro _
  apply Program.Meets.ite (fun _ => reportExtDataByDtc m _)
  intro _
  apply Program.Meets.ite (fun _ => reportNumberBySeverityMask m _)
  intro _
  apply Program.Meets.ite (fun _ => reportBySeverityMask m _ size)
  intro _
  apply Program.Meets.ite (fun _ => reportSeverityOfDtc m _)
  intro _
  apply Program.Meets.ite (fun _ => reportSupported m _ size)
  intro _
  apply Program.Meets.ite (fun _ => reportPick m _ .firstFailed)
  intro _
  apply Program.Meets.ite (fun _ => reportPick m _ .firstConfirmed)
  intro _
  apply Program.Meets.ite (fun _ => reportPick m _ .recentFailed)
  intro _
  apply Program.Meets.ite (fun _ => reportPick m _ .recentConfirmed)
  intro _
  apply Program.Meets.ite (fun _ => reportFaultDetectionCounter m _ size)
  intro _
  apply Program.Meets.ite (fun _ => reportExtDataByRecord m _ size)
  intro _
  apply Program.Meets.ite (fun _ => reportWwhObdByMask m _ size)
  intro _
  apply Program.Meets.ite (fun _ => reportWwhObdPermanent m _ size)
  intro _
  exact refuseReadDtc _

end Cases

end ObdSimulator.Safe
