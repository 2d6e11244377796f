import ObdSimulator.BufferAccess
import ObdSimulator.Transmission

/-!
# Responses and Single Frames

A Single Frame carries 62 bytes, the response buffer has 64. Every service stays within
62 bytes in every reachable state except ReadMemoryByAddress, which grants 63 bytes of
data: a granted read of its last two sizes is sent in two frames, and only when no other
transmission is under way.
-/

namespace ObdSimulator.AppMain

open UdsService NorFlash Bytes

/-- The message fits a Single Frame. -/
def Short (message : List UInt8) : Prop := message.length ≤ IsoTp.isoTpSfMaxPayload

/-- A bound on the length that is itself at most 62 is enough. -/
theorem Short.of_le {message : List UInt8} {n : Nat} (bound : message.length ≤ n)
    (small : n ≤ 62) : Short message := bound.trans small

/-- Every negative response takes three bytes. -/
theorem short_nrc (sid code : UInt8) : Short (nrc sid code) := Nat.le_of_ble_eq_true rfl

/-- Silence is short. -/
theorem short_nil : Short [] := Nat.zero_le _

/-! ## Answers of a few bytes -/

section Handlers

variable (s : App) (now : Nat) (req : List UInt8) (reqLen : Nat)

/-- The session answer is the six bytes of the timing record. -/
theorem session_control_short : Short (handleSessionControl s now req reqLen).2 := by
  fun_cases handleSessionControl <;> exact Nat.le_of_ble_eq_true rfl

/-- A reset is confirmed by two bytes. -/
theorem ecu_reset_short : Short (handleEcuReset s req reqLen).2 := by
  fun_cases handleEcuReset <;> exact Nat.le_of_ble_eq_true rfl

/-- A seed takes four bytes, a confirmation two. -/
theorem security_access_short : Short (handleSecurityAccess s now req reqLen).2 := by
  fun_cases handleSecurityAccess <;> exact Nat.le_of_ble_eq_true rfl

/-- A keep-alive is confirmed by two bytes. -/
theorem tester_present_short : Short (handleTesterPresent req reqLen) := by
  fun_cases handleTesterPresent <;> exact Nat.le_of_ble_eq_true rfl

/-- Clearing is confirmed by one byte. -/
theorem clear_dtc_short : Short (handleClearDtc s req reqLen).2 := by
  fun_cases handleClearDtc <;> exact Nat.le_of_ble_eq_true rfl

/-- A routine is confirmed by four bytes, without a result. -/
theorem routine_control_short : Short (handleRoutineControl s req reqLen).2 := by
  fun_cases handleRoutineControl <;> exact Nat.le_of_ble_eq_true rfl

/-- The confirmation repeats the control byte. -/
theorem communication_control_short : Short (handleCommunicationControl s req reqLen).2 := by
  fun_cases handleCommunicationControl <;> exact Nat.le_of_ble_eq_true rfl

/-- The confirmation repeats the sub-function. -/
theorem control_dtc_setting_short : Short (handleControlDtcSetting s req reqLen).2 := by
  fun_cases handleControlDtcSetting <;> exact Nat.le_of_ble_eq_true rfl

/-- The confirmation repeats the identifier, not the data. -/
theorem write_data_short : Short (handleWriteDataById s req reqLen).2 := by
  fun_cases handleWriteDataById <;> exact Nat.le_of_ble_eq_true rfl

/-- The answer ends with the one byte of the port. -/
theorem input_output_short : Short (handleInputOutputControl s req reqLen).2 := by
  fun_cases handleInputOutputControl <;> exact Nat.le_of_ble_eq_true rfl

/-- A definition is confirmed by four bytes whatever it holds. -/
theorem commit_dynamic_short (sub : UInt8) (did : UInt16) (recs : Except UInt8 (List DynRec)) :
    Short (commitDynamic s sub did recs).2 := by
  unfold commitDynamic
  simp only
  repeat' split
  all_goals exact Nat.le_of_ble_eq_true rfl

/-- No branch of 0x2C answers with the data it defines. -/
theorem dynamic_define_short : Short (handleDynamicDefineDid s req reqLen).2 := by
  fun_cases handleDynamicDefineDid
  all_goals first
    | exact commit_dynamic_short s _ _ _
    | exact Nat.le_of_ble_eq_true rfl

/-- The data of 0x2A goes out by the tick; the handler answers with two bytes. -/
theorem read_periodic_short : Short (handleReadDataPeriodic s req reqLen).2 := by
  unfold handleReadDataPeriodic
  simp only
  repeat' split
  all_goals exact Nat.le_of_ble_eq_true rfl

/-! ## Data of varying length -/

variable (sound : Safe.Sound s) (mem : Memory)

/-- The longest parameter of service 0x01 has four bytes behind its header. -/
theorem current_data_short : Short (handleObd2Service01 s req reqLen) := by
  unfold handleObd2Service01
  split
  · exact short_nrc _ _
  · have six := Safe.service01_fits s.sim (byte req 1)
    simp only
    split
    · exact short_nil
    · exact .of_le ((List.length_take_le _ _).trans six) (by decide)

/-- Three confirmed codes take six bytes behind the header. -/
theorem stored_dtc_short : Short (handleObd2Service03 s) := by
  refine .of_le (n := 8) ?_ (by decide)
  exact Nat.add_le_add_right (Safe.codes_fit s.faults .confirmed) 2

/-- Service 0x07 has no count byte. -/
theorem pending_dtc_short : Short (handleObd2Service07 s) := by
  refine .of_le (n := 7) ?_ (by decide)
  exact Nat.add_le_add_right (Safe.codes_fit s.faults .pending) 1

include sound in
/-- The VIN is the longest information type, and it has seventeen bytes. -/
theorem vehicle_info_short : Short (handleObd2Service09 s req reqLen) := by
  have vin := (Safe.c_string_length s.vin).trans sound.vin
  fun_cases handleObd2Service09
  · exact short_nil
  · exact Nat.le_of_ble_eq_true rfl
  · exact .of_le (Nat.add_le_add_right vin 3) (by decide)
  · exact short_nil

include sound in
/-- An identifier answers with the VIN or with at most what a dynamic slot holds. -/
theorem read_data_short : Short (handleReadDataById mem s req reqLen) := by
  have respond (did : UInt16) (data : List UInt8) (few : data.length ≤ 59) :
      Short ((udsSidReadDataById + udsResponseSidOffset) :: (wordBytes did ++ data)) :=
    Nat.add_le_add_right few 3
  unfold handleReadDataById
  simp only
  split
  · exact short_nrc _ _
  · split
    · rename_i data found
      exact respond _ _ ((Safe.registered_fits s sound _ data found).trans (by decide))
    · split
      · exact short_nrc _ _
      · rename_i slot _
        split
        · exact short_nrc _ _
        · exact respond _ _ ((Safe.assemble_fits s slot).trans (by decide))

end Handlers

/-! ## Reports of the fault memory -/

section Reports

/-- Two header bytes stand before the data of a report. -/
theorem report_short (sub : UInt8) (data : List UInt8) (few : data.length ≤ 60) :
    Short (reportDtc sub data) := Nat.add_le_add_right few 2

/-- The records of the selected entries, `k` bytes each. -/
theorem records_length (m : FaultManager) (size : m.table.length = obd2DtcCount)
    (sel : DtcEntry → Bool) (record : DtcEntry → List UInt8) (k : Nat)
    (short : ∀ d, (record d).length = k) :
    ((m.table.filter sel).flatMap record).length ≤ 3 * k := by
  have selected : (m.table.filter sel).length ≤ 3 := by
    have all := List.length_filter_le sel m.table
    rw [size] at all
    exact all
  have total : ((m.table.filter sel).flatMap record).length = (m.table.filter sel).length * k := by
    simp [List.length_flatMap, short]
  rw [total]
  exact Nat.mul_le_mul_right k selected

variable (m : FaultManager) (size : m.table.length = obd2DtcCount) (sub : UInt8)
  (req : List UInt8) (reqLen : Nat)

/-- Sub-function 0x01: a count. -/
theorem number_by_status_short : Short (reportNumberByStatusMask m sub req reqLen) := by
  fun_cases reportNumberByStatusMask <;> exact Nat.le_of_ble_eq_true rfl

/-- Sub-function 0x02: four bytes a fault. -/
theorem by_status_short : Short (reportByStatusMask m sub req reqLen) := by
  have short := Safe.by_mask_length m sub (byte req 2)
  have data (front : List UInt8) (one : front.length ≤ 1) : Short (reportDtc sub (front ++
      obd2DtcStatusAvailabilityMask :: (if sub = 0x0F then obd2MirrorGetByMask m obd2DtcCount
        (byte req 2) else obd2DtcGetByMask m obd2DtcCount (byte req 2)).flatMap
          fun r => dtcPut3 r.1 ++ [r.2])) := by
    apply report_short
    rw [List.length_append, List.length_cons, Safe.status_records_length]
    omega
  unfold reportByStatusMask
  simp only
  apply iteInduction fun _ => short_nrc _ _
  intro _
  apply iteInduction
  · intro _
    apply iteInduction fun _ => short_nrc _ _
    intro _
    exact data [byte req 3] (Nat.le_refl 1)
  · intro _
    exact data [] (Nat.zero_le 1)

/-- Sub-function 0x04: the one snapshot record of a fault. -/
theorem snapshot_by_dtc_short : Short (reportSnapshotByDtc m sub req reqLen) := by
  unfold reportSnapshotByDtc
  simp only
  repeat' split
  all_goals exact Nat.le_of_ble_eq_true rfl

/-- Sub-function 0x06: the one extended record of a fault. -/
theorem ext_data_by_dtc_short : Short (reportExtDataByDtc m sub req reqLen) := by
  unfold reportExtDataByDtc
  simp only
  repeat' split
  all_goals exact Nat.le_of_ble_eq_true rfl

/-- Sub-function 0x07: a count. -/
theorem number_by_severity_short : Short (reportNumberBySeverityMask m sub req reqLen) := by
  fun_cases reportNumberBySeverityMask <;> exact Nat.le_of_ble_eq_true rfl

/-- Sub-function 0x09: one fault with its severity. -/
theorem severity_of_dtc_short : Short (reportSeverityOfDtc m sub req reqLen) := by
  fun_cases reportSeverityOfDtc <;> exact Nat.le_of_ble_eq_true rfl

/-- Sub-functions 0x0B to 0x0E: at most one fault. -/
theorem pick_short (which : DtcPick) : Short (reportPick m sub which) := by
  unfold reportPick
  split <;> exact Nat.le_of_ble_eq_true rfl

include size

/-- Sub-function 0x03: four bytes a snapshot. -/
theorem snapshot_identification_short : Short (reportSnapshotIdentification m sub) :=
  report_short sub _ ((records_length m size _ _ 4 fun _ => rfl).trans (by decide))

/-- Sub-function 0x05: one snapshot record. -/
theorem stored_data_short : Short (reportStoredData m sub req reqLen) := by
  fun_cases reportStoredData
  · exact short_nrc _ _
  · exact short_nrc _ _
  · exact report_short sub _ ((records_length m size _ _ 12 fun _ => rfl).trans (by decide))

/-- Sub-function 0x08: six bytes a fault. -/
theorem by_severity_short : Short (reportBySeverityMask m sub req reqLen) := by
  fun_cases reportBySeverityMask
  · exact short_nrc _ _
  · have records := records_length m size (severityMatch (byte req 2) (byte req 3))
      (fun d => d.severity :: dtcFunctionalUnit :: dtcStatusRecord d) 6 fun _ => rfl
    exact report_short sub _ (Nat.add_le_add_right records 1 |>.trans (by decide))

/-- Sub-function 0x0A: the whole table, which has three entries. -/
theorem supported_short : Short (reportSupported m sub) :=
  report_short sub _
    ((Nat.add_le_add_right (records_length m size _ _ 4 fun _ => rfl) 1).trans (by decide))

/-- Sub-function 0x14: four bytes a fault. -/
theorem fault_detection_short : Short (reportFaultDetectionCounter m sub) :=
  report_short sub _ ((records_length m size _ _ 4 fun _ => rfl).trans (by decide))

/-- Sub-function 0x16: one record number over the whole table. -/
theorem ext_data_by_record_short : Short (reportExtDataByRecord m sub req reqLen) := by
  fun_cases reportExtDataByRecord
  · exact short_nrc _ _
  · exact short_nrc _ _
  · exact report_short sub _
      ((Nat.add_le_add_right (records_length m size _ _ 5 fun _ => rfl) 1).trans (by decide))

/-- Sub-function 0x42: five bytes a fault behind its header. -/
theorem wwh_obd_by_mask_short : Short (reportWwhObdByMask m sub req reqLen) := by
  fun_cases reportWwhObdByMask
  · exact short_nrc _ _
  · exact short_nrc _ _
  · exact report_short sub _
      ((Nat.add_le_add_right (records_length m size _ _ 5 fun _ => rfl) 4).trans (by decide))

/-- Sub-function 0x55: four bytes a fault behind its header. -/
theorem wwh_obd_permanent_short : Short (reportWwhObdPermanent m sub req reqLen) := by
  fun_cases reportWwhObdPermanent
  · exact short_nrc _ _
  · exact short_nrc _ _
  · exact report_short sub _
      ((Nat.add_le_add_right (records_length m size _ _ 4 fun _ => rfl) 3).trans (by decide))

/-- With three entries in the table every report of 0x19 fits one frame. -/
theorem read_dtc_short : Short (handleReadDtcInformation m req reqLen) := by
  unfold handleReadDtcInformation
  apply iteInduction fun _ => short_nrc _ _
  intro _
  apply iteInduction fun _ => number_by_status_short m _ req reqLen
  intro _
  apply iteInduction fun _ => by_status_short m _ req reqLen
  intro _
  apply iteInduction fun _ => snapshot_identification_short m size _
  intro _
  apply iteInduction fun _ => snapshot_by_dtc_short m _ req reqLen
  intro _
  apply iteInduction fun _ => stored_data_short m size _ req reqLen
  intro _
  apply iteInduction fun _ => ext_data_by_dtc_short m _ req reqLen
  intro _
  apply iteInduction fun _ => number_by_severity_short m _ req reqLen
  intro _
  apply iteInduction fun _ => by_severity_short m size _ req reqLen
  intro _
  apply iteInduction fun _ => severity_of_dtc_short m _ req reqLen
  intro _
  apply iteInduction fun _ => supported_short m size _
  intro _
  apply iteInduction fun _ => pick_short m _ _
  intro _
  apply iteInduction fun _ => pick_short m _ _
  intro _
  apply iteInduction fun _ => pick_short m _ _
  intro _
  apply iteInduction fun _ => pick_short m _ _
  intro _
  apply iteInduction fun _ => fault_detection_short m size _
  intro _
  apply iteInduction fun _ => ext_data_by_record_short m size _ req reqLen
  intro _
  apply iteInduction fun _ => wwh_obd_by_mask_short m size _ req reqLen
  intro _
  apply iteInduction fun _ => wwh_obd_permanent_short m size _ req reqLen
  intro _
  exact short_nrc _ _

end Reports

/-! ## Reads of memory -/

/-- The address and the size a ReadMemoryByAddress asks for. -/
def requestedAddress (req : List UInt8) : Nat :=
  ofBe ((req.drop 2).take (addressLength (byte req 1)))

/-- The size field behind the address, big-endian. -/
def requestedSize (req : List UInt8) : Nat :=
  ofBe ((req.drop (2 + addressLength (byte req 1))).take (sizeLength (byte req 1)))

/-- The handler grants a read, of one of the last two sizes. -/
structure LastSizes (req : List UInt8) (reqLen : Nat) : Prop where
  fields : alfidInRange (byte req 1) = true
  whole : 2 + addressLength (byte req 1) + sizeLength (byte req 1) ≤ reqLen
  size : requestedSize req = 62 ∨ requestedSize req = 63
  readable : memReadable (requestedAddress req) (requestedSize req) = true

instance (req : List UInt8) (reqLen : Nat) : Decidable (LastSizes req reqLen) :=
  decidable_of_iff (alfidInRange (byte req 1) = true ∧
    2 + addressLength (byte req 1) + sizeLength (byte req 1) ≤ reqLen ∧
    (requestedSize req = 62 ∨ requestedSize req = 63) ∧
    memReadable (requestedAddress req) (requestedSize req) = true)
    ⟨fun ⟨fields, whole, size, readable⟩ => ⟨fields, whole, size, readable⟩,
      fun last => ⟨last.fields, last.whole, last.size, last.readable⟩⟩

/-- A granted read answers with its service byte and the bytes asked for. -/
theorem read_mem_granted (mem : Memory) (req : List UInt8) (reqLen : Nat)
    (last : LastSizes req reqLen) :
    handleReadMemByAddr mem req reqLen = (udsSidReadMemByAddr + udsResponseSidOffset) ::
      readBytes mem (requestedAddress req) (requestedSize req) := by
  have limit : udsMaxResponseSize = 64 := rfl
  have present : addressLength (byte req 1) ≠ 0 ∧ sizeLength (byte req 1) ≠ 0 := by
    have fields := last.fields
    simp only [alfidInRange, Bool.and_eq_true, decide_eq_true_eq] at fields
    exact ⟨fields.1.1.1, fields.1.1.2⟩
  have whole := last.whole
  have size := last.size
  have header : ¬ reqLen < 3 := by omega
  have sized : ¬ (requestedSize req = 0 ∨ udsMaxResponseSize - 1 < requestedSize req) := by omega
  have inside : ¬ memReadable (requestedAddress req) (requestedSize req) = false := by
    rw [last.readable]
    decide
  have formed : ¬ alfidInRange (byte req 1) = false := by
    rw [last.fields]
    decide
  unfold handleReadMemByAddr
  simp only
  rw [if_neg header, if_neg formed, if_neg (Nat.not_lt.mpr whole)]
  exact (if_neg sized).trans (if_neg inside)

/-- Every other read is refused in three bytes or has at most 61 bytes of data. -/
theorem read_mem_short (mem : Memory) (req : List UInt8) (reqLen : Nat)
    (other : ¬ LastSizes req reqLen) : Short (handleReadMemByAddr mem req reqLen) := by
  have limit : udsMaxResponseSize = 64 := rfl
  unfold handleReadMemByAddr
  simp only
  apply iteInduction fun _ => short_nrc _ _
  intro _
  apply iteInduction fun _ => short_nrc _ _
  intro formed
  apply iteInduction fun _ => short_nrc _ _
  intro whole
  apply iteInduction fun _ => short_nrc _ _
  intro sized
  apply iteInduction fun _ => short_nrc _ _
  intro readable
  have few : requestedSize req ≤ 61 := by
    by_contra many
    have size : requestedSize req = 62 ∨ requestedSize req = 63 := by
      change ¬ (requestedSize req = 0 ∨ _ < requestedSize req) at sized
      omega
    exact other ⟨eq_true_of_ne_false formed, Nat.not_lt.mp whole, size,
      eq_true_of_ne_false readable⟩
  refine .of_le (n := 62) ?_ (Nat.le_refl 62)
  rw [List.length_cons, read_bytes_length]
  exact Nat.succ_le_succ few

/-! ## The dispatcher -/

/-- A read of one of the last two sizes that the access table lets through. -/
structure LongRead (s : App) (req : List UInt8) (reqLen : Nat) (addr : AddrType) : Prop where
  reaches : admitted req reqLen addr = true
  service : byte req 0 = udsSidReadMemByAddr
  opened : accessGate s udsSidReadMemByAddr = none
  last : LastSizes req reqLen

/-- ReadMemoryByAddress is the only service that can pass 62 bytes, and only when the
gate lets it through. -/
theorem serve_short (mem : Memory) (s : App) (now : Nat) (req : List UInt8) (reqLen : Nat)
    (sound : Safe.Sound s) (other : ¬ (byte req 0 = udsSidReadMemByAddr ∧
      accessGate s udsSidReadMemByAddr = none ∧ LastSizes req reqLen)) :
    Short (serve mem s now req reqLen).2 := by
  generalize outcome : serve mem s now req reqLen = served
  have serves := serve_serves mem s now req reqLen
  rw [outcome] at serves
  cases serves with
  | stopped => exact short_nrc _ _
  | unsupported => exact short_nrc _ _
  | currentData => exact current_data_short s req reqLen
  | storedDtc => exact stored_dtc_short s
  | clearDtc => exact Nat.le_of_ble_eq_true rfl
  | pendingDtc => exact pending_dtc_short s
  | vehicleInfo => exact vehicle_info_short s req reqLen sound
  | sessionCtrl => exact session_control_short s now req reqLen
  | ecuReset => exact ecu_reset_short s req reqLen
  | clearDiagInfo => exact clear_dtc_short s req reqLen
  | readDataById => exact read_data_short s req reqLen sound mem
  | readMemByAddr service opened =>
    exact read_mem_short mem req reqLen fun last => other ⟨service, opened, last⟩
  | readDataPeriodic => exact read_periodic_short s req reqLen
  | dynamicDefineDid => exact dynamic_define_short s req reqLen
  | readDtcInformation => exact read_dtc_short s.faults sound.table req reqLen
  | securityAccess => exact security_access_short s now req reqLen
  | routineControl => exact routine_control_short s req reqLen
  | testerPresent => exact tester_present_short req reqLen
  | communicationControl => exact communication_control_short s req reqLen
  | controlDtcSetting => exact control_dtc_setting_short s req reqLen
  | writeDataById => exact write_data_short s req reqLen
  | ioControlById => exact input_output_short s req reqLen

/-- What such a read answers, past the gate and the suppression, which does not apply to
it. -/
theorem long_response (mem : Memory) (s : App) (now : Nat) (req : List UInt8) (reqLen : Nat)
    (addr : AddrType) (long : LongRead s req reqLen addr) :
    (udsDispatchRequest mem s now req reqLen addr).2 =
      (udsSidReadMemByAddr + udsResponseSidOffset) ::
        readBytes mem (requestedAddress req) (requestedSize req) := by
  have plain : byte req 0 ∉ suppressibleSids := by
    rw [long.service]
    decide
  have opened : accessGate (stamped s now) udsSidReadMemByAddr = none := long.opened
  rw [dispatch_unsuppressed mem s now req reqLen addr long.reaches plain,
    serve_read_mem mem _ now req reqLen long.service, gated, opened]
  exact read_mem_granted mem req reqLen long.last

/-- The answer to a long read passes a Single Frame by one byte or two. -/
theorem long_response_length (mem : Memory) (s : App) (now : Nat) (req : List UInt8)
    (reqLen : Nat) (addr : AddrType) (long : LongRead s req reqLen addr) :
    62 < (udsDispatchRequest mem s now req reqLen addr).2.length ∧
      (udsDispatchRequest mem s now req reqLen addr).2.length ≤ 64 := by
  rw [long_response mem s now req reqLen addr long, List.length_cons, read_bytes_length]
  have size := long.last.size
  omega

/-- The response is short exactly if the request is not a granted read of one of the
last two sizes. -/
theorem dispatch_short_iff (mem : Memory) (s : App) (now : Nat) (req : List UInt8) (reqLen : Nat)
    (addr : AddrType) (sound : Safe.Sound s) :
    Short (udsDispatchRequest mem s now req reqLen addr).2 ↔ ¬ LongRead s req reqLen addr := by
  constructor
  · intro short long
    exact absurd short (Nat.not_le.mpr (long_response_length mem s now req reqLen addr long).1)
  · intro other
    cases reaches : admitted req reqLen addr with
    | false =>
      rw [dispatch_ignored mem s now req reqLen addr reaches]
      exact short_nil
    | true =>
      have served := serve_short mem (stamped s now) now req reqLen (sound.stamped now)
        fun ⟨service, opened, last⟩ => other ⟨reaches, service, opened, last⟩
      unfold udsDispatchRequest
      rw [if_neg (by simp [reaches])]
      exact iteInduction (fun _ => short_nil) fun _ => served

/-- A periodic frame is an identifier before the data of its slot. -/
theorem periodic_short (mem : Memory) (s : App) :
    ∀ message ∈ (udsPeriodicTick mem s).2, Short message := by
  intro message member
  simp only [udsPeriodicTick, List.mem_flatMap, List.mem_map] at member
  obtain ⟨_, ⟨p, _, rfl⟩, inside⟩ := member
  have data : (periodicData mem s p.pdid).length ≤ udsDynMaxData := by
    unfold periodicData
    split
    · exact Nat.zero_le _
    · exact Safe.assemble_fits s _
  simp only [periodicTickSub] at inside
  split at inside
  · cases inside
  · split at inside
    · cases inside
    · split at inside
      · cases inside
      · rw [List.mem_singleton.mp inside]
        exact .of_le (Nat.succ_le_succ data) (by decide)

/-! ## What a call sends -/

/-- The messages of a call, in order; an empty response is not sent. -/
def sent (events : List Event) : List (List UInt8) :=
  events.map fun
    | .answered _ _ response => response
    | .periodic message => message

/-- The message is at most one Single Frame, and `ISO_TP_SendResponse` sends it as one
whatever the transport is doing: it looks neither at the transmission state nor at
anything flow control has set. -/
structure OneFrame (message : List UInt8) : Prop where
  fits : message.length ≤ IsoTp.isoTpSfMaxPayload
  whole : message ≠ [] → ∀ (l : IsoTp.Link) (hal canId : Nat),
    IsoTp.isoTpSendResponse l hal canId message =
      (IsoTp.addMessageToTxFifoQ l (IsoTp.singleFrame canId message)).1

/-- Being sent as one frame is a matter of the length alone. -/
theorem one_frame_iff (message : List UInt8) : OneFrame message ↔ Short message := by
  constructor
  · exact fun one => one.fits
  · intro short
    refine ⟨short, fun filled l hal canId => ?_⟩
    have within : ¬ IsoTp.isoTpMaxMessageSize < message.length :=
      Nat.not_lt.mpr (Nat.le_trans short (by decide))
    rw [IsoTp.isoTpSendResponse, if_neg (mt List.length_eq_zero_iff.mp filled), if_neg within]
    exact if_pos short

/-- The call is a read of one of the last two sizes. -/
def ReadsLong (s : App) : Input → Prop
  | .request _ req reqLen addr => LongRead s req reqLen addr
  | _ => False

/-- A whole call sends short messages only exactly when it makes no long read; its periodic
frames are always short. -/
theorem call_short_iff (mem : Memory) (s : App) (i : Input) (sound : Safe.Sound s) :
    (∀ message ∈ sent (step mem s i).2, Short message) ↔ ¬ ReadsLong s i := by
  cases i with
  | request now req reqLen addr =>
    have response := dispatch_short_iff mem s now req reqLen addr sound
    simpa [step, sent, ReadsLong] using response
  | work now k =>
    refine ⟨fun _ reads => reads.elim, fun _ message member => ?_⟩
    have among : message ∈ (k.run mem s now).2 := by
      simpa [step, sent] using member
    cases k with
    | simulate => cases among
    | periodicTick => exact periodic_short mem s message among
    | sessionTick stamp => cases among
  | boot now ready =>
    refine ⟨fun _ reads => reads.elim, fun _ message member => ?_⟩
    cases member

/-- In every reachable state every response and every periodic frame is sent as one
Single Frame, except the response to a granted read of 62 or 63 bytes, which is not. -/
theorem responses_one_frame_iff (boot ready : Nat) (calls : List (Memory × Input)) (mem : Memory)
    (i : Input) :
    let s := Run.final (Run.opened step) (appInit boot ready) calls
    (∀ message ∈ sent (step mem s i).2, OneFrame message) ↔ ¬ ReadsLong s i := by
  intro s
  have sound : Safe.Sound s := Safe.Sound.reachable boot ready calls
  simp only [one_frame_iff]
  exact call_short_iff mem s i sound

/-! ## The transport below -/

/-- An event of a segmented transmission, or a message refused for one. -/
def Segmented : IsoTp.Event → Prop
  | .txStarted _ | .flowContinue | .flowWait | .txComplete | .txAborted _ | .rejected _ => True
  | _ => False

/-- The transmission is where it was, and nothing of the log segments. -/
structure Still (l l' : IsoTp.Link) : Prop where
  tx : l'.ctx.toTxContext = l.ctx.toTxContext
  log : IsoTp.Logs (fun e => ¬ Segmented e) l l'

/-- Nothing has happened yet. -/
theorem Still.refl (l : IsoTp.Link) : Still l l := ⟨rfl, .same _ rfl⟩

/-- Two stretches that segment nothing make one. -/
theorem Still.trans {l l' l'' : IsoTp.Link} (first : Still l l') (second : Still l' l'') :
    Still l l'' := ⟨second.tx.trans first.tx, first.log.trans second.log⟩

/-- Receiving leaves the transmission alone and logs nothing about it. -/
theorem receives_still {l l' : IsoTp.Link} (receives : IsoTp.Receives l l') : Still l l' := by
  obtain ⟨events, log, ofRx⟩ := receives.log
  refine ⟨receives.tx, events, log, fun e member segmented => ?_⟩
  have received := ofRx e member
  cases e <;> first | exact received | exact segmented

/-- A short message goes out as a Single Frame beside the transmission. -/
theorem send_still (l : IsoTp.Link) (hal canId : Nat) (message : List UInt8)
    (short : Short message) : Still l (IsoTp.isoTpSendResponse l hal canId message) := by
  by_cases empty : message = []
  · have silent : IsoTp.isoTpSendResponse l hal canId message = l := by
      rw [empty]
      rfl
    rw [silent]
    exact .refl l
  · rw [((one_frame_iff message).mpr short).whole empty l hal canId]
    rcases IsoTp.add_message_cases l (IsoTp.singleFrame canId message) with lost | queued
    · rw [lost]
      exact ⟨rfl, .one _ _ rfl id⟩
    · rw [queued]
      exact ⟨rfl, .one _ _ rfl id⟩

/-- The periodic frames of a tick, one after the other. -/
theorem send_all_still (l : IsoTp.Link) (hal : Nat) (messages : List (List UInt8))
    (short : ∀ message ∈ messages, Short message) : Still l (IsoTp.sendAll l hal messages) := by
  induction messages generalizing l with
  | nil => exact .refl l
  | cons message rest ih =>
    have here := send_still l hal canIdPhysicalResp message (short message List.mem_cons_self)
    exact here.trans (ih _ fun later member => short later (List.mem_cons_of_mem _ member))

/-- With no transmission under way a tick has nothing to continue. -/
theorem tick_still (l : IsoTp.Link) (now hal : Nat) (idle : l.ctx.txState = .idle) :
    Still l (IsoTp.isoTpTick l now hal) := by
  obtain ⟨received, ofRx, same | timedOut | paced⟩ := IsoTp.tick_cases l now hal
  · refine ⟨same.1, received, same.2, fun e member segmented => ?_⟩
    have here := ofRx e member
    cases e <;> first | exact here | exact segmented
  · exact absurd (idle.symm.trans timedOut.1) (by decide)
  · exact absurd (idle.symm.trans paced.1) (by decide)

section AnyUpper

variable {σ κ : Type*} (above : IsoTp.Upper σ κ) (w : IsoTp.World σ) (hal : Nat)

/-- A dispatch whose messages are all short segments nothing. -/
theorem dispatch_still
    (short : ∀ message ∈ (IsoTp.dispatchSends above w hal).2, Short message) :
    Still w.link (IsoTp.dispatchCompletedMessage above w hal).link := by
  have asked : Still w.link (IsoTp.dispatchAsked w) := ⟨rfl, .one _ _ rfl id⟩
  have told : Still (IsoTp.dispatchAsked w) (IsoTp.dispatchTold above w hal) :=
    send_all_still _ hal _ fun message member => short message (List.mem_append_left _ member)
  have rested : Still (IsoTp.dispatchTold above w hal) (IsoTp.dispatchRested above w hal) :=
    ⟨rfl, .same _ rfl⟩
  have answered := send_still (IsoTp.dispatchRested above w hal) hal
    (IsoTp.responseId (IsoTp.dispatchRested above w hal).ctx) _
    (short _ (List.mem_append_right _ List.mem_cons_self))
  exact ((asked.trans told).trans rested).trans answered

/-- While nothing is transmitted, a frame starts no transmission unless it completes a
message with a long answer. -/
theorem received_still (f : CanFrame) (idle : w.link.ctx.txState = .idle)
    (short : ∀ message ∈ (IsoTp.handed above w (.frame hal f)).2, Short message) :
    Still w.link (IsoTp.isoTpProcessFrame above w hal f).link := by
  by_cases sized : f.dlc = 0
  · rw [IsoTp.isoTpProcessFrame, if_pos sized]
    exact .refl w.link
  by_cases flow : byte f.data 0 &&& 0xF0 = IsoTp.isoTpPciFlowControl
  · have unseen : IsoTp.processFlowControl w.link hal f = w.link := by
      rw [IsoTp.processFlowControl, if_pos (by rw [idle]; decide)]
    rw [IsoTp.isoTpProcessFrame, if_neg sized, if_pos flow, unseen]
    exact .refl w.link
  by_cases mine : canAddrClassify f.canId = .ignore
  · rw [IsoTp.isoTpProcessFrame, if_neg sized, if_neg flow, mine]
    exact .refl w.link
  rw [IsoTp.process_frame_spec above w hal f sized flow mine]
  have addressed : Still w.link (w.link.addressed (canAddrClassify f.canId)) :=
    ⟨rfl, .same _ rfl⟩
  have received := addressed.trans (receives_still (IsoTp.receive_receives _ hal f))
  by_cases complete :
      (IsoTp.receive (w.link.addressed (canAddrClassify f.canId)) hal f).ctx.rxState = .complete
  · rw [IsoTp.dispatchIfComplete, if_pos complete]
    refine received.trans (dispatch_still above ⟨_, w.upper⟩ hal ?_)
    rwa [IsoTp.handed, if_pos ⟨sized, flow, mine, complete⟩] at short
  · rw [IsoTp.dispatch_nothing above _ hal complete]
    exact received

end AnyUpper

/-- A message too long for a Single Frame starts a segmented transmission. -/
theorem long_send_segments (l : IsoTp.Link) (hal canId : Nat) (message : List UInt8)
    (idle : l.ctx.txState = .idle) (long : IsoTp.isoTpSfMaxPayload < message.length)
    (fits : message.length ≤ IsoTp.isoTpMaxMessageSize) :
    .txStarted message ∈ (IsoTp.isoTpSendResponse l hal canId message).log := by
  have filled : message.length ≠ 0 := Nat.ne_of_gt (Nat.lt_of_le_of_lt (Nat.zero_le _) long)
  rw [IsoTp.isoTpSendResponse, if_neg filled, if_neg (Nat.not_lt.mpr fits),
    if_neg (Nat.not_le.mpr long), if_neg (not_not.mpr idle)]
  obtain ⟨events, log, _⟩ := (IsoTp.send_first_frame_transmits _ hal canId message).log
  rw [log]
  simp

/-- With the transmitter idle a granted long read starts a segmented transmission. -/
theorem dispatch_segments (w : IsoTp.World Node) (hal : Nat) (idle : w.link.ctx.txState = .idle)
    (long : LongRead w.upper.app w.link.ctx.rxBuffer w.link.ctx.rxTotalSize
      w.link.ctx.rxAddrType) :
    ∃ e ∈ (IsoTp.dispatchCompletedMessage appUpper w hal).link.log, Segmented e := by
  obtain ⟨more, most⟩ := long_response_length w.upper.mem w.upper.app hal w.link.ctx.rxBuffer
    w.link.ctx.rxTotalSize w.link.ctx.rxAddrType long
  exact ⟨.txStarted _, long_send_segments _ hal _ _ idle more (most.trans (by decide)), trivial⟩

/-- The call the transport makes is a read of one of the last two sizes. -/
def NodeReadsLong (w : IsoTp.World Node) (i : IsoTp.Input Task) : Prop :=
  ∃ call, appInput w.link i = some call ∧ ReadsLong w.upper.app call

/-- A frame segments nothing unless it completes such a read. -/
theorem frame_still (w : IsoTp.World Node) (hal : Nat) (f : CanFrame)
    (idle : w.link.ctx.txState = .idle) (sound : Safe.Sound w.upper.app)
    (other : ¬ NodeReadsLong w (.frame hal f)) :
    Still w.link (IsoTp.isoTpProcessFrame appUpper w hal f).link := by
  refine received_still appUpper w hal f idle ?_
  intro message member
  rw [IsoTp.handed] at member
  split at member
  · rename_i completes
    rw [List.mem_singleton.mp member]
    refine (dispatch_short_iff w.upper.mem w.upper.app hal _ _ _ sound).mpr fun long => ?_
    refine other ⟨.request hal _ _ _, ?_, long⟩
    rw [appInput, IsoTp.completing, if_pos completes]
    rfl
  · cases member

/-- No input of the node segments anything unless it completes a long read. -/
theorem act_still (w : IsoTp.World Node) (i : IsoTp.Input Task)
    (idle : w.link.ctx.txState = .idle) (sound : Safe.Sound w.upper.app)
    (other : ¬ NodeReadsLong w i) : Still w.link (IsoTp.act appUpper w i).link := by
  cases i with
  | frame hal f => exact frame_still w hal f idle sound other
  | work hal task =>
    cases task with
    | work k =>
      have calm : ¬ ReadsLong w.upper.app (.work hal k) := id
      have short := (call_short_iff w.upper.mem w.upper.app (.work hal k) sound).mpr calm
      have messages : ∀ message ∈ (k.run w.upper.mem w.upper.app hal).2, Short message := by
        simpa [step, sent] using short
      exact send_all_still w.link hal _ messages
    | store mem => exact .refl w.link
  | tick now hal => exact tick_still w.link now hal idle
  | registerStreamSink sink => exact ⟨rfl, .same _ rfl⟩

/-- An input that completes a long read segments its answer. -/
theorem act_segments (w : IsoTp.World Node) (i : IsoTp.Input Task)
    (idle : w.link.ctx.txState = .idle) (long : NodeReadsLong w i) :
    ∃ e ∈ (IsoTp.act appUpper w i).link.log, Segmented e := by
  obtain ⟨call, made, reads⟩ := long
  cases i with
  | frame hal f =>
    obtain ⟨c, completes, rfl⟩ := Option.map_eq_some_iff.mp made
    rw [IsoTp.completing] at completes
    split at completes
    · rename_i all
      obtain ⟨sized, flow, mine, complete⟩ := all
      cases completes
      have still := receives_still
        (IsoTp.receive_receives (w.link.addressed (canAddrClassify f.canId)) hal f)
      rw [IsoTp.act, IsoTp.process_frame_spec appUpper w hal f sized flow mine,
        IsoTp.dispatchIfComplete, if_pos complete]
      refine dispatch_segments ⟨_, w.upper⟩ hal ?_ reads
      exact (congrArg IsoTp.TxContext.txState still.tx).trans idle
    · cases completes
  | work hal task =>
    cases task with
    | work k =>
      cases made
      exact reads.elim
    | store mem => cases made
  | tick now hal => cases made
  | registerStreamSink sink => cases made

/-- A call of the idle node segments exactly when it is such a read. -/
theorem node_call_iff (w : IsoTp.World Node) (i : IsoTp.Input Task)
    (idle : w.link.ctx.txState = .idle) (sound : Safe.Sound w.upper.app) :
    (∀ e ∈ (IsoTp.step appUpper w i).2, ¬ Segmented e) ↔ ¬ NodeReadsLong w.quiet i := by
  constructor
  · intro none_segmented long
    obtain ⟨e, member, segmented⟩ := act_segments w.quiet i idle long
    exact none_segmented e member segmented
  · intro other
    obtain ⟨events, log, plain⟩ := (act_still w.quiet i idle sound other).log
    have whole : (IsoTp.step appUpper w i).2 = events := log
    rw [whole]
    exact plain

/-- The node never segments in exactly the runs without such a read; its transmission
is idle throughout them, so neither flow control nor the busy check decides anything. -/
theorem node_never_segments_iff (sink : Bool) (faults : List Bool) (boot ready : Nat)
    (mem : Memory) (inputs : List (IsoTp.Input Task)) :
    let start := IsoTp.isoTpInit sink faults (⟨appInit boot ready, mem⟩ : Node)
    Run.Along (IsoTp.step appUpper)
        (fun _ w i => ∀ e ∈ (IsoTp.step appUpper w i).2, ¬ Segmented e) [] start inputs ↔
      Run.Along (IsoTp.step appUpper)
        (fun _ w i => w.link.ctx.txState = .idle ∧ ¬ NodeReadsLong w.quiet i) [] start inputs := by
  intro start
  refine (Run.along_iff_of_invariant (IsoTp.step appUpper)
    (fun _ w i => w.link.ctx.txState = .idle ∧ ¬ NodeReadsLong w.quiet i)
    (fun _ w i => ∀ e ∈ (IsoTp.step appUpper w i).2, ¬ Segmented e)
    (fun _ w => w.link.ctx.txState = .idle ∧ Safe.Sound w.upper.app) ?_ ?_ [] start inputs
    ⟨rfl, Safe.Sound.initial boot ready⟩).symm
  · rintro past w i ⟨idle, sound⟩ ⟨_, other⟩
    have still := act_still w.quiet i idle sound other
    refine ⟨(congrArg IsoTp.TxContext.txState still.tx).trans idle, ?_⟩
    have next := act_app w.quiet i
    change Safe.Sound (IsoTp.act appUpper w.quiet i).upper.app
    rw [next]
    cases appInput w.quiet.link i with
    | none => exact sound
    | some call => exact sound.step _ call
  · rintro past w i ⟨idle, sound⟩
    have agree := node_call_iff w i idle sound
    exact ⟨fun both => agree.mpr both.2, fun plain => ⟨idle, agree.mp plain⟩⟩

/-- An unlocked tester reads 63 bytes of the flash: the response is refused while a
transmission is under way, and takes a First Frame otherwise. -/
theorem full_read_needs_two_frames :
    let unlocked := Run.final (Run.opened step) (appInit 0 0)
      ([[0x10, 0x03], [0x27, 0x01], [0x27, 0x02, 0xEF, 0x62]].map fun bytes =>
        (erasedMemory, asked bytes))
    ¬ ∀ message ∈ sent (step erasedMemory unlocked
      (asked [0x23, 0x14, 0x08, 0x00, 0x00, 0x00, 0x3F])).2, OneFrame message := by
  intro unlocked every
  have long : (0x63 :: List.replicate 63 0xFF) ∈ sent (step erasedMemory unlocked
      (asked [0x23, 0x14, 0x08, 0x00, 0x00, 0x00, 0x3F])).2 := by
    decide +kernel
  exact absurd (every _ long).fits (by decide)

end ObdSimulator.AppMain
