import ObdSimulator.Uds

/-!
# The simulated engine and its fault memory

`obd2_simulator.c`: three values that ramp up and down, the Mode 01 answers read
from them, and the fault manager. A fault that persists is first pending, then
confirmed; clearing archives what is confirmed in the mirror memory. The static
variables of the fault manager are one record, and a table loop of the source is
a recursion over the list of its entries.
-/

namespace ObdSimulator

open Bytes

/-! ## Simulated values -/

/-- The lowest engine speed. -/
def rpmIdle : UInt16 := 800

/-- The highest engine speed. -/
def rpmMax : UInt16 := 4000

/-- The change of the engine speed in one update. -/
def rpmRampStep : UInt16 := 10

/-- The lowest coolant temperature. -/
def coolantTempMin : UInt8 := 80

/-- The highest coolant temperature. -/
def coolantTempMax : UInt8 := 105

/-- The change of the coolant temperature in one update. -/
def coolantTempStep : UInt8 := 1

/-- The lowest vehicle speed. -/
def vehicleSpeedMin : UInt8 := 0

/-- The highest vehicle speed. -/
def vehicleSpeedMax : UInt8 := 120

/-- The change of the vehicle speed in one update. -/
def vehicleSpeedStep : UInt8 := 1

/-- `OBD2_SimState_t`, with the initial values of `main`. Direction zero rises. -/
structure SimState where
  engineRpm : UInt16 := rpmIdle
  coolantTemp : UInt8 := coolantTempMin
  vehicleSpeed : UInt8 := 0
  rpmDirection : UInt8 := 0
  tempDirection : UInt8 := 0
  speedDirection : UInt8 := 0
deriving DecidableEq, Repr

/-- The engine speed moves in 16 bits and turns at either extreme. -/
def rampRpm (s : SimState) : SimState :=
  if s.rpmDirection = 0 then
    let rpm := s.engineRpm + rpmRampStep
    if rpmMax ≤ rpm then { s with engineRpm := rpmMax, rpmDirection := 1 }
    else { s with engineRpm := rpm }
  else
    let rpm :=
      if rpmIdle < s.engineRpm then
        if s.engineRpm < rpmIdle + rpmRampStep then rpmIdle else s.engineRpm - rpmRampStep
      else s.engineRpm
    if rpm ≤ rpmIdle then { s with engineRpm := rpmIdle, rpmDirection := 0 }
    else { s with engineRpm := rpm }

/-- The coolant temperature moves in 8 bits. -/
def rampCoolant (s : SimState) : SimState :=
  if s.tempDirection = 0 then
    let temp := s.coolantTemp + coolantTempStep
    if coolantTempMax ≤ temp then { s with coolantTemp := coolantTempMax, tempDirection := 1 }
    else { s with coolantTemp := temp }
  else
    let temp :=
      if coolantTempMin < s.coolantTemp then
        if s.coolantTemp < coolantTempMin + coolantTempStep then coolantTempMin
        else s.coolantTemp - coolantTempStep
      else s.coolantTemp
    if temp ≤ coolantTempMin then { s with coolantTemp := coolantTempMin, tempDirection := 0 }
    else { s with coolantTemp := temp }

/-- The speed falls without the clamp of the other two. -/
def rampSpeed (s : SimState) : SimState :=
  if s.speedDirection = 0 then
    let speed := s.vehicleSpeed + vehicleSpeedStep
    if vehicleSpeedMax ≤ speed then { s with vehicleSpeed := vehicleSpeedMax, speedDirection := 1 }
    else { s with vehicleSpeed := speed }
  else
    let speed :=
      if vehicleSpeedMin < s.vehicleSpeed then s.vehicleSpeed - vehicleSpeedStep
      else s.vehicleSpeed
    if speed ≤ vehicleSpeedMin then { s with vehicleSpeed := vehicleSpeedMin, speedDirection := 0 }
    else { s with vehicleSpeed := speed }

/-- `OBD2_UpdateSimValues`. -/
def obd2UpdateSimValues (s : SimState) : SimState := rampSpeed (rampCoolant (rampRpm s))

/-! ## Mode 01 -/

/-- The mode of current data. -/
def obd2ModeCurrentData : UInt8 := 0x01

/-- What a response adds to the mode. -/
def obd2ModeResponsePrefix : UInt8 := 0x40

/-- The parameter that lists the supported ones. -/
def obd2PidSupportedPids : UInt8 := 0x00

/-- The parameter of the coolant temperature. -/
def obd2PidCoolantTemp : UInt8 := 0x05

/-- The parameter of the engine speed. -/
def obd2PidEngineRpm : UInt8 := 0x0C

/-- The parameter of the vehicle speed. -/
def obd2PidVehicleSpeed : UInt8 := 0x0D

/-- The buffer of eight bytes `pTxData` and the returned length, which is also
the first byte of the buffer. -/
def obd2Frame (pid : UInt8) (data : List UInt8) (len : Nat) : List UInt8 × Nat :=
  let used := UInt8.ofNat len :: (obd2ModeResponsePrefix + obd2ModeCurrentData) :: pid :: data
  (used ++ List.replicate (8 - used.length) 0, len)

/-- `OBD2_GetSupportedPIDs`: the eight bytes of the frame, and how many of them count. -/
def obd2GetSupportedPids : List UInt8 × Nat :=
  obd2Frame obd2PidSupportedPids [0x10, 0x18] 6

/-- `OBD2_GetCoolantTemp`: the temperature with its offset. -/
def obd2GetCoolantTemp (temp : UInt8) : List UInt8 × Nat :=
  obd2Frame obd2PidCoolantTemp [temp + 40] 3

/-- `OBD2_GetEngineRPM`: the speed in quarters, in two bytes. -/
def obd2GetEngineRpm (rpm : UInt16) : List UInt8 × Nat :=
  let rawValue := rpm.toNat * 4
  obd2Frame obd2PidEngineRpm [UInt8.ofNat (rawValue / 256), UInt8.ofNat rawValue] 4

/-- `OBD2_GetVehicleSpeed`. -/
def obd2GetVehicleSpeed (speed : UInt8) : List UInt8 × Nat :=
  obd2Frame obd2PidVehicleSpeed [speed] 3

/-- `OBD2_HandleService01`; length zero is an unsupported PID. -/
def obd2HandleService01 (s : SimState) (pid : UInt8) : List UInt8 × Nat :=
  if pid = obd2PidSupportedPids then obd2GetSupportedPids
  else if pid = obd2PidCoolantTemp then obd2GetCoolantTemp s.coolantTemp
  else if pid = obd2PidEngineRpm then obd2GetEngineRpm s.engineRpm
  else if pid = obd2PidVehicleSpeed then obd2GetVehicleSpeed s.vehicleSpeed
  else (List.replicate 8 0, 0)

/-! ## The fault table -/

/-- `OBD2_DTC_COUNT`. -/
def obd2DtcCount : Nat := 3

/-- Detections in a row up to a promotion to PENDING. -/
def obd2DtcDebounceThresh : UInt8 := 5

/-- Detections in PENDING up to CONFIRMED. -/
def obd2DtcConfirmHold : UInt8 := 50

/-- P0217, the engine too hot. -/
def dtcEngineOvertemp : UInt16 := 0x0217

/-- P0500, the speed sensor. -/
def dtcVssMalfunction : UInt16 := 0x0500

/-- P0128, the engine too cold. -/
def dtcCoolantThermostat : UInt16 := 0x0128

/-- The severity of P0217. -/
def dtcSeverityOvertemp : UInt8 := 0x82

/-- The severity of P0500. -/
def dtcSeverityVss : UInt8 := 0x42

/-- The severity of P0128. -/
def dtcSeverityThermostat : UInt8 := 0x22

/-- `DtcState_t`. -/
inductive DtcState where
  | inactive
  | pending
  | confirmed
deriving DecidableEq, Repr

/-- A freeze frame. -/
structure DtcSnapshot where
  valid : Bool := false
  rpm : UInt16 := 0
  speed : UInt8 := 0
  coolant : UInt8 := 0
deriving DecidableEq, Repr

/-- `DtcEntry_t`. -/
structure DtcEntry where
  code : UInt16
  state : DtcState := .inactive
  debounce : UInt8 := 0
  hold : UInt8 := 0
  severity : UInt8
  failSeq : UInt16 := 0
  occurrence : UInt8 := 0
  permanent : Bool := false
  snapshot : DtcSnapshot := {}
deriving DecidableEq, Repr

/-- `DtcMirrorEntry_t`. -/
structure DtcMirrorEntry where
  code : UInt16 := 0
  status : UInt8 := 0
  occurrence : UInt8 := 0
deriving DecidableEq, Repr

/-- The initial value of `g_dtc_table`. -/
def dtcTable : List DtcEntry :=
  [{ code := dtcEngineOvertemp, severity := dtcSeverityOvertemp },
   { code := dtcVssMalfunction, severity := dtcSeverityVss },
   { code := dtcCoolantThermostat, severity := dtcSeverityThermostat }]

/-- `g_dtc_table`, `g_dtc_mirror`, `s_fail_seq_counter` and `s_dtc_setting_on`. -/
structure FaultManager where
  table : List DtcEntry := dtcTable
  mirror : List DtcMirrorEntry := List.replicate obd2DtcCount {}
  failSeqCounter : UInt16 := 0
  settingOn : Bool := true
deriving DecidableEq, Repr

/-- `OBD2_DtcSettingControl`. -/
def obd2DtcSettingControl (m : FaultManager) (on : Bool) : FaultManager :=
  { m with settingOn := on }

/-- The fault condition of a monitored code. -/
def dtcCondition (st : SimState) (code : UInt16) : Bool :=
  if code = dtcEngineOvertemp then decide (coolantTempMax ≤ st.coolantTemp)
  else if code = dtcVssMalfunction then
    st.vehicleSpeed == vehicleSpeedMin && decide (2500 < st.engineRpm)
  else if code = dtcCoolantThermostat then decide (st.coolantTemp ≤ coolantTempMin)
  else false

/-- The values of a freeze frame taken now. -/
def captureSnapshot (st : SimState) : DtcSnapshot :=
  ⟨true, st.engineRpm, st.vehicleSpeed, st.coolantTemp⟩

/-- The order counter stays at its maximum. -/
def nextFailSeq (counter : UInt16) : UInt16 := if counter < 0xFFFF then counter + 1 else counter

/-- Counters of a byte stay at their maximum. -/
def saturate (n : UInt8) : UInt8 := if n < 0xFF then n + 1 else n

/-- The promotion to pending, with order, occurrence and freeze frame. -/
def promote (st : SimState) (counter : UInt16) (d : DtcEntry) : UInt16 × DtcEntry :=
  if d.state = .inactive ∧ obd2DtcDebounceThresh ≤ d.debounce then
    (nextFailSeq counter,
      { d with state := .pending, hold := 0, failSeq := nextFailSeq counter,
               occurrence := saturate d.occurrence, snapshot := captureSnapshot st })
  else (counter, d)

/-- A pending fault counts up and is confirmed. -/
def holdPending (d : DtcEntry) : DtcEntry :=
  if d.state = .pending then
    let d := { d with hold := saturate d.hold }
    if obd2DtcConfirmHold ≤ d.hold then { d with state := .confirmed, permanent := true } else d
  else d

/-- The body of the table loop of `OBD2_DtcUpdate`. -/
def dtcUpdateEntry (st : SimState) (counter : UInt16) (d : DtcEntry) : UInt16 × DtcEntry :=
  if dtcCondition st d.code then
    let (counter, d) := promote st counter { d with debounce := saturate d.debounce }
    (counter, holdPending d)
  else
    let d := { d with debounce := 0 }
    (counter, if d.state = .pending then { d with state := .inactive, hold := 0 } else d)

/-- The table loop, with the order counter it threads through. -/
def dtcUpdateTable (st : SimState) : UInt16 → List DtcEntry → UInt16 × List DtcEntry
  | counter, [] => (counter, [])
  | counter, d :: rest =>
    let (counter, d) := dtcUpdateEntry st counter d
    let (counter, rest) := dtcUpdateTable st counter rest
    (counter, d :: rest)

/-- `OBD2_DtcUpdate`; DTC setting off freezes it. -/
def obd2DtcUpdate (m : FaultManager) (st : SimState) : FaultManager :=
  if m.settingOn = false then m
  else
    let (failSeqCounter, table) := dtcUpdateTable st m.failSeqCounter m.table
    { m with table, failSeqCounter }

/-- The codes of at most `maxPairs` entries in a state, in table order. -/
def dtcGetInState (m : FaultManager) (state : DtcState) (maxPairs : Nat) : List UInt16 :=
  ((m.table.filter (·.state == state)).take maxPairs).map (·.code)

/-- `OBD2_DtcGetConfirmed`, in the order of the table. -/
def obd2DtcGetConfirmed (m : FaultManager) (maxPairs : Nat) : List UInt16 :=
  dtcGetInState m .confirmed maxPairs

/-- `OBD2_DtcGetPending`. -/
def obd2DtcGetPending (m : FaultManager) (maxPairs : Nat) : List UInt16 :=
  dtcGetInState m .pending maxPairs

/-- `OBD2_DtcInjectDemo`: the first entry becomes confirmed. -/
def obd2DtcInjectDemo (m : FaultManager) (st : SimState) : FaultManager :=
  let failSeqCounter := nextFailSeq m.failSeqCounter
  let inject (d : DtcEntry) : DtcEntry :=
    { d with failSeq := failSeqCounter, occurrence := 1, state := .confirmed, permanent := true,
             debounce := 1, hold := 0, snapshot := captureSnapshot st }
  { m with failSeqCounter, table := m.table.modify 0 inject }

/-- `OBD2_DtcStatusByte`: test failed, failed this cycle and since the last
clear, confirmed with the warning indicator. -/
def obd2DtcStatusByte (d : DtcEntry) : UInt8 :=
  (if 0 < d.debounce then 0x01 else 0) ||| (if d.failSeq ≠ 0 then 0x26 else 0) |||
    (if d.state = .confirmed then 0x08 ||| 0x80 else 0)

/-- The mirror keeps the last status of a slot that is not overwritten; code zero
marks it empty. -/
def archive (d : DtcEntry) (mirror : DtcMirrorEntry) : DtcMirrorEntry :=
  if d.state = .confirmed then ⟨d.code, obd2DtcStatusByte d, d.occurrence⟩
  else { mirror with code := 0 }

/-- What clearing does to an entry: everything but its code and severity is reset, and the
snapshot is only marked invalid. -/
def clearEntry (d : DtcEntry) : DtcEntry :=
  { d with state := .inactive, debounce := 0, hold := 0, failSeq := 0, occurrence := 0,
           permanent := false, snapshot := { d.snapshot with valid := false } }

/-- `OBD2_DtcClear`. -/
def obd2DtcClear (m : FaultManager) : FaultManager :=
  { m with mirror := List.zipWith archive m.table m.mirror, table := m.table.map clearEntry,
           failSeqCounter := 0 }

/-! ## What ReadDTCInformation asks for -/

/-- All eight status bits are said to be supported. -/
def obd2DtcStatusAvailabilityMask : UInt8 := 0xFF

/-- `OBD2_DtcFdc`: 127 once matured, then 25 for each detection before it. -/
def obd2DtcFdc (d : DtcEntry) : Nat :=
  if d.state = .pending ∨ d.state = .confirmed then 127
  else if d.debounce < obd2DtcDebounceThresh then d.debounce.toNat * 25
  else 0

/-- A status byte shares a supported bit with the mask. -/
def statusMatch (status mask : UInt8) : Bool :=
  status &&& mask &&& obd2DtcStatusAvailabilityMask != 0

/-- `OBD2_DtcCountByMask`. -/
def obd2DtcCountByMask (m : FaultManager) (mask : UInt8) : Nat :=
  m.table.countP fun d => statusMatch (obd2DtcStatusByte d) mask

/-- Code and status of at most `maxRecords` matching entries. -/
def obd2DtcGetByMask (m : FaultManager) (maxRecords : Nat) (mask : UInt8) :
    List (UInt16 × UInt8) :=
  ((m.table.filter fun d => statusMatch (obd2DtcStatusByte d) mask).take maxRecords).map
    fun d => (d.code, obd2DtcStatusByte d)

/-- `OBD2_DtcFindByCode`. -/
def obd2DtcFindByCode (m : FaultManager) (code : UInt16) : Option DtcEntry :=
  m.table.find? (·.code == code)

/-- What `OBD2_DtcPick` looks for: the first or most recent, failed or confirmed. -/
inductive DtcPick where
  | firstFailed
  | recentFailed
  | firstConfirmed
  | recentConfirmed
deriving DecidableEq, Repr

/-- The entries a pick chooses among. -/
def DtcPick.candidate (which : DtcPick) (d : DtcEntry) : Bool :=
  match which with
  | .firstFailed | .recentFailed => d.failSeq != 0
  | .firstConfirmed | .recentConfirmed => d.state == .confirmed && d.failSeq != 0

/-- The candidate `d` replaces the best one so far. -/
def DtcPick.better (which : DtcPick) (d best : DtcEntry) : Bool :=
  match which with
  | .firstFailed | .firstConfirmed => decide (d.failSeq < best.failSeq)
  | .recentFailed | .recentConfirmed => decide (best.failSeq < d.failSeq)

/-- `OBD2_DtcPick`. -/
def obd2DtcPick (m : FaultManager) (which : DtcPick) : Option DtcEntry :=
  m.table.foldl (fun best d =>
    if which.candidate d = false then best
    else
      match best with
      | none => some d
      | some b => if which.better d b then some d else best) none

/-- An archived entry whose status matches the mask. -/
def mirrorMatch (mask : UInt8) (e : DtcMirrorEntry) : Bool :=
  e.code != 0 && statusMatch e.status mask

/-- `OBD2_MirrorCountByMask`. -/
def obd2MirrorCountByMask (m : FaultManager) (mask : UInt8) : Nat :=
  m.mirror.countP (mirrorMatch mask)

/-- `OBD2_MirrorGetByMask`. -/
def obd2MirrorGetByMask (m : FaultManager) (maxRecords : Nat) (mask : UInt8) :
    List (UInt16 × UInt8) :=
  ((m.mirror.filter (mirrorMatch mask)).take maxRecords).map fun e => (e.code, e.status)

/-- `OBD2_MirrorFindByCode`; an empty slot has code zero. -/
def obd2MirrorFindByCode (m : FaultManager) (code : UInt16) : Option DtcMirrorEntry :=
  m.mirror.find? (·.code == code)

end ObdSimulator
