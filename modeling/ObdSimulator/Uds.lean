import ObdSimulator.Lib.Bytes

/-!
# UDS services, response codes and CAN addressing

Service identifiers and negative response codes of `uds_service.h`, and the
addressing classification of `can_addressing.h`. Requests reach a dispatcher as
a buffer and a length; a response is a byte string, empty when nothing is sent.
-/

namespace ObdSimulator

open Bytes

/-! ## Service identifiers -/

/-- DiagnosticSessionControl. -/
def udsSidDiagSessionCtrl : UInt8 := 0x10

/-- ECUReset. -/
def udsSidEcuReset : UInt8 := 0x11

/-- ClearDiagnosticInformation. -/
def udsSidClearDiagInfo : UInt8 := 0x14

/-- ReadDTCInformation. -/
def udsSidReadDtcInformation : UInt8 := 0x19

/-- ReadDataByIdentifier. -/
def udsSidReadDataById : UInt8 := 0x22

/-- ReadMemoryByAddress. -/
def udsSidReadMemByAddr : UInt8 := 0x23

/-- SecurityAccess. -/
def udsSidSecurityAccess : UInt8 := 0x27

/-- CommunicationControl. -/
def udsSidCommunicationControl : UInt8 := 0x28

/-- ReadDataByPeriodicIdentifier. -/
def udsSidReadDataPeriodic : UInt8 := 0x2A

/-- DynamicallyDefineDataIdentifier. -/
def udsSidDynamicDefineDid : UInt8 := 0x2C

/-- WriteDataByIdentifier. -/
def udsSidWriteDataById : UInt8 := 0x2E

/-- InputOutputControlByIdentifier. -/
def udsSidIoControlById : UInt8 := 0x2F

/-- RoutineControl. -/
def udsSidRoutineControl : UInt8 := 0x31

/-- RequestDownload; this service and the next two are the bootloader's. -/
def udsSidRequestDownload : UInt8 := 0x34

/-- TransferData. -/
def udsSidTransferData : UInt8 := 0x36

/-- RequestTransferExit. -/
def udsSidRequestTransferExit : UInt8 := 0x37

/-- TesterPresent. -/
def udsSidTesterPresent : UInt8 := 0x3E

/-- ControlDTCSetting. -/
def udsSidControlDtcSetting : UInt8 := 0x85

/-- The OBD-II mode of current data, in the same dispatcher. -/
def udsSidObd2CurrentData : UInt8 := 0x01

/-- The OBD-II mode of stored faults. -/
def udsSidObd2StoredDtc : UInt8 := 0x03

/-- The OBD-II mode that clears the faults. -/
def udsSidObd2ClearDtc : UInt8 := 0x04

/-- The OBD-II mode of pending faults. -/
def udsSidObd2PendingDtc : UInt8 := 0x07

/-- The OBD-II mode of the vehicle's information. -/
def udsSidObd2VehicleInfo : UInt8 := 0x09

/-- What a positive response adds to the service byte. -/
def udsResponseSidOffset : UInt8 := 0x40

/-! ## Negative response codes -/

/-- The service is unknown. -/
def nrcServiceNotSupported : UInt8 := 0x11

/-- The sub-function is unknown to its service. -/
def nrcSubFuncNotSupported : UInt8 := 0x12

/-- The request is too short, or of the wrong length. -/
def nrcIncorrectMsgLen : UInt8 := 0x13

/-- The request does not fit the state of the server. -/
def nrcConditionsNotCorrect : UInt8 := 0x22

/-- An argument is out of range. -/
def nrcRequestOutOfRange : UInt8 := 0x31

/-- The server is locked. -/
def nrcSecurityAccessDenied : UInt8 := 0x33

/-- The key is wrong. -/
def nrcInvalidKey : UInt8 := 0x35

/-- The lock-out has begun. -/
def nrcExceededAttempts : UInt8 := 0x36

/-- The boot delay is not over. -/
def nrcRequiredTimeDelay : UInt8 := 0x37

/-- The block goes beyond the announced size. -/
def nrcTransferDataSuspended : UInt8 := 0x71

/-- A flash primitive failed, or the CRC is wrong. -/
def nrcGeneralProgrammingFailure : UInt8 := 0x72

/-- The block is not the next one. -/
def nrcWrongBlockSequence : UInt8 := 0x73

/-- No refusal: the answer is still to come. -/
def nrcResponsePending : UInt8 := 0x78

/-- The service needs another session. -/
def nrcServiceNotSupportedInActiveSession : UInt8 := 0x7F

/-- The sub-function of a hard reset. -/
def udsResetHard : UInt8 := 0x01

/-- The sub-function of a soft reset, which resets the device as well. -/
def udsResetSoft : UInt8 := 0x03

/-- P2 and P2* of the session response, the latter in 10 ms units. -/
def udsP2ServerMaxMs : Nat := 50

/-- The longest time an answer may take behind a pending response. -/
def udsP2StarServerMaxMs : Nat := 5000

/-- A request handed over whole; its length is a `uint16_t`. -/
abbrev Request := { bytes : List UInt8 // bytes.length < 2 ^ 16 }

/-- `[0x7F, SID, NRC]`. -/
def nrc (sid code : UInt8) : List UInt8 := [0x7F, sid, code]

/-- A response that is sent and is not a negative one. -/
def Positive (response : List UInt8) : Prop := response ≠ [] ∧ byte response 0 ≠ 0x7F

instance (response : List UInt8) : Decidable (Positive response) :=
  inferInstanceAs (Decidable (_ ∧ _))

/-- Bit 7 of a sub-function byte is not part of the sub-function. -/
def subFunction (b : UInt8) : UInt8 := b &&& 0x7F

/-- The six bytes of a positive DiagnosticSessionControl response. -/
def sessionResponse (sub : UInt8) : List UInt8 :=
  [udsSidDiagSessionCtrl + udsResponseSidOffset, sub,
    UInt8.ofNat (udsP2ServerMaxMs / 256), UInt8.ofNat udsP2ServerMaxMs,
    UInt8.ofNat (udsP2StarServerMaxMs / 10 / 256), UInt8.ofNat (udsP2StarServerMaxMs / 10)]

/-- A negative response is none. -/
theorem nrc_not_positive (sid code : UInt8) : ¬ Positive (nrc sid code) := by
  simp [Positive, nrc, byte]

/-! ## CAN addressing -/

/-- The identifier of requests to every device. -/
def canIdFunctionalReq : Nat := 0x7DF

/-- The identifier of requests to this device. -/
def canIdPhysicalReq : Nat := 0x7E0

/-- The identifier of its answers. -/
def canIdPhysicalResp : Nat := 0x7E8

/-- `AddrType_t`. -/
inductive AddrType where
  | ignore
  | physical
  | functional
deriving DecidableEq, Repr

/-- `CAN_Addr_Classify`. -/
def canAddrClassify (canId : Nat) : AddrType :=
  if canId = canIdFunctionalReq then .functional
  else if canId = canIdPhysicalReq then .physical
  else .ignore

/-- Only one identifier is physical. -/
theorem can_addr_physical_iff (canId : Nat) :
    canAddrClassify canId = .physical ↔ canId = canIdPhysicalReq := by
  unfold canAddrClassify
  have distinct : canIdPhysicalReq ≠ canIdFunctionalReq := by decide
  by_cases functional : canId = canIdFunctionalReq
  · simp [functional, distinct.symm]
  · by_cases physical : canId = canIdPhysicalReq <;> simp [functional, physical, distinct]

/-- Only one identifier is functional. -/
theorem can_addr_functional_iff (canId : Nat) :
    canAddrClassify canId = .functional ↔ canId = canIdFunctionalReq := by
  unfold canAddrClassify
  by_cases functional : canId = canIdFunctionalReq
  · simp [functional]
  · by_cases physical : canId = canIdPhysicalReq <;> simp [functional, physical]

end ObdSimulator
