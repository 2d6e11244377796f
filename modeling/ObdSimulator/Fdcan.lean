import ObdSimulator.Lib.Bytes

/-!
# CAN-FD frames

The frame formats of `fdcan_config.c`: the DLC table, the rounding of a byte
count to a DLC code, and the frame the receive interrupt hands on. A received
frame has a buffer of 64 bytes of which the first `dlc` came from the bus. A
transmitted frame is a buffer of 64 bytes and a DLC code; the controller puts
the bytes the code stands for on the bus.
-/

namespace ObdSimulator

open Bytes

/-- `DLC_CODE_TO_BYTES`. -/
def dlcCodeToBytes : List Nat := [0, 1, 2, 3, 4, 5, 6, 7, 8, 12, 16, 20, 24, 32, 48, 64]

/-- `FDCAN_BytesToDlc`. -/
def fdcanBytesToDlc (bytes : Nat) : Nat :=
  if bytes ≤ 8 then bytes
  else if bytes ≤ 12 then 0x9
  else if bytes ≤ 16 then 0xA
  else if bytes ≤ 20 then 0xB
  else if bytes ≤ 24 then 0xC
  else if bytes ≤ 32 then 0xD
  else if bytes ≤ 48 then 0xE
  else 0xF

/-- Bytes on the bus for a DLC code. -/
def dlcBytes (code : Nat) : Nat := dlcCodeToBytes.getD code 0

/-- `CAN_RxMessage_t`. -/
structure CanFrame where
  canId : Nat
  data : List UInt8
  dlc : Nat
  data_length : data.length = 64
  dlc_le : dlc ≤ 64
deriving DecidableEq

/-- A frame for the transmit queue. -/
structure TxFrame where
  canId : Nat
  dlcCode : Nat
  data : List UInt8
deriving DecidableEq, Repr

/-- The bytes of a transmitted frame that travel. -/
def TxFrame.wire (f : TxFrame) : List UInt8 := f.data.take (dlcBytes f.dlcCode)

/-- No length code stands for more than 64 bytes. -/
theorem dlc_bytes_le (code : Nat) : dlcBytes code ≤ 64 := by
  have bounded : ∀ n ∈ dlcCodeToBytes, n ≤ 64 := by decide
  rw [dlcBytes, List.getD_eq_getElem?_getD]
  cases found : dlcCodeToBytes[code]? with
  | none => exact Nat.zero_le _
  | some n => exact bounded n (List.mem_of_getElem? found)

/-- Rounding up to a DLC size keeps every byte. -/
theorem le_dlc_bytes (bytes : Nat) (fits : bytes ≤ 64) :
    bytes ≤ dlcBytes (fdcanBytesToDlc bytes) := by
  have table : ∀ n ≤ 64, n ≤ dlcBytes (fdcanBytesToDlc n) := by decide
  exact table bytes fits

/-- The message the receive interrupt builds: the bytes the DLC code stands for,
over a zeroed buffer. -/
def rxFifo0Message (canId dlcCode : Nat) (rx : List UInt8) : CanFrame where
  canId := canId
  data := (List.range 64).map (fun i => if i < dlcBytes (dlcCode % 16) then byte rx i else 0)
  dlc := dlcBytes (dlcCode % 16)
  data_length := by simp
  dlc_le := dlc_bytes_le _

/-- A received frame carries a transmitted one: the length and the bytes that
travelled agree. What the buffer holds behind them is left open. -/
structure Carries (tx : TxFrame) (f : CanFrame) : Prop where
  dlc : f.dlc = dlcBytes tx.dlcCode
  data : f.data.take f.dlc = tx.wire

/-- The used bytes in front of the padding arrive. -/
theorem Carries.front {tx : TxFrame} {f : CanFrame} (carried : Carries tx f)
    (used padding : List UInt8) (data : tx.data = used ++ padding) (fits : used.length ≤ f.dlc) :
    f.data.take used.length = used := by
  calc f.data.take used.length = (f.data.take f.dlc).take used.length := by
        rw [List.take_take, Nat.min_eq_left fits]
    _ = (tx.data.take f.dlc).take used.length := by rw [carried.data, TxFrame.wire, carried.dlc]
    _ = used := by rw [List.take_take, Nat.min_eq_left fits, data, List.take_left]

/-- The receive interrupt takes over what the sender's controller put on the
bus, under any identifier. -/
theorem received_carries (canId : Nat) (tx : TxFrame) (code : tx.dlcCode < 16)
    (sized : tx.data.length = 64) : Carries tx (rxFifo0Message canId tx.dlcCode tx.data) := by
  have same : tx.dlcCode % 16 = tx.dlcCode := Nat.mod_eq_of_lt code
  have most := dlc_bytes_le tx.dlcCode
  constructor
  · simp only [rxFifo0Message, same]
  · refine List.ext_getElem ?_ ?_
    · simp only [rxFifo0Message, same, TxFrame.wire, List.length_take, List.length_map,
        List.length_range, sized]
    · intro i left right
      have inside : i < dlcBytes tx.dlcCode := by
        rw [TxFrame.wire, List.length_take] at right
        omega
      have stored : i < tx.data.length := by omega
      simp [rxFifo0Message, same, TxFrame.wire, inside, Bytes.byte, stored]

end ObdSimulator
