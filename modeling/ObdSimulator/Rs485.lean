import Mathlib.Data.List.Forall2
import ObdSimulator.Fdcan
import ObdSimulator.Lib.Framing

/-!
# The RS485 link

`rs485.c` and the RS485 task of `main.c`. A CAN frame is forwarded as identifier,
length and data without any delimiter; the receive interrupt collects bytes until
the length byte says the frame is complete, and the task turns it back into a CAN
frame.

The interrupt is a receiver of a framed stream: what it has collected is the
front of its buffer. Every forwarded frame delimits itself, so a stream of them
comes back as the same frames.
-/

namespace ObdSimulator

open Bytes Framing

/-- `RS485_MAX_DATA_LEN`: identifier, length byte and payload. -/
def rs485MaxDataLen : Nat := 67

/-- `RS485_RxMessage_t`, with the bytes of the array that are in use. -/
structure Rs485RxMessage where
  data : List UInt8
  len : Nat
  data_length : data.length = len
deriving DecidableEq

/-- `s_rx_buf` and `s_rx_len`. -/
structure Rs485Receiver where
  buf : List UInt8
  len : Nat
  buf_length : buf.length = rs485MaxDataLen

/-- The bytes `RS485_ForwardCANMessage` sends. -/
def rs485ForwardCanMessage (canId : Nat) (data : List UInt8) (dlc : Nat) : List UInt8 :=
  UInt8.ofNat (canId / 256) :: UInt8.ofNat canId :: UInt8.ofNat dlc :: data.take (min dlc 64)

/-- `RS485_RestartReceive` drops the partial frame. -/
def rs485RestartReceive (s : Rs485Receiver) : Rs485Receiver := { s with len := 0 }

/-- The received byte, unless the buffer is full. -/
def Rs485Receiver.store (s : Rs485Receiver) (b : UInt8) : Rs485Receiver :=
  if s.len < rs485MaxDataLen then
    { buf := s.buf.set s.len b, len := s.len + 1, buf_length := by simp [s.buf_length] }
  else s

/-- The first bytes of the buffer as a message. -/
def Rs485Receiver.message (s : Rs485Receiver) (dlc : Nat) (bounded : dlc ≤ 64) :
    Rs485RxMessage where
  data := s.buf.take (3 + dlc)
  len := 3 + dlc
  data_length := by
    rw [List.length_take, s.buf_length, rs485MaxDataLen]
    omega

/-- The check of the length byte: a complete frame is delivered, an impossible
length drops the partial frame. -/
def Rs485Receiver.deliver (s : Rs485Receiver) : Rs485Receiver × List Rs485RxMessage :=
  if 3 ≤ s.len then
    if bounded : (byte s.buf 2).toNat ≤ 64 then
      if 3 + (byte s.buf 2).toNat ≤ s.len then
        (rs485RestartReceive s, [s.message (byte s.buf 2).toNat bounded])
      else (s, [])
    else (rs485RestartReceive s, [])
  else (s, [])

/-- `HAL_UART_RxCpltCallback`, with the messages it puts into the queue. -/
def halUartRxCpltCallback (s : Rs485Receiver) (b : UInt8) :
    Rs485Receiver × List Rs485RxMessage :=
  (s.store b).deliver

/-- The frame `vRS485Task` transmits for a message, padded with `0xCC`. -/
def vRs485Task (m : Rs485RxMessage) : Option TxFrame :=
  let dlc := (byte m.data 2).toNat
  if 3 ≤ m.len ∧ dlc ≤ 64 ∧ 3 + dlc ≤ m.len then
    some {
      canId := (byte m.data 0).toNat * 256 + (byte m.data 1).toNat
      dlcCode := fdcanBytesToDlc dlc
      data := (m.data.drop 3).take dlc ++ List.replicate (64 - dlc) 0xCC }
  else none

/-! ## The receiver of a framed stream -/

/-- What the third byte says about the bytes collected so far. -/
def rs485Progress (front : List UInt8) : Progress :=
  let dlc := (byte front 2).toNat
  if front.length < 3 then .more
  else if 64 < dlc then .broken
  else if 3 + dlc ≤ front.length then .done
  else .more

/-- A message goes on until its header and its payload are there. -/
theorem rs485_progress_more (front : List UInt8) :
    rs485Progress front = .more ↔ front.length < 3 ∨
      (byte front 2).toNat ≤ 64 ∧ front.length < 3 + (byte front 2).toNat := by
  unfold rs485Progress
  simp only
  split_ifs <;> simp <;> omega

/-- The receiver holds the collected bytes, which end no frame yet, at the front
of its buffer. -/
structure Collects (s : Rs485Receiver) (front : List UInt8) : Prop where
  len : s.len = front.length
  held : s.buf.take front.length = front
  partly : rs485Progress front = .more

/-- A fresh receiver has collected nothing. -/
theorem collects_nothing (s : Rs485Receiver) (fresh : s.len = 0) : Collects s [] where
  len := fresh
  held := rfl
  partly := rfl

/-- What has ended no frame leaves room for a byte, which extends it. -/
theorem Collects.store {s : Rs485Receiver} {front : List UInt8} (collects : Collects s front)
    (b : UInt8) :
    (s.store b).len = front.length + 1 ∧
      (s.store b).buf.take (front.length + 1) = front ++ [b] := by
  have room : front.length < rs485MaxDataLen := by
    rcases (rs485_progress_more front).mp collects.partly with short | ⟨bounded, short⟩
    · exact Nat.lt_trans short (by decide)
    · exact Nat.lt_of_lt_of_le short (Nat.add_le_add_left bounded 3)
  have inside : front.length < s.buf.length := by rw [s.buf_length]; exact room
  have free : s.len < rs485MaxDataLen := by rw [collects.len]; exact room
  unfold Rs485Receiver.store
  rw [if_pos free]
  simp only [collects.len, true_and]
  rw [List.take_succ_eq_append_getElem (by simpa using inside),
    List.take_set_of_le (Nat.le_refl _), collects.held]
  simp

/-- A collected byte stands at its place in the buffer. -/
theorem collected_byte (buf front : List UInt8) (i : Nat)
    (collected : buf.take front.length = front)
    (inside : i < front.length) : byte buf i = byte front i := by
  calc byte buf i = byte (buf.take front.length) i := (byte_take buf front.length i inside).symm
    _ = byte front i := by rw [collected]

/-- One byte, in the receiver and in the stream. -/
theorem callback_simulates (s : Rs485Receiver) (front : List UInt8) (b : UInt8)
    (collects : Collects s front) :
    (halUartRxCpltCallback s b).2.map (·.data) = (Framing.step rs485Progress front b).2 ∧
      Collects (halUartRxCpltCallback s b).1 (Framing.step rs485Progress front b).1 := by
  obtain ⟨len, stored⟩ := collects.store b
  have size : (front ++ [b]).length = front.length + 1 := by simp
  have third (behind : 3 ≤ front.length) : byte (front ++ [b]) 2 = byte front 2 := by
    have inside : 2 < front.length := behind
    simp [byte, List.getElem?_append_left inside]
  rw [← size] at len stored
  unfold halUartRxCpltCallback Framing.step
  generalize s.store b = s' at len stored
  unfold Rs485Receiver.deliver
  rw [len]
  by_cases header : 3 ≤ (front ++ [b]).length
  · have same := collected_byte s'.buf (front ++ [b]) 2 stored header
    rw [if_pos header]
    by_cases bounded : (byte s'.buf 2).toNat ≤ 64
    · by_cases complete : 3 + (byte s'.buf 2).toNat ≤ (front ++ [b]).length
      · have done : rs485Progress (front ++ [b]) = .done := by
          rw [same] at bounded complete
          simp only [rs485Progress, Nat.not_lt.mpr header, Nat.not_lt.mpr bounded, complete,
            if_false, if_true]
        -- the front before had not ended, so the frame has just been filled
        have filled : 3 + (byte s'.buf 2).toNat = (front ++ [b]).length := by
          rcases (rs485_progress_more front).mp collects.partly with short | ⟨_, short⟩
          · omega
          · by_cases first : front.length < 3
            · omega
            · rw [same, third (Nat.not_lt.mp first)] at complete ⊢
              omega
        rw [dif_pos bounded, if_pos complete]
        simp only [done, List.map_cons, List.map_nil, Rs485Receiver.message, filled, stored,
          true_and]
        exact collects_nothing (rs485RestartReceive s') rfl
      · have more : rs485Progress (front ++ [b]) = .more := by
          rw [same] at bounded complete
          simp only [rs485Progress, Nat.not_lt.mpr header, Nat.not_lt.mpr bounded, complete,
            if_false]
        rw [dif_pos bounded, if_neg complete]
        simp only [more, List.map_nil, true_and]
        exact ⟨len, stored, more⟩
    · have broken : rs485Progress (front ++ [b]) = .broken := by
        rw [same] at bounded
        simp only [rs485Progress, Nat.not_lt.mpr header, Nat.not_le.mp bounded, if_false, if_true]
      rw [dif_neg bounded]
      simp only [broken, List.map_nil, true_and]
      exact collects_nothing (rs485RestartReceive s') rfl
  · have more : rs485Progress (front ++ [b]) = .more := by
      simp only [rs485Progress, Nat.not_le.mp header, if_true]
    rw [if_neg header]
    simp only [more, List.map_nil, true_and]
    exact ⟨len, stored, more⟩

/-- The receiver cuts any byte stream as its length bytes say. -/
theorem receiver_frames (s : Rs485Receiver) (fresh : s.len = 0) (bytes : List UInt8) :
    (Run.trace halUartRxCpltCallback s bytes).map (·.data) =
      Run.trace (Framing.step rs485Progress) [] bytes :=
  Run.trace_simulated halUartRxCpltCallback (Framing.step rs485Progress) (·.data) Collects
    callback_simulates s [] bytes (collects_nothing s fresh)

/-! ## Forwarded frames -/

/-- A frame the controller can send: an 11-bit identifier and a DLC length. -/
def CanFrame.Sendable (f : CanFrame) : Prop := f.canId < 2 ^ 11 ∧ f.dlc ∈ dlcCodeToBytes

/-- What a frame becomes on the link. -/
def CanFrame.forwarded (f : CanFrame) : List UInt8 :=
  rs485ForwardCanMessage f.canId f.data f.dlc

/-- A forwarded frame takes three bytes more than its payload. -/
theorem forwarded_length (f : CanFrame) : f.forwarded.length = 3 + f.dlc := by
  have bounded := f.dlc_le
  simp [CanFrame.forwarded, rs485ForwardCanMessage, f.data_length]
  omega

/-- The third byte of a forwarded frame is the length of its payload. -/
theorem forwarded_dlc (f : CanFrame) : (byte f.forwarded 2).toNat = f.dlc := by
  have bounded := f.dlc_le
  simp [CanFrame.forwarded, rs485ForwardCanMessage, byte]
  omega

/-- The length byte of a forwarded frame ends it and nothing before. -/
theorem forwarded_delimited (f : CanFrame) : Delimited rs485Progress f.forwarded where
  whole := by
    have bounded := f.dlc_le
    have length := forwarded_length f
    have dlc := forwarded_dlc f
    simp only [rs485Progress, dlc, length]
    rw [if_neg (by omega), if_neg (by omega), if_pos (Nat.le_refl _)]
  fronts := by
    intro front b rest split_ _
    have bounded := f.dlc_le
    have length := forwarded_length f
    rw [split_, List.length_append, List.length_cons] at length
    rw [rs485_progress_more]
    by_cases short : front.length < 3
    · exact Or.inl short
    · have same : byte front 2 = byte f.forwarded 2 := by
        have inside : 2 < front.length := Nat.not_lt.mp short
        rw [split_]
        simp [byte, List.getElem?_append_left inside]
      rw [same, forwarded_dlc]
      exact Or.inr ⟨bounded, by omega⟩

/-- The task turns the bytes of a forwarded frame back into the frame. -/
theorem task_returns (f : CanFrame) (sendable : f.Sendable) (m : Rs485RxMessage)
    (data : m.data = f.forwarded) :
    ∃ tx, vRs485Task m = some tx ∧ tx.canId = f.canId ∧ dlcBytes tx.dlcCode = f.dlc ∧
      tx.wire = f.data.take f.dlc := by
  have bounded := f.dlc_le
  have length : m.len = 3 + f.dlc := by rw [← m.data_length, data, forwarded_length]
  have dlc : (byte m.data 2).toNat = f.dlc := by rw [data, forwarded_dlc]
  have sized : dlcBytes (fdcanBytesToDlc f.dlc) = f.dlc := by
    have whole : ∀ n ∈ dlcCodeToBytes, dlcBytes (fdcanBytesToDlc n) = n := by decide
    exact whole f.dlc sendable.2
  have payload : (m.data.drop 3).take f.dlc = f.data.take f.dlc := by
    rw [data]
    simp [CanFrame.forwarded, rs485ForwardCanMessage, Nat.min_eq_left bounded]
  have identifier : (byte m.data 0).toNat * 256 + (byte m.data 1).toNat = f.canId := by
    have id := sendable.1
    rw [data]
    simp [CanFrame.forwarded, rs485ForwardCanMessage, byte]
    omega
  unfold vRs485Task
  simp only [dlc, length]
  rw [if_pos ⟨Nat.le_add_right 3 _, bounded, Nat.le_refl _⟩]
  refine ⟨_, rfl, identifier, sized, ?_⟩
  rw [TxFrame.wire, sized, payload]
  refine List.take_left' ?_
  simp [f.data_length, bounded]

/-- The receiver gets each forwarded frame as one message. -/
theorem forwarded_received (frames : List CanFrame) (s : Rs485Receiver) (fresh : s.len = 0) :
    List.Forall₂ (fun f m => m.data = f.forwarded) frames
      (Run.trace halUartRxCpltCallback s (frames.flatMap CanFrame.forwarded)) := by
  have cut : (Run.trace halUartRxCpltCallback s (frames.flatMap CanFrame.forwarded)).map (·.data) =
      frames.map CanFrame.forwarded := by
    rw [receiver_frames s fresh, List.flatMap_def]
    apply frames_fed
    · intro w member
      obtain ⟨f, _, rfl⟩ := List.mem_map.mp member
      have length := forwarded_length f
      intro empty
      rw [empty, List.length_nil] at length
      omega
    · intro w member
      obtain ⟨f, _, rfl⟩ := List.mem_map.mp member
      exact forwarded_delimited f
  rw [← List.forall₂_map_right_iff (R := fun f data => data = CanFrame.forwarded f), cut,
    List.forall₂_map_right_iff, List.forall₂_same]
  intro f _
  rfl

/-- Frames forwarded to the link and received byte by byte come back as one
message each, in order, and the task sends each as the frame it was. -/
theorem rs485_round_trip (frames : List CanFrame) (sendable : ∀ f ∈ frames, f.Sendable)
    (s : Rs485Receiver) (fresh : s.len = 0) :
    List.Forall₂
      (fun f m => ∃ tx, vRs485Task m = some tx ∧ tx.canId = f.canId ∧
        dlcBytes tx.dlcCode = f.dlc ∧ tx.wire = f.data.take f.dlc)
      frames
      (Run.trace halUartRxCpltCallback s
        (frames.flatMap fun f => rs485ForwardCanMessage f.canId f.data f.dlc)) := by
  have received := (List.forall₂_and_left frames _).mpr
    ⟨sendable, forwarded_received frames s fresh⟩
  refine received.imp ?_
  rintro f m ⟨can, data⟩
  exact task_returns f can m data

/-- An empty frame, and one whose data looks like a header. -/
theorem rs485_round_trip_header :
    let frames := [rxFifo0Message 0x7E0 0 [], rxFifo0Message 0x123 3 [0x07, 0xE0, 0x00]]
    let s : Rs485Receiver := ⟨List.replicate 67 0xFF, 0, rfl⟩
    (Run.trace halUartRxCpltCallback s
      (frames.flatMap fun f => rs485ForwardCanMessage f.canId f.data f.dlc)).length = 2 :=
  (rs485_round_trip [rxFifo0Message 0x7E0 0 [], rxFifo0Message 0x123 3 [0x07, 0xE0, 0x00]]
    (by simp [CanFrame.Sendable, rxFifo0Message, dlcBytes, dlcCodeToBytes])
    ⟨List.replicate 67 0xFF, 0, rfl⟩ rfl).length_eq.symm

end ObdSimulator
