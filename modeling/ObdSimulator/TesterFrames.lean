import ObdSimulator.Segmentation
import ObdSimulator.Tester

/-!
# The frames of the tester and of the ECU

Both ends pad their frames, with different bytes and to different sizes, and each
reads the other's behind its own checks. What the tester sends begins like the
frames of the transport, so the transport takes the same payload out of it; what the
transport sends in one frame the tester parses as the response it is.
-/

namespace ObdSimulator.Tester

open Bytes Chunks IsoTp

/-! ## What the ECU hears -/

/-- A frame of the tester, as the receive interrupt hands it on. -/
def heard (frame : TxFrame) : CanFrame := rxFifo0Message frame.canId frame.dlcCode frame.data

/-- The device takes every frame of the tester as a physical request. -/
theorem heard_physical (data : List UInt8) :
    canAddrClassify (heard (canMessage data)).canId = .physical := by
  have sent : (heard (canMessage data)).canId = requestId := rfl
  rw [sent]
  decide

/-- Padding fills the frame. -/
theorem zero_pad_length (size : Nat) (used : List UInt8) (fits : used.length ≤ size) :
    (zeroPad size used).length = size := by
  rw [zeroPad, List.length_append, List.length_replicate]
  omega

/-- A padded frame arrives with its size and its used bytes. -/
theorem heard_front (size : Nat) (sized : size = 8 ∨ size = 64) (used : List UInt8)
    (fits : used.length ≤ size) :
    let f := heard (canMessage (zeroPad size used))
    f.dlc = size ∧ f.data.take used.length = used := by
  intro f
  have length := zero_pad_length size used fits
  have code : dlcBytes (fdcanBytesToDlc size % 16) = size := by
    rcases sized with rfl | rfl <;> rfl
  have dlc : f.dlc = size := by
    change dlcBytes (fdcanBytesToDlc (zeroPad size used).length % 16) = size
    rw [length, code]
  refine ⟨dlc, List.ext_getElem ?_ ?_⟩
  · have most := f.dlc_le
    rw [List.length_take, f.data_length]
    omega
  · intro i left right
    have here : (zeroPad size used)[i]? = some used[i] := by
      rw [zeroPad, List.getElem?_append_left right]
      exact List.getElem?_eq_getElem right
    have inside : i < dlcBytes (fdcanBytesToDlc (zeroPad size used).length % 16) := by
      rw [length, code]
      omega
    simp only [f, heard, canMessage, rxFifo0Message, List.getElem_take, List.getElem_map,
      List.getElem_range, if_pos inside, byte, List.getD_eq_getElem?_getD, here, Option.getD_some]

/-- The used bytes of a short request are those of the transport's Single Frame. -/
theorem single_frame_padded (payload : List UInt8) :
    singleFrame payload =
      canMessage (zeroPad (if payload.length ≤ 7 then 8 else 64) (singleFrameBytes payload)) := by
  unfold singleFrame singleFrameBytes
  split
  · rename_i classic
    have low : isoTpPciSingleFrame ||| (UInt8.ofNat payload.length &&& 0x0F) =
        UInt8.ofNat payload.length := by
      have table : ∀ n ≤ 7, isoTpPciSingleFrame ||| (UInt8.ofNat n &&& 0x0F) = UInt8.ofNat n := by
        decide
      exact table payload.length classic
    rw [low]
  · rfl

/-- A short request is a Single Frame with the request. -/
theorem single_frame_heard (payload : List UInt8) (filled : 0 < payload.length)
    (short : payload.length ≤ 62) :
    let f := heard (singleFrame payload)
    f.dlc ≠ 0 ∧ byte f.data 0 &&& 0xF0 = isoTpPciSingleFrame ∧ singleFramePayload f = payload := by
  intro f
  have size : (if payload.length ≤ 7 then 8 else 64) = 8 ∨
      (if payload.length ≤ 7 then 8 else 64) = 64 := by
    split
    · exact Or.inl rfl
    · exact Or.inr rfl
  have fits : (singleFrameBytes payload).length ≤ if payload.length ≤ 7 then 8 else 64 := by
    unfold singleFrameBytes
    split
    · exact Nat.succ_le_succ ‹_›
    · exact Nat.add_le_add_right short 2
  obtain ⟨dlc, front⟩ := heard_front _ size (singleFrameBytes payload) fits
  rw [← single_frame_padded] at dlc front
  exact single_frame_front payload f filled short (by rw [dlc]; exact fits) front

/-- The First Frame of the tester has no escape, for its messages fit the buffer. -/
theorem first_frame_padded (payload : List UInt8) (fits : payload.length ≤ isoTpMaxMessageSize) :
    firstFrame payload = canMessage (zeroPad 64 (firstFrameBytes payload)) := by
  have size : payload.length ≤ 512 := fits
  have classic : payload.length ≤ isoTpFfEscapeThreshold :=
    Nat.le_trans fits (by decide : isoTpMaxMessageSize ≤ isoTpFfEscapeThreshold)
  have high : payload.length / 256 % 16 = payload.length / 256 := Nat.mod_eq_of_lt (by omega)
  rw [firstFrameBytes, firstFrameHead, if_pos classic, high]
  rfl

/-- The First Frame of a long request has its length and its first 62 bytes. -/
theorem first_frame_heard (payload : List UInt8) (long : 62 < payload.length)
    (fits : payload.length ≤ isoTpMaxMessageSize) :
    let f := heard (firstFrame payload)
    f.dlc ≠ 0 ∧ byte f.data 0 &&& 0xF0 = isoTpPciFirstFrame ∧
      firstFrameSize f = some (payload.length, 2) ∧
      firstFramePayload f payload.length 2 = payload.take 62 := by
  intro f
  obtain ⟨dlc, front⟩ := heard_front 64 (Or.inr rfl) (firstFrameBytes payload)
    (first_frame_bytes_length payload fits)
  rw [← first_frame_padded payload fits] at dlc front
  exact first_frame_front payload f long fits dlc front

/-- The frames behind the First Frame, from a position and a number of bytes on. -/
def remaining (payload : List UInt8) (position received : Nat) : List TxFrame :=
  consecutiveLoop (UInt8.ofNat (position % 16)) (chunks 62 (payload.drop received))

/-- The Consecutive Frames are what remains behind the First Frame. -/
theorem consecutive_frames_remaining (payload : List UInt8) :
    consecutiveFrames payload = remaining payload 1 62 := rfl

/-- Nothing remains of a message that was received whole. -/
theorem remaining_nil (payload : List UInt8) (position received : Nat)
    (whole : payload.length ≤ received) : remaining payload position received = [] := by
  rw [remaining, List.drop_of_length_le whole, chunks_nil]
  rfl

/-- The next frame comes first of what remains. -/
theorem remaining_cons (payload : List UInt8) (position received : Nat)
    (missing : received < payload.length) :
    remaining payload position received =
      consecutiveFrame (UInt8.ofNat (position % 16)) ((payload.drop received).take 63) ::
        remaining payload (position + 1) (received + 63) := by
  have filled : payload.drop received ≠ [] := by
    rw [ne_eq, List.drop_eq_nil_iff]
    exact Nat.not_le.mpr missing
  rw [remaining, chunks_cons 62 _ filled, consecutiveLoop, next_sequence, List.drop_drop]
  rfl

/-- The frame that comes next is accepted by a reception that waits for it. -/
theorem consecutive_frame_heard (payload : List UInt8) (position : Nat) (c : RxContext)
    (receiving : Receiving payload position c) :
    let f := heard (consecutiveFrame (UInt8.ofNat (position % 16))
      ((payload.drop c.rxReceived).take 63))
    consecutivePayload c f = (payload.drop c.rxReceived).take 63 ∧
      byte f.data 0 = isoTpPciConsecutive ||| UInt8.ofNat (position % 16) ∧ f.dlc ≠ 0 := by
  intro f
  have padded : consecutiveFrame (UInt8.ofNat (position % 16))
      ((payload.drop c.rxReceived).take 63) =
        canMessage (zeroPad 64 (nextBytes payload position c)) := by
    rw [consecutiveFrame, sequence_low]
    rfl
  obtain ⟨dlc, front⟩ := heard_front 64 (Or.inr rfl) (nextBytes payload position c)
    (next_bytes_length payload position c)
  rw [← padded] at dlc front
  refine consecutive_front payload position c f receiving ?_ front
  rw [dlc]
  exact next_bytes_length payload position c

/-- Each frame that is left is numbered by its place. -/
theorem remaining_numbered (payload : List UInt8) (position received : Nat) (i : Nat)
    (frame : TxFrame) (found : (remaining payload position received)[i]? = some frame) :
    byte (heard frame).data 0 = isoTpPciConsecutive ||| UInt8.ofNat ((position + i) % 16) ∧
      (heard frame).dlc ≠ 0 ∧ canAddrClassify (heard frame).canId = .physical ∧
      received + 63 * i < payload.length := by
  by_cases missing : received < payload.length
  swap
  · rw [remaining_nil payload position received (Nat.not_lt.mp missing)] at found
    cases found
  rw [remaining_cons payload position received missing] at found
  induction i generalizing position received with
  | zero =>
    cases found
    have short : ((payload.drop received).take 63).length ≤ 63 :=
      (List.length_take_le _ _)
    obtain ⟨dlc, front⟩ := heard_front 64 (Or.inr rfl)
      ((0x20 ||| (UInt8.ofNat (position % 16) &&& 0x0F)) :: (payload.drop received).take 63)
      (Nat.succ_le_succ short)
    rw [sequence_low] at dlc front
    have here := congrArg (fun bytes => byte bytes 0) front
    refine ⟨?_, ?_, heard_physical _, missing⟩
    · have first : byte (heard (canMessage (zeroPad 64 ((0x20 ||| UInt8.ofNat (position % 16)) ::
          (payload.drop received).take 63)))).data 0 = 0x20 ||| UInt8.ofNat (position % 16) := by
        simpa [byte] using here
      rw [consecutiveFrame, sequence_low]
      exact first
    · rw [consecutiveFrame, sequence_low, dlc]
      decide
  | succ i ih =>
    rw [List.getElem?_cons_succ] at found
    by_cases more : received + 63 < payload.length
    swap
    · rw [remaining_nil payload _ _ (Nat.not_lt.mp more)] at found
      cases found
    rw [remaining_cons payload _ _ more] at found
    obtain ⟨first, sized, mine, inside⟩ := ih (position + 1) (received + 63) found more
    refine ⟨?_, sized, mine, by omega⟩
    rw [first, Nat.add_assoc, Nat.add_comm 1 i]

/-! ## What the tester reads -/

/-- The response the ECU sends, as the tester understands it. -/
def replyOf (response : List UInt8) (sid : UInt8) : Reply :=
  if (byte response 0).toNat = sid.toNat + 0x40 then .pos (response.drop 1)
  else if byte response 0 = 0x7F ∧ 3 ≤ response.length ∧ response.length ≤ 7 then
    .nrc (byte response 2)
  else .nothing

/-- The bytes of a frame of the transport on the bus. -/
theorem single_frame_wire (canId : Nat) (message : List UInt8) (short : message.length ≤ 62) :
    let wire := (IsoTp.singleFrame canId message).wire
    wire.take (singleFrameBytes message).length = singleFrameBytes message ∧
      wire.length = dlcBytes (fdcanBytesToDlc (singleFrameBytes message).length) := by
  intro wire
  have used := single_frame_bytes_length message short
  have room := le_dlc_bytes _ used
  have most := dlc_bytes_le (fdcanBytesToDlc (singleFrameBytes message).length)
  have padded : (padFrame (singleFrameBytes message)).length = 64 := by
    rw [padFrame, List.length_append, List.length_replicate]
    exact Nat.add_sub_of_le used
  constructor
  · simp only [wire, IsoTp.singleFrame, TxFrame.wire, List.take_take, Nat.min_eq_left room,
      padFrame, List.take_left]
  · simp only [wire, IsoTp.singleFrame, TxFrame.wire, List.length_take, padded]
    exact Nat.min_eq_left most

/-- What both parsers find makes the reply. -/
theorem reply_of_parsed (data response : List UInt8) (sid : UInt8)
    (positive : parsePositive data sid =
      if (byte response 0).toNat = sid.toNat + 0x40 then some (response.drop 1) else none)
    (negative : parseNegative data =
      if byte response 0 = 0x7F ∧ 3 ≤ response.length ∧ response.length ≤ 7 then
        some (byte response 2) else none) :
    parseUds (some data) sid = replyOf response sid := by
  simp only [parseUds, positive, negative, replyOf]
  split_ifs <;> rfl

/-- A response of up to 7 bytes, behind its length. -/
theorem parse_classic (response : List UInt8) (sid : UInt8) (filled : 0 < response.length)
    (classic : response.length ≤ 7) :
    parseUds (some ((isoTpPciSingleFrame ||| (UInt8.ofNat response.length &&& 0x0F)) :: response))
      sid = replyOf response sid := by
  generalize wire_def : (isoTpPciSingleFrame ||| (UInt8.ofNat response.length &&& 0x0F)) ::
    response = wire
  have size : wire.length = response.length + 1 := by rw [← wire_def, List.length_cons]
  have low : (byte wire 0 &&& 0x0F).toNat = response.length := by
    have table : ∀ n ≤ 7, ((isoTpPciSingleFrame ||| (UInt8.ofNat n &&& 0x0F)) &&& 0x0F).toNat =
        n := by decide
    rw [← wire_def]
    exact table response.length classic
  have shift : ∀ i, byte wire (i + 1) = byte response i := by
    intro i
    rw [← wire_def]
    rfl
  have body : (wire.take (1 + response.length)).drop 2 = response.drop 1 := by
    rw [← wire_def, Nat.add_comm, List.take_succ_cons, List.take_length]
    rfl
  have plain : ¬ (response.length = 0 ∧ 3 ≤ wire.length) := by omega
  refine reply_of_parsed wire response sid ?_ ?_
  · simp only [parsePositive, low, if_neg plain, shift 0, body]
    by_cases same : (byte response 0).toNat = sid.toNat + 0x40
    · rw [if_neg (by omega), if_pos same]
    · rw [if_pos (Or.inr same), if_neg same]
  · rw [parseNegative, shift 0, shift 2, size]
    by_cases code : byte response 0 = 0x7F
    · by_cases long : 3 ≤ response.length
      · have parsed : ¬ (response.length + 1 < 4 ∨ byte response 0 ≠ 0x7F) := by
          rintro (few | other)
          · omega
          · exact other code
        rw [if_neg parsed, if_pos ⟨code, long, classic⟩]
      · rw [if_pos (Or.inl (by omega)), if_neg (fun all => long all.2.1)]
    · rw [if_pos (Or.inr code), if_neg (fun all => code all.1)]

/-- A longer response, behind the escape. -/
theorem parse_escape (wire response : List UInt8) (sid : UInt8) (long : 7 < response.length)
    (short : response.length ≤ 62)
    (front : wire.take (response.length + 2) =
      isoTpPciSingleFrame :: UInt8.ofNat response.length :: response)
    (room : response.length + 2 ≤ wire.length) :
    parseUds (some wire) sid = replyOf response sid := by
  have inside : ∀ i < response.length + 2, byte wire i =
      byte (isoTpPciSingleFrame :: UInt8.ofNat response.length :: response) i := by
    intro i within
    rw [← front, byte, byte, List.getD_eq_getElem?_getD, List.getD_eq_getElem?_getD,
      List.getElem?_take, if_pos within]
  have low : (byte wire 0 &&& 0x0F).toNat = 0 := by
    rw [inside 0 (by omega)]
    change (isoTpPciSingleFrame &&& 0x0F).toNat = 0
    decide
  have size : (byte wire 1).toNat = response.length := by
    rw [inside 1 (by omega)]
    change (UInt8.ofNat response.length).toNat = response.length
    rw [UInt8.toNat_ofNat', Nat.mod_eq_of_lt (by omega)]
  have first : byte wire 2 = byte response 0 := inside 2 (by omega)
  have body : (wire.take (2 + response.length)).drop 3 = response.drop 1 := by
    rw [Nat.add_comm, front]
    rfl
  have escape : (byte wire 0 &&& 0x0F).toNat = 0 ∧ 3 ≤ wire.length := ⟨low, by omega⟩
  have not_nrc : byte wire 1 ≠ 0x7F := by
    intro same
    rw [same] at size
    have value : (0x7F : UInt8).toNat = 127 := rfl
    omega
  refine reply_of_parsed wire response sid ?_ ?_
  · simp only [parsePositive, if_pos escape, first, size, body]
    by_cases same : (byte response 0).toNat = sid.toNat + 0x40
    · rw [if_neg (by omega), if_pos same]
    · rw [if_pos (Or.inr same), if_neg same]
  · rw [parseNegative, if_pos (Or.inr not_nrc),
      if_neg (fun all => absurd all.2.2 (Nat.not_le.mpr long))]

/-- A response in one frame is parsed as the response it is. -/
theorem parse_single_frame (canId : Nat) (response : List UInt8) (sid : UInt8)
    (filled : 0 < response.length) (short : response.length ≤ 62) :
    parseUds (some (IsoTp.singleFrame canId response).wire) sid = replyOf response sid := by
  obtain ⟨front, length⟩ := single_frame_wire canId response short
  generalize (IsoTp.singleFrame canId response).wire = wire at front length
  by_cases classic : response.length ≤ 7
  · have used : singleFrameBytes response =
        (isoTpPciSingleFrame ||| (UInt8.ofNat response.length &&& 0x0F)) :: response := by
      rw [singleFrameBytes, if_pos classic]
    have size : wire.length = (singleFrameBytes response).length := by
      have table : ∀ n ≤ 8, dlcBytes (fdcanBytesToDlc n) = n := by decide
      rw [length, used]
      exact table _ (Nat.succ_le_succ classic)
    rw [← size, List.take_length, used] at front
    rw [front]
    exact parse_classic response sid filled classic
  · have used : singleFrameBytes response =
        isoTpPciSingleFrame :: UInt8.ofNat response.length :: response := by
      rw [singleFrameBytes, if_neg classic]
    rw [used] at front length
    refine parse_escape wire response sid (Nat.not_le.mp classic) short front ?_
    rw [length]
    exact le_dlc_bytes (response.length + 2) (by omega)

/-- The flow control the ECU answers a First Frame of the tester with. -/
def flowControl : TxFrame :=
  ⟨requestId + 8, 0xA,
    padFrame [isoTpPciFlowControl ||| (isoTpFcContinue &&& 0x0F), isoTpFcBlockSize, isoTpFcStmin]⟩

/-- The tester recognises the flow control of the device. -/
theorem flow_control_taken : isFlowControl flowControl = true := by decide

/-- Flow control taken for a response is neither a positive nor a negative one. -/
theorem parse_flow_control (sid : UInt8) : parseUds (some flowControl.wire) sid = .nothing := by
  have bytes : byte flowControl.wire 2 = 5 ∧ byte flowControl.wire 1 = 0 ∧
      (byte flowControl.wire 0 &&& 0x0F).toNat = 0 ∧ 3 ≤ flowControl.wire.length := by decide
  obtain ⟨third, second, low, length⟩ := bytes
  have other : (5 : UInt8).toNat ≠ sid.toNat + 0x40 := by
    have value : (5 : UInt8).toNat = 5 := rfl
    omega
  have not_nrc : (0 : UInt8) ≠ 0x7F := by decide
  have positive : parsePositive flowControl.wire sid = none := by
    simp only [parsePositive, low, third, length, and_self, if_true]
    rw [if_pos (Or.inr other)]
  have negative : parseNegative flowControl.wire = none := by
    rw [parseNegative, second, if_pos (Or.inr not_nrc)]
  simp only [parseUds, positive, negative]

/-- The tester recognises the answers of the device by their identifier. -/
theorem single_frame_from_ecu (response : List UInt8) :
    fromEcu (IsoTp.singleFrame canIdPhysicalResp response) = true := by
  change (canIdPhysicalResp == responseId) = true
  decide

end ObdSimulator.Tester
