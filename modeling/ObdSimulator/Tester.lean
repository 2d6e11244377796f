import ObdSimulator.BlBoot
import ObdSimulator.Fdcan
import ObdSimulator.Lib.Chunks
import ObdSimulator.Lib.Dialogue

/-!
# The flash tester

`fbl_test.py`, with the parsers of `uds_test.py`. A test makes calls:
it sends a request and waits for the response to it. A call sends one or several
frames and takes frames off the bus; both waits, for flow control and for the
response, have a deadline. The bus hands the tester what other nodes put on it, and
the tester looks at the identifier itself.
-/

namespace ObdSimulator.Tester

open Bytes Chunks Dialogue

/-! ## `UDSTester` -/

/-- `REQ_ID`. -/
def requestId : Nat := 0x7E0

/-- `RESP_ID`. -/
def responseId : Nat := 0x7E8

/-- The payload of a positive response, in a classic Single Frame or behind the
escape of a long one. -/
def parsePositive (data : List UInt8) (expectedSid : UInt8) : Option (List UInt8) :=
  let low := (byte data 0 &&& 0x0F).toNat
  let escape := low = 0 ∧ 3 ≤ data.length
  let sidResp := if escape then byte data 2 else byte data 1
  let payload := if escape then (data.take (2 + (byte data 1).toNat)).drop 3
    else (data.take (1 + low)).drop 2
  if data.length < 2 ∨ sidResp.toNat ≠ expectedSid.toNat + 0x40 then none else some payload

/-- The code of a negative response, of any service. -/
def parseNegative (data : List UInt8) : Option UInt8 :=
  if data.length < 4 ∨ byte data 1 ≠ 0x7F then none else some (byte data 3)

/-! ## Frames -/

/-- What `parse_uds` gives: a payload, a response code, or neither. -/
inductive Reply where
  | pos (payload : List UInt8)
  | nrc (code : UInt8)
  | nothing
deriving DecidableEq, Repr

/-- The tool goes on only after a positive reply. -/
def Reply.positive : Reply → Bool
  | .pos _ => true
  | _ => false

/-- `parse_uds`: a pending response and any other frame are told apart by their first
bytes. -/
def parseUds (resp : Option (List UInt8)) (sid : UInt8) : Reply :=
  match resp with
  | none => .nothing
  | some data =>
    match parsePositive data sid with
    | some payload => .pos payload
    | none =>
      match parseNegative data with
      | some code => .nrc code
      | none => .nothing

/-- `can_Message`, for the 8 or the 64 bytes of a frame. -/
def canMessage (data : List UInt8) : TxFrame := ⟨requestId, fdcanBytesToDlc data.length, data⟩

/-- `data + [0] * (size - len(data))`. -/
def zeroPad (size : Nat) (data : List UInt8) : List UInt8 :=
  data ++ List.replicate (size - data.length) 0

/-- The frame of a request of up to 62 bytes; from 8 bytes on it has the escape form. -/
def singleFrame (payload : List UInt8) : TxFrame :=
  if payload.length ≤ 7 then canMessage (zeroPad 8 (UInt8.ofNat payload.length :: payload))
  else canMessage (zeroPad 64 (0x00 :: UInt8.ofNat payload.length :: payload))

/-- The First Frame of `send_multi`. -/
def firstFrame (payload : List UInt8) : TxFrame :=
  canMessage (zeroPad 64 ((0x10 ||| UInt8.ofNat (payload.length / 256)) ::
    UInt8.ofNat (payload.length % 256) :: payload.take 62))

/-- A Consecutive Frame with a sequence number. -/
def consecutiveFrame (seq : UInt8) (chunk : List UInt8) : TxFrame :=
  canMessage (zeroPad 64 ((0x20 ||| (seq &&& 0x0F)) :: chunk))

/-- The loop over the chunks behind the First Frame. -/
def consecutiveLoop : UInt8 → List (List UInt8) → List TxFrame
  | _, [] => []
  | seq, chunk :: rest => consecutiveFrame seq chunk :: consecutiveLoop ((seq + 1) &&& 0x0F) rest

/-- The Consecutive Frames of `send_multi`, 63 bytes each. -/
def consecutiveFrames (payload : List UInt8) : List TxFrame :=
  consecutiveLoop 1 (chunks 62 (payload.drop 62))

/-- A frame on the response identifier. -/
def fromEcu (frame : TxFrame) : Bool := frame.canId == responseId

/-- A flow control frame of the device. -/
def isFlowControl (frame : TxFrame) : Bool :=
  fromEcu frame && decide (3 ≤ frame.wire.length) && (byte frame.wire 0 &&& 0xF0 == 0x30)

/-! ## Calls -/

/-- A request, the service its response is parsed for, and whether the tester keeps
waiting over a responsePending, as `request_download` does. -/
structure Call where
  payload : List UInt8
  sid : UInt8
  pending : Bool := false
deriving DecidableEq, Repr

/-- A program of the tester on the bus. -/
abbrev Bus (α : Type) := Client TxFrame TxFrame α

/-- The frame the tester takes for the response. -/
def Call.takes (c : Call) (frame : TxFrame) : Bool :=
  fromEcu frame && !(c.pending && parseUds (some frame.wire) c.sid == .nrc 0x78)

/-- `recv_uds` and `parse_uds`; where responsePending is waited over, its loop. -/
def Call.receive (c : Call) : Bus Reply :=
  .ask (.await c.takes) fun resp => .done (parseUds (resp.map TxFrame.wire) c.sid)

/-- The Consecutive Frames, if flow control came. -/
def Call.continueSend (c : Call) : Option TxFrame → Bus Reply
  | none => c.receive
  | some _ => sendAll (consecutiveFrames c.payload) c.receive

/-- `send_uds`, then `recv_uds` and `parse_uds`. -/
def Call.run (c : Call) : Bus Reply :=
  if c.payload.length ≤ 62 then .ask (.send (singleFrame c.payload)) fun _ => c.receive
  else
    .ask (.send (firstFrame c.payload)) fun _ =>
      .ask (.await isFlowControl) c.continueSend

/-- A test makes calls and gets their replies. -/
abbrev Test (α : Type) := Program Call (fun _ => Reply) α

/-- The test on the bus. -/
def onBus {α : Type} : Test α → Bus α
  | .done a => .done a
  | .ask c next => c.run.bind fun reply => onBus (next reply)

/-- `parse_uds(send_recv_uds(payload), sid)`. -/
def call (payload : List UInt8) (sid : UInt8) : Test Reply := Program.question ⟨payload, sid, false⟩

/-! ## Tests -/

/-- `APP_BASE`. -/
def appBase : Nat := 0x08007000

/-- `MAX_BLOCK`, less one. -/
def maxBlock : Nat := 247

/-- The step that announces an image. -/
def requestDownload (size : Nat) : Test Reply :=
  Program.question ⟨[0x34, 0x44] ++ be 4 appBase ++ be 4 size, 0x34, true⟩

/-- The blocks from a sequence number on, up to the first that is not stored. -/
def transferLoop : Nat → List (List UInt8) → Test Reply
  | _, [] => pure (.pos [])
  | seq, block :: rest => do
    let reply ← call (0x36 :: UInt8.ofNat seq :: block) 0x36
    if reply.positive then transferLoop (seq + 1) rest else pure reply

/-- The step that transfers it, block by block. -/
def transferBlocks (image : List UInt8) : Test Reply := transferLoop 1 (chunks maxBlock image)

/-- The step that has it checked. -/
def checkMemory (version crc : UInt32) : Test Reply :=
  call ([0x31, 0x01, 0x02, 0x03] ++ be 4 version.toNat ++ be 4 crc.toNat) 0x31

/-- `flash_full_cycle`; `binascii.crc32` is the CRC-32 of zlib. -/
def flashFullCycle (image : List UInt8) (version : UInt32) : Test Bool := do
  let reply ← requestDownload image.length
  if !reply.positive then return false
  let reply ← transferBlocks image
  if !reply.positive then return false
  let reply ← call [0x37] 0x37
  if !reply.positive then return false
  let reply ← checkMemory version (zlibCrc32 image)
  return reply.positive

end ObdSimulator.Tester
