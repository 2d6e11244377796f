import ObdSimulator.Fdcan
import ObdSimulator.Uds
import ObdSimulator.Lib.Clock
import ObdSimulator.Lib.Run

/-!
# The ISO-TP transport

`iso_tp.c`: reassembly of received frames, segmentation of responses, flow
control and time-outs. The context has the fields of the source. Every call of
`HAL_FDCAN_AddMessageToTxFifoQ` takes the next of a list of outcomes, and
succeeds once the list is used up.

The layer above is a parameter: it answers requests, and it may send messages of
its own. The application and the bootloader are two instances. One input is one
call of the transport, with the value `HAL_GetTick` has during that call.
-/

namespace ObdSimulator.IsoTp

open Bytes

universe u v

/-- `ISO_TP_MAX_MESSAGE_SIZE`: longer messages go to the stream sink. -/
def isoTpMaxMessageSize : Nat := 512

/-- `ISO_TP_FF_ESCAPE_THRESHOLD`: the longest length of twelve bits. -/
def isoTpFfEscapeThreshold : Nat := 4095

/-- `ISO_TP_FRAME_SIZE`. -/
def isoTpFrameSize : Nat := 64

/-- `ISO_TP_SF_MAX_PAYLOAD`: a frame less the two bytes of an escaped header. -/
def isoTpSfMaxPayload : Nat := 62

/-- `ISO_TP_CF_PAYLOAD_SIZE`. -/
def isoTpCfPayloadSize : Nat := 63

/-- `ISO_TP_FC_BLOCK_SIZE`: no further flow control is asked of the sender. -/
def isoTpFcBlockSize : UInt8 := 0

/-- `ISO_TP_FC_STMIN`, in milliseconds. -/
def isoTpFcStmin : UInt8 := 5

/-- `ISO_TP_MAX_WFT`: wait frames borne in one transmission. -/
def isoTpMaxWft : UInt8 := 7

/-- The time a reception waits for a Consecutive Frame. -/
def isoTpRxTimeoutMs : Nat := 1000

/-- The time a transmission waits for flow control. -/
def isoTpTxFcTimeoutMs : Nat := 1000

/-- The frame type of a Single Frame, in the high half of the first byte. -/
def isoTpPciSingleFrame : UInt8 := 0x00

/-- The frame type of a First Frame. -/
def isoTpPciFirstFrame : UInt8 := 0x10

/-- The frame type of a Consecutive Frame. -/
def isoTpPciConsecutive : UInt8 := 0x20

/-- The frame type of flow control. -/
def isoTpPciFlowControl : UInt8 := 0x30

/-- The flow state that lets a sender go on, in the low half of the first byte. -/
def isoTpFcContinue : UInt8 := 0x00

/-- The flow state that has a sender wait. -/
def isoTpFcWait : UInt8 := 0x01

/-- The flow state that ends a transmission, as does every other value. -/
def isoTpFcOverflow : UInt8 := 0x02

/-- `ISO_TP_RxState_t`. -/
inductive RxState where
  | idle
  | waitCf
  | complete
deriving DecidableEq, Repr

/-- `ISO_TP_TxState_t`. -/
inductive TxState where
  | idle
  | waitFc
  | sendCf
deriving DecidableEq, Repr

/-- The receive related fields of `ISO_TP_Context_t`. -/
structure RxContext where
  rxState : RxState := .idle
  rxBuffer : List UInt8 := List.replicate isoTpMaxMessageSize 0
  rxTotalSize : Nat := 0
  rxReceived : Nat := 0
  rxExpectedSeq : UInt8 := 0
  rxCanId : Nat := 0
  rxAddrType : AddrType := .ignore
  streamMode : Bool := false
  lastRxTick : Nat := 0
deriving DecidableEq, Repr

/-- The transmit related fields of `ISO_TP_Context_t`. -/
structure TxContext where
  txState : TxState := .idle
  txBuffer : List UInt8 := List.replicate isoTpMaxMessageSize 0
  txTotalSize : Nat := 0
  txSent : Nat := 0
  txSeq : UInt8 := 0
  txCanId : Nat := 0
  txStmin : UInt8 := 0
  txBlockSize : UInt8 := 0
  txBlockCounter : UInt8 := 0
  txWaitFrameCount : UInt8 := 0
  lastTxTick : Nat := 0
deriving DecidableEq, Repr

/-- `ISO_TP_Context_t`, as `ISO_TP_Init` leaves it. -/
structure Context extends RxContext, TxContext
deriving DecidableEq, Repr

/-- `ISO_TP_StreamEvent_t`; its end is `done` here. -/
inductive StreamEvent where
  | begin
  | data
  | done
  | error
deriving DecidableEq, Repr

/-- Why a reception ends without a message. -/
inductive Drop where
  | timeout
  | sequence
  | singleFrame
  | firstFrame
deriving DecidableEq, Repr

/-- Why a segmented transmission ends before its last byte. -/
inductive Abort where
  | firstFrameFailed
  | consecutiveFailed
  | flowTimeout
  | tooManyWaits
  | overflow
deriving DecidableEq, Repr

/-- What the transport does, in the order in which it does it. -/
inductive Event where
  /-- A frame entered the transmit queue. -/
  | queued (frame : TxFrame)
  /-- The transmit queue refused a frame. -/
  | lost (frame : TxFrame)
  | sink (event : StreamEvent) (data : List UInt8) (totalSize : Nat)
  | rxSingle (frame : CanFrame)
  | rxStarted (frame : CanFrame)
  | rxContinued (frame : CanFrame)
  | rxDropped (reason : Drop)
  | dispatched (request : List UInt8) (addr : AddrType)
  | txStarted (message : List UInt8)
  | flowContinue
  | flowWait
  | txComplete
  | txAborted (reason : Abort)
  | rejected (message : List UInt8)
deriving DecidableEq

/-- The static variables of the module, the transmit queue's coming outcomes
(`true` where it refuses) and what happened so far. -/
structure Link where
  ctx : Context := {}
  streamSink : Bool := false
  faults : List Bool := []
  log : List Event := []
deriving DecidableEq

/-- Note what has happened. -/
def Link.emit (l : Link) (e : Event) : Link := { l with log := l.log ++ [e] }

/-- Replace the receive fields. -/
def Link.setRx (l : Link) (rx : RxContext) : Link :=
  { l with ctx := { l.ctx with toRxContext := rx } }

/-- Replacing the receive fields leaves the transmit fields alone. -/
@[simp] theorem set_rx_ctx (l : Link) (rx : RxContext) :
    (l.setRx rx).ctx = { l.ctx with toRxContext := rx } := rfl

/-- Replacing the receive fields is no event. -/
@[simp] theorem set_rx_log (l : Link) (rx : RxContext) : (l.setRx rx).log = l.log := rfl

/-- The addressing type of the frame in hand. -/
def Link.addressed (l : Link) (addr : AddrType) : Link :=
  l.setRx { l.ctx.toRxContext with rxAddrType := addr }

/-- Classifying a frame sets the addressing type only. -/
@[simp] theorem addressed_ctx (l : Link) (addr : AddrType) :
    (l.addressed addr).ctx = { l.ctx with rxAddrType := addr } := rfl

/-- Classifying a frame is no event. -/
@[simp] theorem addressed_log (l : Link) (addr : AddrType) : (l.addressed addr).log = l.log := rfl

/-- Noting an event leaves the context alone. -/
@[simp] theorem emit_ctx (l : Link) (e : Event) : (l.emit e).ctx = l.ctx := rfl

/-- Noting an event leaves the sink alone. -/
@[simp] theorem emit_stream_sink (l : Link) (e : Event) :
    (l.emit e).streamSink = l.streamSink := rfl

/-- Noting an event leaves the coming outcomes of the queue alone. -/
@[simp] theorem emit_faults (l : Link) (e : Event) : (l.emit e).faults = l.faults := rfl

/-- The event noted comes last. -/
@[simp] theorem emit_log (l : Link) (e : Event) : (l.emit e).log = l.log ++ [e] := rfl

/-- `HAL_FDCAN_AddMessageToTxFifoQ`, with its success. -/
def addMessageToTxFifoQ (l : Link) (frame : TxFrame) : Link × Bool :=
  if l.faults.headD false then
    ({ l with faults := l.faults.tail, log := l.log ++ [.lost frame] }, false)
  else ({ l with faults := l.faults.tail, log := l.log ++ [.queued frame] }, true)

/-- A frame buffer filled with 0xCC behind its used bytes. -/
def padFrame (used : List UInt8) : List UInt8 :=
  used ++ List.replicate (isoTpFrameSize - used.length) 0xCC

/-! ## Transmission -/

/-- The used bytes of a Single Frame. -/
def singleFrameBytes (data : List UInt8) : List UInt8 :=
  if data.length ≤ 7 then
    (isoTpPciSingleFrame ||| (UInt8.ofNat data.length &&& 0x0F)) :: data
  else isoTpPciSingleFrame :: UInt8.ofNat data.length :: data

/-- `send_single_frame`. -/
def sendSingleFrame (l : Link) (canId : Nat) (data : List UInt8) : Link :=
  let used := singleFrameBytes data
  (addMessageToTxFifoQ l ⟨canId, fdcanBytesToDlc used.length, padFrame used⟩).1

/-- The length field of a First Frame, classic or escape. -/
def firstFrameHead (totalLen : Nat) : List UInt8 :=
  if totalLen ≤ isoTpFfEscapeThreshold then
    [isoTpPciFirstFrame ||| UInt8.ofNat (totalLen / 256 % 16), UInt8.ofNat (totalLen % 256)]
  else isoTpPciFirstFrame :: 0x00 :: be 4 totalLen

/-- `send_first_frame`: a refused frame ends the transmission before it has begun. -/
def sendFirstFrame (l : Link) (hal canId : Nat) (data : List UInt8) : Link :=
  let head := firstFrameHead data.length
  let ffPayload := min data.length (isoTpFrameSize - head.length)
  let l := { l with ctx := { l.ctx with txSent := ffPayload } }
  match addMessageToTxFifoQ l ⟨canId, 0xF, padFrame (head ++ data.take ffPayload)⟩ with
  | (l, false) =>
    { l with ctx := { l.ctx with txState := .idle } }.emit (.txAborted .firstFrameFailed)
  | (l, true) => { l with ctx := { l.ctx with lastTxTick := hal } }

/-- The used bytes of the next Consecutive Frame. -/
def nextCfBytes (c : TxContext) : List UInt8 :=
  (isoTpPciConsecutive ||| (c.txSeq &&& 0x0F)) ::
    (c.txBuffer.drop c.txSent).take (min isoTpCfPayloadSize (c.txTotalSize - c.txSent))

/-- `send_next_cf`: the last frame of a message ends it, the last of a block waits. -/
def sendNextCf (l : Link) (hal : Nat) : Link :=
  let c := l.ctx
  if c.txTotalSize ≤ c.txSent then
    { l with ctx := { c with txState := .idle } }.emit .txComplete
  else
    let cfPayload := min isoTpCfPayloadSize (c.txTotalSize - c.txSent)
    match addMessageToTxFifoQ l
        ⟨c.txCanId, fdcanBytesToDlc (cfPayload + 1), padFrame (nextCfBytes c.toTxContext)⟩ with
    | (l, false) =>
      { l with ctx := { c with txState := .idle } }.emit (.txAborted .consecutiveFailed)
    | (l, true) =>
      let c := { c with
        txSent := c.txSent + cfPayload
        txSeq := (c.txSeq + 1) &&& 0x0F
        lastTxTick := hal
        txBlockCounter := c.txBlockCounter + 1 }
      if c.txTotalSize ≤ c.txSent then
        { l with ctx := { c with txState := .idle } }.emit .txComplete
      else if c.txBlockSize ≠ 0 ∧ c.txBlockSize ≤ c.txBlockCounter then
        { l with ctx := { c with txState := .waitFc } }
      else { l with ctx := c }

/-- `send_flow_control`. -/
def sendFlowControl (l : Link) (canId : Nat) (fs bs stmin : UInt8) : Link :=
  (addMessageToTxFifoQ l
    ⟨canId, 0xA, padFrame [isoTpPciFlowControl ||| (fs &&& 0x0F), bs, stmin]⟩).1

/-- `ISO_TP_SendResponse`. -/
def isoTpSendResponse (l : Link) (hal canId : Nat) (data : List UInt8) : Link :=
  if data.length = 0 then l
  else if isoTpMaxMessageSize < data.length then l.emit (.rejected data)
  else if data.length ≤ isoTpSfMaxPayload then sendSingleFrame l canId data
  else if l.ctx.txState ≠ .idle then l.emit (.rejected data)
  else
    let ctx := { l.ctx with
      txBuffer := memcpy l.ctx.txBuffer 0 data
      txTotalSize := data.length
      txSent := 0
      txSeq := 1
      txCanId := canId
      txWaitFrameCount := 0
      txState := .waitFc }
    sendFirstFrame ({ l with ctx }.emit (.txStarted data)) hal canId data

/-- `process_flow_control`: only a transmission that waits for it looks at it. -/
def processFlowControl (l : Link) (hal : Nat) (f : CanFrame) : Link :=
  let c := l.ctx
  let fs := byte f.data 0 &&& 0x0F
  if c.txState ≠ .waitFc then l
  else if fs = isoTpFcContinue then
    let stmin := byte f.data 2
    let c := { c with
      txStmin := if stmin < 0x80 then stmin else 0
      txBlockSize := byte f.data 1
      txBlockCounter := 0
      lastTxTick := hal
      txState := .sendCf }
    -- the first frame of a block does not wait for STmin
    sendNextCf ({ l with ctx := c }.emit .flowContinue) hal
  else if fs = isoTpFcWait then
    let c := { c with txWaitFrameCount := c.txWaitFrameCount + 1 }
    if isoTpMaxWft ≠ 0 ∧ isoTpMaxWft < c.txWaitFrameCount then
      { l with ctx := { c with txState := .idle } }.emit (.txAborted .tooManyWaits)
    else { l with ctx := { c with lastTxTick := hal } }.emit .flowWait
  else { l with ctx := { c with txState := .idle } }.emit (.txAborted .overflow)

/-! ## Reception -/

/-- `abort_stream_rx`. -/
def abortStreamRx (l : Link) : Link :=
  let l := if l.ctx.streamMode ∧ l.streamSink then
    l.emit (.sink .error [] l.ctx.rxTotalSize) else l
  { l with ctx := { l.ctx with streamMode := false } }

/-- A frame that starts a reception ends the one in progress. -/
def restartRx (l : Link) (reason : Drop) : Link :=
  if l.ctx.rxState = .waitCf then (abortStreamRx l).emit (.rxDropped reason) else l

/-- The payload of a Single Frame, clamped to the frame. -/
def singleFramePayload (f : CanFrame) : List UInt8 :=
  let low := (byte f.data 0 &&& 0x0F).toNat
  if 1 < f.dlc ∧ low = 0 then (f.data.drop 2).take (min (byte f.data 1).toNat (f.dlc - 2))
  else (f.data.drop 1).take (min low (f.dlc - 1))

/-- The reception of a Single Frame up to its dispatch. -/
def receiveSingleFrame (l : Link) (f : CanFrame) : Link :=
  let l := restartRx l .singleFrame
  let payload := singleFramePayload f
  { l with ctx := { l.ctx with
      rxBuffer := memcpy l.ctx.rxBuffer 0 payload
      rxTotalSize := payload.length
      rxCanId := f.canId
      rxState := .complete } }.emit (.rxSingle f)

/-- Length and payload offset of a First Frame; an escape frame needs six bytes. -/
def firstFrameSize (f : CanFrame) : Option (Nat × Nat) :=
  let len12 := (byte f.data 0 &&& 0x0F).toNat * 256 + (byte f.data 1).toNat
  if len12 ≠ 0 then some (len12, 2)
  else if f.dlc < 6 then none
  else some (ofBe ((f.data.drop 2).take 4), 6)

/-- The payload bytes of a First Frame. -/
def firstFramePayload (f : CanFrame) (totalSize off : Nat) : List UInt8 :=
  (f.data.drop off).take (min (min (f.dlc - off) (isoTpFrameSize - off)) totalSize)

/-- The fields a First Frame sets; only the buffer path stores its payload. -/
def startRx (c : RxContext) (hal : Nat) (f : CanFrame) (totalSize : Nat)
    (payload : List UInt8) : RxContext :=
  { c with
    rxState := .waitCf
    rxBuffer := if isoTpMaxMessageSize < totalSize then c.rxBuffer else memcpy c.rxBuffer 0 payload
    rxTotalSize := totalSize
    rxReceived := payload.length
    rxExpectedSeq := 1
    rxCanId := f.canId
    streamMode := decide (isoTpMaxMessageSize < totalSize)
    lastRxTick := hal }

/-- `process_first_frame`: nothing starts on the functional identifier, and an announced
length beyond the buffer needs a sink. -/
def processFirstFrame (l : Link) (hal : Nat) (f : CanFrame) : Link :=
  if l.ctx.rxAddrType = .functional then l
  else
    let fcId := f.canId + 8
    let l := restartRx l .firstFrame
    match firstFrameSize f with
    | none => l.setRx { l.ctx.toRxContext with rxState := .idle }
    | some (totalSize, off) =>
      let payload := firstFramePayload f totalSize off
      if isoTpMaxMessageSize < totalSize then
        if l.streamSink = false then
          let l := sendFlowControl l fcId isoTpFcOverflow 0 0
          l.setRx { l.ctx.toRxContext with rxState := .idle }
        else
          let l := (l.setRx (startRx l.ctx.toRxContext hal f totalSize payload)).emit (.rxStarted f)
          let l := l.emit (.sink .begin [] totalSize)
          let l := if payload ≠ [] then l.emit (.sink .data payload totalSize) else l
          sendFlowControl l fcId isoTpFcContinue isoTpFcBlockSize isoTpFcStmin
      else
        let l := (l.setRx (startRx l.ctx.toRxContext hal f totalSize payload)).emit (.rxStarted f)
        sendFlowControl l fcId isoTpFcContinue isoTpFcBlockSize isoTpFcStmin

/-- The payload of a Consecutive Frame, clamped to what is missing. -/
def consecutivePayload (c : RxContext) (f : CanFrame) : List UInt8 :=
  (f.data.drop 1).take (min (f.dlc - 1) (c.rxTotalSize - c.rxReceived))

/-- The fields an accepted Consecutive Frame sets; only the buffer path stores
its payload. -/
def continueRx (c : RxContext) (hal : Nat) (f : CanFrame) : RxContext :=
  let payload := consecutivePayload c f
  { c with
    rxBuffer := if c.streamMode then c.rxBuffer else memcpy c.rxBuffer c.rxReceived payload
    rxReceived := c.rxReceived + payload.length
    rxExpectedSeq := (c.rxExpectedSeq + 1) &&& 0x0F
    lastRxTick := hal }

/-- The fields set where a reception may have got its last byte. -/
def finishRx (c : RxContext) : RxContext :=
  if c.rxReceived < c.rxTotalSize then c
  else if c.streamMode then { c with streamMode := false, rxState := .idle }
  else { c with rxState := .complete }

/-- The reception of a Consecutive Frame up to a dispatch. -/
def receiveConsecutive (l : Link) (hal : Nat) (f : CanFrame) : Link :=
  let c := l.ctx.toRxContext
  if c.rxState ≠ .waitCf then l
  else if byte f.data 0 &&& 0x0F ≠ c.rxExpectedSeq then
    let l := abortStreamRx l
    (l.setRx { l.ctx.toRxContext with rxState := .idle }).emit (.rxDropped .sequence)
  else
    let c' := continueRx c hal f
    let l := l.emit (.rxContinued f)
    let l := if c.streamMode ∧ l.streamSink then
      l.emit (.sink .data (consecutivePayload c f) c.rxTotalSize) else l
    let l := if c'.rxTotalSize ≤ c'.rxReceived ∧ c.streamMode ∧ l.streamSink then
      l.emit (.sink .done [] c.rxTotalSize) else l
    l.setRx (finishRx c')

/-! ## The layer above -/

/-- What the layer above gives back: messages sent with `ISO_TP_SendResponse`
on the way, all on the response identifier, and the response of a request. -/
structure Served (σ : Type u) where
  state : σ
  sent : List (List UInt8) := []
  response : List UInt8 := []

/-- The layer above. A request is the receive buffer and a length; other work of
the node is of a type of its own, and gives messages to send. Both see the
current tick. -/
structure Upper (σ : Type u) (κ : Type v) where
  dispatch : σ → Nat → List UInt8 → Nat → AddrType → Served σ
  work : σ → Nat → κ → σ × List (List UInt8)

/-- A layer above that answers nothing. -/
def silent : Upper Unit Unit where
  dispatch _ _ _ _ _ := { state := () }
  work _ _ _ := ((), [])

/-- The transport and the layer above. -/
structure World (σ : Type u) where
  link : Link := {}
  upper : σ

variable {σ : Type u} {κ : Type v}

/-- The node after `ISO_TP_Init`, with or without a stream sink. -/
def isoTpInit (streamSink : Bool) (faults : List Bool) (upper : σ) : World σ :=
  { link := { streamSink, faults }, upper }

/-- The messages sent from inside the layer above, in order. -/
def sendAll (l : Link) (hal : Nat) (messages : List (List UInt8)) : Link :=
  messages.foldl (fun l data => isoTpSendResponse l hal canIdPhysicalResp data) l

/-- The identifier of the answer to the request just received. -/
def responseId (c : Context) : Nat :=
  if c.rxAddrType = .functional then canIdPhysicalResp else c.rxCanId + 8

/-- `dispatch_completed_message`. -/
def dispatchCompletedMessage (above : Upper σ κ) (w : World σ) (hal : Nat) : World σ :=
  let c := w.link.ctx
  let served := above.dispatch w.upper hal c.rxBuffer c.rxTotalSize c.rxAddrType
  let l := w.link.emit (.dispatched (c.rxBuffer.take c.rxTotalSize) c.rxAddrType)
  let l := sendAll l hal served.sent
  let l := { l with ctx := { l.ctx with rxState := .idle } }
  { link := isoTpSendResponse l hal (responseId l.ctx) served.response, upper := served.state }

/-- A reception that is complete is dispatched in the same call. -/
def dispatchIfComplete (above : Upper σ κ) (w : World σ) (hal : Nat) : World σ :=
  if w.link.ctx.rxState = .complete then dispatchCompletedMessage above w hal else w

/-- The receive part of `ISO_TP_ProcessFrame` up to a dispatch. -/
def receive (l : Link) (hal : Nat) (f : CanFrame) : Link :=
  let pciType := byte f.data 0 &&& 0xF0
  if pciType = isoTpPciSingleFrame then receiveSingleFrame l f
  else if pciType = isoTpPciFirstFrame then processFirstFrame l hal f
  else if pciType = isoTpPciConsecutive then receiveConsecutive l hal f
  else l

/-- `ISO_TP_ProcessFrame`. Flow control is taken from every identifier. -/
def isoTpProcessFrame (above : Upper σ κ) (w : World σ) (hal : Nat) (f : CanFrame) : World σ :=
  if f.dlc = 0 then w
  else if byte f.data 0 &&& 0xF0 = isoTpPciFlowControl then
    { w with link := processFlowControl w.link hal f }
  else
    match canAddrClassify f.canId with
    | .ignore => w
    | addr =>
      dispatchIfComplete above { w with link := receive (w.link.addressed addr) hal f } hal

/-! ## Time -/

/-- `a - b` of two tick values. -/
def elapsed (now since : Nat) : Nat := Clock.sub (2 ^ 32) now since

/-- The part of the tick that gives up a reception. -/
def rxTimeout (l : Link) (now : Nat) : Link :=
  if l.ctx.rxState = .waitCf ∧ isoTpRxTimeoutMs ≤ elapsed now l.ctx.lastRxTick then
    let l := abortStreamRx l
    { l with ctx := { l.ctx with rxState := .idle } }.emit (.rxDropped .timeout)
  else l

/-- The part of the tick that gives up waiting for flow control. -/
def txFcTimeout (l : Link) (now : Nat) : Link :=
  if l.ctx.txState = .waitFc ∧ isoTpTxFcTimeoutMs ≤ elapsed now l.ctx.lastTxTick then
    { l with ctx := { l.ctx with txState := .idle } }.emit (.txAborted .flowTimeout)
  else l

/-- The part of the tick that sends the next Consecutive Frame, STmin after the last. -/
def cfPacing (l : Link) (now hal : Nat) : Link :=
  if l.ctx.txState = .sendCf ∧ l.ctx.txStmin.toNat ≤ elapsed now l.ctx.lastTxTick then
    sendNextCf l hal
  else l

/-- `ISO_TP_Tick`. -/
def isoTpTick (l : Link) (now hal : Nat) : Link :=
  cfPacing (txFcTimeout (rxTimeout l now) now) now hal

/-! ## The node -/

/-- The calls of the transport. -/
inductive Input (κ : Type v) where
  | frame (hal : Nat) (f : CanFrame)
  | work (hal : Nat) (k : κ)
  /-- `ISO_TP_Tick` gets its own sample of the time. -/
  | tick (now hal : Nat)
  | registerStreamSink (sink : Bool)

/-- The calls and what they do. -/
def act (above : Upper σ κ) (w : World σ) : Input κ → World σ
  | .frame hal f => isoTpProcessFrame above w hal f
  | .work hal k =>
    let (upper, messages) := above.work w.upper hal k
    { link := sendAll w.link hal messages, upper }
  | .tick now hal => { w with link := isoTpTick w.link now hal }
  | .registerStreamSink sink => { w with link := { w.link with streamSink := sink } }

/-- The world with an empty log. -/
def World.quiet (w : World σ) : World σ := { w with link := { w.link with log := [] } }

/-- One call, and its events. -/
def step (above : Upper σ κ) (w : World σ) (i : Input κ) : World σ × List Event :=
  let w := act above w.quiet i
  (w, w.link.log)

/-! ## What each part leaves alone -/

/-- The frame type of a transmitted frame. -/
def pciType (frame : TxFrame) : UInt8 := byte frame.data 0 &&& 0xF0

/-- What the transmit side logs. -/
def Event.OfTx : Event → Prop
  | .queued _ | .lost _ | .txStarted _ | .flowContinue | .flowWait | .txComplete
  | .txAborted _ | .rejected _ => True
  | _ => False

/-- What the receive side logs; the frames it sends are flow control. -/
def Event.OfRx : Event → Prop
  | .queued frame | .lost frame => pciType frame = isoTpPciFlowControl
  | .sink _ _ _ | .rxSingle _ | .rxStarted _ | .rxContinued _ | .rxDropped _ => True
  | _ => False

/-- The log of `l'` continues the log of `l` with events of one kind. -/
def Logs (kind : Event → Prop) (l l' : Link) : Prop :=
  ∃ events, l'.log = l.log ++ events ∧ ∀ e ∈ events, kind e

/-- Where nothing was logged, anything may be claimed of it. -/
theorem Logs.same (kind : Event → Prop) {l l' : Link} (equal : l'.log = l.log) :
    Logs kind l l' :=
  ⟨[], by rw [equal, List.append_nil], by simp⟩

/-- One event of the kind. -/
theorem Logs.one (kind : Event → Prop) {l l' : Link} (e : Event) (equal : l'.log = l.log ++ [e])
    (allowed : kind e) : Logs kind l l' := by
  refine ⟨[e], equal, ?_⟩
  intro e' member
  rw [List.mem_singleton.mp member]
  exact allowed

/-- Two stretches of events of a kind make one. -/
theorem Logs.trans {kind : Event → Prop} {l l' l'' : Link} (first : Logs kind l l')
    (second : Logs kind l' l'') : Logs kind l l'' := by
  obtain ⟨before, log, allowed⟩ := first
  obtain ⟨after, log', allowed'⟩ := second
  refine ⟨before ++ after, by rw [log', log, List.append_assoc], ?_⟩
  intro e member
  rcases List.mem_append.mp member with early | late
  · exact allowed e early
  · exact allowed' e late

/-- A part of the transmit side: the reception does not notice it. -/
structure Transmits (l l' : Link) : Prop where
  rx : l'.ctx.toRxContext = l.ctx.toRxContext
  sink : l'.streamSink = l.streamSink
  log : Logs Event.OfTx l l'

/-- A part of the receive side: the transmission does not notice it. -/
structure Receives (l l' : Link) : Prop where
  tx : l'.ctx.toTxContext = l.ctx.toTxContext
  sink : l'.streamSink = l.streamSink
  log : Logs Event.OfRx l l'

/-- Doing nothing is transmitting. -/
theorem Transmits.refl (l : Link) : Transmits l l := ⟨rfl, rfl, Logs.same _ rfl⟩

/-- Doing nothing is receiving. -/
theorem Receives.refl (l : Link) : Receives l l := ⟨rfl, rfl, Logs.same _ rfl⟩

/-- What transmits twice transmits. -/
theorem Transmits.trans {l l' l'' : Link} (first : Transmits l l') (second : Transmits l' l'') :
    Transmits l l'' :=
  ⟨second.rx.trans first.rx, second.sink.trans first.sink, first.log.trans second.log⟩

/-- What receives twice receives. -/
theorem Receives.trans {l l' l'' : Link} (first : Receives l l') (second : Receives l' l'') :
    Receives l l'' :=
  ⟨second.tx.trans first.tx, second.sink.trans first.sink, first.log.trans second.log⟩

/-- The queue appends the frame to the log, as queued or as lost. -/
theorem add_message_cases (l : Link) (frame : TxFrame) :
    (addMessageToTxFifoQ l frame =
        ({ l with faults := l.faults.tail, log := l.log ++ [.lost frame] }, false)) ∨
      addMessageToTxFifoQ l frame =
        ({ l with faults := l.faults.tail, log := l.log ++ [.queued frame] }, true) := by
  unfold addMessageToTxFifoQ
  split
  · exact Or.inl rfl
  · exact Or.inr rfl

/-- A frame is queued or lost, and the reception does not notice. -/
theorem add_message_transmits (l : Link) (frame : TxFrame) :
    Transmits l (addMessageToTxFifoQ l frame).1 := by
  rcases add_message_cases l frame with refused | taken
  · rw [refused]
    exact ⟨rfl, rfl, Logs.one _ _ rfl trivial⟩
  · rw [taken]
    exact ⟨rfl, rfl, Logs.one _ _ rfl trivial⟩

/-- Flow control is not part of a transmission. -/
@[simp] theorem send_flow_control_ctx (l : Link) (canId : Nat) (fs bs stmin : UInt8) :
    (sendFlowControl l canId fs bs stmin).ctx = l.ctx := by
  rw [sendFlowControl]
  rcases add_message_cases l
      ⟨canId, 0xA, padFrame [isoTpPciFlowControl ||| (fs &&& 0x0F), bs, stmin]⟩
    with refused | taken
  · rw [refused]
  · rw [taken]

/-- The receive side sends it. -/
theorem send_flow_control_receives (l : Link) (canId : Nat) (fs bs stmin : UInt8) :
    Receives l (sendFlowControl l canId fs bs stmin) := by
  have status : pciType ⟨canId, 0xA, padFrame [isoTpPciFlowControl ||| (fs &&& 0x0F), bs, stmin]⟩ =
      isoTpPciFlowControl := high_nibble _ _ (by decide)
  unfold sendFlowControl
  rcases add_message_cases l
      ⟨canId, 0xA, padFrame [isoTpPciFlowControl ||| (fs &&& 0x0F), bs, stmin]⟩
    with refused | taken
  · rw [refused]
    exact ⟨rfl, rfl, Logs.one _ _ rfl status⟩
  · rw [taken]
    exact ⟨rfl, rfl, Logs.one _ _ rfl status⟩

/-- An event of the transmit side may follow. -/
theorem Transmits.emit {l l' : Link} (before : Transmits l l') (e : Event) (ofTx : e.OfTx) :
    Transmits l (l'.emit e) :=
  before.trans ⟨rfl, rfl, Logs.one _ e rfl ofTx⟩

/-- An event of the receive side may follow. -/
theorem Receives.emit {l l' : Link} (before : Receives l l') (e : Event) (ofRx : e.OfRx) :
    Receives l (l'.emit e) :=
  before.trans ⟨rfl, rfl, Logs.one _ e rfl ofRx⟩

/-- A change of transmit fields. -/
theorem Transmits.fields {l l' : Link} (before : Transmits l l') (ctx : Context)
    (rx : ctx.toRxContext = l'.ctx.toRxContext) : Transmits l { l' with ctx } :=
  before.trans ⟨rx, rfl, Logs.same _ rfl⟩

/-- A change of receive fields. -/
theorem Receives.fields {l l' : Link} (before : Receives l l') (ctx : Context)
    (tx : ctx.toTxContext = l'.ctx.toTxContext) : Receives l { l' with ctx } :=
  before.trans ⟨tx, rfl, Logs.same _ rfl⟩

/-- Sending a Single Frame leaves the reception alone. -/
theorem send_single_frame_transmits (l : Link) (canId : Nat) (data : List UInt8) :
    Transmits l (sendSingleFrame l canId data) :=
  add_message_transmits l _

/-- Sending a First Frame leaves the reception alone. -/
theorem send_first_frame_transmits (l : Link) (hal canId : Nat) (data : List UInt8) :
    Transmits l (sendFirstFrame l hal canId data) := by
  let started : Link := { l with ctx := { l.ctx with
    txSent := min data.length (isoTpFrameSize - (firstFrameHead data.length).length) } }
  have begun : Transmits l started := ⟨rfl, rfl, Logs.same _ rfl⟩
  have queued := begun.trans (add_message_transmits started ⟨canId, 0xF,
    padFrame (firstFrameHead data.length ++ data.take started.ctx.txSent)⟩)
  simp only [sendFirstFrame]
  split
  · rename_i l' refused
    rw [refused] at queued
    exact (queued.fields _ (by rfl)).emit _ (by trivial)
  · rename_i l' taken
    rw [taken] at queued
    exact queued.fields _ (by rfl)

/-- Sending a Consecutive Frame leaves the reception alone. -/
theorem send_next_cf_transmits (l : Link) (hal : Nat) : Transmits l (sendNextCf l hal) := by
  have queued := add_message_transmits l ⟨l.ctx.txCanId,
    fdcanBytesToDlc (min isoTpCfPayloadSize (l.ctx.txTotalSize - l.ctx.txSent) + 1),
    padFrame (nextCfBytes l.ctx.toTxContext)⟩
  simp only [sendNextCf]
  split
  · exact ((Transmits.refl l).fields _ (by rfl)).emit _ (by trivial)
  · split
    · rename_i l' refused
      rw [refused] at queued
      exact (queued.fields _ (by exact queued.rx.symm)).emit _ (by trivial)
    · rename_i l' taken
      rw [taken] at queued
      split
      · exact (queued.fields _ (by exact queued.rx.symm)).emit _ (by trivial)
      · split
        · exact queued.fields _ (by exact queued.rx.symm)
        · exact queued.fields _ (by exact queued.rx.symm)

/-- A response of any length leaves the reception alone. -/
theorem send_response_transmits (l : Link) (hal canId : Nat) (data : List UInt8) :
    Transmits l (isoTpSendResponse l hal canId data) := by
  unfold isoTpSendResponse
  split
  · exact Transmits.refl l
  · split
    · exact (Transmits.refl l).emit _ (by trivial)
    · split
      · exact send_single_frame_transmits l canId data
      · split
        · exact (Transmits.refl l).emit _ (by trivial)
        · have started := ((Transmits.refl l).fields { l.ctx with
            txBuffer := memcpy l.ctx.txBuffer 0 data
            txTotalSize := data.length
            txSent := 0
            txSeq := 1
            txCanId := canId
            txWaitFrameCount := 0
            txState := .waitFc } rfl).emit (.txStarted data) trivial
          exact started.trans (send_first_frame_transmits _ hal canId data)

/-- Any number of messages leave the reception alone. -/
theorem send_all_transmits (l : Link) (hal : Nat) (messages : List (List UInt8)) :
    Transmits l (sendAll l hal messages) := by
  induction messages generalizing l with
  | nil => exact Transmits.refl l
  | cons data rest ih => exact (send_response_transmits l hal _ data).trans (ih _)

/-- Flow control that is received belongs to the transmission. -/
theorem process_flow_control_transmits (l : Link) (hal : Nat) (f : CanFrame) :
    Transmits l (processFlowControl l hal f) := by
  unfold processFlowControl
  simp only
  split
  · exact Transmits.refl l
  · split
    · exact (((Transmits.refl l).fields _ (by rfl)).emit _ (by trivial)).trans
        (send_next_cf_transmits _ hal)
    · split
      · split
        · exact ((Transmits.refl l).fields _ (by rfl)).emit _ (by trivial)
        · exact ((Transmits.refl l).fields _ (by rfl)).emit _ (by trivial)
      · exact ((Transmits.refl l).fields _ (by rfl)).emit _ (by trivial)

/-- Aborting a stream ends the stream mode and nothing else. -/
@[simp] theorem abort_stream_rx_ctx (l : Link) :
    (abortStreamRx l).ctx = { l.ctx with streamMode := false } := by
  unfold abortStreamRx
  split
  · rfl
  · rfl

/-- A frame that starts a reception ends the stream mode of the one it replaces. -/
theorem restart_rx_ctx (l : Link) (reason : Drop) :
    (restartRx l reason).ctx =
      if l.ctx.rxState = .waitCf then { l.ctx with streamMode := false } else l.ctx := by
  unfold restartRx
  split
  · exact abort_stream_rx_ctx l
  · rfl

/-- A First Frame replaces whatever a reception before it left. -/
theorem start_rx_restart (l : Link) (reason : Drop) (hal : Nat) (f : CanFrame) (totalSize : Nat)
    (payload : List UInt8) :
    startRx (restartRx l reason).ctx.toRxContext hal f totalSize payload =
      startRx l.ctx.toRxContext hal f totalSize payload := by
  rw [restart_rx_ctx]
  split
  · rfl
  · rfl

/-- Dropping a reception keeps the addressing type of the frame in hand. -/
theorem restart_rx_address (l : Link) (reason : Drop) :
    (restartRx l reason).ctx.rxAddrType = l.ctx.rxAddrType := by
  rw [restart_rx_ctx]
  split
  · rfl
  · rfl

/-- The end of a stream reception tells the sink or nothing. -/
theorem abort_stream_rx_logs {kind : Event → Prop} (l : Link)
    (told : ∀ total, kind (.sink .error [] total)) : Logs kind l (abortStreamRx l) := by
  unfold abortStreamRx
  split
  · exact Logs.one _ _ rfl (told _)
  · exact Logs.same _ rfl

/-- Aborting a stream leaves the transmission alone. -/
theorem abort_stream_rx_receives (l : Link) : Receives l (abortStreamRx l) := by
  unfold abortStreamRx
  split
  · exact ((Receives.refl l).emit _ (by trivial)).fields _ (by rfl)
  · exact (Receives.refl l).fields _ (by rfl)

/-- A restart of the reception leaves the transmission alone. -/
theorem restart_rx_receives (l : Link) (reason : Drop) : Receives l (restartRx l reason) := by
  unfold restartRx
  split
  · exact (abort_stream_rx_receives l).emit _ (by trivial)
  · exact Receives.refl l

/-- A Single Frame leaves the transmission alone, up to its dispatch. -/
theorem receive_single_frame_receives (l : Link) (f : CanFrame) :
    Receives l (receiveSingleFrame l f) :=
  ((restart_rx_receives l .singleFrame).fields _ (by rfl)).emit _ (by trivial)

/-- A change to the receive fields may follow. -/
theorem Receives.setRx {l l' : Link} (before : Receives l l') (rx : RxContext) :
    Receives l (l'.setRx rx) :=
  before.fields _ (by rfl)

/-- A First Frame leaves the transmission alone; the flow control it asks for is the receive
side's. -/
theorem process_first_frame_receives (l : Link) (hal : Nat) (f : CanFrame) :
    Receives l (processFirstFrame l hal f) := by
  have restarted := restart_rx_receives l .firstFrame
  unfold processFirstFrame
  simp only
  split
  · exact Receives.refl l
  · split
    · exact restarted.setRx _
    · rename_i totalSize off decoded
      have begun := (restarted.setRx (startRx (restartRx l .firstFrame).ctx.toRxContext hal f
        totalSize (firstFramePayload f totalSize off))).emit (.rxStarted f) trivial
      split
      · split
        · exact (restarted.trans (send_flow_control_receives _ _ _ _ _)).setRx _
        · split
          · exact ((begun.emit _ (by trivial)).emit _ (by trivial)).trans
              (send_flow_control_receives _ _ _ _ _)
          · exact (begun.emit _ (by trivial)).trans (send_flow_control_receives _ _ _ _ _)
      · exact begun.trans (send_flow_control_receives _ _ _ _ _)

/-- An event sent under a condition. -/
theorem Receives.emitIf {l l' : Link} (before : Receives l l') (due : Prop) [Decidable due]
    (e : Event) (ofRx : e.OfRx) : Receives l (if due then l'.emit e else l') := by
  by_cases met : due
  · rw [if_pos met]
    exact before.emit e ofRx
  · rw [if_neg met]
    exact before

/-- A Consecutive Frame leaves the transmission alone, up to a dispatch. -/
theorem receive_consecutive_receives (l : Link) (hal : Nat) (f : CanFrame) :
    Receives l (receiveConsecutive l hal f) := by
  unfold receiveConsecutive
  simp only
  split
  · exact Receives.refl l
  · split
    · exact ((abort_stream_rx_receives l).setRx _).emit _ (by trivial)
    · have continued := (Receives.refl l).emit (.rxContinued f) trivial
      exact ((continued.emitIf _ _ (by trivial)).emitIf _ _ (by trivial)).setRx _

/-- Reception as a whole leaves the transmission alone. -/
theorem receive_receives (l : Link) (hal : Nat) (f : CanFrame) : Receives l (receive l hal f) := by
  unfold receive
  simp only
  split
  · exact receive_single_frame_receives l f
  · split
    · exact process_first_frame_receives l hal f
    · split
      · exact receive_consecutive_receives l hal f
      · exact Receives.refl l

/-- Giving up a reception leaves the transmission alone. -/
theorem rx_timeout_receives (l : Link) (now : Nat) : Receives l (rxTimeout l now) := by
  unfold rxTimeout
  split
  · exact ((abort_stream_rx_receives l).fields _ (by rfl)).emit _ (by trivial)
  · exact Receives.refl l

/-- Giving up a transmission leaves the reception alone. -/
theorem tx_fc_timeout_transmits (l : Link) (now : Nat) : Transmits l (txFcTimeout l now) := by
  unfold txFcTimeout
  split
  · exact ((Transmits.refl l).fields _ (by rfl)).emit _ (by trivial)
  · exact Transmits.refl l

/-- The paced frames leave the reception alone. -/
theorem cf_pacing_transmits (l : Link) (now hal : Nat) : Transmits l (cfPacing l now hal) := by
  unfold cfPacing
  split
  · exact send_next_cf_transmits l hal
  · exact Transmits.refl l

/-- After the reception's time-out a tick is the transmit side's. -/
theorem tick_transmits (l : Link) (now hal : Nat) :
    Transmits (rxTimeout l now) (isoTpTick l now hal) :=
  (tx_fc_timeout_transmits _ now).trans (cf_pacing_transmits _ now hal)

/-! ### The stages of a dispatch -/

/-- What the layer above makes of the completed message. -/
def dispatchServed (above : Upper σ κ) (w : World σ) (hal : Nat) : Served σ :=
  above.dispatch w.upper hal w.link.ctx.rxBuffer w.link.ctx.rxTotalSize w.link.ctx.rxAddrType

/-- The link with the dispatch in its log. -/
def dispatchAsked (w : World σ) : Link :=
  w.link.emit
    (.dispatched (w.link.ctx.rxBuffer.take w.link.ctx.rxTotalSize) w.link.ctx.rxAddrType)

/-- The link after the messages that go out before the response. -/
def dispatchTold (above : Upper σ κ) (w : World σ) (hal : Nat) : Link :=
  sendAll (dispatchAsked w) hal (dispatchServed above w hal).sent

/-- The link that sends the response. -/
def dispatchRested (above : Upper σ κ) (w : World σ) (hal : Nat) : Link :=
  { dispatchTold above w hal with ctx := { (dispatchTold above w hal).ctx with rxState := .idle } }

/-- A dispatch ends with the response, sent from the link at rest. -/
theorem dispatch_completed_link (above : Upper σ κ) (w : World σ) (hal : Nat) :
    (dispatchCompletedMessage above w hal).link =
      isoTpSendResponse (dispatchRested above w hal) hal
        (responseId (dispatchRested above w hal).ctx)
        (dispatchServed above w hal).response := rfl

/-- Until the response is sent, a dispatch only ends the reception. -/
theorem dispatch_rested_rx (above : Upper σ κ) (w : World σ) (hal : Nat) :
    (dispatchRested above w hal).ctx.toRxContext =
      { w.link.ctx.toRxContext with rxState := .idle } := by
  have told := (send_all_transmits (dispatchAsked w) hal (dispatchServed above w hal).sent).rx
  calc (dispatchRested above w hal).ctx.toRxContext
      = { (dispatchTold above w hal).ctx.toRxContext with rxState := .idle } := rfl
    _ = { w.link.ctx.toRxContext with rxState := .idle } := by rw [dispatchTold, told]; rfl

/-- The response goes to the sender of the request. -/
theorem dispatch_rested_id (above : Upper σ κ) (w : World σ) (hal : Nat) :
    responseId (dispatchRested above w hal).ctx = responseId w.link.ctx := by
  have rested := dispatch_rested_rx above w hal
  have addr := congrArg RxContext.rxAddrType rested
  have sender := congrArg RxContext.rxCanId rested
  rw [responseId, responseId, addr, sender]

/-- A dispatch logs the request, then what the transmit side does with the
answers, and leaves the reception idle. -/
theorem dispatch_completed_spec (above : Upper σ κ) (w : World σ) (hal : Nat) :
    let after := (dispatchCompletedMessage above w hal).link
    after.ctx.toRxContext = { w.link.ctx.toRxContext with rxState := .idle } ∧
      after.streamSink = w.link.streamSink ∧
      ∃ events, after.log = w.link.log ++
          .dispatched (w.link.ctx.rxBuffer.take w.link.ctx.rxTotalSize) w.link.ctx.rxAddrType ::
            events ∧
        ∀ e ∈ events, e.OfTx := by
  intro after
  have first : Transmits (dispatchAsked w) (dispatchTold above w hal) :=
    send_all_transmits (dispatchAsked w) hal _
  have second : Transmits (dispatchRested above w hal) after :=
    send_response_transmits (dispatchRested above w hal) hal _ _
  obtain ⟨events, log, ofTx⟩ := first.log
  obtain ⟨events', log', ofTx'⟩ := second.log
  refine ⟨?_, ?_, events ++ events', ?_, ?_⟩
  · exact second.rx.trans (dispatch_rested_rx above w hal)
  · exact second.sink.trans first.sink
  · calc after.log = (dispatchTold above w hal).log ++ events' := log'
      _ = (dispatchAsked w).log ++ events ++ events' := by rw [log]
      _ = _ := by simp [dispatchAsked, Link.emit]
  · intro e member
    rcases List.mem_append.mp member with early | late
    · exact ofTx e early
    · exact ofTx' e late

/-! ### The kinds of frames -/

/-- The frame type selects the reception of a Single Frame. -/
theorem receive_single (l : Link) (hal : Nat) (f : CanFrame)
    (kind : byte f.data 0 &&& 0xF0 = isoTpPciSingleFrame) :
    receive l hal f = receiveSingleFrame l f := by
  simp only [receive, kind, if_true]

/-- The frame type selects the reception of a First Frame. -/
theorem receive_first (l : Link) (hal : Nat) (f : CanFrame)
    (kind : byte f.data 0 &&& 0xF0 = isoTpPciFirstFrame) :
    receive l hal f = processFirstFrame l hal f := by
  have other : isoTpPciFirstFrame ≠ isoTpPciSingleFrame := by decide
  simp only [receive, kind, if_neg other, if_true]

/-- The frame type selects the reception of a Consecutive Frame. -/
theorem receive_consecutive (l : Link) (hal : Nat) (f : CanFrame)
    (kind : byte f.data 0 &&& 0xF0 = isoTpPciConsecutive) :
    receive l hal f = receiveConsecutive l hal f := by
  have single : isoTpPciConsecutive ≠ isoTpPciSingleFrame := by decide
  have first : isoTpPciConsecutive ≠ isoTpPciFirstFrame := by decide
  simp only [receive, kind, if_neg single, if_neg first, if_true]

/-- The last byte of a message keeps its addressing type. -/
theorem finish_rx_address (c : RxContext) : (finishRx c).rxAddrType = c.rxAddrType := by
  unfold finishRx
  split
  · rfl
  · split <;> rfl

/-- A frame on the functional address keeps the addressing type it arrived with. -/
theorem receive_functional (l : Link) (hal : Nat) (f : CanFrame)
    (functional : l.ctx.rxAddrType = .functional) :
    (receive l hal f).ctx.rxAddrType = .functional := by
  unfold receive
  simp only
  split
  · simp only [receiveSingleFrame, emit_ctx]
    rw [restart_rx_address, functional]
  · split
    · rw [processFirstFrame, if_pos functional, functional]
    · split
      · unfold receiveConsecutive
        simp only
        split
        · exact functional
        · split
          · simp only [emit_ctx, set_rx_ctx, abort_stream_rx_ctx]
            exact functional
          · simp only [set_rx_ctx, finish_rx_address]
            exact functional
      · exact functional

/-- A frame for this node that is not flow control is received, then dispatched
if it completes a message. -/
theorem process_frame_spec (above : Upper σ κ) (w : World σ) (hal : Nat) (f : CanFrame)
    (sized : f.dlc ≠ 0) (data : byte f.data 0 &&& 0xF0 ≠ isoTpPciFlowControl)
    (mine : canAddrClassify f.canId ≠ .ignore) :
    isoTpProcessFrame above w hal f =
      dispatchIfComplete above
        ⟨receive (w.link.addressed (canAddrClassify f.canId)) hal f, w.upper⟩ hal := by
  rw [isoTpProcessFrame, if_neg sized, if_neg data]
  cases classified : canAddrClassify f.canId with
  | ignore => exact absurd classified mine
  | physical => rfl
  | functional => rfl

/-- The reception a frame completes, as the layer above is shown it. -/
def completing (l : Link) (hal : Nat) (f : CanFrame) : Option RxContext :=
  let l := receive (l.addressed (canAddrClassify f.canId)) hal f
  if f.dlc ≠ 0 ∧ byte f.data 0 &&& 0xF0 ≠ isoTpPciFlowControl ∧
      canAddrClassify f.canId ≠ .ignore ∧ l.ctx.rxState = .complete then
    some l.ctx.toRxContext
  else none

/-- Without a complete message nothing is dispatched. -/
theorem dispatch_nothing (above : Upper σ κ) (w : World σ) (hal : Nat)
    (partly : w.link.ctx.rxState ≠ .complete) : dispatchIfComplete above w hal = w :=
  if_neg partly

/-- A frame reaches the layer above when it completes a request, and only then. -/
theorem process_frame_upper (above : Upper σ κ) (w : World σ) (hal : Nat) (f : CanFrame) :
    (isoTpProcessFrame above w hal f).upper =
      match completing w.link hal f with
      | none => w.upper
      | some c => (above.dispatch w.upper hal c.rxBuffer c.rxTotalSize c.rxAddrType).state := by
  by_cases sized : f.dlc = 0
  · rw [isoTpProcessFrame, if_pos sized, completing, if_neg (fun all => all.1 sized)]
  · by_cases flow : byte f.data 0 &&& 0xF0 = isoTpPciFlowControl
    · rw [isoTpProcessFrame, if_neg sized, if_pos flow, completing,
        if_neg (fun all => all.2.1 flow)]
    · by_cases mine : canAddrClassify f.canId = .ignore
      · rw [isoTpProcessFrame, if_neg sized, if_neg flow, mine, completing,
          if_neg (fun all => all.2.2.1 mine)]
      · rw [process_frame_spec above w hal f sized flow mine, completing]
        by_cases complete :
            (receive (w.link.addressed (canAddrClassify f.canId)) hal f).ctx.rxState = .complete
        · rw [if_pos ⟨sized, flow, mine, complete⟩, dispatchIfComplete, if_pos complete]
          rfl
        · rw [if_neg (fun all => complete all.2.2.2), dispatch_nothing above _ hal complete]

end ObdSimulator.IsoTp
