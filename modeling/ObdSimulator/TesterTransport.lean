import ObdSimulator.Reassembly
import ObdSimulator.ResponseFrames
import ObdSimulator.TesterFrames

/-!
# A request of the tester through the transport

What each frame of a request makes the transport of the other end do, whatever is
above it: a short request is dispatched with its frame, a long one is granted with its
First Frame and dispatched with its last. A frame out of its place ends the
reception, and nothing is dispatched then. The transmit queue of the other end may
refuse frames, or it may not.
-/

namespace ObdSimulator.Tester

open Bytes IsoTp
open Dialogue (Leftover)
open AppMain (Short one_frame_iff)

universe u v
variable {σ : Type u} {κ : Type v} {lossy : Prop}

/-- Between two calls of the transport: it transmits nothing segmented, its reception
has a whole buffer, and its queue refuses nothing unless frames get lost. -/
structure Calm (lossy : Prop) (l : Link) : Prop where
  tx : l.ctx.txState = .idle
  held : ∃ past, Held past l.ctx.toRxContext
  ready : Ready l.ctx.toRxContext
  queue : lossy ∨ l.faults = []

/-- A calm link has a whole buffer. -/
theorem Calm.room {l : Link} (calm : Calm lossy l) :
    l.ctx.rxBuffer.length = isoTpMaxMessageSize := by
  obtain ⟨past, held⟩ := calm.held
  exact held.room

/-- The log is no part of it. -/
theorem Calm.quiet {w : World σ} (calm : Calm lossy w.link) : Calm lossy w.quiet.link :=
  ⟨calm.tx, calm.held, calm.ready, calm.queue⟩

/-! ## What is queued -/

/-- The link queued some more frames, and its transmission and its queue are as before. -/
structure Queues (lossy : Prop) (l l' : Link) (frames : List TxFrame) : Prop where
  tx : l'.ctx.txState = l.ctx.txState
  queue : lossy ∨ l.faults = [] → lossy ∨ l'.faults = []
  frames : lossy ∨ l.faults = [] →
    ∃ got, queuedFrames l'.log = queuedFrames l.log ++ got ∧ Leftover lossy got frames

/-- Nothing is queued yet. -/
theorem Queues.refl (l : Link) : Queues lossy l l [] :=
  ⟨rfl, id, fun _ => ⟨[], (List.append_nil _).symm, .whole []⟩⟩

/-- What is queued first comes first. -/
theorem Queues.trans {l l' l'' : Link} {frames frames' : List TxFrame}
    (first : Queues lossy l l' frames) (second : Queues lossy l' l'' frames') :
    Queues lossy l l'' (frames ++ frames') := by
  refine ⟨second.tx.trans first.tx, fun queue => second.queue (first.queue queue), ?_⟩
  intro queue
  obtain ⟨got, log, left⟩ := first.frames queue
  obtain ⟨got', log', left'⟩ := second.frames (first.queue queue)
  exact ⟨got ++ got', by rw [log', log, List.append_assoc], left.append left'⟩

/-- A step that queues nothing. -/
theorem Queues.plain {l l' : Link} (tx : l'.ctx.txState = l.ctx.txState)
    (faults : l'.faults = l.faults) (log : queuedFrames l'.log = queuedFrames l.log) :
    Queues lossy l l' [] :=
  ⟨tx, fun queue => by rw [faults]; exact queue,
    fun _ => ⟨[], by rw [log, List.append_nil], .whole []⟩⟩

/-- Noting anything but a frame queues nothing. -/
theorem Queues.emit {l l' : Link} {frames : List TxFrame} (before : Queues lossy l l' frames)
    (e : Event) (silent : queuedFrames [e] = []) : Queues lossy l (l'.emit e) frames := by
  have after : Queues lossy l' (l'.emit e) [] :=
    .plain rfl rfl (by rw [emit_log, queued_frames_append, silent, List.append_nil])
  simpa using before.trans after

/-- Changing the receive fields queues nothing. -/
theorem Queues.setRx {l l' : Link} {frames : List TxFrame} (before : Queues lossy l l' frames)
    (rx : RxContext) : Queues lossy l (l'.setRx rx) frames := by
  have after : Queues lossy l' (l'.setRx rx) [] := .plain rfl rfl rfl
  simpa using before.trans after

/-- A frame is queued, or lost where frames get lost. -/
theorem add_message_queues (l : Link) (frame : TxFrame) :
    Queues lossy l (addMessageToTxFifoQ l frame).1 [frame] := by
  have one : queuedFrames [.queued frame] = [frame] := rfl
  have none : queuedFrames [.lost frame] = [] := rfl
  unfold addMessageToTxFifoQ
  split
  · rename_i refuses
    have loses : lossy ∨ l.faults = [] → lossy := by
      rintro (loses | empty)
      · exact loses
      · rw [empty] at refuses
        cases refuses
    refine ⟨rfl, fun queue => Or.inl (loses queue), fun queue => ⟨[], ?_, .lost _ (loses queue)⟩⟩
    simp only [queued_frames_append, none]
  · refine ⟨rfl, ?_, fun _ => ⟨[frame], ?_, .whole _⟩⟩
    · intro queue
      exact queue.imp_right fun empty => by simp [empty]
    · simp only [queued_frames_append, one]

/-- The frames of some short messages on the response identifier. -/
def answerFrames (messages : List (List UInt8)) : List TxFrame :=
  (messages.filter (· ≠ [])).map (IsoTp.singleFrame canIdPhysicalResp)

/-- The frame of the first message, then those of the others. -/
theorem answer_frames_cons (message : List UInt8) (rest : List (List UInt8)) :
    answerFrames (message :: rest) = answerFrames [message] ++ answerFrames rest := by
  rw [answerFrames, answerFrames, answerFrames, ← List.map_append, ← List.filter_append]
  rfl

/-- A short message queues one frame, silence none. -/
theorem send_response_queues (l : Link) (hal : Nat) (message : List UInt8)
    (short : Short message) :
    Queues lossy l (isoTpSendResponse l hal canIdPhysicalResp message)
      (answerFrames [message]) := by
  by_cases empty : message = []
  · rw [empty]
    exact .refl l
  · have frames : answerFrames [message] = [IsoTp.singleFrame canIdPhysicalResp message] := by
      simp [answerFrames, empty]
    rw [frames, ((one_frame_iff message).mpr short).whole empty l hal canIdPhysicalResp]
    exact add_message_queues l _

/-- Short messages queue their frames in order. -/
theorem send_all_queues (l : Link) (hal : Nat) (messages : List (List UInt8))
    (short : ∀ message ∈ messages, Short message) :
    Queues lossy l (sendAll l hal messages) (answerFrames messages) := by
  induction messages generalizing l with
  | nil => exact .refl l
  | cons message rest ih =>
    rw [answer_frames_cons]
    exact (send_response_queues l hal message (short message List.mem_cons_self)).trans
      (ih _ fun later member => short later (List.mem_cons_of_mem _ member))

/-! ## What a reception queues -/

/-- Aborting a stream queues nothing. -/
theorem abort_stream_rx_queues (l : Link) : Queues lossy l (abortStreamRx l) [] := by
  unfold abortStreamRx
  split
  · exact ((Queues.refl l).emit _ rfl).setRx _
  · exact (Queues.refl l).setRx _

/-- A restart of the reception queues nothing. -/
theorem restart_rx_queues (l : Link) (reason : Drop) : Queues lossy l (restartRx l reason) [] := by
  unfold restartRx
  split
  · exact (abort_stream_rx_queues l).emit _ rfl
  · exact .refl l

/-- A Single Frame queues nothing before its dispatch. -/
theorem receive_single_queues (l : Link) (f : CanFrame) :
    Queues lossy l (receiveSingleFrame l f) [] :=
  ((restart_rx_queues l .singleFrame).setRx _).emit _ rfl

/-- A Consecutive Frame queues nothing before a dispatch. -/
theorem receive_consecutive_queues (l : Link) (hal : Nat) (f : CanFrame) :
    Queues lossy l (receiveConsecutive l hal f) [] := by
  have continued : Queues lossy l (l.emit (.rxContinued f)) [] := (Queues.refl l).emit _ rfl
  have emitted {l' : Link} (before : Queues lossy l l' []) (due : Prop) [Decidable due] (e : Event)
      (silent : queuedFrames [e] = []) : Queues lossy l (if due then l'.emit e else l') [] := by
    split
    · exact before.emit e silent
    · exact before
  unfold receiveConsecutive
  simp only
  split
  · exact .refl l
  · split
    · exact ((abort_stream_rx_queues l).setRx _).emit _ rfl
    · exact (emitted (emitted continued _ _ rfl) _ _ rfl).setRx _

/-- The First Frame of a request is granted. -/
theorem receive_first_queues (message : List UInt8) (l : Link) (hal : Nat) (f : CanFrame)
    (fits : message.length ≤ isoTpMaxMessageSize) (sender : f.canId = requestId)
    (physical : l.ctx.rxAddrType = .physical)
    (kind : byte f.data 0 &&& 0xF0 = isoTpPciFirstFrame)
    (decoded : firstFrameSize f = some (message.length, 2)) :
    Queues lossy l (receive l hal f) [flowControl] := by
  have functional : l.ctx.rxAddrType ≠ .functional := by
    rw [physical]
    decide
  rw [receive_first l hal f kind, processFirstFrame, if_neg functional]
  simp only [decoded, if_neg (Nat.not_lt.mpr fits), sender]
  exact (((restart_rx_queues l .firstFrame).setRx _).emit (.rxStarted f) rfl).trans
    (add_message_queues _ _)

/-! ## One frame -/

/-- A frame that completes nothing is received, and that is all. -/
theorem step_partly (above : Upper σ κ) (w : World σ) (hal : Nat) (f : CanFrame)
    (sized : f.dlc ≠ 0) (data : byte f.data 0 &&& 0xF0 ≠ isoTpPciFlowControl)
    (mine : canAddrClassify f.canId = .physical)
    (partly : (receive (w.quiet.link.addressed .physical) hal f).ctx.rxState ≠ .complete) :
    step above w (.frame hal f) =
      (⟨receive (w.quiet.link.addressed .physical) hal f, w.upper⟩,
        (receive (w.quiet.link.addressed .physical) hal f).log) := by
  have other : canAddrClassify f.canId ≠ .ignore := by
    rw [mine]
    decide
  have spec := process_frame_spec above w.quiet hal f sized data other
  rw [mine, dispatch_nothing above _ hal partly] at spec
  rw [step, act, spec]
  rfl

/-- A frame that completes a request is dispatched. -/
theorem step_completes (above : Upper σ κ) (w : World σ) (hal : Nat) (f : CanFrame)
    (sized : f.dlc ≠ 0) (data : byte f.data 0 &&& 0xF0 ≠ isoTpPciFlowControl)
    (mine : canAddrClassify f.canId = .physical)
    (complete : (receive (w.quiet.link.addressed .physical) hal f).ctx.rxState = .complete) :
    let r := dispatchCompletedMessage above
      ⟨receive (w.quiet.link.addressed .physical) hal f, w.upper⟩ hal
    step above w (.frame hal f) = (r, r.link.log) := by
  intro r
  have other : canAddrClassify f.canId ≠ .ignore := by
    rw [mine]
    decide
  have spec := process_frame_spec above w.quiet hal f sized data other
  rw [mine, dispatchIfComplete, if_pos complete] at spec
  rw [step, act, spec]
  rfl

/-- What a completed request leads to: the layer above answers it, and what it answers
is queued. -/
structure Answered (lossy : Prop) (above : Upper σ κ) (w : World σ) (request : List UInt8)
    (hal : Nat) (r : World σ × List Event) : Prop where
  answers : ∃ buffer, buffer.take request.length = request ∧
    let served := above.dispatch w.upper hal buffer request.length .physical
    r.1.upper = served.state ∧
      ((∀ m ∈ served.sent ++ [served.response], Short m) →
        r.1.link.ctx.txState = .idle ∧ (lossy ∨ r.1.link.faults = []) ∧
          Leftover lossy (queuedFrames r.2) (answerFrames (served.sent ++ [served.response])))

/-- The messages of a dispatch, sent one after the other. -/
theorem dispatch_answers (above : Upper σ κ) (w : World σ) (request : List UInt8) (hal : Nat)
    (l : Link) (queues : Queues lossy w.quiet.link l []) (calm : Calm lossy w.link)
    (stored : l.ctx.rxBuffer.take l.ctx.rxTotalSize = request)
    (total : l.ctx.rxTotalSize = request.length) (physical : l.ctx.rxAddrType = .physical)
    (sender : l.ctx.rxCanId = requestId) :
    let r := dispatchCompletedMessage above ⟨l, w.upper⟩ hal
    Answered lossy above w request hal (r, r.link.log) := by
  intro r
  refine ⟨l.ctx.rxBuffer, by rw [← total, stored], ?_⟩
  intro served
  have same : above.dispatch w.upper hal l.ctx.rxBuffer l.ctx.rxTotalSize l.ctx.rxAddrType =
      served := by rw [total, physical]
  refine ⟨congrArg Served.state same, ?_⟩
  intro short
  have sent_short : ∀ m ∈ served.sent, Short m :=
    fun m member => short m (List.mem_append_left _ member)
  have response_short := short served.response
    (List.mem_append_right _ (List.mem_singleton_self _))
  obtain ⟨asked, asked_def⟩ : ∃ asked, asked =
    l.emit (.dispatched (l.ctx.rxBuffer.take l.ctx.rxTotalSize) l.ctx.rxAddrType) := ⟨_, rfl⟩
  have asked_queues : Queues lossy w.quiet.link asked [] := by
    rw [asked_def]
    exact queues.emit _ rfl
  obtain ⟨told, told_def⟩ : ∃ told, told = (sendAll asked hal served.sent).setRx
    { (sendAll asked hal served.sent).ctx.toRxContext with rxState := .idle } := ⟨_, rfl⟩
  have told_queues := (asked_queues.trans (send_all_queues asked hal served.sent sent_short)).setRx
    { (sendAll asked hal served.sent).ctx.toRxContext with rxState := .idle }
  rw [← told_def] at told_queues
  have answered := told_queues.trans (send_response_queues told hal served.response response_short)
  have identifier : IsoTp.responseId told.ctx = canIdPhysicalResp := by
    have rx := (send_all_transmits asked hal served.sent).rx
    have kept : told.ctx.toRxContext = { l.ctx.toRxContext with rxState := .idle } := by
      rw [told_def, set_rx_ctx]
      simp only [rx]
      rw [asked_def]
      rfl
    have addr : told.ctx.rxAddrType = .physical :=
      (congrArg RxContext.rxAddrType kept).trans physical
    have id : told.ctx.rxCanId = requestId := (congrArg RxContext.rxCanId kept).trans sender
    rw [IsoTp.responseId, addr, id, if_neg (by decide)]
    rfl
  have link : r.link = isoTpSendResponse told hal canIdPhysicalResp served.response := by
    rw [← identifier, told_def, asked_def]
    simp only [r, dispatchCompletedMessage, same]
    rfl
  rw [← link] at answered
  have frames : [] ++ answerFrames served.sent ++ answerFrames [served.response] =
      answerFrames (served.sent ++ [served.response]) := by
    rw [List.nil_append, answerFrames, answerFrames, answerFrames, ← List.map_append,
      ← List.filter_append]
  rw [frames] at answered
  obtain ⟨got, log, left⟩ := answered.frames calm.queue
  refine ⟨answered.tx.trans calm.tx, answered.queue calm.queue, ?_⟩
  have quiet : queuedFrames w.quiet.link.log = [] := rfl
  rw [quiet, List.nil_append] at log
  rw [log]
  exact left

/-- A call that leaves the transmission idle and the queue taking leaves the link calm. -/
theorem step_calm (above : Upper σ κ) (w : World σ) (i : Input κ) (calm : Calm lossy w.link)
    (tx : (step above w i).1.link.ctx.txState = .idle)
    (queue : lossy ∨ (step above w i).1.link.faults = []) : Calm lossy (step above w i).1.link := by
  obtain ⟨past, held⟩ := calm.held
  have reception := step_reception above w i calm.ready.dispatched
  exact ⟨tx, ⟨_, step_held past _ _ _ i held reception⟩, reception.ready calm.ready, queue⟩

/-- A frame that completes nothing, and what it makes the link queue. -/
theorem step_received (above : Upper σ κ) (w : World σ) (hal : Nat) (f : CanFrame)
    (frames : List TxFrame) (sized : f.dlc ≠ 0)
    (data : byte f.data 0 &&& 0xF0 ≠ isoTpPciFlowControl)
    (mine : canAddrClassify f.canId = .physical) (calm : Calm lossy w.link)
    (partly : (receive (w.quiet.link.addressed .physical) hal f).ctx.rxState ≠ .complete)
    (queues : Queues lossy w.quiet.link (receive (w.quiet.link.addressed .physical) hal f) frames) :
    let r := step above w (.frame hal f)
    r.1 = ⟨receive (w.quiet.link.addressed .physical) hal f, w.upper⟩ ∧
      Leftover lossy (queuedFrames r.2) frames ∧ Calm lossy r.1.link := by
  intro r
  have step_eq := step_partly above w hal f sized data mine partly
  obtain ⟨got, log, left⟩ := queues.frames calm.queue
  have quiet : queuedFrames w.quiet.link.log = [] := rfl
  rw [quiet, List.nil_append] at log
  refine ⟨by simp only [r, step_eq], ?_, ?_⟩
  · simp only [r, step_eq, log]
    exact left
  · refine step_calm above w _ calm ?_ ?_
    · rw [step_eq]
      exact queues.tx.trans calm.tx
    · rw [step_eq]
      exact queues.queue calm.queue

/-! ## A short request -/

/-- A request in one frame is dispatched, whatever was received before. -/
theorem single_frame_asked (above : Upper σ κ) (w : World σ) (hal : Nat) (payload : List UInt8)
    (filled : 0 < payload.length) (short : payload.length ≤ 62) (calm : Calm lossy w.link) :
    Answered lossy above w payload hal
      (step above w (.frame hal (heard (singleFrame payload)))) := by
  obtain ⟨sized, kind, decoded⟩ := single_frame_heard payload filled short
  have mine : canAddrClassify (heard (singleFrame payload)).canId = .physical := by
    rw [single_frame_padded]
    exact heard_physical _
  have sender : (heard (singleFrame payload)).canId = requestId := by
    rw [single_frame_padded]
    rfl
  generalize heard (singleFrame payload) = f at sized kind decoded mine sender
  obtain ⟨complete, stored, addr⟩ :=
    receive_single_decoded payload (w.quiet.link.addressed .physical) hal f kind decoded
  have queues :
      Queues lossy w.quiet.link (receive (w.quiet.link.addressed .physical) hal f) [] := by
    rw [receive_single _ hal f kind]
    exact ((Queues.refl _).setRx _).trans (receive_single_queues _ f)
  have total : (receive (w.quiet.link.addressed .physical) hal f).ctx.rxTotalSize =
      payload.length := by
    rw [receive_single _ hal f kind, ← decoded]
    rfl
  have from_tester : (receive (w.quiet.link.addressed .physical) hal f).ctx.rxCanId =
      requestId := by
    rw [receive_single _ hal f kind, ← sender]
    rfl
  rw [step_completes above w hal f sized (by rw [kind]; decide) mine complete]
  exact dispatch_answers above w payload hal _ queues calm stored total addr from_tester

/-! ## A long request -/

/-- The First Frame of a long request starts its reception and is granted, whatever was
received before. -/
theorem first_frame_asked (above : Upper σ κ) (w : World σ) (hal : Nat) (payload : List UInt8)
    (long : 62 < payload.length) (fits : payload.length ≤ isoTpMaxMessageSize)
    (calm : Calm lossy w.link) :
    let r := step above w (.frame hal (heard (firstFrame payload)))
    r.1.upper = w.upper ∧ Receiving payload 1 r.1.link.ctx.toRxContext ∧
      r.1.link.ctx.rxReceived = 62 ∧ Leftover lossy (queuedFrames r.2) [flowControl] ∧
      Calm lossy r.1.link := by
  obtain ⟨sized, kind, decoded, part⟩ := first_frame_heard payload long fits
  have mine : canAddrClassify (heard (firstFrame payload)).canId = .physical := heard_physical _
  have sender : (heard (firstFrame payload)).canId = requestId := rfl
  generalize heard (firstFrame payload) = f at sized kind decoded part mine sender
  intro r
  have room : (w.quiet.link.addressed .physical).ctx.rxBuffer.length = isoTpMaxMessageSize :=
    calm.room
  obtain ⟨receiving, received⟩ := receive_first_decoded payload
    (w.quiet.link.addressed .physical) hal f long fits room rfl kind decoded part
  have queues : Queues lossy w.quiet.link (receive (w.quiet.link.addressed .physical) hal f)
      [flowControl] :=
    ((Queues.refl _).setRx _).trans
      (receive_first_queues payload _ hal f fits sender rfl kind decoded)
  obtain ⟨after, left, calm'⟩ := step_received above w hal f _ sized (by rw [kind]; decide) mine
    calm (by rw [receiving.state]; decide) queues
  exact ⟨by rw [after], by rw [after]; exact receiving, by rw [after]; exact received,
    left, calm'⟩

/-- The sequence number does not reach the frame type. -/
theorem consecutive_kind (position : Nat) :
    (isoTpPciConsecutive ||| UInt8.ofNat (position % 16)) &&& 0xF0 = isoTpPciConsecutive := by
  rw [← sequence_low, high_nibble _ _ (by decide)]

/-- A reception keeps who sends, what is announced and where it comes from. -/
theorem receive_consecutive_frame (l : Link) (hal : Nat) (f : CanFrame) :
    (receiveConsecutive l hal f).ctx.rxTotalSize = l.ctx.rxTotalSize ∧
      (receiveConsecutive l hal f).ctx.rxCanId = l.ctx.rxCanId := by
  unfold receiveConsecutive
  simp only
  split
  · exact ⟨rfl, rfl⟩
  · split
    · simp only [emit_ctx, set_rx_ctx, abort_stream_rx_ctx, and_self]
    · simp only [set_rx_ctx]
      unfold finishRx
      split
      · exact ⟨rfl, rfl⟩
      · split
        · exact ⟨rfl, rfl⟩
        · exact ⟨rfl, rfl⟩

/-- What the Consecutive Frame that comes next does to a reception of the request: it
goes on, or the request is dispatched. -/
theorem next_frame_asked (above : Upper σ κ) (w : World σ) (hal : Nat) (payload : List UInt8)
    (position : Nat) (fits : payload.length ≤ isoTpMaxMessageSize) (calm : Calm lossy w.link)
    (receiving : Receiving payload position w.link.ctx.toRxContext) :
    let r := step above w (.frame hal (heard (consecutiveFrame (UInt8.ofNat (position % 16))
      ((payload.drop w.link.ctx.rxReceived).take 63))))
    (r.1.upper = w.upper ∧ Receiving payload (position + 1) r.1.link.ctx.toRxContext ∧
        r.1.link.ctx.rxReceived = w.link.ctx.rxReceived + 63 ∧
        w.link.ctx.rxReceived + 63 < payload.length ∧ queuedFrames r.2 = [] ∧
        Calm lossy r.1.link) ∨
      (payload.length ≤ w.link.ctx.rxReceived + 63 ∧ Answered lossy above w payload hal r) := by
  have addressed : Receiving payload position
      (w.quiet.link.addressed .physical).ctx.toRxContext := receiving.address .physical
  obtain ⟨part, first, sized⟩ := consecutive_frame_heard payload position
    (w.quiet.link.addressed .physical).ctx.toRxContext addressed
  have mine : canAddrClassify (heard (consecutiveFrame (UInt8.ofNat (position % 16))
      ((payload.drop w.link.ctx.rxReceived).take 63))).canId = .physical := heard_physical _
  change consecutivePayload _ (heard (consecutiveFrame (UInt8.ofNat (position % 16))
    ((payload.drop w.link.ctx.rxReceived).take 63))) = _ at part
  change byte (heard (consecutiveFrame (UInt8.ofNat (position % 16))
    ((payload.drop w.link.ctx.rxReceived).take 63))).data 0 = _ at first
  change (heard (consecutiveFrame (UInt8.ofNat (position % 16))
    ((payload.drop w.link.ctx.rxReceived).take 63))).dlc ≠ 0 at sized
  generalize heard (consecutiveFrame (UInt8.ofNat (position % 16))
    ((payload.drop w.link.ctx.rxReceived).take 63)) = f at part first sized mine
  intro r
  have kind : byte f.data 0 &&& 0xF0 = isoTpPciConsecutive := by
    rw [first]
    exact consecutive_kind position
  have not_flow : byte f.data 0 &&& 0xF0 ≠ isoTpPciFlowControl := by
    rw [kind]
    decide
  have queues :
      Queues lossy w.quiet.link (receive (w.quiet.link.addressed .physical) hal f) [] := by
    rw [receive_consecutive _ hal f kind]
    exact ((Queues.refl _).setRx _).trans (receive_consecutive_queues _ hal f)
  rcases receive_consecutive_decoded payload position (w.quiet.link.addressed .physical) hal f fits
      addressed first part with ⟨next, received, more⟩ | ⟨complete, stored, addr, last⟩
  · obtain ⟨after, left, calm'⟩ := step_received above w hal f _ sized not_flow mine calm
      (by rw [next.state]; decide) queues
    exact Or.inl ⟨by rw [after], by rw [after]; exact next,
      by rw [after]; exact received, more, left.of_nil, calm'⟩
  · have kept := receive_consecutive_frame (w.quiet.link.addressed .physical) hal f
    rw [← receive_consecutive _ hal f kind] at kept
    refine Or.inr ⟨last, ?_⟩
    simp only [r]
    rw [step_completes above w hal f sized not_flow mine complete]
    exact dispatch_answers above w payload hal _ queues calm stored
      (kept.1.trans addressed.total) addr (kept.2.trans (calm.ready.sender receiving.state))

/-- A Consecutive Frame that no reception waits for, or out of its place, leads to
nothing, and no reception waits after it. -/
theorem stray_frame_asked (above : Upper σ κ) (w : World σ) (hal : Nat) (f : CanFrame)
    (sized : f.dlc ≠ 0) (kind : byte f.data 0 &&& 0xF0 = isoTpPciConsecutive)
    (mine : canAddrClassify f.canId = .physical) (calm : Calm lossy w.link)
    (stray : w.link.ctx.rxState = .waitCf → byte f.data 0 &&& 0x0F ≠ w.link.ctx.rxExpectedSeq) :
    let r := step above w (.frame hal f)
    r.1.upper = w.upper ∧ r.1.link.ctx.rxState ≠ .waitCf ∧ queuedFrames r.2 = [] ∧
      Calm lossy r.1.link := by
  intro r
  have not_flow : byte f.data 0 &&& 0xF0 ≠ isoTpPciFlowControl := by
    rw [kind]
    decide
  have queues :
      Queues lossy w.quiet.link (receive (w.quiet.link.addressed .physical) hal f) [] := by
    rw [receive_consecutive _ hal f kind]
    exact ((Queues.refl _).setRx _).trans (receive_consecutive_queues _ hal f)
  have ended : (receive (w.quiet.link.addressed .physical) hal f).ctx.rxState ≠ .waitCf ∧
      (receive (w.quiet.link.addressed .physical) hal f).ctx.rxState ≠ .complete := by
    rw [receive_consecutive _ hal f kind, receiveConsecutive]
    by_cases waiting : w.link.ctx.rxState = .waitCf
    · have waiting' : ¬ (w.quiet.link.addressed .physical).ctx.toRxContext.rxState ≠ .waitCf :=
        not_not.mpr waiting
      have wrong : byte f.data 0 &&& 0x0F ≠
          (w.quiet.link.addressed .physical).ctx.toRxContext.rxExpectedSeq := stray waiting
      simp only [if_neg waiting', if_pos wrong, emit_ctx, set_rx_ctx]
      decide
    · have waiting' : (w.quiet.link.addressed .physical).ctx.toRxContext.rxState ≠ .waitCf :=
        waiting
      simp only [if_pos waiting']
      exact ⟨waiting, calm.ready.dispatched⟩
  obtain ⟨after, left, calm'⟩ := step_received above w hal f _ sized not_flow mine calm ended.2
    queues
  exact ⟨by rw [after], by rw [after]; exact ended.1, left.of_nil, calm'⟩

/-! ## Time -/

/-- Giving up a reception queues nothing. -/
theorem rx_timeout_queues (l : Link) (now : Nat) : Queues lossy l (rxTimeout l now) [] := by
  unfold rxTimeout
  split
  · exact ((abort_stream_rx_queues l).setRx _).emit _ rfl
  · exact .refl l

/-- A tick of a calm link queues nothing, and at most ends a reception that is late. -/
theorem tick_asked (above : Upper σ κ) (w : World σ) (now hal : Nat) (calm : Calm lossy w.link) :
    let r := step above w (.tick now hal)
    r.1.upper = w.upper ∧ queuedFrames r.2 = [] ∧ Calm lossy r.1.link ∧
      (r.1.link.ctx.toRxContext = w.link.ctx.toRxContext ∨
        (r.1.link.ctx.rxState ≠ .waitCf ∧ w.link.ctx.rxState = .waitCf ∧
          isoTpRxTimeoutMs ≤ elapsed now w.link.ctx.lastRxTick)) := by
  intro r
  have queues : Queues lossy w.quiet.link (rxTimeout w.quiet.link now) [] :=
    rx_timeout_queues w.quiet.link now
  have idle : (rxTimeout w.quiet.link now).ctx.txState = .idle := queues.tx.trans calm.tx
  have still : isoTpTick w.quiet.link now hal = rxTimeout w.quiet.link now := by
    have silent : ∀ due, ¬ ((rxTimeout w.quiet.link now).ctx.txState = .waitFc ∧ due) ∧
        ¬ ((rxTimeout w.quiet.link now).ctx.txState = .sendCf ∧ due) := by
      intro due
      rw [idle]
      exact ⟨fun both => absurd both.1 (by decide), fun both => absurd both.1 (by decide)⟩
    rw [isoTpTick, txFcTimeout, if_neg (silent _).1, cfPacing, if_neg (silent _).2]
  have link : r.1.link = rxTimeout w.quiet.link now := still
  obtain ⟨got, log, left⟩ := queues.frames calm.queue
  rw [left.of_nil] at log
  refine ⟨rfl, ?_, ?_, ?_⟩
  · change queuedFrames r.1.link.log = []
    rw [link, log]
    rfl
  · refine step_calm above w _ calm ?_ ?_
    · change r.1.link.ctx.txState = .idle
      rw [link, idle]
    · change lossy ∨ r.1.link.faults = []
      rw [link]
      exact queues.queue calm.queue
  · rw [link, rxTimeout]
    split
    · rename_i late
      refine Or.inr ⟨?_, late.1, late.2⟩
      rw [emit_ctx]
      intro same
      cases same
    · exact Or.inl rfl

end ObdSimulator.Tester
