import ObdSimulator.IsoTp

/-!
# What a reception holds

The frames a reception was built from are read off the history: a First Frame
starts it, Consecutive Frames continue it, a Single Frame is a reception of its
own. While a buffered reception waits, the buffer holds the payload of these
frames; a request of several frames is that payload, cut to its announced length.

The frames of a reception come from one address as long as no Consecutive Frame
arrives on the functional address while a reception waits.
-/

namespace ObdSimulator.IsoTp

open Bytes

universe u v

variable {σ : Type u} {κ : Type v}

/-! ## What a received frame does -/

/-- An event that adds no frame to a reception and dispatches nothing. -/
def Event.Inert : Event → Prop
  | .rxSingle _ | .rxStarted _ | .rxContinued _ | .dispatched _ _ => False
  | _ => True

/-- The transmit side tells nothing about a reception. -/
theorem Event.OfTx.inert {e : Event} (ofTx : e.OfTx) : e.Inert := by
  cases e <;> trivial

/-- A frame for the queue tells nothing about a reception, whatever becomes of it. -/
theorem add_message_inert (l : Link) (frame : TxFrame) :
    Logs Event.Inert l (addMessageToTxFifoQ l frame).1 := by
  rcases add_message_cases l frame with refused | taken
  · rw [refused]
    exact Logs.one _ _ rfl trivial
  · rw [taken]
    exact Logs.one _ _ rfl trivial

/-- Aborting a stream takes no frame. -/
theorem abort_stream_rx_inert (l : Link) : Logs Event.Inert l (abortStreamRx l) :=
  abort_stream_rx_logs l (fun _ => trivial)

/-- A restart takes no frame. -/
theorem restart_rx_inert (l : Link) (reason : Drop) : Logs Event.Inert l (restartRx l reason) := by
  unfold restartRx
  split
  · exact (abort_stream_rx_inert l).trans (Logs.one _ (.rxDropped reason) rfl trivial)
  · exact Logs.same _ rfl

/-- Transmitting takes no frame. -/
theorem Transmits.inert {l l' : Link} (transmits : Transmits l l') : Logs Event.Inert l l' := by
  obtain ⟨events, log, ofTx⟩ := transmits.log
  exact ⟨events, log, fun e member => (ofTx e member).inert⟩

/-- An event of the kind that is noted on a condition. -/
theorem Logs.emitIf {kind : Event → Prop} {l l' : Link} (before : Logs kind l l') (due : Prop)
    [Decidable due] (e : Event) (allowed : kind e) :
    Logs kind l (if due then l'.emit e else l') := by
  by_cases met : due
  · rw [if_pos met]
    exact before.trans (Logs.one kind e rfl allowed)
  · rw [if_neg met]
    exact before

/-- The receive fields of a reception given up. -/
def dropRx (c : RxContext) : RxContext := { c with streamMode := false, rxState := .idle }

/-- A Single Frame is complete at once. -/
theorem receive_single_frame_cases (l : Link) (f : CanFrame) :
    (receiveSingleFrame l f).ctx.rxState = .complete ∧
      (receiveSingleFrame l f).ctx.rxBuffer = memcpy l.ctx.rxBuffer 0 (singleFramePayload f) ∧
      (receiveSingleFrame l f).ctx.rxBuffer.take (receiveSingleFrame l f).ctx.rxTotalSize =
        singleFramePayload f ∧
      ∃ before, Logs Event.Inert l before ∧
        Logs Event.Inert (before.emit (.rxSingle f)) (receiveSingleFrame l f) := by
  have stored := memcpy_take (restartRx l .singleFrame).ctx.rxBuffer 0 (singleFramePayload f)
    (Nat.zero_le _)
  have buffer : (restartRx l .singleFrame).ctx.rxBuffer = l.ctx.rxBuffer := by
    rw [restart_rx_ctx]
    split
    · rfl
    · rfl
  refine ⟨rfl, ?_, ?_, restartRx l .singleFrame, restart_rx_inert l .singleFrame,
    Logs.same _ rfl⟩
  · simp only [receiveSingleFrame, emit_ctx, buffer]
  · simpa [receiveSingleFrame] using stored

/-- A First Frame that fits the buffer starts a reception. -/
theorem process_first_frame_starts (l : Link) (hal : Nat) (f : CanFrame) (totalSize off : Nat)
    (physical : l.ctx.rxAddrType ≠ .functional)
    (decoded : firstFrameSize f = some (totalSize, off)) (fits : totalSize ≤ isoTpMaxMessageSize) :
    (processFirstFrame l hal f).ctx.toRxContext =
        startRx l.ctx.toRxContext hal f totalSize (firstFramePayload f totalSize off) ∧
      ∃ before, Logs Event.Inert l before ∧
        Logs Event.Inert (before.emit (.rxStarted f)) (processFirstFrame l hal f) := by
  have begun := start_rx_restart l .firstFrame hal f totalSize (firstFramePayload f totalSize off)
  simp only [processFirstFrame, if_neg physical, decoded, if_neg (Nat.not_lt.mpr fits), begun]
  refine ⟨by rw [send_flow_control_ctx]; rfl, _, restart_rx_inert l .firstFrame, ?_⟩
  exact (Logs.same _ rfl).trans (add_message_inert _ _)

/-- A First Frame is dropped on the functional address, ends the reception
because it cannot be received, or starts one. -/
theorem process_first_frame_cases (l : Link) (hal : Nat) (f : CanFrame) :
    let l' := processFirstFrame l hal f
    (l.ctx.rxAddrType = .functional ∧ l' = l) ∨
      (l.ctx.rxAddrType ≠ .functional ∧
        l'.ctx.toRxContext =
          { (restartRx l .firstFrame).ctx.toRxContext with rxState := .idle } ∧
        Logs Event.Inert l l') ∨
      (l.ctx.rxAddrType ≠ .functional ∧ ∃ totalSize off, firstFrameSize f = some (totalSize, off) ∧
        l'.ctx.toRxContext =
          startRx l.ctx.toRxContext hal f totalSize (firstFramePayload f totalSize off) ∧
        ∃ before, Logs Event.Inert l before ∧
          Logs Event.Inert (before.emit (.rxStarted f)) l') := by
  intro l'
  have restarted := restart_rx_inert l .firstFrame
  by_cases functional : l.ctx.rxAddrType = .functional
  · exact Or.inl ⟨functional, if_pos functional⟩
  · refine Or.inr ?_
    simp only [l', processFirstFrame, if_neg functional]
    cases decoded : firstFrameSize f with
    | none => exact Or.inl ⟨functional, rfl, restarted⟩
    | some found =>
      obtain ⟨totalSize, off⟩ := found
      have begun := start_rx_restart l .firstFrame hal f totalSize
        (firstFramePayload f totalSize off)
      simp only
      by_cases large : isoTpMaxMessageSize < totalSize
      · by_cases sink : (restartRx l .firstFrame).streamSink = false
        · rw [if_pos large, if_pos sink]
          have refused := add_message_inert (restartRx l .firstFrame) ⟨f.canId + 8, 0xA,
            padFrame [isoTpPciFlowControl ||| (isoTpFcOverflow &&& 0x0F), 0, 0]⟩
          refine Or.inl ⟨functional, ?_, restarted.trans refused⟩
          simp only [set_rx_ctx, send_flow_control_ctx]
        · rw [if_pos large, if_neg sink, begun]
          refine Or.inr ⟨functional, totalSize, off, rfl, ?_, _, restarted, ?_⟩
          · rw [send_flow_control_ctx]
            split
            · rfl
            · rfl
          · refine Logs.trans ?_ (add_message_inert _ _)
            exact ((Logs.same _ rfl).trans
              (Logs.one _ (.sink .begin [] totalSize) rfl trivial)).emitIf _ _ trivial
      · have starts := process_first_frame_starts l hal f totalSize off functional decoded
          (Nat.not_lt.mp large)
        simp only [processFirstFrame, if_neg functional, decoded] at starts
        exact Or.inr ⟨functional, totalSize, off, rfl, starts.1, starts.2⟩

/-- A Consecutive Frame is ignored, ends a reception out of sequence, or
continues it. -/
theorem receive_consecutive_cases (l : Link) (hal : Nat) (f : CanFrame) :
    let l' := receiveConsecutive l hal f
    (l.ctx.rxState ≠ .waitCf ∧ l' = l) ∨
      (l.ctx.rxState = .waitCf ∧ byte f.data 0 &&& 0x0F ≠ l.ctx.rxExpectedSeq ∧
        l'.ctx.toRxContext = dropRx l.ctx.toRxContext ∧ Logs Event.Inert l l') ∨
      (l.ctx.rxState = .waitCf ∧ byte f.data 0 &&& 0x0F = l.ctx.rxExpectedSeq ∧
        l'.ctx.toRxContext = finishRx (continueRx l.ctx.toRxContext hal f) ∧
        Logs Event.Inert (l.emit (.rxContinued f)) l') := by
  intro l'
  by_cases waiting : l.ctx.rxState = .waitCf
  · by_cases sequence : byte f.data 0 &&& 0x0F = l.ctx.rxExpectedSeq
    · simp only [l', receiveConsecutive, if_neg (not_not.mpr waiting),
        if_neg (not_not.mpr sequence)]
      refine Or.inr (Or.inr ⟨waiting, sequence, rfl, ?_⟩)
      exact (((Logs.same _ rfl).emitIf _ _ trivial).emitIf _ _ trivial).trans (Logs.same _ rfl)
    · simp only [l', receiveConsecutive, if_neg (not_not.mpr waiting), if_pos sequence]
      refine Or.inr (Or.inl ⟨waiting, sequence, ?_, ?_⟩)
      · rw [emit_ctx, set_rx_ctx, abort_stream_rx_ctx]
        rfl
      · exact (abort_stream_rx_inert l).trans (Logs.one _ (.rxDropped .sequence) rfl trivial)
  · exact Or.inl ⟨waiting, if_pos waiting⟩

/-- What one input does to the reception, and the events it gives. -/
inductive RxStep (c : RxContext) (i : Input κ) : RxContext → List Event → Prop
  | kept (addr : AddrType) (events : List Event) (inert : ∀ e ∈ events, e.Inert) :
    RxStep c i { c with rxAddrType := addr } events
  | dropped (c' : RxContext) (events : List Event) (idle : c'.rxState = .idle)
    (buffer : c'.rxBuffer = c.rxBuffer)
    (timed : ∀ now hal, i = .tick now hal →
      c.rxState = .waitCf ∧ isoTpRxTimeoutMs ≤ elapsed now c.lastRxTick)
    (inert : ∀ e ∈ events, e.Inert) : RxStep c i c' events
  | started (hal : Nat) (f : CanFrame) (totalSize off : Nat) (before after : List Event)
    (input : i = .frame hal f) (kind : byte f.data 0 &&& 0xF0 = isoTpPciFirstFrame)
    (sender : f.canId = canIdPhysicalReq) (decoded : firstFrameSize f = some (totalSize, off))
    (inert : ∀ e ∈ before ++ after, e.Inert) :
    RxStep c i
      (startRx { c with rxAddrType := .physical } hal f totalSize
        (firstFramePayload f totalSize off))
      (before ++ .rxStarted f :: after)
  | continued (hal : Nat) (f : CanFrame) (after : List Event) (input : i = .frame hal f)
    (sized : f.dlc ≠ 0) (mine : canAddrClassify f.canId ≠ .ignore)
    (kind : byte f.data 0 &&& 0xF0 = isoTpPciConsecutive) (waiting : c.rxState = .waitCf)
    (sequence : byte f.data 0 &&& 0x0F = c.rxExpectedSeq)
    (partly : (finishRx (continueRx c hal f)).rxState ≠ .complete)
    (inert : ∀ e ∈ after, e.Inert) :
    RxStep c i { finishRx (continueRx c hal f) with rxAddrType := canAddrClassify f.canId }
      (.rxContinued f :: after)
  | completed (hal : Nat) (f : CanFrame) (after sent : List Event) (input : i = .frame hal f)
    (sized : f.dlc ≠ 0) (mine : canAddrClassify f.canId ≠ .ignore)
    (kind : byte f.data 0 &&& 0xF0 = isoTpPciConsecutive) (waiting : c.rxState = .waitCf)
    (sequence : byte f.data 0 &&& 0x0F = c.rxExpectedSeq)
    (complete : (finishRx (continueRx c hal f)).rxState = .complete)
    (inert : ∀ e ∈ after ++ sent, e.Inert) :
    RxStep c i { continueRx c hal f with rxState := .idle, rxAddrType := canAddrClassify f.canId }
      (.rxContinued f :: after ++
        .dispatched ((continueRx c hal f).rxBuffer.take c.rxTotalSize) (canAddrClassify f.canId) ::
          sent)
  | single (c' : RxContext) (hal : Nat) (f : CanFrame) (addr : AddrType)
    (before after sent : List Event) (input : i = .frame hal f)
    (kind : byte f.data 0 &&& 0xF0 = isoTpPciSingleFrame) (idle : c'.rxState = .idle)
    (buffer : c'.rxBuffer = memcpy c.rxBuffer 0 (singleFramePayload f))
    (inert : ∀ e ∈ before ++ after ++ sent, e.Inert) :
    RxStep c i c' (before ++ .rxSingle f :: after ++
      .dispatched (singleFramePayload f) addr :: sent)

/-- The transmit side leaves the reception alone. -/
theorem Transmits.kept {l l' : Link} (transmits : Transmits l l') (log : l.log = [])
    (i : Input κ) : RxStep l.ctx.toRxContext i l'.ctx.toRxContext l'.log := by
  obtain ⟨events, log', inert⟩ := transmits.inert
  rw [log, List.nil_append] at log'
  rw [log', transmits.rx]
  exact RxStep.kept l.ctx.rxAddrType events inert

/-- The time-out of a reception, with what the transmit side does after it. -/
theorem tick_step (l : Link) (now hal : Nat) (log : l.log = []) :
    RxStep (κ := κ) l.ctx.toRxContext (.tick now hal) (isoTpTick l now hal).ctx.toRxContext
      (isoTpTick l now hal).log := by
  have sends := tick_transmits l now hal
  obtain ⟨sent, log', inert'⟩ := sends.inert
  rw [sends.rx, log']
  unfold rxTimeout
  split
  · rename_i due
    obtain ⟨events, aborted, inert⟩ := abort_stream_rx_inert l
    rw [log, List.nil_append] at aborted
    refine RxStep.dropped _ _ rfl ?_ ?_ ?_
    · simp
    · rintro now' hal' same
      obtain ⟨rfl, rfl⟩ := Input.tick.inj same
      exact due
    · simp only [emit_log, aborted, List.mem_append, List.mem_singleton]
      rintro e ((early | rfl) | late)
      · exact inert e early
      · trivial
      · exact inert' e late
  · rw [log]
    exact RxStep.kept l.ctx.rxAddrType sent inert'

/-- The addressing type plays no part in a continued reception. -/
theorem continue_rx_addressed (c : RxContext) (addr : AddrType) (hal : Nat) (f : CanFrame) :
    finishRx (continueRx { c with rxAddrType := addr } hal f) =
      { finishRx (continueRx c hal f) with rxAddrType := addr } := by
  have same : continueRx { c with rxAddrType := addr } hal f =
      { continueRx c hal f with rxAddrType := addr } := rfl
  rw [same, finishRx, finishRx]
  by_cases more : (continueRx c hal f).rxReceived < (continueRx c hal f).rxTotalSize
  · rw [if_pos more, if_pos more]
  · rw [if_neg more, if_neg more]
    by_cases stream : (continueRx c hal f).streamMode = true
    · rw [if_pos stream, if_pos stream]
    · rw [if_neg stream, if_neg stream]

/-- A reception is complete when the buffer holds the announced size. -/
theorem finish_rx_complete (c : RxContext) (complete : (finishRx c).rxState = .complete)
    (waiting : c.rxState = .waitCf) :
    finishRx c = { c with rxState := .complete } ∧ c.rxTotalSize ≤ c.rxReceived ∧
      c.streamMode = false := by
  unfold finishRx at complete ⊢
  by_cases more : c.rxReceived < c.rxTotalSize
  · rw [if_pos more, waiting] at complete
    cases complete
  · rw [if_neg more] at complete ⊢
    cases stream : c.streamMode with
    | true =>
      rw [stream] at complete
      cases complete
    | false => exact ⟨rfl, Nat.not_lt.mp more, rfl⟩

section Received

variable {above : Upper σ κ} {w : World σ} {hal : Nat} {f : CanFrame}

/-- A frame for this node, with the dispatch it may lead to, is one of the steps. -/
def Reassembles (above : Upper σ κ) (w : World σ) (hal : Nat) (f : CanFrame) : Prop :=
  let received := receive (w.link.addressed (canAddrClassify f.canId)) hal f
  let after := (dispatchIfComplete above ⟨received, w.upper⟩ hal).link
  RxStep (κ := κ) w.link.ctx.toRxContext (.frame hal f) after.ctx.toRxContext after.log

/-- Nothing is dispatched. -/
theorem Reassembles.partly {l' : Link}
    (received : receive (w.link.addressed (canAddrClassify f.canId)) hal f = l')
    (more : l'.ctx.rxState ≠ .complete)
    (step : RxStep (κ := κ) w.link.ctx.toRxContext (.frame hal f) l'.ctx.toRxContext l'.log) :
    Reassembles above w hal f := by
  unfold Reassembles
  simp only [received, dispatch_nothing above ⟨l', w.upper⟩ hal more]
  exact step

/-- After the dispatch of a request the reception is idle. -/
theorem Reassembles.completed {l' : Link}
    (received : receive (w.link.addressed (canAddrClassify f.canId)) hal f = l')
    (done : l'.ctx.rxState = .complete)
    (step : ∀ sent : List Event, (∀ e ∈ sent, e.Inert) →
      RxStep (κ := κ) w.link.ctx.toRxContext (.frame hal f)
        { l'.ctx.toRxContext with rxState := .idle }
        (l'.log ++
          .dispatched (l'.ctx.rxBuffer.take l'.ctx.rxTotalSize) l'.ctx.rxAddrType :: sent)) :
    Reassembles above w hal f := by
  obtain ⟨same, _, sent, dispatched, ofTx⟩ := dispatch_completed_spec above ⟨l', w.upper⟩ hal
  have after : dispatchIfComplete above ⟨l', w.upper⟩ hal =
      dispatchCompletedMessage above ⟨l', w.upper⟩ hal := if_pos done
  unfold Reassembles
  simp only [received, after, same, dispatched]
  exact step sent fun e member => (ofTx e member).inert

/-- The frame only notes how it was addressed. -/
theorem Reassembles.ignored (log : w.link.log = []) (ready : w.link.ctx.rxState ≠ .complete)
    (received : receive (w.link.addressed (canAddrClassify f.canId)) hal f =
      w.link.addressed (canAddrClassify f.canId)) : Reassembles above w hal f := by
  refine .partly received ready ?_
  have silent : (w.link.addressed (canAddrClassify f.canId)).log = [] := log
  rw [silent]
  exact .kept (canAddrClassify f.canId) [] (by simp)

/-- A Single Frame replaces the reception under way. -/
theorem single_frame_step (log : w.link.log = [])
    (single : byte f.data 0 &&& 0xF0 = isoTpPciSingleFrame) : Reassembles above w hal f := by
  obtain ⟨done, buffer, request, before, early, late⟩ :=
    receive_single_frame_cases (w.link.addressed (canAddrClassify f.canId)) f
  obtain ⟨dropped, log', inert⟩ := early
  obtain ⟨later, log'', inert'⟩ := late
  have silent : (w.link.addressed (canAddrClassify f.canId)).log = [] := log
  rw [silent, List.nil_append] at log'
  rw [emit_log, log'] at log''
  refine .completed (receive_single _ hal f single) done ?_
  intro sent inert_sent
  rw [log'', request, List.append_assoc dropped, List.singleton_append]
  refine .single _ hal f _ dropped later sent rfl single rfl buffer ?_
  simp only [List.mem_append]
  rintro e ((first | second) | last)
  · exact inert e first
  · exact inert' e second
  · exact inert_sent e last

/-- A First Frame starts a reception, or ends the one under way. -/
theorem first_frame_step (log : w.link.log = []) (ready : w.link.ctx.rxState ≠ .complete)
    (mine : canAddrClassify f.canId ≠ .ignore)
    (first : byte f.data 0 &&& 0xF0 = isoTpPciFirstFrame) : Reassembles above w hal f := by
  have received := receive_first (w.link.addressed (canAddrClassify f.canId)) hal f first
  have silent : (w.link.addressed (canAddrClassify f.canId)).log = [] := log
  rcases process_first_frame_cases (w.link.addressed (canAddrClassify f.canId)) hal f with
    ⟨functional, kept⟩ | ⟨_, idle, inert⟩ |
      ⟨physical, totalSize, off, decoded, begun, before, early, late⟩
  · exact .ignored log ready (received.trans kept)
  · obtain ⟨events, log', inert'⟩ := inert
    rw [silent, List.nil_append] at log'
    refine .partly received ?_ ?_
    · rw [idle]
      simp
    · rw [idle, log']
      refine .dropped _ _ rfl ?_ (by simp) inert'
      simp only [restart_rx_ctx]
      split
      · rfl
      · rfl
  · have sender : canAddrClassify f.canId = .physical := by
      cases classified : canAddrClassify f.canId with
      | ignore => exact absurd classified mine
      | physical => rfl
      | functional => exact absurd classified physical
    obtain ⟨dropped, log', inert⟩ := early
    obtain ⟨later, log'', inert'⟩ := late
    rw [silent, List.nil_append] at log'
    rw [emit_log, log', List.append_assoc, List.singleton_append] at log''
    have step := RxStep.started (κ := κ) (c := w.link.ctx.toRxContext) hal f totalSize off
      dropped later rfl first ((can_addr_physical_iff _).mp sender) decoded (by
        intro e member
        rcases List.mem_append.mp member with first | second
        · exact inert e first
        · exact inert' e second)
    rw [← sender] at step
    refine .partly received ?_ ?_
    · rw [begun]
      simp [startRx]
    · rw [begun, log'']
      exact step

/-- A Consecutive Frame continues the reception, completes it or ends it. -/
theorem consecutive_frame_step (log : w.link.log = []) (ready : w.link.ctx.rxState ≠ .complete)
    (sized : f.dlc ≠ 0) (mine : canAddrClassify f.canId ≠ .ignore)
    (consecutive : byte f.data 0 &&& 0xF0 = isoTpPciConsecutive) : Reassembles above w hal f := by
  have received := receive_consecutive (w.link.addressed (canAddrClassify f.canId)) hal f
    consecutive
  have silent : (w.link.addressed (canAddrClassify f.canId)).log = [] := log
  rcases receive_consecutive_cases (w.link.addressed (canAddrClassify f.canId)) hal f with
    ⟨waiting, kept⟩ | ⟨waiting, sequence, dropped, inert⟩ | ⟨waiting, sequence, continued, inert⟩
  · exact .ignored log ready (received.trans kept)
  · obtain ⟨events, log', inert'⟩ := inert
    rw [silent, List.nil_append] at log'
    refine .partly received ?_ ?_
    · rw [dropped]
      simp [dropRx]
    · rw [dropped, log']
      exact .dropped _ _ rfl rfl (by simp) inert'
  · obtain ⟨later, log', inert'⟩ := inert
    rw [emit_log, silent, List.nil_append] at log'
    have fields : (receiveConsecutive (w.link.addressed (canAddrClassify f.canId)) hal
          f).ctx.toRxContext =
        { finishRx (continueRx w.link.ctx.toRxContext hal f) with
          rxAddrType := canAddrClassify f.canId } :=
      continued.trans (continue_rx_addressed _ _ _ _)
    by_cases done : (finishRx (continueRx w.link.ctx.toRxContext hal f)).rxState = .complete
    · obtain ⟨whole, _, _⟩ := finish_rx_complete _ done waiting
      refine .completed received (by rw [fields]; exact done) ?_
      intro sent inert_sent
      have step := RxStep.completed (κ := κ) (c := w.link.ctx.toRxContext) hal f later sent
        rfl sized mine consecutive waiting sequence done (by
          intro e member
          rcases List.mem_append.mp member with first | second
          · exact inert' e first
          · exact inert_sent e second)
      rw [whole] at fields
      rw [fields, log']
      exact step
    · refine .partly received (by rw [fields]; exact done) ?_
      rw [fields, log']
      exact .continued hal f later rfl sized mine consecutive waiting sequence done inert'

/-- The reception of a frame for this node, and its dispatch. -/
theorem receive_step (log : w.link.log = []) (ready : w.link.ctx.rxState ≠ .complete)
    (sized : f.dlc ≠ 0) (mine : canAddrClassify f.canId ≠ .ignore) :
    Reassembles above w hal f := by
  by_cases single : byte f.data 0 &&& 0xF0 = isoTpPciSingleFrame
  · exact single_frame_step log single
  by_cases first : byte f.data 0 &&& 0xF0 = isoTpPciFirstFrame
  · exact first_frame_step log ready mine first
  by_cases consecutive : byte f.data 0 &&& 0xF0 = isoTpPciConsecutive
  · exact consecutive_frame_step log ready sized mine consecutive
  apply Reassembles.ignored log ready
  simp only [receive, if_neg single, if_neg first, if_neg consecutive]

end Received

/-- Every call is one of the steps of a reception. -/
theorem step_reception (above : Upper σ κ) (w : World σ) (i : Input κ)
    (ready : w.link.ctx.rxState ≠ .complete) :
    RxStep w.link.ctx.toRxContext i (step above w i).1.link.ctx.toRxContext (step above w i).2 := by
  cases i with
  | frame hal f =>
    change RxStep w.quiet.link.ctx.toRxContext _
      (isoTpProcessFrame above w.quiet hal f).link.ctx.toRxContext
      (isoTpProcessFrame above w.quiet hal f).link.log
    by_cases sized : f.dlc = 0
    · rw [isoTpProcessFrame, if_pos sized]
      exact RxStep.kept w.link.ctx.rxAddrType [] (by simp)
    · by_cases flow : byte f.data 0 &&& 0xF0 = isoTpPciFlowControl
      · rw [isoTpProcessFrame, if_neg sized, if_pos flow]
        exact (process_flow_control_transmits w.quiet.link hal f).kept rfl _
      · by_cases mine : canAddrClassify f.canId = .ignore
        · rw [isoTpProcessFrame, if_neg sized, if_neg flow, mine]
          exact RxStep.kept w.link.ctx.rxAddrType [] (by simp)
        · rw [process_frame_spec above w.quiet hal f sized flow mine]
          have received : Reassembles above w.quiet hal f := receive_step rfl ready sized mine
          exact received
  | work hal k => exact (send_all_transmits w.quiet.link hal _).kept rfl _
  | tick now hal => exact tick_step w.quiet.link now hal rfl
  | registerStreamSink sink => exact RxStep.kept w.link.ctx.rxAddrType [] (by simp)

/-- A tick leaves the state of a reception, or ends it because its time is over. -/
theorem RxStep.tick {c c' : RxContext} {now hal : Nat} {events : List Event}
    (step : RxStep c (.tick now hal : Input κ) c' events) :
    c'.rxState = c.rxState ∨
      (c.rxState = .waitCf ∧ isoTpRxTimeoutMs ≤ elapsed now c.lastRxTick) := by
  cases step with
  | kept => exact Or.inl rfl
  | dropped _ _ _ _ timed => exact Or.inr (timed now hal rfl)
  | started _ _ _ _ _ _ input => cases input
  | continued _ _ _ input => cases input
  | completed _ _ _ _ input => cases input
  | single _ _ _ _ _ _ _ input => cases input

/-- Between calls no completed reception waits, and one under way is from the
physical address. -/
structure Ready (c : RxContext) : Prop where
  dispatched : c.rxState ≠ .complete
  sender : c.rxState = .waitCf → c.rxCanId = canIdPhysicalReq

/-- The last byte keeps the identifier of the sender. -/
theorem finish_rx_can_id (c : RxContext) : (finishRx c).rxCanId = c.rxCanId := by
  unfold finishRx
  split
  · rfl
  · split
    · rfl
    · rfl

/-- Behind every step the reception is not left complete. -/
theorem RxStep.ready {c c' : RxContext} {i : Input κ} {events : List Event}
    (step : RxStep c i c' events) (ready : Ready c) : Ready c' := by
  cases step with
  | kept => exact ⟨ready.dispatched, ready.sender⟩
  | dropped _ _ idle =>
    constructor
    · rw [idle]
      decide
    · intro waiting
      rw [idle] at waiting
      cases waiting
  | started _ _ _ _ _ _ _ _ sender => exact ⟨nofun, fun _ => sender⟩
  | continued hal f _ _ _ _ _ waiting _ partly =>
    refine ⟨partly, fun _ => ?_⟩
    exact (finish_rx_can_id (continueRx c hal f)).trans (ready.sender waiting)
  | completed => exact ⟨nofun, nofun⟩
  | single _ _ _ _ _ _ _ _ _ idle =>
    constructor
    · rw [idle]
      decide
    · intro waiting
      rw [idle] at waiting
      cases waiting

/-! ## The frames of a reception -/

/-- The frames of the reception the events lead to. -/
def collect (frames : List CanFrame) : Event → List CanFrame
  | .rxSingle f => [f]
  | .rxStarted f => [f]
  | .rxContinued f => frames ++ [f]
  | _ => frames

/-- The frames of the reception under way, by the history. -/
def receptionFrames (history : List Event) : List CanFrame := history.foldl collect []

/-- Inert events add no frame. -/
theorem collect_inert (frames : List CanFrame) (events : List Event)
    (inert : ∀ e ∈ events, e.Inert) : events.foldl collect frames = frames := by
  induction events generalizing frames with
  | nil => rfl
  | cons e rest ih =>
    have here : collect frames e = frames := by
      have first := inert e List.mem_cons_self
      cases e <;> first | rfl | exact first.elim
    rw [List.foldl_cons, here]
    exact ih frames (fun later member => inert later (List.mem_cons_of_mem _ member))

/-- The payload of a First Frame as it came. -/
def rawFirst (f : CanFrame) (off : Nat) : List UInt8 := (f.data.drop off).take (f.dlc - off)

/-- The payload of a Consecutive Frame as it came. -/
def rawConsecutive (f : CanFrame) : List UInt8 := (f.data.drop 1).take (f.dlc - 1)

/-- The payload bytes of some frames, before they are clamped. -/
def rawPayload (first : CanFrame) (off : Nat) (rest : List CanFrame) : List UInt8 :=
  rawFirst first off ++ (rest.map rawConsecutive).flatten

/-- The message the frames of a reception make up. -/
def assembled (first : CanFrame) (rest : List CanFrame) : Option (List UInt8) :=
  (firstFrameSize first).map fun found => (rawPayload first found.2 rest).take found.1

/-- The frames of a reception that waits, and what the buffer holds of them. -/
def Assembling (frames : List CanFrame) (c : RxContext) : Prop :=
  ∃ first rest off, frames = first :: rest ∧
    byte first.data 0 &&& 0xF0 = isoTpPciFirstFrame ∧
    firstFrameSize first = some (c.rxTotalSize, off) ∧
    (c.streamMode = false →
      c.rxTotalSize ≤ isoTpMaxMessageSize ∧
        c.rxReceived = min c.rxTotalSize (rawPayload first off rest).length ∧
        c.rxBuffer.take c.rxReceived = (rawPayload first off rest).take c.rxReceived)

/-- The addressing type does not matter to what is assembled. -/
theorem Assembling.addressed {frames : List CanFrame} {c : RxContext}
    (assembling : Assembling frames c) (addr : AddrType) :
    Assembling frames { c with rxAddrType := addr } :=
  assembling

/-- The payload of a First Frame is clamped to what it announces. -/
theorem first_frame_payload_raw (f : CanFrame) (totalSize off : Nat) :
    firstFramePayload f totalSize off = (rawFirst f off).take totalSize := by
  have most := f.dlc_le
  have bound : min (f.dlc - off) (isoTpFrameSize - off) = f.dlc - off := by
    rw [isoTpFrameSize]
    omega
  rw [firstFramePayload, bound, rawFirst, List.take_take, Nat.min_comm]

/-- The payload of a Consecutive Frame is clamped to what is missing. -/
theorem consecutive_payload_raw (c : RxContext) (f : CanFrame) :
    consecutivePayload c f = (rawConsecutive f).take (c.rxTotalSize - c.rxReceived) := by
  rw [consecutivePayload, rawConsecutive, List.take_take, Nat.min_comm]

/-- Taking more than there is takes all. -/
theorem take_min_length (l : List UInt8) (n : Nat) : l.take (min n l.length) = l.take n := by
  rw [List.take_eq_take_iff]
  omega

/-- Taking the next bytes of a second list up to a total continues what was taken
of the first. -/
theorem take_joined (front back : List UInt8) (total : Nat) :
    front.take (min total front.length) ++ back.take (total - min total front.length) =
      (front ++ back).take
        (min total front.length + (back.take (total - min total front.length)).length) := by
  rcases Nat.le_total front.length total with whole | part
  · rw [Nat.min_eq_right whole, List.take_length, List.take_length_add_append, List.length_take,
      take_min_length]
  · rw [Nat.min_eq_left part, Nat.sub_self, List.take_zero, List.append_nil, List.length_nil,
      Nat.add_zero, List.take_append_of_le_length part]

/-- A First Frame starts the assembly with its payload. -/
theorem start_rx_assembling (c : RxContext) (hal : Nat) (f : CanFrame) (totalSize off : Nat)
    (kind : byte f.data 0 &&& 0xF0 = isoTpPciFirstFrame)
    (decoded : firstFrameSize f = some (totalSize, off)) :
    Assembling [f] (startRx c hal f totalSize (firstFramePayload f totalSize off)) := by
  refine ⟨f, [], off, rfl, kind, decoded, ?_⟩
  intro buffered
  have fits : ¬ isoTpMaxMessageSize < totalSize := of_decide_eq_false buffered
  have raw : rawPayload f off [] = rawFirst f off := by simp [rawPayload]
  have length : (firstFramePayload f totalSize off).length =
      min totalSize (rawFirst f off).length := by
    rw [first_frame_payload_raw, List.length_take]
  refine ⟨Nat.not_lt.mp fits, ?_, ?_⟩
  · rw [raw]
    exact length
  · have stored := memcpy_take c.rxBuffer 0 (firstFramePayload f totalSize off) (Nat.zero_le _)
    simp only [startRx, if_neg fits, raw]
    rw [length, take_min_length, ← first_frame_payload_raw, ← length]
    simpa using stored

/-- A Consecutive Frame continues the assembly with its payload. -/
theorem continue_rx_assembling (frames : List CanFrame) (c : RxContext) (hal : Nat) (f : CanFrame)
    (room : c.rxBuffer.length = isoTpMaxMessageSize) (assembling : Assembling frames c) :
    Assembling (frames ++ [f]) (continueRx c hal f) ∧
      (continueRx c hal f).rxBuffer.length = isoTpMaxMessageSize := by
  obtain ⟨first, rest, off, rfl, kind, decoded, held⟩ := assembling
  cases stream : c.streamMode with
  | true =>
    refine ⟨⟨first, rest ++ [f], off, rfl, kind, decoded, ?_⟩, ?_⟩
    · intro buffered
      have still : (continueRx c hal f).streamMode = true := stream
      rw [still] at buffered
      cases buffered
    · simp only [continueRx, stream, if_true]
      exact room
  | false =>
    obtain ⟨fits, received, stored⟩ := held stream
    have raw : rawPayload first off (rest ++ [f]) =
        rawPayload first off rest ++ rawConsecutive f := by
      simp [rawPayload, List.append_assoc]
    have length : (consecutivePayload c f).length =
        min (c.rxTotalSize - c.rxReceived) (rawConsecutive f).length := by
      rw [consecutive_payload_raw, List.length_take]
    have inside : c.rxReceived + (consecutivePayload c f).length ≤ c.rxBuffer.length := by
      rw [room]
      omega
    refine ⟨⟨first, rest ++ [f], off, rfl, kind, decoded, ?_⟩, ?_⟩
    · intro _
      refine ⟨fits, ?_, ?_⟩
      · simp only [continueRx, raw, List.length_append]
        omega
      · simp only [continueRx, stream, Bool.false_eq_true, if_false, raw]
        rw [memcpy_take _ _ _ (by omega), stored, consecutive_payload_raw, received]
        exact take_joined _ _ _
    · simp only [continueRx, stream, Bool.false_eq_true, if_false]
      rw [memcpy_length _ _ _ inside, room]

/-- A reception that waits holds the payload of its frames. -/
structure Held (history : List Event) (c : RxContext) : Prop where
  ready : c.rxState ≠ .complete
  room : c.rxBuffer.length = isoTpMaxMessageSize
  frames : c.rxState = .waitCf → Assembling (receptionFrames history) c

/-- A fresh context holds the frames of no reception. -/
theorem fresh_held : Held [] {} where
  ready := by decide
  room := List.length_replicate
  frames same := by cases same

/-- A fresh context has nothing to dispatch. -/
theorem fresh_ready : Ready {} where
  dispatched := by decide
  sender same := by cases same

/-- The frames of a longer history. -/
theorem reception_frames_append (past events : List Event) :
    receptionFrames (past ++ events) = events.foldl collect (receptionFrames past) := by
  rw [receptionFrames, List.foldl_append, receptionFrames]

/-- Inert events leave the frames as they are. -/
theorem reception_frames_inert (past events : List Event) (inert : ∀ e ∈ events, e.Inert) :
    receptionFrames (past ++ events) = receptionFrames past := by
  rw [reception_frames_append, collect_inert _ _ inert]

/-- A First Frame is the only frame of its reception so far. -/
theorem reception_frames_started (past before after : List Event) (f : CanFrame)
    (inert : ∀ e ∈ after, e.Inert) :
    receptionFrames (past ++ (before ++ .rxStarted f :: after)) = [f] := by
  rw [reception_frames_append, List.foldl_append, List.foldl_cons, collect_inert _ _ inert, collect]

/-- A Consecutive Frame joins the frames of its reception. -/
theorem reception_frames_continued (past after : List Event) (f : CanFrame)
    (inert : ∀ e ∈ after, e.Inert) :
    receptionFrames (past ++ .rxContinued f :: after) = receptionFrames past ++ [f] := by
  rw [reception_frames_append, List.foldl_cons, collect_inert _ _ inert, collect]

/-- What a check for the end leaves of a reception that goes on. -/
theorem finish_rx_waiting (c : RxContext) (waiting : (finishRx c).rxState = .waitCf) :
    finishRx c = c := by
  unfold finishRx at waiting ⊢
  split at waiting
  · rename_i more
    rw [if_pos more]
  · split at waiting
    · cases waiting
    · cases waiting

/-- The last byte keeps the buffer. -/
theorem finish_rx_buffer (c : RxContext) : (finishRx c).rxBuffer = c.rxBuffer := by
  unfold finishRx
  split
  · rfl
  · split
    · rfl
    · rfl

/-- Every step of a reception keeps what it holds. -/
theorem step_held (past events : List Event) (c c' : RxContext) (i : Input κ)
    (held : Held past c) (step : RxStep c i c' events) : Held (past ++ events) c' := by
  cases step with
  | kept addr events inert =>
    refine ⟨held.ready, held.room, ?_⟩
    intro waiting
    rw [reception_frames_inert past events inert]
    exact (held.frames waiting).addressed addr
  | dropped _ _ idle buffer _ inert =>
    refine ⟨by rw [idle]; decide, by rw [buffer, held.room], ?_⟩
    intro waiting
    rw [idle] at waiting
    cases waiting
  | started hal f totalSize off before after input kind sender decoded inert =>
    have later : ∀ e ∈ after, e.Inert := fun e member => inert e (List.mem_append_right _ member)
    have short : 0 + (firstFramePayload f totalSize off).length ≤ c.rxBuffer.length := by
      rw [held.room, first_frame_payload_raw, rawFirst, List.length_take, List.length_take]
      have most := f.dlc_le
      have frame : isoTpMaxMessageSize = 512 := rfl
      omega
    refine ⟨nofun, ?_, ?_⟩
    · simp only [startRx]
      split
      · exact held.room
      · rw [memcpy_length _ _ _ short, held.room]
    · intro _
      rw [reception_frames_started past before after f later]
      exact start_rx_assembling _ hal f totalSize off kind decoded
  | continued hal f after input sized mine kind waiting sequence partly inert =>
    obtain ⟨assembling, room⟩ :=
      continue_rx_assembling _ c hal f held.room (held.frames waiting)
    refine ⟨partly, by rw [finish_rx_buffer, room], ?_⟩
    intro still
    rw [finish_rx_waiting _ still, reception_frames_continued past after f inert]
    exact assembling.addressed _
  | completed hal f after sent input sized mine kind waiting sequence complete inert =>
    obtain ⟨_, room⟩ := continue_rx_assembling _ c hal f held.room (held.frames waiting)
    exact ⟨nofun, room, nofun⟩
  | single _ hal f addr before after sent input kind idle buffer inert =>
    have short : 0 + (singleFramePayload f).length ≤ c.rxBuffer.length := by
      have most : (singleFramePayload f).length ≤ f.data.length := by
        unfold singleFramePayload
        simp only
        split
        · rw [List.length_take, List.length_drop]
          omega
        · rw [List.length_take, List.length_drop]
          omega
      rw [held.room, Nat.zero_add]
      exact Nat.le_trans most (by rw [f.data_length]; decide)
    refine ⟨by rw [idle]; decide, by rw [buffer, memcpy_length _ _ _ short, held.room], ?_⟩
    intro waiting
    rw [idle] at waiting
    cases waiting

/-- The request of a reception that ends is what its frames make up. -/
theorem completed_request (past : List Event) (c : RxContext) (hal : Nat) (f : CanFrame)
    (held : Held past c) (waiting : c.rxState = .waitCf)
    (complete : (finishRx (continueRx c hal f)).rxState = .complete) :
    ∃ first rest, receptionFrames past = first :: rest ∧
      byte first.data 0 &&& 0xF0 = isoTpPciFirstFrame ∧
      assembled first (rest ++ [f]) = some ((continueRx c hal f).rxBuffer.take c.rxTotalSize) := by
  obtain ⟨_, all, buffered⟩ := finish_rx_complete _ complete waiting
  obtain ⟨first, rest, off, frames, kind, decoded, _⟩ := held.frames waiting
  obtain ⟨assembling, _⟩ := continue_rx_assembling _ c hal f held.room (held.frames waiting)
  obtain ⟨first', rest', off', frames', _, decoded', stored⟩ := assembling
  obtain ⟨_, received, bytes⟩ := stored buffered
  rw [frames, List.cons_append] at frames'
  obtain ⟨rfl, rfl⟩ := List.cons.inj frames'
  have size : (continueRx c hal f).rxReceived = c.rxTotalSize := by
    have total : (continueRx c hal f).rxTotalSize = c.rxTotalSize := rfl
    omega
  rw [size] at bytes
  refine ⟨first, rest, frames, kind, ?_⟩
  rw [assembled, decoded', Option.map_some, bytes]
  rfl

end ObdSimulator.IsoTp
