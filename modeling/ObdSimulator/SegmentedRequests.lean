import ObdSimulator.Transmission

/-!
# When a segmented request is complete

A Consecutive Frame that brings the last byte ends its reception in the same call. A
First Frame does not look: it may announce no more than it carries, and the reception it
starts then waits for bytes that have all arrived. Without such frames every reception
that waits has bytes missing, and a ContinueToSend is sent only for those.
-/

namespace ObdSimulator.IsoTp

open Bytes Run

universe u v

variable {σ : Type u} {κ : Type v}

/-! ## The rule -/

/-- A ContinueToSend for the transmit queue. -/
def Event.Asks : Event → Prop
  | .queued frame | .lost frame => byte frame.data 0 = isoTpPciFlowControl ||| isoTpFcContinue
  | _ => False

/-- Bytes of the reception are missing. -/
def RxContext.Missing (c : RxContext) : Prop := c.rxReceived < c.rxTotalSize

/-- A step ends every reception with its last byte. -/
structure CompleteInTime (above : Upper σ κ) (w : World σ) (i : Input κ) : Prop where
  /-- A reception that waits has bytes missing. -/
  waits : (step above w i).1.link.ctx.rxState = .waitCf →
    (step above w i).1.link.ctx.toRxContext.Missing
  /-- So has one that is continued. -/
  asks : (∃ e ∈ (step above w i).2, e.Asks) →
    (step above w i).1.link.ctx.rxState = .waitCf ∧
      (step above w i).1.link.ctx.toRxContext.Missing
  /-- A segmented request is dispatched by a frame it was still missing. -/
  last : ∀ request addr, .dispatched request addr ∈ (step above w i).2 →
    (∃ f, .rxSingle f ∈ (step above w i).2) ∨
      ∃ f, .rxContinued f ∈ (step above w i).2 ∧ w.link.ctx.toRxContext.Missing
  /-- The frame that leaves nothing missing of a buffered request dispatches it. -/
  dispatches : ∀ f, .rxStarted f ∈ (step above w i).2 ∨ .rxContinued f ∈ (step above w i).2 →
    (step above w i).1.link.ctx.rxTotalSize ≤ isoTpMaxMessageSize →
    ¬ (step above w i).1.link.ctx.toRxContext.Missing →
    ∃ request addr, .dispatched request addr ∈ (step above w i).2

/-- A First Frame for this node that carries all it announces. -/
def CarriesAll (f : CanFrame) : Prop :=
  f.dlc ≠ 0 ∧ f.canId = canIdPhysicalReq ∧ byte f.data 0 &&& 0xF0 = isoTpPciFirstFrame ∧
    ∃ totalSize off, firstFrameSize f = some (totalSize, off) ∧ totalSize ≤ f.dlc - off

/-- The input is no such frame. -/
def LeavesMore (i : Input κ) : Prop := ∀ hal f, i = .frame hal f → ¬ CarriesAll f

/-! ## Who sends a ContinueToSend -/

/-- The event asks the sender for nothing. -/
def Event.Unasking (e : Event) : Prop := ¬ e.Asks

/-- A frame that is not flow control asks for nothing, queued or lost. -/
theorem frame_unasking (frame : TxFrame) (other : pciType frame ≠ isoTpPciFlowControl) :
    (Event.queued frame).Unasking ∧ (Event.lost frame).Unasking := by
  have apart : byte frame.data 0 ≠ isoTpPciFlowControl ||| isoTpFcContinue := by
    intro same
    apply other
    rw [pciType, same]
    decide
  exact ⟨apart, apart⟩

/-- Sending a frame that is not flow control asks for nothing. -/
theorem add_message_unasking (l : Link) (frame : TxFrame)
    (other : pciType frame ≠ isoTpPciFlowControl) :
    Logs Event.Unasking l (addMessageToTxFifoQ l frame).1 := by
  obtain ⟨queued, lost⟩ := frame_unasking frame other
  rcases add_message_cases l frame with refused | taken
  · rw [refused]
    exact Logs.one _ _ rfl lost
  · rw [taken]
    exact Logs.one _ _ rfl queued

/-- One more event of the kind. -/
theorem Logs.emit {kind : Event → Prop} {l l' : Link} (before : Logs kind l l') (e : Event)
    (allowed : kind e) : Logs kind l (l'.emit e) :=
  before.trans (Logs.one kind e rfl allowed)

/-- A Consecutive Frame asks for nothing. -/
theorem cf_sent_unasking {c c' : TxContext} {hal : Nat} {events : List Event}
    (sent : CfSent c hal c' events) : ∀ e ∈ events, e.Unasking := by
  have other : pciType (nextCf c) ≠ isoTpPciFlowControl := by
    rw [next_cf_pci]
    decide
  obtain ⟨queued, lost⟩ := frame_unasking _ other
  have note (e : Event) (plain : e = .txComplete ∨ e = .txAborted .consecutiveFailed) :
      e.Unasking := by
    rcases plain with rfl | rfl <;> exact id
  intro e member
  cases sent with
  | nothingLeft => exact note e (Or.inl (List.mem_singleton.mp member))
  | refused =>
    rcases List.mem_cons.mp member with rfl | second
    · exact lost
    · exact note e (Or.inr (List.mem_singleton.mp second))
  | last =>
    rcases List.mem_cons.mp member with rfl | second
    · exact queued
    · exact note e (Or.inl (List.mem_singleton.mp second))
  | blockEnd =>
    rw [List.mem_singleton.mp member]
    exact queued
  | sent =>
    rw [List.mem_singleton.mp member]
    exact queued

/-- Sending the next Consecutive Frame asks for nothing. -/
theorem send_next_cf_unasking (l : Link) (hal : Nat) :
    Logs Event.Unasking l (sendNextCf l hal) := by
  obtain ⟨events, log, sent⟩ := send_next_cf_sent l hal
  exact ⟨events, log, cf_sent_unasking sent⟩

/-- A response of any length asks for nothing. -/
theorem send_response_unasking (l : Link) (hal canId : Nat) (message : List UInt8) :
    Logs Event.Unasking l (isoTpSendResponse l hal canId message) := by
  unfold isoTpSendResponse
  split
  · exact Logs.same _ rfl
  · split
    · exact (Logs.same _ rfl).emit _ id
    · rename_i fits
      split
      · apply add_message_unasking
        have kind := single_frame_pci canId message
        rw [singleFrame] at kind
        rw [kind]
        decide
      · rename_i long
        split
        · exact (Logs.same _ rfl).emit _ id
        · refine Logs.trans ((Logs.same Event.Unasking rfl).emit (.txStarted message) id) ?_
          have other : pciType (firstFrame canId message) ≠ isoTpPciFlowControl := by
            rw [first_frame_pci canId message (Nat.not_lt.mp fits)]
            decide
          obtain ⟨queued, lost⟩ := frame_unasking _ other
          rcases send_first_frame_cases _ hal canId message (Nat.not_le.mp long)
              (Nat.not_lt.mp fits) with refused | taken
          · refine ⟨_, refused.1, ?_⟩
            intro e member
            rcases List.mem_cons.mp member with rfl | second
            · exact lost
            · rw [List.mem_singleton.mp second]
              exact id
          · refine ⟨_, taken.1, ?_⟩
            intro e member
            rw [List.mem_singleton.mp member]
            exact queued

/-- Any number of messages ask for nothing. -/
theorem send_all_unasking (l : Link) (hal : Nat) (messages : List (List UInt8)) :
    Logs Event.Unasking l (sendAll l hal messages) := by
  induction messages generalizing l with
  | nil => exact Logs.same _ rfl
  | cons data rest ih => exact (send_response_unasking l hal _ data).trans (ih _)

/-- Flow control that is received asks for nothing. -/
theorem process_flow_control_unasking (l : Link) (hal : Nat) (f : CanFrame) :
    Logs Event.Unasking l (processFlowControl l hal f) := by
  unfold processFlowControl
  simp only
  split
  · exact Logs.same _ rfl
  · split
    · exact ((Logs.same Event.Unasking rfl).emit .flowContinue id).trans
        (send_next_cf_unasking _ hal)
    · split
      · split
        · exact (Logs.same _ rfl).emit _ id
        · exact (Logs.same _ rfl).emit _ id
      · exact (Logs.same _ rfl).emit _ id

/-- Aborting a stream asks for nothing. -/
theorem abort_stream_rx_unasking (l : Link) : Logs Event.Unasking l (abortStreamRx l) :=
  abort_stream_rx_logs l fun _ => id

/-- A restart of the reception asks for nothing. -/
theorem restart_rx_unasking (l : Link) (reason : Drop) :
    Logs Event.Unasking l (restartRx l reason) := by
  unfold restartRx
  split
  · exact (abort_stream_rx_unasking l).emit _ id
  · exact Logs.same _ rfl

/-- A tick asks for nothing. -/
theorem tick_unasking (l : Link) (now hal : Nat) :
    Logs Event.Unasking l (isoTpTick l now hal) := by
  have received : Logs Event.Unasking l (rxTimeout l now) := by
    unfold rxTimeout
    split
    · exact ((abort_stream_rx_unasking l).trans (Logs.same _ rfl)).emit _ id
    · exact Logs.same _ rfl
  have waited (l : Link) : Logs Event.Unasking l (txFcTimeout l now) := by
    unfold txFcTimeout
    split
    · exact (Logs.same _ rfl).emit _ id
    · exact Logs.same _ rfl
  have paced (l : Link) : Logs Event.Unasking l (cfPacing l now hal) := by
    unfold cfPacing
    split
    · exact send_next_cf_unasking l hal
    · exact Logs.same _ rfl
  exact (received.trans (waited _)).trans (paced _)

/-- A Consecutive Frame that is received asks for nothing. -/
theorem receive_consecutive_unasking (l : Link) (hal : Nat) (f : CanFrame) :
    Logs Event.Unasking l (receiveConsecutive l hal f) := by
  unfold receiveConsecutive
  simp only
  split
  · exact Logs.same _ rfl
  · split
    · exact ((abort_stream_rx_unasking l).trans (Logs.same _ rfl)).emit _ id
    · have continued := (Logs.same Event.Unasking (l := l) rfl).emit (.rxContinued f) id
      exact ((continued.emitIf _ _ (by exact id)).emitIf _ _ (by exact id)).trans
        (Logs.same _ rfl)

/-- A First Frame is answered with a ContinueToSend only when it starts a reception. -/
theorem process_first_frame_asks (l : Link) (hal : Nat) (f : CanFrame) :
    Logs Event.Unasking l (processFirstFrame l hal f) ∨
      .rxStarted f ∈ (processFirstFrame l hal f).log := by
  have grown (l : Link) (canId : Nat) (fs bs stmin : UInt8) (present : .rxStarted f ∈ l.log) :
      .rxStarted f ∈ (sendFlowControl l canId fs bs stmin).log := by
    obtain ⟨events, log, _⟩ := (send_flow_control_receives l canId fs bs stmin).log
    rw [log]
    exact List.mem_append_left events present
  unfold processFirstFrame
  simp only
  split
  · exact Or.inl (Logs.same _ rfl)
  · split
    · exact Or.inl ((restart_rx_unasking l .firstFrame).trans (Logs.same _ rfl))
    · split
      · split
        · refine Or.inl ((restart_rx_unasking l .firstFrame).trans ?_)
          -- a frame that is too long is answered with an Overflow
          have overflow : ∀ e : Event, e = .queued ⟨f.canId + 8, 0xA,
                padFrame [isoTpPciFlowControl ||| (isoTpFcOverflow &&& 0x0F), 0, 0]⟩ ∨
              e = .lost ⟨f.canId + 8, 0xA,
                padFrame [isoTpPciFlowControl ||| (isoTpFcOverflow &&& 0x0F), 0, 0]⟩ →
              e.Unasking := by
            have other : isoTpPciFlowControl ||| (isoTpFcOverflow &&& 0x0F) ≠
                isoTpPciFlowControl ||| isoTpFcContinue := by decide
            rintro e (rfl | rfl) <;> exact other
          rw [sendFlowControl]
          rcases add_message_cases (restartRx l .firstFrame) ⟨f.canId + 8, 0xA,
              padFrame [isoTpPciFlowControl ||| (isoTpFcOverflow &&& 0x0F), 0, 0]⟩
            with refused | taken
          · rw [refused]
            exact Logs.one _ _ rfl (overflow _ (Or.inr rfl))
          · rw [taken]
            exact Logs.one _ _ rfl (overflow _ (Or.inl rfl))
        · refine Or.inr (grown _ _ _ _ _ ?_)
          split <;> simp [Link.emit]
      · refine Or.inr (grown _ _ _ _ _ ?_)
        simp [Link.emit]

/-- What a frame for this node makes the receive part do before a dispatch. -/
theorem receive_asks (l : Link) (hal : Nat) (f : CanFrame) :
    Logs Event.Unasking l (receive l hal f) ∨ .rxStarted f ∈ (receive l hal f).log := by
  unfold receive
  simp only
  split
  · exact Or.inl (((restart_rx_unasking l .singleFrame).trans (Logs.same _ rfl)).emit _ id)
  · split
    · exact process_first_frame_asks l hal f
    · split
      · exact Or.inl (receive_consecutive_unasking l hal f)
      · exact Or.inl (Logs.same _ rfl)

/-- A dispatch asks for nothing, so only a First Frame does. -/
theorem dispatch_unasking (above : Upper σ κ) (w : World σ) (hal : Nat) :
    Logs Event.Unasking w.link (dispatchIfComplete above w hal).link := by
  unfold dispatchIfComplete
  split
  · exact ((((Logs.same Event.Unasking rfl).emit _ (by exact id)).trans
      (send_all_unasking _ hal _)).trans (Logs.same _ rfl)).trans (send_response_unasking _ hal _ _)
  · exact Logs.same _ rfl

/-- A step with a ContinueToSend starts a reception. -/
theorem step_asks (above : Upper σ κ) (w : World σ) (i : Input κ) (e : Event)
    (member : e ∈ (step above w i).2) (asks : e.Asks) :
    ∃ f, .rxStarted f ∈ (step above w i).2 := by
  have silent (logs : Logs Event.Unasking w.quiet.link (act above w.quiet i).link) :
      ∃ f, .rxStarted f ∈ (step above w i).2 := by
    obtain ⟨events, log, unasking⟩ := logs
    have whole : (step above w i).2 = events := log
    rw [whole] at member
    exact absurd asks (unasking e member)
  cases i with
  | frame hal f =>
    by_cases sized : f.dlc = 0
    · apply silent
      rw [act, isoTpProcessFrame, if_pos sized]
      exact Logs.same _ rfl
    · by_cases flow : byte f.data 0 &&& 0xF0 = isoTpPciFlowControl
      · apply silent
        rw [act, isoTpProcessFrame, if_neg sized, if_pos flow]
        exact process_flow_control_unasking _ hal f
      · by_cases mine : canAddrClassify f.canId = .ignore
        · apply silent
          rw [act, isoTpProcessFrame, if_neg sized, if_neg flow, mine]
          exact Logs.same _ rfl
        · have whole := process_frame_spec above w.quiet hal f sized flow mine
          rcases receive_asks (w.quiet.link.addressed (canAddrClassify f.canId)) hal f with
            unasking | started
          · apply silent
            rw [act, whole]
            exact (Logs.trans (Logs.same _ rfl) unasking).trans (dispatch_unasking above _ hal)
          · obtain ⟨events, log, _⟩ := dispatch_unasking above
              ⟨receive (w.quiet.link.addressed (canAddrClassify f.canId)) hal f, w.upper⟩ hal
            refine ⟨f, ?_⟩
            change _ ∈ (isoTpProcessFrame above w.quiet hal f).link.log
            rw [whole]
            exact log ▸ List.mem_append_left events started
  | work hal k => exact silent (send_all_unasking _ hal _)
  | tick now hal => exact silent (tick_unasking _ now hal)
  | registerStreamSink sink => exact silent (Logs.same _ rfl)

/-! ## Steps -/

/-- The payload of a First Frame is what the frame has of the announced bytes. -/
theorem first_frame_payload_size (f : CanFrame) (totalSize off : Nat) :
    (firstFramePayload f totalSize off).length = min totalSize (f.dlc - off) := by
  have most := f.dlc_le
  have raw : (rawFirst f off).length = f.dlc - off := by
    rw [rawFirst, List.length_take, List.length_drop, f.data_length]
    omega
  rw [first_frame_payload_raw, List.length_take, raw]

/-- Between calls: nothing complete waits, and a reception that waits has bytes missing
and is a stream only when it is too long for the buffer. -/
structure Partly (c : RxContext) : Prop where
  dispatched : c.rxState ≠ .complete
  missing : c.rxState = .waitCf → c.Missing
  stream : c.rxState = .waitCf → c.streamMode = true → isoTpMaxMessageSize < c.rxTotalSize

/-- A transport that receives nothing has nothing missing. -/
theorem partly_of_idle (c : RxContext) (idle : c.rxState = .idle) : Partly c := by
  constructor
  · rw [idle]
    decide
  · intro waiting
    rw [idle] at waiting
    cases waiting
  · intro waiting
    rw [idle] at waiting
    cases waiting

/-- The last byte changes neither size. -/
theorem finish_rx_sizes (c : RxContext) :
    (finishRx c).rxReceived = c.rxReceived ∧ (finishRx c).rxTotalSize = c.rxTotalSize := by
  unfold finishRx
  split
  · exact ⟨rfl, rfl⟩
  · split <;> exact ⟨rfl, rfl⟩

/-- A reception with nothing missing ends, a buffered one as a complete request. -/
theorem finish_rx_ended (c : RxContext) (ended : ¬ c.Missing) :
    (finishRx c).rxState = if c.streamMode then .idle else .complete := by
  have all : ¬ c.rxReceived < c.rxTotalSize := ended
  rw [finishRx, if_neg all]
  split <;> rfl

/-- What one input does to a reception with bytes missing, unless it is a First Frame
that carries all it announces. -/
structure StepInTime (c c' : RxContext) (events : List Event) : Prop where
  partly : Partly c'
  started : ∀ f, .rxStarted f ∈ events → c'.rxState = .waitCf
  last : ∀ request addr, .dispatched request addr ∈ events →
    (∃ f, .rxSingle f ∈ events) ∨ ∃ f, .rxContinued f ∈ events ∧ c.Missing
  dispatches : ∀ f, .rxStarted f ∈ events ∨ .rxContinued f ∈ events →
    c'.rxTotalSize ≤ isoTpMaxMessageSize → ¬ c'.Missing →
    ∃ request addr, .dispatched request addr ∈ events

/-- A step that only notes or drops takes no frame of a reception. -/
theorem step_in_time_inert (c c' : RxContext) (events : List Event) (partly : Partly c')
    (inert : ∀ e ∈ events, e.Inert) : StepInTime c c' events where
  partly := partly
  started f member := (inert _ member).elim
  last request addr member := (inert _ member).elim
  dispatches := by
    rintro f (member | member)
    · exact (inert _ member).elim
    · exact (inert _ member).elim

/-- Every input but such a First Frame keeps the rule. -/
theorem rx_step_in_time (c c' : RxContext) (i : Input κ) (events : List Event) (partly : Partly c)
    (sized : ∀ hal f, i = .frame hal f → .rxStarted f ∈ events → f.dlc ≠ 0)
    (more : LeavesMore i) (step : RxStep c i c' events) : StepInTime c c' events := by
  cases step with
  | kept addr events inert =>
    exact step_in_time_inert c _ events ⟨partly.dispatched, partly.missing, partly.stream⟩ inert
  | dropped c' events idle _ _ inert =>
    exact step_in_time_inert c c' events (partly_of_idle c' idle) inert
  | started hal f totalSize off before after input kind sender decoded inert =>
    have present : .rxStarted f ∈ before ++ .rxStarted f :: after := by simp
    have left : f.dlc - off < totalSize := by
      by_contra carried
      exact more hal f input ⟨sized hal f input present, sender, kind, totalSize, off, decoded,
        Nat.not_lt.mp carried⟩
    have missing : (startRx { c with rxAddrType := .physical } hal f totalSize
        (firstFramePayload f totalSize off)).Missing := by
      change (firstFramePayload f totalSize off).length < totalSize
      rw [first_frame_payload_size]
      omega
    have quiet (e : Event) (member : e ∈ before ++ .rxStarted f :: after) (other : ¬ e.Inert) :
        e = .rxStarted f := by
      rcases List.mem_append.mp member with early | late
      · exact absurd (inert e (List.mem_append_left after early)) other
      · rcases List.mem_cons.mp late with same | later
        · exact same
        · exact absurd (inert e (List.mem_append_right before later)) other
    refine ⟨⟨nofun, fun _ => missing, fun _ => of_decide_eq_true⟩, fun _ _ => rfl, ?_, ?_⟩
    · intro request addr member
      cases quiet _ member id
    · intro g _ _ complete
      exact absurd missing complete
  | continued hal f after input sized' mine kind waiting sequence unfinished inert =>
    have sizes := finish_rx_sizes (continueRx c hal f)
    have quiet (e : Event) (member : e ∈ .rxContinued f :: after) (other : ¬ e.Inert) :
        e = .rxContinued f := by
      rcases List.mem_cons.mp member with same | later
      · exact same
      · exact absurd (inert e later) other
    have goes_on (still : (finishRx (continueRx c hal f)).rxState = .waitCf) :
        finishRx (continueRx c hal f) = continueRx c hal f := finish_rx_waiting _ still
    refine ⟨⟨unfinished, ?_, ?_⟩, ?_, ?_, ?_⟩
    · intro still
      have same := goes_on still
      change (finishRx (continueRx c hal f)).Missing
      rw [same]
      by_contra ended
      have state := (finish_rx_ended (continueRx c hal f) ended).symm.trans still
      split at state <;> cases state
    · intro still stream
      have same := goes_on still
      change (finishRx (continueRx c hal f)).streamMode = true at stream
      change isoTpMaxMessageSize < (finishRx (continueRx c hal f)).rxTotalSize
      rw [same] at stream ⊢
      exact partly.stream waiting stream
    · intro g member
      cases quiet _ member id
    · intro request addr member
      cases quiet _ member id
    · intro g _ fits complete
      -- nothing is missing and nothing dispatched: a stream, too long for the buffer
      exfalso
      change (finishRx (continueRx c hal f)).rxTotalSize ≤ isoTpMaxMessageSize at fits
      have ended : ¬ (continueRx c hal f).Missing := by
        intro missing
        apply complete
        rw [RxContext.Missing, ← sizes.1, ← sizes.2] at missing
        exact missing
      cases stream : c.streamMode with
      | true =>
        have long := partly.stream waiting stream
        rw [sizes.2] at fits
        change c.rxTotalSize ≤ isoTpMaxMessageSize at fits
        omega
      | false =>
        have state := finish_rx_ended (continueRx c hal f) ended
        have buffered : (continueRx c hal f).streamMode = false := stream
        rw [buffered] at state
        exact unfinished state
  | completed hal f after sent input sized' mine kind waiting sequence complete inert =>
    refine ⟨partly_of_idle _ rfl, ?_, ?_, ?_⟩
    · intro g member
      exfalso
      simp only [List.cons_append, List.mem_cons, List.mem_append, reduceCtorEq, false_or] at member
      rcases member with early | late
      · exact inert _ (List.mem_append_left sent early)
      · exact inert _ (List.mem_append_right after late)
    · intro request addr _
      exact Or.inr ⟨f, by simp, partly.missing waiting⟩
    · intro g _ _ _
      exact ⟨_, _, List.mem_append_right (.rxContinued f :: after) List.mem_cons_self⟩
  | single c' hal f addr before after sent input kind idle buffer inert =>
    refine ⟨partly_of_idle c' idle, ?_, ?_, ?_⟩
    · intro g member
      exfalso
      simp only [List.append_assoc, List.cons_append, List.mem_cons, List.mem_append, reduceCtorEq,
        false_or] at member
      rcases member with early | middle | late
      · exact inert (.rxStarted g) (by simp [early])
      · exact inert (.rxStarted g) (by simp [middle])
      · exact inert (.rxStarted g) (by simp [late])
    · intro request addr' _
      exact Or.inl ⟨f, by simp⟩
    · intro g _ _ _
      exact ⟨_, _, List.mem_append_right (before ++ .rxSingle f :: after) List.mem_cons_self⟩

/-- A frame without data does nothing. -/
theorem step_unsized (above : Upper σ κ) (w : World σ) (hal : Nat) (f : CanFrame)
    (unsized : f.dlc = 0) : (step above w (.frame hal f)).2 = [] := by
  change (isoTpProcessFrame above w.quiet hal f).link.log = []
  rw [isoTpProcessFrame, if_pos unsized]
  rfl

/-- From a state in which bytes are missing, an input that leaves more makes a step in
time, to such a state. -/
theorem step_in_time (above : Upper σ κ) (w : World σ) (i : Input κ)
    (partly : Partly w.link.ctx.toRxContext) (more : LeavesMore i) :
    CompleteInTime above w i ∧ Partly (step above w i).1.link.ctx.toRxContext := by
  have sized : ∀ hal f, i = .frame hal f → .rxStarted f ∈ (step above w i).2 → f.dlc ≠ 0 := by
    rintro hal f rfl member unsized
    rw [step_unsized above w hal f unsized] at member
    cases member
  obtain ⟨after, started, last, dispatches⟩ := rx_step_in_time _ _ i _ partly sized more
    (step_reception above w i partly.dispatched)
  refine ⟨⟨after.missing, ?_, last, dispatches⟩, after⟩
  rintro ⟨e, member, asks⟩
  obtain ⟨f, begun⟩ := step_asks above w i e member asks
  have waiting := started f begun
  exact ⟨waiting, after.missing waiting⟩

/-- A First Frame that carries all it announces starts a reception that waits for
nothing. -/
theorem carries_all_waits (above : Upper σ κ) (w : World σ) (hal : Nat) (f : CanFrame)
    (carries : CarriesAll f) : ¬ CompleteInTime above w (.frame hal f) := by
  obtain ⟨sized, sender, first, totalSize, off, decoded, all⟩ := carries
  have most := f.dlc_le
  have fits : totalSize ≤ isoTpMaxMessageSize := by
    rw [isoTpMaxMessageSize]
    omega
  have mine : canAddrClassify f.canId = .physical := (can_addr_physical_iff _).mpr sender
  have flow : byte f.data 0 &&& 0xF0 ≠ isoTpPciFlowControl := by
    rw [first]
    decide
  obtain ⟨begun, _⟩ := process_first_frame_starts (w.quiet.link.addressed .physical) hal f
    totalSize off (by simp) decoded fits
  have stepped : (step above w (.frame hal f)).1.link.ctx.toRxContext =
      startRx (w.quiet.link.addressed .physical).ctx.toRxContext hal f totalSize
        (firstFramePayload f totalSize off) := by
    change (isoTpProcessFrame above w.quiet hal f).link.ctx.toRxContext = _
    have partly : (receive (w.quiet.link.addressed .physical) hal f).ctx.rxState ≠ .complete := by
      rw [receive_first _ hal f first]
      intro complete
      have waiting := congrArg RxContext.rxState begun
      cases waiting.symm.trans complete
    rw [process_frame_spec above w.quiet hal f sized flow (by rw [mine]; decide), mine,
      dispatch_nothing above _ hal partly, receive_first _ hal f first]
    exact begun
  intro complete
  have missing := complete.waits (congrArg RxContext.rxState stepped)
  rw [stepped] at missing
  change (firstFramePayload f totalSize off).length < totalSize at missing
  rw [first_frame_payload_size] at missing
  omega

/-! ## Runs -/

/-- Every reception of a run ends with its last byte exactly when no First Frame of the
run, addressed to this node, carries all it announces. -/
theorem complete_in_time_iff (above : Upper σ κ) (sink : Bool) (faults : List Bool) (upper : σ)
    (inputs : List (Input κ)) :
    Along (step above) (fun _ w i => CompleteInTime above w i) []
        (isoTpInit sink faults upper) inputs ↔ ∀ i ∈ inputs, LeavesMore i := by
  rw [← along_inputs_iff (step above) LeavesMore [] (isoTpInit sink faults upper) inputs]
  apply Iff.symm
  apply along_iff_of_invariant (step above) _ _ fun _ w => Partly w.link.ctx.toRxContext
  · exact fun _ w i partly more => (step_in_time above w i partly more).2
  · intro _ w i partly
    constructor
    · exact fun more => (step_in_time above w i partly more).1
    · rintro complete hal f rfl carries
      exact carries_all_waits above w hal f carries complete
  · exact partly_of_idle _ rfl

/-- A request of three bytes, announced and carried by a First Frame. -/
def shortFirstFrame : CanFrame :=
  rxFifo0Message canIdPhysicalReq 8 [0x10, 0x03, 0x22, 0xF1, 0x90, 0xCC, 0xCC, 0xCC]

/-- The message is not dispatched: the reception waits with all three bytes, and a
ContinueToSend asks for more. -/
theorem short_first_frame_waits :
    (step silent (isoTpInit false [] ()) (.frame 0 shortFirstFrame)).2 =
      [.rxStarted shortFirstFrame,
        .queued ⟨canIdPhysicalResp, 0xA, padFrame [0x30, 0x00, 0x05]⟩] ∧
    (step silent (isoTpInit false [] ()) (.frame 0 shortFirstFrame)).1.link.ctx.rxReceived = 3 ∧
    ¬ Along (step silent) (fun _ w i => CompleteInTime silent w i) []
      (isoTpInit false [] ()) [.frame 0 shortFirstFrame] := by
  refine ⟨by decide +kernel, by decide +kernel, ?_⟩
  rintro ⟨complete, _⟩
  refine carries_all_waits silent (isoTpInit false [] ()) 0 shortFirstFrame ?_ complete
  exact ⟨by decide, rfl, by decide, 3, 2, by decide +kernel, by decide⟩

end ObdSimulator.IsoTp
