import ObdSimulator.AppMain
import ObdSimulator.Transmission

/-!
# One message at a time on the response identifier

The busy check of `ISO_TP_SendResponse` covers segmented messages only. A message
of at most 62 bytes goes out at once, also between the First Frame and the last
Consecutive Frame of another, and a receiver that restarts on it loses the other.
Apart from such messages, a segmented transmission has the response identifier
for itself, and a receiver of its frames gets the whole message.
-/

namespace ObdSimulator.IsoTp

open Bytes

universe u v u' v'

variable {σ : Type u} {κ : Type v} {σ' : Type u'} {κ' : Type v'}

/-- A segmented message and the frames sent so far, without flow control, which is
for the receiver's own transmissions. -/
structure Sending where
  message : List UInt8
  frames : List TxFrame := []

/-- The segmented transmission the events lead to. -/
def follow (current : Option Sending) : Event → Option Sending
  | .txStarted message => some { message }
  | .queued frame =>
    if pciType frame = isoTpPciFlowControl then current
    else current.map fun s => { s with frames := s.frames ++ [frame] }
  | .txComplete | .txAborted _ => none
  | _ => current

/-- A receiver in any state, with its whole receive buffer. -/
structure Receiver (σ : Type u) where
  world : World σ
  room : world.link.ctx.rxBuffer.length = isoTpMaxMessageSize

/-- A Single or First Frame on the response identifier. -/
def StartsMessage (frame : TxFrame) : Prop :=
  frame.canId = canIdPhysicalResp ∧
    (pciType frame = isoTpPciSingleFrame ∨ pciType frame = isoTpPciFirstFrame)

/-- During a segmented transmission no Single or First Frame but its own is
queued, and a receiver of its frames gets the message when it ends. -/
def Alone (below : Upper σ' κ') (receiver : Receiver σ') (current : Option Sending) : Event → Prop
  | .queued frame => StartsMessage frame → ∀ s, current = some s →
      s.frames = [] ∧ pciType frame = isoTpPciFirstFrame
  | .txComplete => ∀ s, current = some s → ∀ feed, Fed s.frames feed →
      feedRequests below receiver.world feed = [(s.message, .physical)]
  | _ => True

/-- The response channel during one call. -/
def Undisturbed (above : Upper σ κ) (below : Upper σ' κ') (receiver : Receiver σ')
    (past : List Event) (w : World σ) (i : Input κ) : Prop :=
  Run.Each follow (Alone below receiver) (past.foldl follow none) (step above w i).2

/-- Every message that goes out in a Single Frame finds the transmission idle. -/
def Uninterrupted (above : Upper σ κ) (_ : List Event) (w : World σ) (i : Input κ) : Prop :=
  Allowed (fun c => c.txState = .idle) i.hal (handed above w.quiet i).1 (handed above w.quiet i).2

/-- The transmission the events lead to is the one in the context. -/
def Following (current : Option Sending) (c : TxContext) : Prop :=
  match current with
  | none => c.txState = .idle
  | some s => c.txState ≠ .idle ∧ s.frames ≠ [] ∧ s.message.length ≤ isoTpMaxMessageSize ∧
      Sent canIdPhysicalResp s.message s.frames c

/-- An idle transmitter follows no message. -/
theorem Following.idle {current : Option Sending} {c : TxContext} (following : Following current c)
    (idle : c.txState = .idle) : current = none := by
  cases current with
  | none => rfl
  | some s => exact absurd idle following.1

/-- A busy transmitter follows a message with frames left. -/
theorem Following.busy {current : Option Sending} {c : TxContext} (following : Following current c)
    (busy : c.txState ≠ .idle) : ∃ s, current = some s ∧ s.frames ≠ [] ∧
      s.message.length ≤ isoTpMaxMessageSize ∧ Sent canIdPhysicalResp s.message s.frames c := by
  cases current with
  | none => exact absurd following busy
  | some s => exact ⟨s, rfl, following.2⟩

/-- Events of others are not followed. -/
theorem follow_foreign (current : Option Sending) (e : Event) (other : e.Foreign) :
    follow current e = current := by
  rcases other with ofRx | ⟨request, addr, rfl⟩
  · cases e with
    | queued frame =>
      have kind : pciType frame = isoTpPciFlowControl := ofRx
      simp only [follow, kind, if_true]
    | txStarted => exact ofRx.elim
    | txComplete => exact ofRx.elim
    | txAborted => exact ofRx.elim
    | _ => rfl
  · rfl

/-- Events of others disturb nothing. -/
theorem alone_foreign (below : Upper σ' κ') (receiver : Receiver σ') (current : Option Sending)
    (e : Event) (other : e.Foreign) : Alone below receiver current e := by
  rcases other with ofRx | ⟨request, addr, rfl⟩
  · cases e with
    | queued frame =>
      have kind : pciType frame = isoTpPciFlowControl := ofRx
      rintro ⟨_, single | first⟩
      · rw [kind] at single
        exact absurd single (by decide)
      · rw [kind] at first
        exact absurd first (by decide)
    | txComplete => exact ofRx.elim
    | _ => trivial
  · trivial

/-- The next Consecutive Frame of the transmission, which ends with the whole
message delivered. -/
theorem cf_sent_alone (below : Upper σ' κ') (receiver : Receiver σ') (s : Sending)
    (c c' : TxContext) (hal : Nat) (events : List Event)
    (fits : s.message.length ≤ isoTpMaxMessageSize) (busy : c.txState ≠ .idle)
    (under : Sent canIdPhysicalResp s.message s.frames c) (sent : CfSent c hal c' events) :
    Run.Each follow (Alone below receiver) (some s) events ∧
      Following (events.foldl follow (some s)) c' := by
  have kind := next_cf_pci c
  have alone : Alone below receiver (some s) (.queued (nextCf c)) := by
    rintro ⟨_, single | first⟩
    · rw [kind] at single
      exact absurd single (by decide)
    · rw [kind] at first
      exact absurd first (by decide)
  have followed : follow (some s) (.queued (nextCf c)) =
      some { s with frames := s.frames ++ [nextCf c] } := by
    have data : isoTpPciConsecutive ≠ isoTpPciFlowControl := by decide
    simp only [follow, kind, if_neg data, Option.map_some]
  have total : c.txTotalSize = s.message.length := under.total
  have more : ∀ state ≠ TxState.idle, (advanceTx c hal).txSent < c.txTotalSize →
      Following (follow (some s) (.queued (nextCf c)))
        { advanceTx c hal with txState := state } := by
    intro state active left
    rcases under.next hal with ⟨finished, _⟩ | ⟨_, next⟩
    · rw [total] at left
      exact absurd finished (Nat.not_le.mpr left)
    · rw [followed]
      exact ⟨active, by simp, fits, next.same _ rfl rfl rfl rfl rfl⟩
  cases sent with
  | nothingLeft all =>
    rw [total] at all
    exact absurd under.left (Nat.not_lt.mpr all)
  | refused => exact ⟨⟨trivial, trivial, trivial⟩, rfl⟩
  | last _ all =>
    refine ⟨⟨alone, ?_, trivial⟩, rfl⟩
    rw [followed]
    rintro s' same feed fed
    cases same
    rcases under.next hal with ⟨_, whole⟩ | ⟨left, _⟩
    · have delivered := feed_segments below canIdPhysicalResp s.message receiver.world feed
        (s.frames ++ [nextCf c]) [] receiver.room
        (Nat.lt_of_le_of_lt (Nat.zero_le _) under.left) fits
        (by rw [List.append_nil]; exact whole) fed
      rw [delivered, if_pos rfl]
    · rw [total] at all
      exact absurd all (Nat.not_le.mpr left)
  | blockEnd _ left _ => exact ⟨⟨alone, trivial⟩, more .waitFc (by decide) left⟩
  | sent _ left _ => exact ⟨⟨alone, trivial⟩, more c.txState busy left⟩

/-- A First Frame and what is left behind it are the frames of its message. -/
theorem begin_tx_sent (c : TxContext) (message : List UInt8)
    (long : isoTpSfMaxPayload < message.length) :
    Sent canIdPhysicalResp message [firstFrame canIdPhysicalResp message] (beginTx c message) where
  buffer := by
    have copied := memcpy_take c.txBuffer 0 message (Nat.zero_le _)
    simpa [beginTx] using copied
  total := rfl
  identifier := rfl
  left := long
  rest := ⟨1, rfl, by rw [segments, if_neg (Nat.not_le.mpr long)]; rfl⟩

/-- Every operation but a queued Single Frame leaves the channel to the transmission. -/
theorem tx_op_alone (below : Upper σ' κ') (receiver : Receiver σ') (i : Input κ)
    (current : Option Sending) (c c' : TxContext) (events : List Event) (op : TxOp i c c' events)
    (following : Following current c) :
    Run.Each follow (Alone below receiver) current events ∧
      Following (events.foldl follow current) c' := by
  cases op with
  | lost => exact ⟨⟨trivial, trivial⟩, following⟩
  | rejected => exact ⟨⟨trivial, trivial⟩, following⟩
  | started message idle long fits =>
    have kind := first_frame_pci canIdPhysicalResp message fits
    have data : isoTpPciFirstFrame ≠ isoTpPciFlowControl := by decide
    refine ⟨⟨trivial, ?_, trivial⟩, ?_⟩
    · rintro _ s same
      cases same
      exact ⟨rfl, kind⟩
    · simp only [List.foldl_cons, List.foldl_nil, follow, kind, if_neg data, Option.map_some]
      exact ⟨nofun, by simp, fits,
        (begin_tx_sent c message long).same _ rfl rfl rfl rfl rfl⟩
  | notStarted => exact ⟨⟨trivial, trivial, trivial, trivial⟩, rfl⟩
  | continued hal f _ events input waiting sent =>
    obtain ⟨s, rfl, _, fits, under⟩ := following.busy (by rw [waiting]; decide)
    obtain ⟨each, last⟩ := cf_sent_alone below receiver s (resumeTx c hal f) c' hal events fits
      nofun (under.same _ rfl rfl rfl rfl rfl) sent
    exact ⟨⟨trivial, each⟩, last⟩
  | waited hal f input waiting =>
    obtain ⟨s, rfl, some_frame, fits, under⟩ := following.busy (by rw [waiting]; decide)
    refine ⟨⟨trivial, trivial⟩, ?_, some_frame, fits, under.same _ rfl rfl rfl rfl rfl⟩
    exact fun idle => following.1 idle
  | tooManyWaits => exact ⟨⟨trivial, trivial⟩, rfl⟩
  | overflow => exact ⟨⟨trivial, trivial⟩, rfl⟩
  | timedOut => exact ⟨⟨trivial, trivial⟩, rfl⟩
  | paced now hal _ events input sending due sent =>
    have busy : c.txState ≠ .idle := by
      rw [sending]
      decide
    obtain ⟨s, rfl, _, fits, under⟩ := following.busy busy
    exact cf_sent_alone below receiver s c c' hal events fits busy under sent

/-- A run of the transmit side whose Single Frames find it idle. -/
theorem tx_run_alone (below : Upper σ' κ') (receiver : Receiver σ') (i : Input κ)
    (current : Option Sending) (c c' : TxContext) (events : List Event)
    (run : TxRun i (fun c => c.txState = .idle) c c' events) (following : Following current c) :
    Run.Each follow (Alone below receiver) current events ∧
      Following (events.foldl follow current) c' := by
  refine run.each follow (Alone below receiver) Following ?_ ?_ ?_ current following
  · intro current c e other kept
    refine ⟨alone_foreign below receiver current e other, ?_⟩
    rw [follow_foreign current e other]
    exact kept
  · intro current c message idle kept
    have none_sent : current = none := kept.idle idle
    subst none_sent
    refine ⟨nofun, ?_⟩
    have kind := single_frame_pci canIdPhysicalResp message
    have data : isoTpPciSingleFrame ≠ isoTpPciFlowControl := by decide
    simp only [follow, kind, if_neg data, Option.map_none]
    exact kept
  · intro current c c' events op kept
    exact tx_op_alone below receiver i current c c' events op kept

/-- A Single Frame that leaves the channel alone found the transmission idle. -/
theorem single_frame_idle (below : Upper σ' κ') (receiver : Receiver σ') (current : Option Sending)
    (c : TxContext) (message : List UInt8) (following : Following current c)
    (alone : Alone below receiver current (.queued (singleFrame canIdPhysicalResp message))) :
    c.txState = .idle := by
  by_contra busy
  obtain ⟨s, rfl, some_frame, _⟩ := following.busy busy
  have kind := single_frame_pci canIdPhysicalResp message
  exact some_frame (alone ⟨rfl, Or.inl kind⟩ s rfl).1

/-- Messages that leave the channel alone were allowed. -/
theorem sends_allowed (below : Upper σ' κ') (receiver : Receiver σ') (i : Input κ) (l : Link)
    (messages : List (List UInt8)) (current : Option Sending) (events : List Event)
    (following : Following current l.ctx.toTxContext)
    (log : (sendAll l i.hal messages).log = l.log ++ events)
    (each : Run.Each follow (Alone below receiver) current events) :
    Allowed (fun c => c.txState = .idle) i.hal l messages := by
  induction messages generalizing l current events with
  | nil => trivial
  | cons message rest ih =>
    let l' := isoTpSendResponse l i.hal canIdPhysicalResp message
    obtain ⟨later, log', _⟩ := (send_all_transmits l' i.hal rest).log
    have allowed : Queues l message → l.ctx.txState = .idle := by
      intro queues
      have queued : l'.log = l.log ++ [.queued (singleFrame canIdPhysicalResp message)] := by
        simp only [l', send_response_queues l i.hal canIdPhysicalResp message queues]
      have split : events = .queued (singleFrame canIdPhysicalResp message) :: later := by
        have whole : (sendAll l i.hal (message :: rest)).log = l'.log ++ later := log'
        rw [log, queued, List.append_assoc] at whole
        exact List.append_cancel_left whole
      rw [split] at each
      exact single_frame_idle below receiver current _ message following each.1
    obtain ⟨here, log'', run⟩ := send_response_runs i (fun c => c.txState = .idle) l message allowed
    have split : events = here ++ later := by
      have whole : (sendAll l i.hal (message :: rest)).log = l'.log ++ later := log'
      rw [log, log'', List.append_assoc] at whole
      exact List.append_cancel_left whole
    rw [split, Run.each_append] at each
    obtain ⟨_, kept⟩ := tx_run_alone below receiver i current _ _ here run following
    exact ⟨allowed, ih l' _ later kept log' each.2⟩

/-- The messages of a dispatch that leaves the channel alone were allowed. -/
theorem dispatch_allowed (above : Upper σ κ) (below : Upper σ' κ') (receiver : Receiver σ')
    (i : Input κ) (w : World σ) (current : Option Sending) (events : List Event)
    (answers : responseId w.link.ctx = canIdPhysicalResp)
    (following : Following current w.link.ctx.toTxContext)
    (log : (dispatchCompletedMessage above w i.hal).link.log = w.link.log ++ events)
    (each : Run.Each follow (Alone below receiver) current events) :
    Allowed (fun c => c.txState = .idle) i.hal (dispatchSends above w i.hal).1
      (dispatchSends above w i.hal).2 := by
  let served := dispatchServed above w i.hal
  let idle := dispatchRested above w i.hal
  obtain ⟨first, log₁, _⟩ := (send_all_transmits (dispatchAsked w) i.hal served.sent).log
  obtain ⟨last, log₂, _⟩ :=
    (send_response_transmits idle i.hal canIdPhysicalResp served.response).log
  have final : (dispatchCompletedMessage above w i.hal).link =
      isoTpSendResponse idle i.hal canIdPhysicalResp served.response := by
    rw [dispatch_completed_link, dispatch_rested_id, answers]
  have split : events = .dispatched (w.link.ctx.rxBuffer.take w.link.ctx.rxTotalSize)
      w.link.ctx.rxAddrType :: (first ++ last) := by
    have told_log : idle.log = (dispatchAsked w).log ++ first := log₁
    rw [final, log₂, told_log, dispatchAsked, emit_log, List.append_assoc,
      List.append_assoc] at log
    exact (List.append_cancel_left log).symm
  rw [split] at each
  obtain ⟨_, each⟩ := each
  rw [Run.each_append] at each
  have early : Allowed (fun c => c.txState = .idle) i.hal (dispatchAsked w) served.sent :=
    sends_allowed below receiver i (dispatchAsked w) served.sent current first following log₁ each.1
  obtain ⟨events', log', run⟩ := send_all_runs i _ (dispatchAsked w) served.sent early
  have same : events' = first := List.append_cancel_left (log'.symm.trans log₁)
  rw [same] at run
  obtain ⟨_, kept⟩ := tx_run_alone below receiver i current _ _ first run following
  have late : Allowed (fun c => c.txState = .idle) i.hal idle [served.response] :=
    sends_allowed below receiver i idle [served.response] _ last kept log₂ each.2
  exact (allowed_append _ i.hal (dispatchAsked w) served.sent [served.response]).mpr
    ⟨early, late⟩

/-- The state between calls. -/
structure Channel (past : List Event) (w : World σ) : Prop where
  ready : Ready w.link.ctx.toRxContext
  following : Following (past.foldl follow none) w.link.ctx.toTxContext

/-- Every uninterrupted step keeps the channel undisturbed. -/
theorem step_channel (above : Upper σ κ) (below : Upper σ' κ') (receiver : Receiver σ')
    (past : List Event) (w : World σ) (i : Input κ) (channel : Channel past w)
    (uninterrupted : Uninterrupted above past w i) :
    Channel (past ++ (step above w i).2) (step above w i).1 ∧
      Undisturbed above below receiver past w i := by
  have run := step_transmission above (fun c => c.txState = .idle) w i channel.ready uninterrupted
  obtain ⟨each, kept⟩ := tx_run_alone below receiver i _ _ _ _ run channel.following
  refine ⟨⟨?_, ?_⟩, each⟩
  · exact (step_reception above w i channel.ready.dispatched).ready channel.ready
  · rw [List.foldl_append]
    exact kept

/-- A call that leaves the channel alone hands over no message that interrupts it. -/
theorem undisturbed_uninterrupted (above : Upper σ κ) (below : Upper σ' κ') (receiver : Receiver σ')
    (past : List Event) (w : World σ) (i : Input κ) (channel : Channel past w)
    (undisturbed : Undisturbed above below receiver past w i) : Uninterrupted above past w i := by
  cases i with
  | frame hal f =>
    simp only [Uninterrupted, handed]
    split
    · rename_i dispatches
      obtain ⟨sized, flow, mine, complete⟩ := dispatches
      let l := w.quiet.link.addressed (canAddrClassify f.canId)
      have receives := receive_receives l hal f
      obtain ⟨received, log, ofRx⟩ := receives.log
      let w' : World σ := ⟨receive l hal f, w.upper⟩
      have acted : (act above w.quiet (.frame hal f)).link =
          (dispatchCompletedMessage above w' hal).link := by
        have spec := process_frame_spec above w.quiet hal f sized flow mine
        rw [dispatchIfComplete, if_pos complete] at spec
        exact congrArg World.link spec
      obtain ⟨_, _, sent, log', _⟩ := dispatch_completed_spec above w' hal
      have silent : l.log = [] := rfl
      have whole : (step above w (.frame hal f)).2 = received ++ (.dispatched
          (w'.link.ctx.rxBuffer.take w'.link.ctx.rxTotalSize) w'.link.ctx.rxAddrType :: sent) := by
        calc (step above w (.frame hal f)).2 = (act above w.quiet (.frame hal f)).link.log := rfl
          _ = w'.link.log ++ _ := by rw [acted, log']
          _ = _ := by rw [show w'.link.log = l.log ++ received from log, silent, List.nil_append]
      rw [Undisturbed, whole, Run.each_append] at undisturbed
      have kept : received.foldl follow (past.foldl follow none) = past.foldl follow none := by
        clear undisturbed whole log
        induction received with
        | nil => rfl
        | cons e rest ih =>
          rw [List.foldl_cons, follow_foreign _ e (Or.inl (ofRx e List.mem_cons_self))]
          exact ih fun later member => ofRx later (List.mem_cons_of_mem _ member)
      rw [kept] at undisturbed
      have following : Following (past.foldl follow none) w'.link.ctx.toTxContext := by
        rw [receives.tx]
        exact channel.following
      exact dispatch_allowed above below receiver (.frame hal f) w' _ _
        (complete_response_id w.quiet.link hal f channel.ready mine complete) following log'
        undisturbed.2
    · trivial
  | work hal k =>
    exact sends_allowed below receiver (.work hal k) w.quiet.link _ _ _ channel.following rfl
      undisturbed
  | tick now hal => trivial
  | registerStreamSink sink => trivial

/-- In every run, each segmented transmission has the response identifier for
itself and reaches its receiver exactly when every message that goes out in a
Single Frame finds the transmission idle.

Proof: the events lead to the transmission the context is in, and what it sent is
the beginning of the frames of its message. A Single Frame that is queued in
between is an event of that transmission. -/
theorem channel_undisturbed_iff (above : Upper σ κ) (below : Upper σ' κ') (receiver : Receiver σ')
    (sink : Bool) (faults : List Bool) (upper : σ) (inputs : List (Input κ)) :
    Run.Along (step above) (Undisturbed above below receiver) [] (isoTpInit sink faults upper)
        inputs ↔
      Run.Along (step above) (Uninterrupted above) [] (isoTpInit sink faults upper) inputs := by
  have initial : Channel [] (isoTpInit sink faults upper) := ⟨⟨nofun, nofun⟩, rfl⟩
  have forward := fun past w i (channel : Channel past w) =>
    step_channel above below receiver past w i channel
  refine (Run.along_iff_of_invariant (step above) (Uninterrupted above)
    (Undisturbed above below receiver) Channel ?_ ?_ [] _ inputs initial).symm
  · intro past w i channel uninterrupted
    exact (forward past w i channel uninterrupted).1
  · intro past w i channel
    constructor
    · intro uninterrupted
      exact (forward past w i channel uninterrupted).2
    · exact undisturbed_uninterrupted above below receiver past w i channel

/-- What `Alone` says about frames that start a message. -/
def StartsAlone (current : Option Sending) : Event → Prop
  | .queued frame => StartsMessage frame → ∀ s ∈ current, s.frames = []
  | _ => True

instance decidableStartsAlone (current : Option Sending) : ∀ e, Decidable (StartsAlone current e)
  | .queued frame =>
    inferInstanceAs (Decidable ((frame.canId = _ ∧ (_ ∨ _)) → ∀ s ∈ current, s.frames = []))
  | .lost _ | .sink _ _ _ | .rxSingle _ | .rxStarted _ | .rxContinued _ | .rxDropped _
  | .dispatched _ _ | .txStarted _ | .flowContinue | .flowWait | .txComplete | .txAborted _
  | .rejected _ => isTrue trivial

/-- A message that has the channel to itself starts alone. -/
theorem Alone.starts {below : Upper σ' κ'} {receiver : Receiver σ'} {current : Option Sending}
    {e : Event} (alone : Alone below receiver current e) : StartsAlone current e := by
  cases e with
  | queued frame => exact fun starts s member => (alone starts s member).1
  | _ => trivial

/-- A request in one frame from the tester. -/
def requestInput (request : List UInt8) : Input AppMain.Task :=
  .frame 2000 (rxFifo0Message canIdPhysicalReq (fdcanBytesToDlc (request.length + 1))
    (UInt8.ofNat request.length :: request))

/-- The application over an erased memory, a second after its boot delay. -/
def appStart : World AppMain.Node :=
  isoTpInit false [] { app := UdsService.appInit 0 0, mem := fun _ => 0xFF }

/-- An unlocked Extended session, a read of 63 bytes, whose answer is segmented, and
a TesterPresent while that answer waits for flow control. -/
def pollDuringRead : List (Input AppMain.Task) :=
  [[0x10, 0x03], [0x27, 0x01], [0x27, 0x02, 0xEF, 0x62],
    [0x23, 0x14, 0x08, 0x00, 0x00, 0x00, 0x3F], [0x3E, 0x00]].map requestInput

/-- A receiver with nothing above it, for the witness. -/
def idleReceiver : Receiver Unit := ⟨isoTpInit false [] (), by simp [isoTpInit]⟩

/-- The answer to TesterPresent goes out between the frames of another answer. -/
theorem poll_interrupts_response :
    ¬ ∀ inputs, Run.Along (step AppMain.appUpper) (Undisturbed AppMain.appUpper silent idleReceiver)
      [] appStart inputs := by
  intro undisturbed
  have starts : Run.Along (step AppMain.appUpper)
      (fun past w i => Run.Each follow StartsAlone (past.foldl follow none)
        (step AppMain.appUpper w i).2) [] appStart pollDuringRead := by
    refine Run.along_mono _ _ _ ?_ [] appStart pollDuringRead (undisturbed pollDuringRead)
    intro past w i each
    exact Run.each_mono follow _ _ _ _ (fun _ _ alone => alone.starts) each
  exact absurd starts (by decide +kernel)

end ObdSimulator.IsoTp
