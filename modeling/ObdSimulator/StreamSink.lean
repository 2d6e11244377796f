import ObdSimulator.ReassemblySoundness
import ObdSimulator.Lib.StreamProtocol

/-!
# The stream sink

A message larger than the receive buffer goes to a registered sink, portion by
portion. The sink is told of its begin, of every portion, and of its end or its
failure. A reception in stream mode is a transfer the sink sees open, with as many
bytes as the context counts; every path that gives the reception up reports the
failure once, and the portion that brings the last byte is followed by the end.
-/

namespace ObdSimulator.IsoTp

open Bytes StreamProtocol

universe u v

variable {σ : Type u} {κ : Type v}

/-! ## What the sink sees -/

/-- The events of the sink as kinds of notification. -/
def StreamEvent.kind : StreamEvent → Kind
  | .begin => .begin
  | .data => .data
  | .done => .done
  | .error => .error

/-- A call of the sink, as a notification. -/
def Event.signal? : Event → Option (Signal UInt8)
  | .sink event data totalSize => some ⟨event.kind, data, totalSize⟩
  | _ => none

/-- The calls of the sink among some events. -/
def signals (events : List Event) : List (Signal UInt8) := events.filterMap Event.signal?

/-- The frames of the reception under way, and the transfer the sink sees open. -/
structure Watch where
  frames : List CanFrame := []
  transfer : Option (Transfer UInt8) := none

/-- The next event as the observer takes it. -/
def watch (s : Watch) (e : Event) : Watch where
  frames := collect s.frames e
  transfer := e.signal?.elim s.transfer (follow s.transfer)

/-- What the observer knows after a history. -/
def watched (history : List Event) : Watch := history.foldl watch {}

/-- The bytes of a transfer are the payload of its frames, up to its size. -/
def Carried (frames : List CanFrame) (t : Transfer UInt8) : Prop :=
  ∃ first rest off, frames = first :: rest ∧ firstFrameSize first = some (t.total, off) ∧
    t.items = (rawPayload first off rest).take t.total

/-- A call of the sink follows the protocol, and hands over what the frames carried. -/
def SinkRule (s : Watch) (e : Event) : Prop :=
  ∀ signal, e.signal? = some signal → Rule s.transfer signal ∧
    (signal.kind = .data → ∀ t ∈ follow s.transfer signal, Carried s.frames t)

/-- The failures among some events. -/
def Event.isFailure : Event → Bool
  | .sink .error _ _ => true
  | _ => false

/-- What ends a reception before its last byte: a frame that replaces it, a frame out
of sequence, or the time since its last frame. -/
def Breaks (c : RxContext) : Input κ → Prop
  | .frame _ f => f.dlc ≠ 0 ∧ canAddrClassify f.canId ≠ .ignore ∧
      (byte f.data 0 &&& 0xF0 = isoTpPciSingleFrame ∨
        byte f.data 0 &&& 0xF0 = isoTpPciFirstFrame ∧ canAddrClassify f.canId = .physical ∨
        byte f.data 0 &&& 0xF0 = isoTpPciConsecutive ∧
          byte f.data 0 &&& 0x0F ≠ c.rxExpectedSeq)
  | .tick now _ => isoTpRxTimeoutMs ≤ elapsed now c.lastRxTick
  | _ => False

/-- What the sink sees of one call. -/
structure SinkContract (above : Upper σ κ) (past : List Event) (w : World σ) (i : Input κ) :
    Prop where
  rule : Run.Each watch SinkRule (watched past) (step above w i).2
  failed : (watched past).transfer.isSome = true → Breaks w.link.ctx.toRxContext i →
    (step above w i).2.countP Event.isFailure = 1
  unfailed : ¬ ((watched past).transfer.isSome = true ∧ Breaks w.link.ctx.toRxContext i) →
    (step above w i).2.countP Event.isFailure = 0
  missing : ∀ t ∈ (watched (past ++ (step above w i).2)).transfer, t.items.length < t.total
  mode : (step above w i).1.link.ctx.streamMode = true →
    (step above w i).1.link.ctx.rxState = .waitCf

/-! ## Events the sink and the frames are read off -/

/-- The events that tell of frames or reach the sink. -/
def Event.seen : Event → Bool
  | .sink _ _ _ | .rxSingle _ | .rxStarted _ | .rxContinued _ => true
  | _ => false

/-- An unseen event changes nothing for the observer. -/
theorem watch_unseen (s : Watch) (e : Event) (unseen : e.seen = false) : watch s e = s := by
  cases e <;> first | rfl | cases unseen

/-- An unseen event breaks no rule. -/
theorem rule_unseen (s : Watch) (e : Event) (unseen : e.seen = false) : SinkRule s e := by
  intro signal called
  cases e with
  | sink event data totalSize => cases unseen
  | _ => cases called

/-- An unseen event reports no failure. -/
theorem failure_seen (events : List Event) :
    (events.filter Event.seen).countP Event.isFailure = events.countP Event.isFailure := by
  rw [List.countP_filter]
  congr 1
  funext e
  cases e with
  | sink event data totalSize => simp [Event.seen]
  | _ => rfl

/-- The transmit side shows nothing. -/
theorem Event.OfTx.unseen {e : Event} (ofTx : e.OfTx) : e.seen = false := by
  cases e <;> first | rfl | exact ofTx.elim

/-- The events between two points, as far as they are seen. -/
def Shows (l l' : Link) (events : List Event) : Prop :=
  ∃ added, l'.log = l.log ++ added ∧ added.filter Event.seen = events

/-- Nothing logged, nothing shown. -/
theorem Shows.same {l l' : Link} (equal : l'.log = l.log) : Shows l l' [] :=
  ⟨[], by rw [equal, List.append_nil], rfl⟩

/-- A visible event is shown last. -/
theorem Shows.emit {l l' : Link} {events : List Event} (before : Shows l l' events) (e : Event)
    (visible : e.seen = true) : Shows l (l'.emit e) (events ++ [e]) := by
  obtain ⟨added, log, seen⟩ := before
  refine ⟨added ++ [e], ?_, ?_⟩
  · rw [emit_log, log, List.append_assoc]
  · rw [List.filter_append, seen, List.filter_cons_of_pos visible, List.filter_nil]

/-- An event that is not seen. -/
theorem Shows.note {l l' : Link} {events : List Event} (before : Shows l l' events) (e : Event)
    (unseen : e.seen = false) : Shows l (l'.emit e) events := by
  obtain ⟨added, log, seen⟩ := before
  refine ⟨added ++ [e], ?_, ?_⟩
  · rw [emit_log, log, List.append_assoc]
  · rw [List.filter_append, seen, List.filter_cons_of_neg (by simp [unseen]), List.filter_nil,
      List.append_nil]

/-- A change of fields. -/
theorem Shows.fields {l l' l'' : Link} {events : List Event} (before : Shows l l' events)
    (equal : l''.log = l'.log) : Shows l l'' events := by
  obtain ⟨added, log, seen⟩ := before
  exact ⟨added, equal.trans log, seen⟩

/-- What is shown first comes first. -/
theorem Shows.trans {l l' l'' : Link} {before after : List Event} (first : Shows l l' before)
    (second : Shows l' l'' after) : Shows l l'' (before ++ after) := by
  obtain ⟨added, log, early⟩ := first
  obtain ⟨added', log', late⟩ := second
  refine ⟨added ++ added', ?_, ?_⟩
  · rw [log', log, List.append_assoc]
  · rw [List.filter_append, early, late]

/-- What comes behind may show nothing. -/
theorem Shows.then_hidden {l l' l'' : Link} {events : List Event} (first : Shows l l' events)
    (second : Shows l' l'' []) : Shows l l'' events := by
  have both := first.trans second
  rwa [List.append_nil] at both

/-- Transmitting shows nothing. -/
theorem Transmits.shows {l l' : Link} (transmits : Transmits l l') : Shows l l' [] := by
  obtain ⟨added, log, ofTx⟩ := transmits.log
  refine ⟨added, log, List.filter_eq_nil_iff.mpr ?_⟩
  intro e member
  simp [(ofTx e member).unseen]

/-- Flow control shows nothing. -/
theorem flow_control_shows (l : Link) (canId : Nat) (fs bs stmin : UInt8) :
    Shows l (sendFlowControl l canId fs bs stmin) [] :=
  (add_message_transmits l _).shows

/-! ## What each part of the reception shows -/

/-- The failure of a transfer under way. -/
def failure (c : RxContext) : List Event :=
  if c.streamMode = true then [.sink .error [] c.rxTotalSize] else []

/-- What a First Frame of a large message shows of it. -/
def opening (totalSize : Nat) (payload : List UInt8) : List Event :=
  if isoTpMaxMessageSize < totalSize then
    .sink .begin [] totalSize ::
      if payload ≠ [] then [.sink .data payload totalSize] else []
  else []

/-- What an accepted Consecutive Frame of a large message shows of it. -/
def portion (c : RxContext) (f : CanFrame) : List Event :=
  .sink .data (consecutivePayload c f) c.rxTotalSize ::
    if c.rxTotalSize ≤ c.rxReceived + (consecutivePayload c f).length then
      [.sink .done [] c.rxTotalSize]
    else []

section Parts

variable (l : Link) (hal : Nat) (f : CanFrame)

/-- Aborting a transfer shows its failure. -/
theorem abort_shows (sink : l.streamSink = true) :
    Shows l (abortStreamRx l) (failure l.ctx.toRxContext) := by
  unfold abortStreamRx failure
  by_cases stream : l.ctx.streamMode = true
  · rw [if_pos ⟨stream, sink⟩, if_pos stream]
    exact ((Shows.same rfl).emit _ rfl).fields rfl
  · rw [if_neg (fun both => stream both.1), if_neg stream]
    exact Shows.same rfl

/-- A restart shows the failure of the transfer it ends. -/
theorem restart_shows (reason : Drop) (sink : l.streamSink = true)
    (mode : l.ctx.streamMode = true → l.ctx.rxState = .waitCf) :
    Shows l (restartRx l reason) (failure l.ctx.toRxContext) := by
  unfold restartRx
  by_cases waiting : l.ctx.rxState = .waitCf
  · rw [if_pos waiting]
    exact (abort_shows l sink).note _ rfl
  · have buffered : ¬ l.ctx.streamMode = true := fun stream => waiting (mode stream)
    rw [if_neg waiting, failure, if_neg buffered]
    exact Shows.same rfl

/-- A restart ends the stream mode. -/
theorem restart_stream_mode (reason : Drop)
    (mode : l.ctx.streamMode = true → l.ctx.rxState = .waitCf) :
    (restartRx l reason).ctx.streamMode = false := by
  rw [restart_rx_ctx]
  by_cases waiting : l.ctx.rxState = .waitCf
  · rw [if_pos waiting]
  · rw [if_neg waiting]
    exact eq_false_of_ne_true fun stream => waiting (mode stream)

/-- A Single Frame shows the failure of what it replaces, then itself. -/
theorem single_frame_shows (sink : l.streamSink = true)
    (mode : l.ctx.streamMode = true → l.ctx.rxState = .waitCf) :
    Shows l (receiveSingleFrame l f) (failure l.ctx.toRxContext ++ [.rxSingle f]) :=
  ((restart_shows l .singleFrame sink mode).fields rfl).emit _ rfl

/-- With a sink no size is refused. -/
theorem first_frame_shows (sink : l.streamSink = true)
    (mode : l.ctx.streamMode = true → l.ctx.rxState = .waitCf)
    (physical : l.ctx.rxAddrType ≠ .functional) :
    let l' := processFirstFrame l hal f
    (Shows l l' (failure l.ctx.toRxContext) ∧ l'.ctx.rxState = .idle ∧
        l'.ctx.streamMode = false) ∨
      ∃ totalSize off, firstFrameSize f = some (totalSize, off) ∧
        Shows l l' (failure l.ctx.toRxContext ++
          .rxStarted f :: opening totalSize (firstFramePayload f totalSize off)) ∧
        l'.ctx.toRxContext =
          startRx l.ctx.toRxContext hal f totalSize (firstFramePayload f totalSize off) := by
  intro l'
  have restarted := restart_shows l .firstFrame sink mode
  have still : (restartRx l .firstFrame).streamSink = true :=
    (restart_rx_receives l .firstFrame).sink.trans sink
  simp only [l', processFirstFrame, if_neg physical]
  cases decoded : firstFrameSize f with
  | none =>
    exact Or.inl ⟨restarted.fields rfl, rfl, restart_stream_mode l .firstFrame mode⟩
  | some found =>
    obtain ⟨totalSize, off⟩ := found
    have begun := start_rx_restart l .firstFrame hal f totalSize
      (firstFramePayload f totalSize off)
    refine Or.inr ⟨totalSize, off, rfl, ?_⟩
    simp only [still, Bool.true_eq_false, if_false, begun]
    generalize firstFramePayload f totalSize off = payload
    have started : Shows l (((restartRx l .firstFrame).setRx
        (startRx l.ctx.toRxContext hal f totalSize payload)).emit (.rxStarted f))
        (failure l.ctx.toRxContext ++ [.rxStarted f]) :=
      (restarted.fields rfl).emit _ rfl
    have split (rest : List Event) : failure l.ctx.toRxContext ++ .rxStarted f :: rest =
        failure l.ctx.toRxContext ++ [.rxStarted f] ++ rest := by simp
    rw [split]
    unfold opening
    by_cases large : isoTpMaxMessageSize < totalSize
    · rw [if_pos large, if_pos large]
      have opened := started.emit (.sink .begin [] totalSize) rfl
      by_cases empty : payload ≠ []
      · rw [if_pos empty, if_pos empty]
        have handed := opened.emit (.sink .data payload totalSize) rfl
        refine ⟨?_, by rw [send_flow_control_ctx]; rfl⟩
        simpa using handed.then_hidden (flow_control_shows _ _ _ _ _)
      · rw [if_neg empty, if_neg empty]
        refine ⟨?_, by rw [send_flow_control_ctx]; rfl⟩
        simpa using opened.then_hidden (flow_control_shows _ _ _ _ _)
    · rw [if_neg large, if_neg large, List.append_nil]
      refine ⟨?_, by rw [send_flow_control_ctx]; rfl⟩
      exact started.then_hidden (flow_control_shows _ _ _ _ _)

/-- An accepted Consecutive Frame shows its portion in stream mode only. -/
theorem consecutive_shows (sink : l.streamSink = true) (waiting : l.ctx.rxState = .waitCf)
    (expected : byte f.data 0 &&& 0x0F = l.ctx.rxExpectedSeq) :
    Shows l (receiveConsecutive l hal f) (.rxContinued f ::
      if l.ctx.streamMode = true then portion l.ctx.toRxContext f else []) := by
  have continued : Shows l (l.emit (.rxContinued f)) [.rxContinued f] :=
    (Shows.same rfl).emit _ rfl
  simp only [receiveConsecutive, if_neg (not_not.mpr waiting), if_neg (not_not.mpr expected)]
  by_cases stream : l.ctx.streamMode = true
  · have handed := continued.emit
      (.sink .data (consecutivePayload l.ctx.toRxContext f) l.ctx.rxTotalSize) rfl
    have size : (continueRx l.ctx.toRxContext hal f).rxTotalSize = l.ctx.rxTotalSize := rfl
    have count : (continueRx l.ctx.toRxContext hal f).rxReceived =
        l.ctx.rxReceived + (consecutivePayload l.ctx.toRxContext f).length := rfl
    simp only [stream, sink, emit_stream_sink, and_self, and_true, if_true, size, count]
    unfold portion
    by_cases last : l.ctx.rxTotalSize ≤
        l.ctx.rxReceived + (consecutivePayload l.ctx.toRxContext f).length
    · rw [if_pos last, if_pos last]
      exact (handed.emit (.sink .done [] l.ctx.rxTotalSize) rfl).fields rfl
    · rw [if_neg last, if_neg last]
      exact handed.fields rfl
  · have buffered : l.ctx.streamMode = false := eq_false_of_ne_true stream
    simp only [buffered, Bool.false_eq_true, false_and, and_false, if_false]
    exact continued.fields rfl

/-- A frame out of sequence shows the failure of the transfer. -/
theorem mismatch_shows (sink : l.streamSink = true) (waiting : l.ctx.rxState = .waitCf)
    (other : byte f.data 0 &&& 0x0F ≠ l.ctx.rxExpectedSeq) :
    Shows l (receiveConsecutive l hal f) (failure l.ctx.toRxContext) := by
  simp only [receiveConsecutive, if_neg (not_not.mpr waiting), if_pos other]
  exact ((abort_shows l sink).fields rfl).note (.rxDropped .sequence) rfl

/-- The time-out shows the failure of the transfer. -/
theorem timeout_shows (now : Nat) (sink : l.streamSink = true) (waiting : l.ctx.rxState = .waitCf)
    (due : isoTpRxTimeoutMs ≤ elapsed now l.ctx.lastRxTick) :
    Shows l (rxTimeout l now) (failure l.ctx.toRxContext) := by
  rw [rxTimeout, if_pos ⟨waiting, due⟩]
  exact ((abort_shows l sink).fields rfl).note (.rxDropped .timeout) rfl

end Parts

/-! ## One call -/

/-- What one input does to a reception, and what is seen of it. -/
inductive StreamStep (c : RxContext) (i : Input κ) : RxContext → List Event → Prop
  | kept (addr : AddrType) (unbroken : ¬ (c.streamMode = true ∧ Breaks c i)) :
    StreamStep c i { c with rxAddrType := addr } []
  | ended (c' : RxContext) (breaks : Breaks c i) (idle : c'.rxState = .idle)
    (closed : c'.streamMode = false) : StreamStep c i c' (failure c)
  | single (c' : RxContext) (f : CanFrame) (breaks : Breaks c i) (idle : c'.rxState = .idle)
    (closed : c'.streamMode = false) : StreamStep c i c' (failure c ++ [.rxSingle f])
  | started (hal : Nat) (f : CanFrame) (totalSize off : Nat) (addr : AddrType)
    (breaks : Breaks c i) (decoded : firstFrameSize f = some (totalSize, off)) :
    StreamStep c i
      (startRx { c with rxAddrType := addr } hal f totalSize (firstFramePayload f totalSize off))
      (failure c ++ .rxStarted f :: opening totalSize (firstFramePayload f totalSize off))
  | buffered (c' : RxContext) (f : CanFrame) (buffer : c.streamMode = false)
    (settled : c'.rxState ≠ .complete) (closed : c'.streamMode = false) :
    StreamStep c i c' [.rxContinued f]
  | forwarded (hal : Nat) (f : CanFrame) (addr : AddrType) (stream : c.streamMode = true)
    (waiting : c.rxState = .waitCf) (unbroken : ¬ Breaks c i) :
    StreamStep c i { finishRx (continueRx c hal f) with rxAddrType := addr }
      (.rxContinued f :: portion c f)

/-- The last byte starts no stream. -/
theorem finish_rx_stream_mode (c : RxContext) (buffered : c.streamMode = false) :
    (finishRx c).streamMode = false := by
  unfold finishRx
  split
  · exact buffered
  · simp [buffered]

section Received

variable {above : Upper σ κ} {w : World σ} {hal : Nat} {f : CanFrame}

/-- A frame for this node, with the dispatch it may lead to, is one of the steps. -/
def Streams (above : Upper σ κ) (w : World σ) (hal : Nat) (f : CanFrame) : Prop :=
  let received := receive (w.link.addressed (canAddrClassify f.canId)) hal f
  let after := (dispatchIfComplete above ⟨received, w.upper⟩ hal).link
  ∃ seen, Shows w.link after seen ∧
    StreamStep (κ := κ) w.link.ctx.toRxContext (.frame hal f) after.ctx.toRxContext seen

/-- Nothing is dispatched. -/
theorem Streams.partly {l' : Link} {seen : List Event}
    (received : receive (w.link.addressed (canAddrClassify f.canId)) hal f = l')
    (more : l'.ctx.rxState ≠ .complete) (shows : Shows w.link l' seen)
    (step : StreamStep (κ := κ) w.link.ctx.toRxContext (.frame hal f) l'.ctx.toRxContext seen) :
    Streams above w hal f := by
  unfold Streams
  simp only [received, dispatch_nothing above ⟨l', w.upper⟩ hal more]
  exact ⟨seen, shows, step⟩

/-- A dispatch shows nothing and leaves the reception idle. -/
theorem Streams.completed {l' : Link} {seen : List Event}
    (received : receive (w.link.addressed (canAddrClassify f.canId)) hal f = l')
    (done : l'.ctx.rxState = .complete) (shows : Shows w.link l' seen)
    (step : StreamStep (κ := κ) w.link.ctx.toRxContext (.frame hal f)
      { l'.ctx.toRxContext with rxState := .idle } seen) :
    Streams above w hal f := by
  obtain ⟨same, _, sent, dispatched, ofTx⟩ := dispatch_completed_spec above ⟨l', w.upper⟩ hal
  have told : Shows l' (dispatchCompletedMessage above ⟨l', w.upper⟩ hal).link [] := by
    refine ⟨_, dispatched, List.filter_eq_nil_iff.mpr ?_⟩
    intro e member
    rcases List.mem_cons.mp member with rfl | later
    · simp [Event.seen]
    · simp [(ofTx e later).unseen]
  have after : dispatchIfComplete above ⟨l', w.upper⟩ hal =
      dispatchCompletedMessage above ⟨l', w.upper⟩ hal := if_pos done
  unfold Streams
  simp only [received, after, same]
  exact ⟨seen, shows.then_hidden told, step⟩

/-- The frame only notes how it was addressed. -/
theorem Streams.ignored (settled : w.link.ctx.rxState ≠ .complete)
    (received : receive (w.link.addressed (canAddrClassify f.canId)) hal f =
      w.link.addressed (canAddrClassify f.canId))
    (unbroken : ¬ (w.link.ctx.streamMode = true ∧
      Breaks (κ := κ) w.link.ctx.toRxContext (.frame hal f))) :
    Streams above w hal f :=
  .partly received settled (Shows.same rfl) (.kept (canAddrClassify f.canId) unbroken)

/-- A Single Frame, with its dispatch, is one of the steps. -/
theorem single_frame_streams (sink : w.link.streamSink = true)
    (mode : w.link.ctx.streamMode = true → w.link.ctx.rxState = .waitCf) (sized : f.dlc ≠ 0)
    (mine : canAddrClassify f.canId ≠ .ignore)
    (single : byte f.data 0 &&& 0xF0 = isoTpPciSingleFrame) : Streams above w hal f := by
  obtain ⟨done, _⟩ :=
    receive_single_frame_cases (w.link.addressed (canAddrClassify f.canId)) f
  have closed := restart_stream_mode (w.link.addressed (canAddrClassify f.canId)) .singleFrame mode
  exact .completed (receive_single _ hal f single) done (single_frame_shows _ f sink mode)
    (.single _ f ⟨sized, mine, Or.inl single⟩ rfl closed)

/-- A First Frame is one of the steps. -/
theorem first_frame_streams (sink : w.link.streamSink = true)
    (settled : w.link.ctx.rxState ≠ .complete)
    (mode : w.link.ctx.streamMode = true → w.link.ctx.rxState = .waitCf) (sized : f.dlc ≠ 0)
    (mine : canAddrClassify f.canId ≠ .ignore)
    (first : byte f.data 0 &&& 0xF0 = isoTpPciFirstFrame) : Streams above w hal f := by
  have received := receive_first (w.link.addressed (canAddrClassify f.canId)) hal f first
  cases classified : canAddrClassify f.canId with
  | ignore => exact absurd classified mine
  | functional =>
    have kept : processFirstFrame (w.link.addressed (canAddrClassify f.canId)) hal f =
        w.link.addressed (canAddrClassify f.canId) := if_pos classified
    refine .ignored settled (received.trans kept) ?_
    rintro ⟨_, _, _, wrong | ⟨_, wrong⟩ | ⟨wrong, _⟩⟩
    · rw [first] at wrong
      cases wrong
    · rw [classified] at wrong
      cases wrong
    · rw [first] at wrong
      cases wrong
  | physical =>
    have breaks : Breaks (κ := κ) w.link.ctx.toRxContext (.frame hal f) :=
      ⟨sized, mine, Or.inr (Or.inl ⟨first, classified⟩)⟩
    have taken : canAddrClassify f.canId ≠ .functional := by
      rw [classified]
      decide
    rcases first_frame_shows (w.link.addressed (canAddrClassify f.canId)) hal f sink mode taken with
      ⟨shows, idle, closed⟩ | ⟨totalSize, off, decoded, shows, begun⟩
    · refine .partly received ?_ shows (.ended _ breaks idle closed)
      rw [idle]
      decide
    · have step := StreamStep.started (c := w.link.ctx.toRxContext) hal f totalSize off
        (canAddrClassify f.canId) breaks decoded
      refine .partly received ?_ shows (begun ▸ step)
      rw [begun]
      simp [startRx]

/-- A Consecutive Frame, with the dispatch it may lead to, is one of the steps. -/
theorem consecutive_frame_streams (sink : w.link.streamSink = true)
    (settled : w.link.ctx.rxState ≠ .complete)
    (mode : w.link.ctx.streamMode = true → w.link.ctx.rxState = .waitCf) (sized : f.dlc ≠ 0)
    (mine : canAddrClassify f.canId ≠ .ignore)
    (consecutive : byte f.data 0 &&& 0xF0 = isoTpPciConsecutive) : Streams above w hal f := by
  have received := receive_consecutive (w.link.addressed (canAddrClassify f.canId)) hal f
    consecutive
  rcases receive_consecutive_cases (w.link.addressed (canAddrClassify f.canId)) hal f with
    ⟨waiting, kept⟩ | ⟨waiting, other, dropped, _⟩ | ⟨waiting, expected, continued, _⟩
  · exact .ignored settled (received.trans kept) fun broken => waiting (mode broken.1)
  · have breaks : Breaks (κ := κ) w.link.ctx.toRxContext (.frame hal f) :=
      ⟨sized, mine, Or.inr (Or.inr ⟨consecutive, other⟩)⟩
    refine .partly received ?_
      (mismatch_shows (w.link.addressed (canAddrClassify f.canId)) hal f sink waiting other) ?_
    · rw [dropped]
      simp [dropRx]
    · rw [dropped]
      exact .ended _ breaks rfl rfl
  · have shows := consecutive_shows (w.link.addressed (canAddrClassify f.canId)) hal f sink
      waiting expected
    cases stream : w.link.ctx.streamMode with
    | true =>
      have streaming : (w.link.addressed (canAddrClassify f.canId)).ctx.streamMode = true := stream
      have unbroken : ¬ Breaks (κ := κ) w.link.ctx.toRxContext (.frame hal f) := by
        rintro ⟨_, _, wrong | ⟨wrong, _⟩ | ⟨_, wrong⟩⟩
        · rw [consecutive] at wrong
          cases wrong
        · rw [consecutive] at wrong
          cases wrong
        · exact wrong expected
      have step := StreamStep.forwarded hal f (canAddrClassify f.canId) stream waiting unbroken
      rw [← continue_rx_addressed] at step
      rw [if_pos streaming] at shows
      refine .partly received ?_ shows (by rw [continued]; exact step)
      -- a reception in stream mode ends idle: its bytes are not in the buffer
      intro done
      rw [continued] at done
      obtain ⟨_, _, buffered⟩ := finish_rx_complete _ done waiting
      exact absurd (streaming.symm.trans buffered) (by decide)
    | false =>
      have buffering :
          ¬ (w.link.addressed (canAddrClassify f.canId)).ctx.streamMode = true := by
        rw [show (w.link.addressed (canAddrClassify f.canId)).ctx.streamMode = false from stream]
        decide
      have closed : (receiveConsecutive (w.link.addressed (canAddrClassify f.canId)) hal
          f).ctx.streamMode = false := by
        rw [continued]
        exact finish_rx_stream_mode _ stream
      rw [if_neg buffering] at shows
      by_cases done : (receiveConsecutive (w.link.addressed (canAddrClassify f.canId)) hal
          f).ctx.rxState = .complete
      · exact .completed received done shows (.buffered _ f stream (by simp) closed)
      · exact .partly received done shows (.buffered _ f stream done closed)

/-- Every frame for this node is one of the steps. -/
theorem receive_streams (sink : w.link.streamSink = true)
    (settled : w.link.ctx.rxState ≠ .complete)
    (mode : w.link.ctx.streamMode = true → w.link.ctx.rxState = .waitCf) (sized : f.dlc ≠ 0)
    (mine : canAddrClassify f.canId ≠ .ignore) : Streams above w hal f := by
  by_cases single : byte f.data 0 &&& 0xF0 = isoTpPciSingleFrame
  · exact single_frame_streams sink mode sized mine single
  by_cases first : byte f.data 0 &&& 0xF0 = isoTpPciFirstFrame
  · exact first_frame_streams sink settled mode sized mine first
  by_cases consecutive : byte f.data 0 &&& 0xF0 = isoTpPciConsecutive
  · exact consecutive_frame_streams sink settled mode sized mine consecutive
  have unknown : receive (w.link.addressed (canAddrClassify f.canId)) hal f =
      w.link.addressed (canAddrClassify f.canId) := by
    simp only [receive, if_neg single, if_neg first, if_neg consecutive]
  refine .ignored settled unknown ?_
  rintro ⟨_, _, _, wrong | ⟨wrong, _⟩ | ⟨wrong, _⟩⟩
  · exact single wrong
  · exact first wrong
  · exact consecutive wrong

end Received

/-- Every call but a registration is one of the steps. -/
theorem step_stream (above : Upper σ κ) (w : World σ) (i : Input κ)
    (sink : w.link.streamSink = true) (settled : w.link.ctx.rxState ≠ .complete)
    (mode : w.link.ctx.streamMode = true → w.link.ctx.rxState = .waitCf)
    (unregistered : ∀ other, i ≠ .registerStreamSink other) :
    StreamStep w.link.ctx.toRxContext i (step above w i).1.link.ctx.toRxContext
      ((step above w i).2.filter Event.seen) := by
  -- every part is read off from the quiet world, whose log is empty
  have read {l' : Link} {seen : List Event} (shows : Shows w.quiet.link l' seen) :
      l'.log.filter Event.seen = seen := by
    obtain ⟨added, log, filtered⟩ := shows
    rw [log]
    exact filtered
  cases i with
  | frame hal f =>
    by_cases sized : f.dlc = 0
    · have kept : act above w.quiet (.frame hal f) = w.quiet := by
        rw [act, isoTpProcessFrame, if_pos sized]
      rw [step, kept]
      exact .kept w.link.ctx.rxAddrType fun broken => broken.2.1 sized
    · by_cases flow : byte f.data 0 &&& 0xF0 = isoTpPciFlowControl
      · have transmits := process_flow_control_transmits w.quiet.link hal f
        have kept : act above w.quiet (.frame hal f) =
            { w.quiet with link := processFlowControl w.quiet.link hal f } := by
          rw [act, isoTpProcessFrame, if_neg sized, if_pos flow]
        rw [step, kept]
        simp only [read transmits.shows, transmits.rx]
        refine .kept w.link.ctx.rxAddrType ?_
        rintro ⟨_, _, _, wrong | ⟨wrong, _⟩ | ⟨wrong, _⟩⟩
        · rw [flow] at wrong
          cases wrong
        · rw [flow] at wrong
          cases wrong
        · rw [flow] at wrong
          cases wrong
      · by_cases mine : canAddrClassify f.canId = .ignore
        · have kept : act above w.quiet (.frame hal f) = w.quiet := by
            rw [act, isoTpProcessFrame, if_neg sized, if_neg flow, mine]
          rw [step, kept]
          exact .kept w.link.ctx.rxAddrType fun broken => broken.2.2.1 mine
        · have received : Streams above w.quiet hal f :=
            receive_streams sink settled mode sized mine
          obtain ⟨seen, shows, streams⟩ := received
          rw [step, act, process_frame_spec above w.quiet hal f sized flow mine]
          simp only [read shows]
          exact streams
  | work hal k =>
    have transmits := send_all_transmits w.quiet.link hal (above.work w.upper hal k).2
    change StreamStep _ _ (sendAll w.quiet.link hal (above.work w.upper hal k).2).ctx.toRxContext
      ((sendAll w.quiet.link hal (above.work w.upper hal k).2).log.filter Event.seen)
    rw [read transmits.shows, transmits.rx]
    exact .kept w.link.ctx.rxAddrType fun broken => broken.2
  | tick now hal =>
    have sends := tick_transmits w.quiet.link now hal
    change StreamStep _ _ (isoTpTick w.quiet.link now hal).ctx.toRxContext
      ((isoTpTick w.quiet.link now hal).log.filter Event.seen)
    rw [sends.rx]
    by_cases due : w.quiet.link.ctx.rxState = .waitCf ∧
        isoTpRxTimeoutMs ≤ elapsed now w.quiet.link.ctx.lastRxTick
    · have shows := timeout_shows w.quiet.link now sink due.1 due.2
      rw [read (shows.then_hidden sends.shows), rxTimeout, if_pos due]
      refine .ended _ due.2 rfl ?_
      simp
    · have kept : rxTimeout w.quiet.link now = w.quiet.link := if_neg due
      rw [kept] at sends ⊢
      rw [read sends.shows]
      exact .kept w.link.ctx.rxAddrType fun broken => due ⟨mode broken.1, broken.2⟩
  | registerStreamSink other => exact absurd rfl (unregistered other)

/-! ## The invariant -/

/-- A reception in stream mode waits, and is the transfer the sink sees open: of its
size, with the bytes received, some of them missing. -/
structure Streaming (s : Watch) (c : RxContext) : Prop where
  settled : c.rxState ≠ .complete
  mode : c.streamMode = true → c.rxState = .waitCf
  closed : c.streamMode = false → s.transfer = none
  opened : c.streamMode = true → ∃ t, s.transfer = some t ∧ t.total = c.rxTotalSize ∧
    t.items.length = c.rxReceived ∧ t.items.length < t.total ∧ Carried s.frames t

/-- The sink sees a transfer open exactly while the reception is in stream mode. -/
theorem Streaming.open_iff {s : Watch} {c : RxContext} (streaming : Streaming s c) :
    s.transfer.isSome = true ↔ c.streamMode = true := by
  constructor
  · intro some_transfer
    by_contra buffered
    rw [streaming.closed (eq_false_of_ne_true buffered)] at some_transfer
    cases some_transfer
  · intro stream
    obtain ⟨t, transfer, _⟩ := streaming.opened stream
    rw [transfer]
    rfl

/-- A reception that is not in stream mode, and a sink that sees no transfer. -/
theorem Streaming.of_closed {s : Watch} {c : RxContext} (settled : c.rxState ≠ .complete)
    (buffered : c.streamMode = false) (none_open : s.transfer = none) : Streaming s c := by
  refine ⟨settled, ?_, fun _ => none_open, ?_⟩
  · intro stream
    rw [buffered] at stream
    cases stream
  · intro stream
    rw [buffered] at stream
    cases stream

/-- What a list of seen events has to do: follow the rule, lead to the reception's
next state, and report as many failures. -/
structure Follows (s : Watch) (seen : List Event) (c' : RxContext) (failures : Nat) : Prop where
  rule : Run.Each watch SinkRule s seen
  streaming : Streaming (seen.foldl watch s) c'
  failures : seen.countP Event.isFailure = failures

/-- A call of the sink is as the rule wants it, if it follows the protocol and carries
what the frames did. -/
theorem sink_rule {s : Watch} {event : StreamEvent} {data : List UInt8} {totalSize : Nat}
    (rule : Rule s.transfer ⟨event.kind, data, totalSize⟩)
    (carried : event.kind = .data →
      ∀ t ∈ follow s.transfer ⟨event.kind, data, totalSize⟩, Carried s.frames t) :
    SinkRule s (.sink event data totalSize) := by
  intro signal called
  cases called
  exact ⟨rule, carried⟩

/-- The failure closes what the sink sees open. -/
theorem failure_closes {s : Watch} {c : RxContext} (streaming : Streaming s c) :
    Run.Each watch SinkRule s (failure c) ∧ (failure c).foldl watch s = ⟨s.frames, none⟩ ∧
      (failure c).countP Event.isFailure = if s.transfer.isSome = true then 1 else 0 := by
  unfold failure
  by_cases stream : c.streamMode = true
  · obtain ⟨t, transfer, total, _, missing, _⟩ := streaming.opened stream
    rw [if_pos stream, if_pos (streaming.open_iff.mpr stream)]
    refine ⟨⟨sink_rule ?_ (by intro wrong; cases wrong), trivial⟩, rfl, rfl⟩
    rw [transfer, ← total]
    exact .error t missing
  · have none_open := streaming.closed (eq_false_of_ne_true stream)
    have unopened : ¬ s.transfer.isSome = true := by simp [none_open]
    rw [if_neg stream, if_neg unopened]
    refine ⟨trivial, ?_, rfl⟩
    rw [List.foldl_nil, ← none_open]

/-- The payload of a First Frame alone. -/
theorem raw_payload_first (f : CanFrame) (off : Nat) : rawPayload f off [] = rawFirst f off := by
  simp [rawPayload]

/-- The payload of one more Consecutive Frame comes last. -/
theorem raw_payload_snoc (first : CanFrame) (off : Nat) (rest : List CanFrame) (f : CanFrame) :
    rawPayload first off (rest ++ [f]) = rawPayload first off rest ++ rawConsecutive f := by
  simp [rawPayload, List.append_assoc]

/-- A transfer that misses bytes holds all of its frames, and takes the next one up to
its size. -/
theorem Carried.continued {frames : List CanFrame} {t : Transfer UInt8} (carried : Carried frames t)
    (missing : t.items.length < t.total) (f : CanFrame) :
    Carried (frames ++ [f]) { t with
      items := t.items ++ (rawConsecutive f).take (t.total - t.items.length) } := by
  obtain ⟨first, rest, off, rfl, decoded, items⟩ := carried
  refine ⟨first, rest ++ [f], off, rfl, decoded, ?_⟩
  have short : (rawPayload first off rest).length ≤ t.total := by
    rw [items, List.length_take] at missing
    omega
  have whole : t.items = rawPayload first off rest := by
    rw [items, List.take_of_length_le short]
  simp only
  rw [raw_payload_snoc, List.take_append, List.take_of_length_le short, ← whole]

/-- The opening of a large message starts a transfer with the payload of its First
Frame; a small message opens none. -/
theorem opening_follows (c : RxContext) (hal : Nat) (f : CanFrame) (totalSize off : Nat)
    (decoded : firstFrameSize f = some (totalSize, off)) :
    Follows ⟨[f], none⟩ (opening totalSize (firstFramePayload f totalSize off))
      (startRx c hal f totalSize (firstFramePayload f totalSize off)) 0 := by
  obtain ⟨frame, fits⟩ := first_frame_payload_length f totalSize off
  have items : firstFramePayload f totalSize off = (rawPayload f off []).take totalSize := by
    rw [raw_payload_first, first_frame_payload_raw]
  generalize firstFramePayload f totalSize off = payload at frame fits items
  unfold opening
  by_cases large : isoTpMaxMessageSize < totalSize
  · have size : 64 < totalSize := Nat.lt_trans (by decide) large
    have carried : Carried [f] ⟨totalSize, payload⟩ := ⟨f, [], off, rfl, decoded, items⟩
    have streaming : Streaming ⟨[f], some ⟨totalSize, payload⟩⟩
        (startRx c hal f totalSize payload) := by
      refine ⟨?_, fun _ => rfl, ?_, fun _ => ⟨_, rfl, rfl, rfl, ?_, carried⟩⟩
      · intro complete
        cases complete
      · intro buffered
        exact absurd large (of_decide_eq_false buffered)
      · exact Nat.lt_of_le_of_lt frame size
    have begun : SinkRule ⟨[f], none⟩ (.sink .begin [] totalSize) :=
      sink_rule (.begin totalSize) (by intro wrong; cases wrong)
    rw [if_pos large]
    by_cases empty : payload ≠ []
    · rw [if_pos empty]
      refine ⟨⟨begun, sink_rule ?_ ?_, trivial⟩, streaming, rfl⟩
      · have some_missing : 0 < totalSize := Nat.lt_trans (by decide) size
        exact .data ⟨totalSize, []⟩ payload some_missing (by simpa using fits)
      · rintro _ t ⟨⟩
        exact carried
    · rw [if_neg empty]
      have nothing : payload = [] := not_not.mp empty
      rw [nothing] at streaming ⊢
      exact ⟨⟨begun, trivial⟩, streaming, rfl⟩
  · rw [if_neg large]
    refine ⟨trivial, Streaming.of_closed ?_ (decide_eq_false large) rfl, rfl⟩
    intro complete
    cases complete

/-- The portion of an accepted Consecutive Frame goes on with the transfer, and ends
it with its last byte. -/
theorem portion_follows (s : Watch) (c : RxContext) (hal : Nat) (f : CanFrame) (addr : AddrType)
    (streaming : Streaming s c) (stream : c.streamMode = true) (waiting : c.rxState = .waitCf) :
    Follows ⟨s.frames ++ [f], s.transfer⟩ (portion c f)
      { finishRx (continueRx c hal f) with rxAddrType := addr } 0 := by
  obtain ⟨t, transfer, total, received, missing, carried⟩ := streaming.opened stream
  have next := carried.continued missing f
  have payload : consecutivePayload c f = (rawConsecutive f).take (t.total - t.items.length) := by
    rw [consecutive_payload_raw, total, received]
  have room := consecutive_payload_length c f
  rw [← payload] at next
  have fits : (t.items ++ consecutivePayload c f).length ≤ t.total := by
    rw [List.length_append]
    omega
  have handed : SinkRule ⟨s.frames ++ [f], s.transfer⟩
      (.sink .data (consecutivePayload c f) c.rxTotalSize) := by
    refine sink_rule ?_ ?_
    · rw [transfer, ← total]
      exact .data t _ missing fits
    · rw [transfer]
      rintro _ t' ⟨⟩
      exact next
  have after : watch ⟨s.frames ++ [f], s.transfer⟩
      (.sink .data (consecutivePayload c f) c.rxTotalSize) =
        ⟨s.frames ++ [f], some { t with items := t.items ++ consecutivePayload c f }⟩ := by
    rw [transfer]
    rfl
  unfold portion
  by_cases last : c.rxTotalSize ≤ c.rxReceived + (consecutivePayload c f).length
  · have whole : (t.items ++ consecutivePayload c f).length = t.total := by
      rw [List.length_append] at fits ⊢
      omega
    have ended : finishRx (continueRx c hal f) =
        { continueRx c hal f with streamMode := false, rxState := .idle } := by
      have full : ¬ (continueRx c hal f).rxReceived < (continueRx c hal f).rxTotalSize :=
        Nat.not_lt.mpr last
      have still : (continueRx c hal f).streamMode = true := stream
      rw [finishRx, if_neg full, if_pos still]
    rw [if_pos last, ended]
    refine ⟨⟨handed, ?_, trivial⟩, ?_, rfl⟩
    · rw [after]
      refine sink_rule ?_ (by intro wrong; cases wrong)
      rw [← total]
      exact .done _ whole
    · refine Streaming.of_closed ?_ rfl rfl
      intro complete
      cases complete
  · have more : (continueRx c hal f).rxReceived < (continueRx c hal f).rxTotalSize :=
      Nat.not_le.mp last
    rw [if_neg last, finishRx, if_pos more]
    refine ⟨⟨handed, trivial⟩, ?_, rfl⟩
    rw [List.foldl_cons, List.foldl_nil, after]
    refine ⟨?_, fun _ => waiting, ?_, fun _ => ⟨_, rfl, total, ?_, ?_, next⟩⟩
    · intro complete
      rw [show (continueRx c hal f).rxState = c.rxState from rfl, waiting] at complete
      cases complete
    · intro buffered
      rw [show (continueRx c hal f).streamMode = c.streamMode from rfl, stream] at buffered
      cases buffered
    · simp only [List.length_append, continueRx]
      omega
    · simp only [List.length_append]
      simp only [continueRx] at more
      omega

/-- Every step follows the protocol; it reports a failure when it breaks an open
transfer, and only then. -/
theorem stream_step_follows (s : Watch) (c c' : RxContext) (i : Input κ) (seen : List Event)
    (streaming : Streaming s c) (step : StreamStep c i c' seen) :
    ∃ failures, Follows s seen c' failures ∧
      (s.transfer.isSome = true → Breaks c i → failures = 1) ∧
      (¬ (s.transfer.isSome = true ∧ Breaks c i) → failures = 0) := by
  obtain ⟨failed, closed, count⟩ := failure_closes streaming
  -- a step that breaks the reception reports as many failures as there are transfers
  have broken (breaks : Breaks c i) (next : List Event)
      (follows : Follows ⟨s.frames, none⟩ next c' 0) :
      ∃ failures, Follows s (failure c ++ next) c' failures ∧
        (s.transfer.isSome = true → Breaks c i → failures = 1) ∧
        (¬ (s.transfer.isSome = true ∧ Breaks c i) → failures = 0) := by
    refine ⟨_, ⟨?_, ?_, rfl⟩, ?_, ?_⟩
    · rw [Run.each_append, closed]
      exact ⟨failed, follows.rule⟩
    · rw [List.foldl_append, closed]
      exact follows.streaming
    · intro open_transfer _
      rw [List.countP_append, follows.failures, count, if_pos open_transfer]
    · intro unbroken
      have none_open : ¬ s.transfer.isSome = true := fun opened => unbroken ⟨opened, breaks⟩
      rw [List.countP_append, follows.failures, count, if_neg none_open]
  cases step with
  | kept addr unbroken =>
    refine ⟨0, ⟨trivial, ?_, rfl⟩, ?_, fun _ => rfl⟩
    · exact ⟨streaming.settled, streaming.mode, streaming.closed, streaming.opened⟩
    · intro open_transfer breaks
      exact absurd ⟨streaming.open_iff.mp open_transfer, breaks⟩ unbroken
  | ended _ breaks idle buffered =>
    have rests : Streaming ⟨s.frames, none⟩ c' :=
      Streaming.of_closed (by rw [idle]; decide) buffered rfl
    have all := broken breaks [] ⟨trivial, rests, rfl⟩
    rwa [List.append_nil] at all
  | single _ f breaks idle buffered =>
    have rests : Streaming ⟨[f], none⟩ c' :=
      Streaming.of_closed (by rw [idle]; decide) buffered rfl
    refine broken breaks [.rxSingle f] ⟨⟨?_, trivial⟩, rests, rfl⟩
    intro signal called
    cases called
  | started hal f totalSize off addr breaks decoded =>
    have opens := opening_follows { c with rxAddrType := addr } hal f totalSize off decoded
    refine broken breaks (.rxStarted f :: _) ⟨⟨?_, opens.rule⟩, opens.streaming, ?_⟩
    · intro signal called
      cases called
    · rw [List.countP_cons_of_neg (by simp [Event.isFailure])]
      exact opens.failures
  | buffered _ f buffer settled buffered =>
    have none_open := streaming.closed buffer
    refine ⟨0, ⟨⟨?_, trivial⟩, Streaming.of_closed settled buffered none_open, rfl⟩, ?_,
      fun _ => rfl⟩
    · intro signal called
      cases called
    · intro open_transfer
      rw [none_open] at open_transfer
      cases open_transfer
  | forwarded hal f addr stream waiting unbroken =>
    have goes_on := portion_follows s c hal f addr streaming stream waiting
    refine ⟨0, ⟨⟨?_, goes_on.rule⟩, goes_on.streaming, ?_⟩, ?_, fun _ => rfl⟩
    · intro signal called
      cases called
    · rw [List.countP_cons_of_neg (by simp [Event.isFailure])]
      exact goes_on.failures
    · intro _ breaks
      exact absurd breaks unbroken

/-! ## Runs -/

/-- The observer goes on from where it was. -/
theorem watched_append (past events : List Event) :
    watched (past ++ events) = (events.filter Event.seen).foldl watch (watched past) := by
  rw [Run.fold_filter watch Event.seen watch_unseen, watched, List.foldl_append, watched]

/-- No call but a registration changes the sink. -/
theorem step_sink (above : Upper σ κ) (w : World σ) (i : Input κ)
    (unregistered : ∀ other, i ≠ .registerStreamSink other) :
    (step above w i).1.link.streamSink = w.link.streamSink := by
  cases i with
  | frame hal f =>
    by_cases sized : f.dlc = 0
    · rw [step, act, isoTpProcessFrame, if_pos sized]
      rfl
    · by_cases flow : byte f.data 0 &&& 0xF0 = isoTpPciFlowControl
      · rw [step, act, isoTpProcessFrame, if_neg sized, if_pos flow]
        exact (process_flow_control_transmits w.quiet.link hal f).sink
      · by_cases mine : canAddrClassify f.canId = .ignore
        · rw [step, act, isoTpProcessFrame, if_neg sized, if_neg flow, mine]
          rfl
        · rw [step, act, process_frame_spec above w.quiet hal f sized flow mine]
          have received := (receive_receives
            (w.quiet.link.addressed (canAddrClassify f.canId)) hal f).sink
          rw [dispatchIfComplete]
          split
          · rw [(dispatch_completed_spec above _ hal).2.1]
            exact received
          · exact received
  | work hal k => exact (send_all_transmits w.quiet.link hal _).sink
  | tick now hal =>
    have timed := (rx_timeout_receives w.quiet.link now).sink
    have sends := ((tx_fc_timeout_transmits (rxTimeout w.quiet.link now) now).trans
      (cf_pacing_transmits _ now hal)).sink
    exact sends.trans timed
  | registerStreamSink other => exact absurd rfl (unregistered other)

/-- With a sink that stays registered every call keeps the contract. -/
theorem step_contract (above : Upper σ κ) (past : List Event) (w : World σ) (i : Input κ)
    (sink : w.link.streamSink = true) (streaming : Streaming (watched past) w.link.ctx.toRxContext)
    (unregistered : ∀ other, i ≠ .registerStreamSink other) :
    SinkContract above past w i ∧
      Streaming (watched (past ++ (step above w i).2)) (step above w i).1.link.ctx.toRxContext := by
  have stream_step := step_stream above w i sink streaming.settled streaming.mode unregistered
  obtain ⟨failures, follows, once, never⟩ :=
    stream_step_follows _ _ _ i _ streaming stream_step
  have after := follows.streaming
  rw [← watched_append] at after
  have counted := follows.failures
  rw [failure_seen] at counted
  refine ⟨⟨?_, ?_, ?_, ?_, after.mode⟩, after⟩
  · exact (Run.each_filter watch SinkRule Event.seen watch_unseen rule_unseen _ _).mp follows.rule
  · intro open_transfer breaks
    rw [counted]
    exact once open_transfer breaks
  · intro unbroken
    rw [counted]
    exact never unbroken
  · intro t open_transfer
    have some_transfer : (watched (past ++ (step above w i).2)).transfer = some t := open_transfer
    have stream := after.open_iff.mp (by rw [some_transfer]; rfl)
    obtain ⟨t', same, _, _, missing, _⟩ := after.opened stream
    rw [some_transfer] at same
    cases same
    exact missing

/-- Events that keep the rule give notifications that follow it. -/
theorem signals_follow (s : Watch) (events : List Event)
    (rules : Run.Each watch SinkRule s events) :
    Run.Each follow Rule s.transfer (signals events) := by
  induction events generalizing s with
  | nil => trivial
  | cons e rest ih =>
    have later := ih _ rules.2
    cases called : e.signal? with
    | none =>
      rw [signals, List.filterMap_cons_none called]
      rw [watch, called] at later
      exact later
    | some signal =>
      rw [signals, List.filterMap_cons_some called]
      rw [watch, called] at later
      exact ⟨(rules.1 signal called).1, later⟩

/-- In a run that keeps the contract every event is as the rule wants it. -/
theorem trace_rules (above : Upper σ κ) (past : List Event) (w : World σ) (inputs : List (Input κ))
    (kept : Run.Along (step above) (SinkContract above) past w inputs) :
    Run.Each watch SinkRule (watched past) (Run.trace (step above) w inputs) := by
  induction inputs generalizing past w with
  | nil => trivial
  | cons i rest ih =>
    rw [Run.trace, Run.each_append]
    refine ⟨kept.1.rule, ?_⟩
    have later := ih _ _ kept.2
    rwa [watched, List.foldl_append] at later

/-- With a sink registered before the run and not changed, every call keeps the
contract, and what the sink is told is a front part of transfers one after the other. -/
theorem stream_sink_contract (above : Upper σ κ) (faults : List Bool) (upper : σ)
    (inputs : List (Input κ)) (unchanged : ∀ i ∈ inputs, ∀ sink, i ≠ .registerStreamSink sink) :
    Run.Along (step above) (SinkContract above) [] (isoTpInit true faults upper) inputs ∧
      ∃ rest, (signals (Run.trace (step above) (isoTpInit true faults upper) inputs)).map
        Signal.kind ++ rest ∈ grammar.matches' := by
  have start : Streaming (watched []) (isoTpInit true faults upper).link.ctx.toRxContext := by
    refine Streaming.of_closed ?_ rfl rfl
    intro complete
    cases complete
  have contract : Run.Along (step above) (SinkContract above) [] (isoTpInit true faults upper)
      inputs :=
    Run.along_of_invariant (step above) (fun _ _ i => ∀ sink, i ≠ .registerStreamSink sink)
      (SinkContract above)
      (fun past w => w.link.streamSink = true ∧ Streaming (watched past) w.link.ctx.toRxContext)
      (fun past w i invariant unregistered =>
        ⟨(step_sink above w i unregistered).trans invariant.1,
          (step_contract above past w i invariant.1 invariant.2 unregistered).2⟩)
      (fun past w i invariant unregistered =>
        (step_contract above past w i invariant.1 invariant.2 unregistered).1)
      [] _ inputs ⟨rfl, start⟩
      (Run.along_of_mem (step above) _ [] _ inputs unchanged)
  refine ⟨contract, rule_grammar _ ?_⟩
  exact signals_follow (watched []) _ (trace_rules above [] _ inputs contract)

/-- A message of 600 bytes that stops after its first Consecutive Frame. -/
def abandonedTransfer : List (Input Unit) :=
  [.frame 0 (rxFifo0Message canIdPhysicalReq 0xF (0x12 :: 0x58 :: List.replicate 62 0x31)),
   .frame 10 (rxFifo0Message canIdPhysicalReq 0xF (0x21 :: List.replicate 63 0x32)),
   .tick 2000 2000]

/-- The transfer is begun, handed over in two portions, and reported as failed. -/
theorem stream_sink_contract_abandoned :
    (signals (Run.trace (step silent) (isoTpInit true [] ()) abandonedTransfer)).map
        Signal.kind = [.begin, .data, .data, .error] ∧
      Run.Along (step silent) (SinkContract silent) [] (isoTpInit true [] ()) abandonedTransfer ∧
      ∃ rest, (signals (Run.trace (step silent) (isoTpInit true [] ()) abandonedTransfer)).map
        Signal.kind ++ rest ∈ grammar.matches' :=
  ⟨by decide +kernel, stream_sink_contract silent [] () abandonedTransfer (by
    simp [abandonedTransfer])⟩

end ObdSimulator.IsoTp
