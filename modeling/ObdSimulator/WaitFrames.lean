import ObdSimulator.Transmission
import ObdSimulator.Lib.Streak

/-!
# The limit on FC.WAIT

A transmission gives up when a receiver asks it to wait once more than
`ISO_TP_MAX_WFT` times. The counter is cleared when the transmission starts, not by a
ContinueToSend, so the waits before all blocks count together. Only where all of them
stand behind the last ContinueToSend is the limit one on waits in a row; a receiver that
stays within it in front of every block gets its message in exactly those runs.
-/

namespace ObdSimulator.IsoTp

open Bytes Run

universe u v

variable {σ : Type u} {κ : Type v}

/-! ## The rule -/

/-- A flow control that was accepted and did not end the transmission. -/
def Event.isFlow : Event → Bool
  | .flowContinue | .flowWait => true
  | _ => false

/-- The flow control that a history has seen. -/
def flows (history : List Event) : List Event := history.filter Event.isFlow

/-- The waits since the last ContinueToSend. -/
def waitsInRow (history : List Event) : Nat := Streak.current .flowWait (flows history)

/-- The waits of the whole transmission. -/
def waits (history : List Event) : Nat := (flows history).count .flowWait

/-- Flow control frames and ticks. -/
def FlowInput : Input κ → Prop
  | .frame _ f => byte f.data 0 &&& 0xF0 = isoTpPciFlowControl
  | .tick _ _ => True
  | _ => False

/-- The flow status of a frame. -/
def flowStatus (f : CanFrame) : UInt8 := byte f.data 0 &&& 0x0F

/-- A FC.WAIT reaches a transmission that waits for flow control. -/
def AcceptsWait (w : World σ) (i : Input κ) : Prop :=
  w.link.ctx.txState = .waitFc ∧ ∃ hal f, i = .frame hal f ∧ f.dlc ≠ 0 ∧ flowStatus f = isoTpFcWait

/-- The input lets the next frame go: a ContinueToSend where one is waited for, or a
tick when the separation time is over. -/
def grants (w : World σ) : Input κ → Bool
  | .frame _ f =>
    f.dlc != 0 && (w.link.ctx.txState == .waitFc && flowStatus f == isoTpFcContinue)
  | .tick now _ => w.link.ctx.txState == .sendCf &&
      decide (w.link.ctx.txStmin.toNat ≤ elapsed now w.link.ctx.lastTxTick)
  | _ => false

/-- How many inputs of a schedule let a frame go. -/
def granted (above : Upper σ κ) : World σ → List (Input κ) → Nat
  | _, [] => 0
  | w, i :: rest => (if grants w i then 1 else 0) + granted above (step above w i).1 rest

/-- The receiver answers with ContinueToSend, or with a wait that is at most the seventh
in a row, and before the time-out. -/
def Patient (past : List Event) (w : World σ) (i : Input κ) : Prop :=
  w.link.ctx.txState = .waitFc →
    match i with
    | .frame _ f => f.dlc ≠ 0 → flowStatus f = isoTpFcContinue ∨
        flowStatus f = isoTpFcWait ∧ waitsInRow past < isoTpMaxWft.toNat
    | .tick now _ => elapsed now w.link.ctx.lastTxTick < isoTpTxFcTimeoutMs
    | _ => True

/-- The transmission is aborted for waiting only with more than the allowed waits in a
row, the last of them the one in hand. -/
def AbortsInRow (above : Upper σ κ) (past : List Event) (w : World σ) (i : Input κ) : Prop :=
  .txAborted .tooManyWaits ∈ (step above w i).2 → isoTpMaxWft.toNat ≤ waitsInRow past

/-- The rule for a message and a schedule of flow control frames and ticks. -/
structure CountsInRow (above : Upper σ κ) (start : World σ) (hal canId : Nat)
    (message : List UInt8) (schedule : List (Input κ)) : Prop where
  aborts : Along (step above) (AbortsInRow above) (given start hal canId message).link.log
    (given start hal canId message) schedule
  /-- A patient receiver's message is not cut off, and goes out whole when each of its
  Consecutive Frames is let go. -/
  delivers : Along (step above) Patient (given start hal canId message).link.log
      (given start hal canId message) schedule →
    (∀ reason, .txAborted reason ∉ sendingEvents above start hal canId message schedule) ∧
      ((segments canId message).length ≤
          granted above (given start hal canId message) schedule + 1 →
        queuedFrames (sendingEvents above start hal canId message schedule) =
          segments canId message)

/-- A wait that finds seven accepted in this transmission finds them all behind its last
ContinueToSend. -/
def SevenInRow (past : List Event) (w : World σ) (i : Input κ) : Prop :=
  AcceptsWait w i → waits past = isoTpMaxWft.toNat →
    ∃ front, .flowWait ∉ front ∧
      flows past = front ++ List.replicate isoTpMaxWft.toNat .flowWait

/-! ## What flow control and ticks do -/

/-- One input of the schedule, by what it does to the transmission. -/
inductive FlowStep (w : World σ) (i : Input κ) (c' : TxContext) (events : List Event) : Prop
  | passed (same : c' = w.link.ctx.toTxContext) (none_granted : grants w i = false)
    (no_wait : ¬ AcceptsWait w i) (flow : flows events = []) (queued : queuedFrames events = [])
    (whole : ∀ reason, .txAborted reason ∉ events)
  | sent (let_go : grants w i = true) (no_wait : ¬ AcceptsWait w i)
    (count : c'.txWaitFrameCount = w.link.ctx.txWaitFrameCount)
    (flow : flows events = [] ∨ flows events = [.flowContinue])
    (queued : (queuedFrames events).length = 1) (whole : ∀ reason, .txAborted reason ∉ events)
  | waited (none_granted : grants w i = false) (wait : AcceptsWait w i)
    (few : ¬ isoTpMaxWft < w.link.ctx.txWaitFrameCount + 1)
    (count : c'.txWaitFrameCount = w.link.ctx.txWaitFrameCount + 1) (only : events = [.flowWait])
  | tooMany (none_granted : grants w i = false) (wait : AcceptsWait w i)
    (many : isoTpMaxWft < w.link.ctx.txWaitFrameCount + 1) (idle : c'.txState = .idle)
    (only : events = [.txAborted .tooManyWaits])
  | ended (none_granted : grants w i = false) (no_wait : ¬ AcceptsWait w i)
    (impatient : ∀ past, ¬ Patient past w i) (idle : c'.txState = .idle)
    (queued : queuedFrames events = []) (other : .txAborted .tooManyWaits ∉ events)

/-- Nothing refuses a frame while the transmission is under way, and some of the message
is left. -/
structure Sendable (l : Link) : Prop where
  queue : l.ctx.txState ≠ .idle → l.faults = []
  left : l.ctx.txState ≠ .idle → l.ctx.txSent < l.ctx.txTotalSize

/-- A transmission in progress may go on. -/
theorem Progress.sendable {canId : Nat} {message : List UInt8} {history : List Event} {l : Link}
    (progress : Progress canId message history l.ctx.toTxContext l.faults) : Sendable l := by
  rcases progress.under_or_idle with under | idle
  · refine ⟨fun _ => under.queue, fun _ => ?_⟩
    have total : l.ctx.txTotalSize = message.length := under.sent.total
    rw [total]
    exact under.sent.left
  · exact ⟨fun busy => absurd idle busy, fun busy => absurd idle busy⟩

/-- The next Consecutive Frame is queued, and nothing but the end of the transmission
follows. -/
theorem send_next_cf_queued (l : Link) (hal : Nat) (queue : l.faults = [])
    (left : l.ctx.txSent < l.ctx.txTotalSize) :
    ∃ events, (sendNextCf l hal).log = l.log ++ .queued (nextCf l.ctx.toTxContext) :: events ∧
      (events = [] ∨ events = [.txComplete]) ∧
      (sendNextCf l hal).ctx.txWaitFrameCount = l.ctx.txWaitFrameCount := by
  have queued := add_message_queued l (nextCf l.ctx.toTxContext) queue
  rw [nextCf] at queued
  simp only [sendNextCf, if_neg (Nat.not_le.mpr left), queued]
  split
  · exact ⟨[.txComplete], by simp [Link.emit, nextCf], Or.inr rfl, rfl⟩
  · split
    · exact ⟨[], rfl, Or.inl rfl, rfl⟩
    · exact ⟨[], rfl, Or.inl rfl, rfl⟩

/-- The events around a queued frame. -/
theorem sent_events (lead tail : List Event) (frame : TxFrame)
    (neutral : ∀ e ∈ lead, e.Neutral) (ends : tail = [] ∨ tail = [.txComplete]) :
    flows (lead ++ .queued frame :: tail) = flows lead ∧
      (queuedFrames (lead ++ .queued frame :: tail)).length = 1 ∧
      ∀ reason, .txAborted reason ∉ lead ++ .queued frame :: tail := by
  have silent := neutral_queues_nothing lead neutral
  have last : flows tail = [] ∧ queuedFrames tail = [] ∧ ∀ reason, .txAborted reason ∉ tail := by
    rcases ends with rfl | rfl
    · exact ⟨rfl, rfl, by simp⟩
    · exact ⟨rfl, rfl, by simp⟩
  have split : .queued frame :: tail = [.queued frame] ++ tail := rfl
  refine ⟨?_, ?_, ?_⟩
  · have alone : flows [.queued frame] = [] := rfl
    have tail_flows := last.1
    rw [split]
    simp only [flows, List.filter_append] at alone tail_flows ⊢
    rw [alone, tail_flows, List.append_nil, List.append_nil]
  · rw [split, queued_frames_append, queued_frames_append, silent, last.2.1]
    rfl
  · intro reason member
    rcases List.mem_append.mp member with early | late
    · exact neutral _ early
    · rcases List.mem_cons.mp late with same | later
      · cases same
      · exact last.2.2 reason later

/-- Only a wait frame is accepted as one. -/
theorem accepts_wait_frame (w : World σ) (hal : Nat) (f : CanFrame)
    (wait : AcceptsWait w (.frame hal f : Input κ)) : flowStatus f = isoTpFcWait := by
  obtain ⟨_, hal', f', same, _, status⟩ := wait
  cases same
  exact status

/-- A ContinueToSend that is waited for lets the next frame go. -/
theorem continue_step (w : World σ) (hal : Nat) (f : CanFrame) (sized : f.dlc ≠ 0)
    (sendable : Sendable w.link) (waiting : w.link.ctx.txState = .waitFc)
    (continues : flowStatus f = isoTpFcContinue) :
    FlowStep (κ := κ) w (.frame hal f) (processFlowControl w.quiet.link hal f).ctx.toTxContext
      (processFlowControl w.quiet.link hal f).log := by
  have busy : w.link.ctx.txState ≠ .idle := by
    rw [waiting]
    decide
  have waits : w.quiet.link.ctx.txState = .waitFc := waiting
  have status : byte f.data 0 &&& 0x0F = isoTpFcContinue := continues
  simp only [processFlowControl, if_neg (not_not.mpr waits), if_pos status]
  obtain ⟨tail, log, ends, count⟩ := send_next_cf_queued (Link.emit { w.quiet.link with
    ctx := { w.quiet.link.ctx with toTxContext := resumeTx w.link.ctx.toTxContext hal f } }
    .flowContinue) hal (sendable.queue busy) (sendable.left busy)
  obtain ⟨flow, queued, whole⟩ := sent_events [.flowContinue] tail
    (nextCf (resumeTx w.link.ctx.toTxContext hal f)) (by simp [Event.Neutral]) ends
  refine .sent ?_ ?_ count (Or.inr ((congrArg flows log).trans flow))
    ((congrArg (fun events => (queuedFrames events).length) log).trans queued) ?_
  · simp [grants, sized, waiting, continues]
  · intro wait
    have other := (accepts_wait_frame w hal f wait).symm.trans continues
    exact absurd other (by decide)
  · intro reason member
    exact whole reason ((congrArg (Event.txAborted reason ∈ ·) log).mp member)

/-- A flow control frame is one of the steps. -/
theorem flow_control_step (w : World σ) (hal : Nat) (f : CanFrame) (sized : f.dlc ≠ 0)
    (sendable : Sendable w.link) :
    FlowStep (κ := κ) w (.frame hal f) (processFlowControl w.quiet.link hal f).ctx.toTxContext
      (processFlowControl w.quiet.link hal f).log := by
  by_cases waiting : w.link.ctx.txState = .waitFc
  · by_cases continues : flowStatus f = isoTpFcContinue
    · exact continue_step w hal f sized sendable waiting continues
    · have waits : w.quiet.link.ctx.txState = .waitFc := waiting
      have status : ¬ byte f.data 0 &&& 0x0F = isoTpFcContinue := continues
      have none_granted : grants w (.frame hal f : Input κ) = false := by
        simp [grants, continues]
      simp only [processFlowControl, if_neg (not_not.mpr waits), if_neg status]
      by_cases wait : flowStatus f = isoTpFcWait
      · have status' : byte f.data 0 &&& 0x0F = isoTpFcWait := wait
        have accepted : AcceptsWait w (.frame hal f : Input κ) :=
          ⟨waiting, hal, f, rfl, sized, wait⟩
        have limited : isoTpMaxWft ≠ 0 := by decide
        rw [if_pos status']
        by_cases many : isoTpMaxWft < w.link.ctx.txWaitFrameCount + 1
        · rw [if_pos ⟨limited, many⟩]
          exact .tooMany none_granted accepted many rfl rfl
        · rw [if_neg (fun both => many both.2)]
          exact .waited none_granted accepted many rfl rfl
      · have status' : ¬ byte f.data 0 &&& 0x0F = isoTpFcWait := wait
        have no_wait : ¬ AcceptsWait w (.frame hal f : Input κ) :=
          fun accepted => wait (accepts_wait_frame w hal f accepted)
        rw [if_neg status']
        refine .ended none_granted no_wait ?_ rfl rfl (by simp [Link.emit, World.quiet])
        intro past patient
        rcases patient waiting sized with first | second
        · exact continues first
        · exact wait second.1
  · rw [processFlowControl, if_pos (by exact waiting)]
    refine .passed rfl ?_ (fun wait => waiting wait.1) rfl rfl (by simp [World.quiet])
    simp [grants, waiting]

/-- The receive side's time-out is silent for the transmission. -/
theorem rx_timeout_silent (l : Link) (now : Nat) :
    (rxTimeout l now).faults = l.faults ∧ ∃ events, (rxTimeout l now).log = l.log ++ events ∧
      (∀ e ∈ events, e.Neutral) ∧ flows events = [] := by
  unfold rxTimeout abortStreamRx
  split
  · split
    · refine ⟨rfl, [.sink .error [] l.ctx.rxTotalSize, .rxDropped .timeout], ?_, ?_, rfl⟩
      · simp [Link.emit]
      · simp [Event.Neutral]
    · exact ⟨rfl, [.rxDropped .timeout], rfl, by simp [Event.Neutral], rfl⟩
  · exact ⟨rfl, [], (List.append_nil _).symm, by simp, rfl⟩

/-- A tick is no wait frame. -/
theorem no_wait_tick (w : World σ) (now hal : Nat) : ¬ AcceptsWait w (.tick now hal : Input κ) := by
  rintro ⟨_, hal', f, equal, _⟩
  cases equal

/-- When the separation time is over a tick lets the next frame go. -/
theorem paced_step (w : World σ) (now hal : Nat) (sendable : Sendable w.link)
    (sending : w.link.ctx.txState = .sendCf)
    (due : w.link.ctx.txStmin.toNat ≤ elapsed now w.link.ctx.lastTxTick) :
    FlowStep (κ := κ) w (.tick now hal)
      (sendNextCf (rxTimeout w.quiet.link now) hal).ctx.toTxContext
      (sendNextCf (rxTimeout w.quiet.link now) hal).log := by
  have same : (rxTimeout w.quiet.link now).ctx.toTxContext = w.link.ctx.toTxContext :=
    (rx_timeout_receives w.quiet.link now).tx
  obtain ⟨faults, received, log, neutral, silent⟩ := rx_timeout_silent w.quiet.link now
  have busy : w.link.ctx.txState ≠ .idle := by
    rw [sending]
    decide
  have left : (rxTimeout w.quiet.link now).ctx.txSent <
      (rxTimeout w.quiet.link now).ctx.txTotalSize := by
    have remaining : w.link.ctx.toTxContext.txSent < w.link.ctx.toTxContext.txTotalSize :=
      sendable.left busy
    rw [← same] at remaining
    exact remaining
  obtain ⟨tail, log', ends, count⟩ := send_next_cf_queued (rxTimeout w.quiet.link now) hal
    (faults.trans (sendable.queue busy)) left
  have events : (sendNextCf (rxTimeout w.quiet.link now) hal).log =
      received ++ .queued (nextCf (rxTimeout w.quiet.link now).ctx.toTxContext) :: tail := by
    rw [log', log]
    rfl
  obtain ⟨flow, queued, unbroken⟩ := sent_events received tail
    (nextCf (rxTimeout w.quiet.link now).ctx.toTxContext) neutral ends
  rw [events]
  refine .sent ?_ (no_wait_tick w now hal) ?_ (Or.inl (flow.trans silent)) queued unbroken
  · simp [grants, sending, due]
  · exact count.trans (congrArg TxContext.txWaitFrameCount same)

/-- A tick is one of the steps. -/
theorem tick_flow_step (w : World σ) (now hal : Nat) (sendable : Sendable w.link) :
    FlowStep (κ := κ) w (.tick now hal) (isoTpTick w.quiet.link now hal).ctx.toTxContext
      (isoTpTick w.quiet.link now hal).log := by
  have same : (rxTimeout w.quiet.link now).ctx.toTxContext = w.link.ctx.toTxContext :=
    (rx_timeout_receives w.quiet.link now).tx
  obtain ⟨_, received, log, neutral, silent⟩ := rx_timeout_silent w.quiet.link now
  have state : (rxTimeout w.quiet.link now).ctx.txState = w.link.ctx.txState :=
    congrArg TxContext.txState same
  have stamp : (rxTimeout w.quiet.link now).ctx.lastTxTick = w.link.ctx.lastTxTick :=
    congrArg TxContext.lastTxTick same
  have stmin : (rxTimeout w.quiet.link now).ctx.txStmin = w.link.ctx.txStmin :=
    congrArg TxContext.txStmin same
  have whole : ∀ reason, .txAborted reason ∉ received := fun _ member => neutral _ member
  by_cases late : w.link.ctx.txState = .waitFc ∧
      isoTpTxFcTimeoutMs ≤ elapsed now w.link.ctx.lastTxTick
  · have given_up : isoTpTick w.quiet.link now hal = ({ rxTimeout w.quiet.link now with
        ctx := { (rxTimeout w.quiet.link now).ctx with txState := .idle } } : Link).emit
          (.txAborted .flowTimeout) := by
      rw [isoTpTick, txFcTimeout, state, stamp, if_pos late, cfPacing, if_neg (by simp)]
    have events : (isoTpTick w.quiet.link now hal).log = received ++ [.txAborted .flowTimeout] := by
      rw [given_up, emit_log, log]
      rfl
    rw [given_up] at events ⊢
    rw [events]
    refine .ended ?_ (no_wait_tick w now hal) ?_ rfl ?_ ?_
    · simp [grants, late.1]
    · intro past patient
      exact absurd late.2 (Nat.not_le.mpr (patient late.1))
    · rw [queued_frames_append, neutral_queues_nothing received neutral]
      rfl
    · simp [whole]
  · have waits : txFcTimeout (rxTimeout w.quiet.link now) now = rxTimeout w.quiet.link now := by
      rw [txFcTimeout, state, stamp, if_neg late]
    rw [isoTpTick, waits, cfPacing, state, stmin, stamp]
    by_cases due : w.link.ctx.txState = .sendCf ∧
        w.link.ctx.txStmin.toNat ≤ elapsed now w.link.ctx.lastTxTick
    · rw [if_pos due]
      exact paced_step w now hal sendable due.1 due.2
    · rw [if_neg due, log]
      refine .passed same ?_ (no_wait_tick w now hal) silent
        (neutral_queues_nothing received neutral) whole
      simpa [grants] using due

/-- Every input of the schedule is one of the steps. -/
theorem flow_step (above : Upper σ κ) (w : World σ) (i : Input κ) (input : FlowInput i)
    (sendable : Sendable w.link) :
    FlowStep w i (step above w i).1.link.ctx.toTxContext (step above w i).2 := by
  cases i with
  | frame hal f =>
    have flow : byte f.data 0 &&& 0xF0 = isoTpPciFlowControl := input
    by_cases empty : f.dlc = 0
    · have unseen : act above w.quiet (.frame hal f : Input κ) = w.quiet := by
        rw [act, isoTpProcessFrame, if_pos empty]
      rw [step, unseen]
      refine .passed rfl (by simp [grants, empty]) ?_ rfl rfl (by simp [World.quiet])
      rintro ⟨_, hal', f', same, sized, _⟩
      cases same
      exact sized empty
    · have seen : act above w.quiet (.frame hal f : Input κ) =
          { w.quiet with link := processFlowControl w.quiet.link hal f } := by
        rw [act, isoTpProcessFrame, if_neg empty, if_pos flow]
      rw [step, seen]
      exact flow_control_step w hal f empty sendable
  | tick now hal => exact tick_flow_step w now hal sendable
  | work hal k => exact input.elim
  | registerStreamSink sink => exact input.elim

/-! ## The counter of a run -/

/-- The flow control, one part of a history behind the other. -/
@[simp] theorem flows_append (before after : List Event) :
    flows (before ++ after) = flows before ++ flows after := List.filter_append ..

/-- The waits of two parts of a history add up. -/
theorem waits_append (before after : List Event) :
    waits (before ++ after) = waits before + waits after := by
  rw [waits, flows_append, List.count_append]
  rfl

/-- Only a busy transmitter is let go on. -/
theorem grants_busy (w : World σ) (i : Input κ) (let_go : grants w i = true) :
    w.link.ctx.txState ≠ .idle := by
  intro idle
  cases i <;> simp [grants, idle] at let_go

/-- The counter of a transmission under way counts all its waits. -/
structure Counting (canId : Nat) (message : List UInt8) (past : List Event) (w : World σ) :
    Prop where
  progress : Progress canId message past w.link.ctx.toTxContext w.link.faults
  count : w.link.ctx.txState ≠ .idle → w.link.ctx.txWaitFrameCount.toNat = waits past
  most : w.link.ctx.txState ≠ .idle → waits past ≤ isoTpMaxWft.toNat

/-- While the waits are counted the transmission may go on. -/
theorem Counting.sendable {canId : Nat} {message : List UInt8} {past : List Event} {w : World σ}
    (counting : Counting canId message past w) : Sendable w.link :=
  counting.progress.sendable

/-- Flow control and ticks are among what may disturb a transmission. -/
theorem FlowInput.disturbs (above : Upper σ κ) (past : List Event) (w : World σ) (i : Input κ)
    (input : FlowInput i) : Disturbs above past w i := by
  cases i with
  | frame hal f => exact input
  | tick now hal => exact input
  | work hal k => exact input.elim
  | registerStreamSink sink => exact input.elim

/-- The next value of the counter, where it stays within the limit. -/
theorem wait_count_succ (count : UInt8) (few : ¬ isoTpMaxWft < count + 1) (seen : Nat)
    (same : count.toNat = seen) (most : seen ≤ isoTpMaxWft.toNat) :
    (count + 1).toNat = seen + 1 ∧ seen + 1 ≤ isoTpMaxWft.toNat := by
  have limit : isoTpMaxWft.toNat = 7 := rfl
  have next : (count + 1).toNat = seen + 1 := by
    rw [UInt8.toNat_add, same]
    exact Nat.mod_eq_of_lt (by simp; omega)
  rw [UInt8.lt_iff_toNat_lt, next] at few
  exact ⟨next, Nat.not_lt.mp few⟩

/-- Flow control frames and ticks keep the count. -/
theorem counting_step (above : Upper σ κ) (canId : Nat) (message : List UInt8)
    (past : List Event) (w : World σ) (i : Input κ) (counting : Counting canId message past w)
    (input : FlowInput i) :
    Counting canId message (past ++ (step above w i).2) (step above w i).1 := by
  have progress := step_progresses above canId message past w i counting.progress
    (input.disturbs above past w i)
  have silent (events : List Event) (flow : flows events = [] ∨ flows events = [.flowContinue]) :
      waits (past ++ events) = waits past := by
    have nothing : waits events = 0 := by
      rcases flow with none | one
      · rw [waits, none]
        rfl
      · rw [waits, one]
        rfl
    rw [waits_append, nothing, Nat.add_zero]
  cases flow_step above w i input counting.sendable with
  | passed same _ _ flow _ _ =>
    have kept := silent _ (Or.inl flow)
    refine ⟨progress, ?_, ?_⟩
    · rw [same, kept]
      exact counting.count
    · rw [same, kept]
      exact counting.most
  | sent let_go _ count flow _ _ =>
    have busy := grants_busy w i let_go
    have kept := silent _ flow
    refine ⟨progress, fun _ => ?_, fun _ => ?_⟩
    · rw [count, kept]
      exact counting.count busy
    · rw [kept]
      exact counting.most busy
  | waited _ wait few count only =>
    have busy : w.link.ctx.txState ≠ .idle := by
      rw [wait.1]
      decide
    obtain ⟨next, within⟩ :=
      wait_count_succ _ few _ (counting.count busy) (counting.most busy)
    have one : waits (past ++ (step above w i).2) = waits past + 1 := by
      rw [only, waits_append]
      rfl
    refine ⟨progress, fun _ => ?_, fun _ => ?_⟩
    · rw [count, one]
      exact next
    · rw [one]
      exact within
  | tooMany _ _ _ idle _ =>
    exact ⟨progress, fun busy => absurd idle busy, fun busy => absurd idle busy⟩
  | ended _ _ _ idle _ _ =>
    exact ⟨progress, fun busy => absurd idle busy, fun busy => absurd idle busy⟩

/-- The wait that ends a transmission is the eighth one. -/
theorem eighth_wait {canId : Nat} {message : List UInt8} {past : List Event} {w : World σ}
    (counting : Counting canId message past w) (busy : w.link.ctx.txState ≠ .idle)
    (many : isoTpMaxWft < w.link.ctx.txWaitFrameCount + 1) : waits past = isoTpMaxWft.toNat := by
  have limit : isoTpMaxWft.toNat = 7 := rfl
  have count := counting.count busy
  have most := counting.most busy
  rw [UInt8.lt_iff_toNat_lt, UInt8.toNat_add, count] at many
  simp at many
  omega

/-- Where the waits of the transmission have reached the limit, they are in a row when
none of them stands before a ContinueToSend. -/
theorem seven_in_row_iff (past : List Event) (full : waits past = isoTpMaxWft.toNat) :
    isoTpMaxWft.toNat ≤ waitsInRow past ↔
      ∃ front, .flowWait ∉ front ∧
        flows past = front ++ List.replicate isoTpMaxWft.toNat .flowWait := by
  rw [← full]
  exact Streak.current_all_iff .flowWait (flows past)

/-- On each step the rule says what the condition says. -/
theorem aborts_in_row_iff (above : Upper σ κ) (canId : Nat) (message : List UInt8)
    (past : List Event) (w : World σ) (i : Input κ) (counting : Counting canId message past w)
    (input : FlowInput i) : AbortsInRow above past w i ↔ SevenInRow past w i := by
  cases flow_step above w i input counting.sendable with
  | passed _ _ no_wait _ _ whole =>
    exact ⟨fun _ wait => absurd wait no_wait, fun _ aborted => absurd aborted (whole _)⟩
  | sent _ no_wait _ _ _ whole =>
    exact ⟨fun _ wait => absurd wait no_wait, fun _ aborted => absurd aborted (whole _)⟩
  | waited _ wait few _ only =>
    have busy : w.link.ctx.txState ≠ .idle := by
      rw [wait.1]
      decide
    have within := (wait_count_succ _ few _ (counting.count busy) (counting.most busy)).2
    constructor
    · intro _ _ full
      omega
    · intro _ aborted
      rw [only] at aborted
      simp at aborted
  | tooMany _ wait many _ only =>
    have busy : w.link.ctx.txState ≠ .idle := by
      rw [wait.1]
      decide
    have full := eighth_wait counting busy many
    constructor
    · intro rule _ _
      exact (seven_in_row_iff past full).mp (rule (by simp [only]))
    · intro row _
      exact (seven_in_row_iff past full).mpr (row wait full)
  | ended _ no_wait _ _ _ other =>
    exact ⟨fun _ wait => absurd wait no_wait, fun _ aborted => absurd aborted other⟩

/-- A patient receiver's transmission is not aborted where the rule holds. -/
theorem patient_step (above : Upper σ κ) (canId : Nat) (message : List UInt8)
    (past : List Event) (w : World σ) (i : Input κ) (counting : Counting canId message past w)
    (input : FlowInput i) (patient : Patient past w i) (rule : AbortsInRow above past w i) :
    ∀ reason, .txAborted reason ∉ (step above w i).2 := by
  cases flow_step above w i input counting.sendable with
  | passed _ _ _ _ _ whole => exact whole
  | sent _ _ _ _ _ whole => exact whole
  | waited _ _ _ _ only =>
    rw [only]
    simp
  | tooMany _ wait _ _ only =>
    have row := rule (by simp [only])
    obtain ⟨waiting, hal, f, rfl, sized, status⟩ := wait
    rcases patient waiting sized with continues | few
    · have other := status.symm.trans continues
      exact absurd other (by decide)
    · exact absurd few.2 (Nat.not_lt.mpr row)
  | ended _ _ impatient _ _ _ => exact absurd patient (impatient past)

/-- Each input that lets a frame go queues one, and no other input queues any. -/
theorem queued_granted (above : Upper σ κ) (canId : Nat) (message : List UInt8)
    (past : List Event) (w : World σ) (schedule : List (Input κ))
    (counting : Counting canId message past w) (inputs : ∀ i ∈ schedule, FlowInput i) :
    (queuedFrames (trace (step above) w schedule)).length = granted above w schedule := by
  induction schedule generalizing past w with
  | nil => rfl
  | cons i rest ih =>
    have input := inputs i List.mem_cons_self
    have later := ih _ _ (counting_step above canId message past w i counting input)
      (fun j member => inputs j (List.mem_cons_of_mem _ member))
    rw [trace, queued_frames_append, List.length_append, later, granted]
    congr 1
    cases flow_step above w i input counting.sendable with
    | passed _ none_granted _ _ queued _ => simp [none_granted, queued]
    | sent let_go _ _ _ queued _ => simp [let_go, queued]
    | waited none_granted _ _ _ only =>
      rw [none_granted, only]
      rfl
    | tooMany none_granted _ _ _ only =>
      rw [none_granted, only]
      rfl
    | ended none_granted _ _ _ queued _ => simp [none_granted, queued]

/-! ## Runs -/

/-- A segmented message begins with its First Frame and a counter of zero. -/
theorem given_begins (start : World σ) (hal canId : Nat) (message : List UInt8)
    (idle : start.link.ctx.txState = .idle) (queue : start.link.faults = [])
    (long : isoTpSfMaxPayload < message.length) (fits : message.length ≤ isoTpMaxMessageSize) :
    (given start hal canId message).link.log =
        [.txStarted message, .queued (firstFrame canId message)] ∧
      (given start hal canId message).link.ctx.txWaitFrameCount = 0 := by
  have filled : message.length ≠ 0 := Nat.ne_of_gt (Nat.lt_of_le_of_lt (Nat.zero_le _) long)
  have head := first_frame_room fits
  have payload : min message.length 62 = 62 := Nat.min_eq_right (Nat.le_of_lt long)
  have ready : start.quiet.link.ctx.txState = .idle := idle
  simp only [given, isoTpSendResponse, if_neg filled, if_neg (Nat.not_lt.mpr fits),
    if_neg (Nat.not_le.mpr long), if_neg (not_not.mpr ready), sendFirstFrame, head, payload]
  rw [add_message_queued _ _ (by exact queue)]
  exact ⟨rfl, rfl⟩

/-- A message that was just given has no waits. -/
theorem given_counting (start : World σ) (hal canId : Nat) (message : List UInt8)
    (idle : start.link.ctx.txState = .idle) (queue : start.link.faults = [])
    (long : isoTpSfMaxPayload < message.length) (fits : message.length ≤ isoTpMaxMessageSize) :
    Counting canId message (given start hal canId message).link.log
      (given start hal canId message) := by
  obtain ⟨log, count⟩ := given_begins start hal canId message idle queue long fits
  have progress := send_response_progresses start.quiet.link hal canId message rfl idle queue
    (Nat.lt_of_le_of_lt (Nat.zero_le _) long) fits
  have none_seen : waits (given start hal canId message).link.log = 0 := by
    rw [log]
    rfl
  refine ⟨progress, fun _ => ?_, fun _ => ?_⟩
  · rw [count, none_seen]
    rfl
  · rw [none_seen]
    exact Nat.zero_le _

/-- Where the rule holds of the aborts, a patient receiver gets the whole message. -/
theorem patient_delivers (above : Upper σ κ) (start : World σ) (hal canId : Nat)
    (message : List UInt8) (schedule : List (Input κ)) (idle : start.link.ctx.txState = .idle)
    (queue : start.link.faults = []) (long : isoTpSfMaxPayload < message.length)
    (fits : message.length ≤ isoTpMaxMessageSize) (inputs : ∀ i ∈ schedule, FlowInput i)
    (rule : Along (step above) (AbortsInRow above) (given start hal canId message).link.log
      (given start hal canId message) schedule)
    (patient : Along (step above) Patient (given start hal canId message).link.log
      (given start hal canId message) schedule) :
    (∀ reason, .txAborted reason ∉ sendingEvents above start hal canId message schedule) ∧
      ((segments canId message).length ≤
          granted above (given start hal canId message) schedule + 1 →
        queuedFrames (sendingEvents above start hal canId message schedule) =
          segments canId message) := by
  have begun := given_counting start hal canId message idle queue long fits
  obtain ⟨log, _⟩ := given_begins start hal canId message idle queue long fits
  have allowed := (along_inputs_iff (step above) (FlowInput (κ := κ))
    (given start hal canId message).link.log (given start hal canId message) schedule).mpr inputs
  have whole := invariant_final (step above)
    (fun past w i => FlowInput i ∧ Patient past w i ∧ AbortsInRow above past w i)
    (fun past w => Counting canId message past w ∧ ∀ reason, .txAborted reason ∉ past)
    (by
      rintro past w i ⟨counting, unbroken⟩ ⟨input, patient, rule⟩
      refine ⟨counting_step above canId message past w i counting input, ?_⟩
      intro reason member
      rcases List.mem_append.mp member with early | late
      · exact unbroken reason early
      · exact patient_step above canId message past w i counting input patient rule reason late)
    (given start hal canId message).link.log (given start hal canId message) schedule
    ⟨begun, by simp [log]⟩
    (along_and _ _ _ _ _ _ allowed (along_and _ _ _ _ _ _ patient rule))
  obtain ⟨counting, unbroken⟩ := whole
  refine ⟨unbroken, fun enough => ?_⟩
  have count : (queuedFrames (sendingEvents above start hal canId message schedule)).length =
      granted above (given start hal canId message) schedule + 1 := by
    rw [sendingEvents, queued_frames_append, List.length_append,
      queued_granted above canId message _ _ schedule begun inputs, log, Nat.add_comm]
    rfl
  rcases counting.progress with under | completed | aborted
  · -- a frame would still be left
    obtain ⟨position, _, rest⟩ := under.sent.rest
    have filled : message.drop _ ≠ [] :=
      mt List.drop_eq_nil_iff.mp (Nat.not_le.mpr under.sent.left)
    rw [consecutive_frames_cons canId position _ filled] at rest
    have lengths := congrArg List.length rest
    rw [List.length_append, List.length_cons] at lengths
    change (queuedFrames (sendingEvents above start hal canId message schedule)).length + _ = _
      at lengths
    omega
  · exact completed.frames
  · obtain ⟨reason, member⟩ := aborted.reason
    exact absurd member (unbroken reason)

/-- The limit is one on waits in a row, and a patient receiver gets its message, in
exactly the runs in which a wait that finds seven accepted finds them all behind the
last ContinueToSend. -/
theorem waits_in_row_iff (above : Upper σ κ) (start : World σ) (hal canId : Nat)
    (message : List UInt8) (schedule : List (Input κ)) (idle : start.link.ctx.txState = .idle)
    (queue : start.link.faults = []) (long : isoTpSfMaxPayload < message.length)
    (fits : message.length ≤ isoTpMaxMessageSize) (inputs : ∀ i ∈ schedule, FlowInput i) :
    CountsInRow above start hal canId message schedule ↔
      Along (step above) SevenInRow (given start hal canId message).link.log
        (given start hal canId message) schedule := by
  have agree : Along (step above) (AbortsInRow above) (given start hal canId message).link.log
      (given start hal canId message) schedule ↔ Along (step above) SevenInRow
        (given start hal canId message).link.log (given start hal canId message) schedule :=
    along_congr (step above) (fun _ _ i => FlowInput i) (AbortsInRow above) SevenInRow
      (Counting canId message)
      (fun past w i counting input => counting_step above canId message past w i counting input)
      (fun past w i counting input => aborts_in_row_iff above canId message past w i counting input)
      _ _ schedule (given_counting start hal canId message idle queue long fits)
      ((along_inputs_iff (step above) FlowInput _ _ schedule).mpr inputs)
  rw [← agree]
  constructor
  · exact fun counts => counts.aborts
  · intro rule
    exact ⟨rule, patient_delivers above start hal canId message schedule idle queue long fits
      inputs rule⟩

/-- Flow control from the tester, at the time of its number. -/
def flowControl (hal : Nat) (fs bs : UInt8) : Input Unit :=
  .frame hal (rxFifo0Message 0x7E0 3 [isoTpPciFlowControl ||| fs, bs, 0])

/-- Seven waits in a row and the ContinueToSend behind them. -/
theorem waits_in_row_seven :
    let schedule := (List.replicate 7 (flowControl 2 isoTpFcWait 0)) ++
      [flowControl 3 isoTpFcContinue 0]
    CountsInRow silent ⟨{}, ()⟩ 1 canIdPhysicalResp (List.replicate 100 0x55) schedule := by
  intro schedule
  have inputs : ∀ i ∈ schedule, FlowInput i := by
    intro i member
    rcases List.mem_append.mp member with wait | continues
    · rw [List.eq_of_mem_replicate wait]
      exact (by decide : byte (rxFifo0Message 0x7E0 3 [0x31, 0, 0]).data 0 &&& 0xF0 =
        isoTpPciFlowControl)
    · rw [List.mem_singleton.mp continues]
      exact (by decide : byte (rxFifo0Message 0x7E0 3 [0x30, 0, 0]).data 0 &&& 0xF0 =
        isoTpPciFlowControl)
  refine (waits_in_row_iff silent ⟨{}, ()⟩ 1 canIdPhysicalResp (List.replicate 100 0x55) schedule
    rfl rfl (by decide) (by decide) inputs).mpr ?_
  refine along_mono (step silent)
    (fun past _ _ => waits past ≠ 7 ∨ flows past = List.replicate 7 .flowWait) SevenInRow ?_ _ _
    schedule (by decide +kernel)
  rintro past w i (few | row) _ full
  · exact absurd full few
  · exact ⟨[], by simp, row⟩

instance (above : Upper σ κ) (past : List Event) (w : World σ) (i : Input κ) :
    Decidable (AbortsInRow above past w i) := inferInstanceAs (Decidable (_ → _))

/-- Four waits before each of two blocks of one frame: the fourth before the second block
is the eighth of the transmission and ends it. -/
theorem four_waits_before_each_block :
    let block := List.replicate 4 (flowControl 2 isoTpFcWait 1) ++ [flowControl 3 isoTpFcContinue 1]
    ¬ CountsInRow silent ⟨{}, ()⟩ 1 canIdPhysicalResp (List.replicate 200 0x55)
      (block ++ block) := by
  intro block counts
  exact absurd counts.aborts (by decide +kernel)

end ObdSimulator.IsoTp
