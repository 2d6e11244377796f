import ObdSimulator.Reassembly
import ObdSimulator.Transmission

/-!
# ISO-TP timers in the application

`vMainTask` hands `ISO_TP_Tick` the RTOS tick count, the time stamps are values
of `HAL_GetTick`. Both count SysTick interrupts, one from `HAL_Init` on and the
other from the start of the scheduler. Time is the number of SysTick interrupts
since `HAL_Init`.

A call of `ISO_TP_Tick` samples the count before it enters its critical section,
so calls of the other task may come in between; how much later than the sample
they may be is a parameter, as is the time at which the scheduler starts.
-/

namespace ObdSimulator.IsoTp

open Bytes

universe u v

variable {σ : Type u} {κ : Type v}

/-! ## The two counters -/

/-- `configTICK_RATE_HZ`: a tick is a millisecond. -/
def configTickRateHz : Nat := 1000

/-- `portTICK_PERIOD_MS`. -/
def portTickPeriodMs : Nat := 1000 / configTickRateHz

/-- `HAL_GetTick` at a time. -/
def halGetTick (time : Nat) : Nat := Clock.shown (2 ^ 32) 0 time

/-- `xTaskGetTickCount` at a time, with the scheduler started at `start`. -/
def xTaskGetTickCount (start time : Nat) : Nat := Clock.shown (2 ^ 32) start time

/-- The argument `vMainTask` gives to `ISO_TP_Tick`. -/
def tickArgument (start time : Nat) : Nat :=
  xTaskGetTickCount start time * portTickPeriodMs % 2 ^ 32

/-! ## Timed calls -/

/-- A call into the transport; `ISO_TP_Tick` comes with the time of its sample. -/
inductive Call (κ : Type v) where
  | frame (f : CanFrame)
  | work (k : κ)
  | tick (sampled : Nat)
  | registerStreamSink (sink : Bool)

/-- The call at a time, with the values of both counters. -/
def Call.input (start time : Nat) : Call κ → Input κ
  | .frame f => .frame (halGetTick time) f
  | .work k => .work (halGetTick time) k
  | .tick sampled => .tick (tickArgument start sampled) (halGetTick time)
  | .registerStreamSink sink => .registerStreamSink sink

/-- A node and the time of its last call. -/
structure Clocked (σ : Type u) where
  world : World σ
  time : Nat := 0

/-- One call; its events carry its time. -/
def timedStep (above : Upper σ κ) (start : Nat) (s : Clocked σ) (call : Nat × Call κ) :
    Clocked σ × List (Nat × Event) :=
  let next := step above s.world (call.2.input start call.1)
  ({ world := next.1, time := call.1 }, next.2.map fun e => (call.1, e))

/-- Calls come one after the other once the scheduler runs. The sample of a tick
is taken before its call, and not more than `lag` before any earlier call. -/
def Scheduled (start lag : Nat) (_ : List (Nat × Event)) (s : Clocked σ) (call : Nat × Call κ) :
    Prop :=
  start ≤ call.1 ∧ s.time ≤ call.1 ∧
    ∀ sampled, call.2 = .tick sampled →
      start ≤ sampled ∧ sampled ≤ call.1 ∧ s.time ≤ sampled + lag

/-! ## Real time -/

/-- The time of the last frame a reception took. -/
def noteRx (last : Nat) (p : Nat × Event) : Nat :=
  match p.2 with
  | .rxStarted _ | .rxContinued _ => p.1
  | _ => last

/-- The time of the last First or Consecutive Frame a reception accepted. -/
def lastAccepted (history : List (Nat × Event)) : Nat := history.foldl noteRx 0

/-- The times a transmission is measured from: the last First or Consecutive
Frame sent or FC.WAIT accepted, and the last Consecutive Frame of the block. -/
structure TxTimes where
  last : Nat := 0
  blockCf : Option Nat := none

/-- The times a transmission depends on. -/
def noteTx (t : TxTimes) (p : Nat × Event) : TxTimes :=
  match p.2 with
  | .queued frame =>
    if pciType frame = isoTpPciFirstFrame then { t with last := p.1 }
    else if pciType frame = isoTpPciConsecutive then { last := p.1, blockCf := some p.1 }
    else t
  | .flowWait => { t with last := p.1 }
  | .flowContinue => { t with blockCf := none }
  | _ => t

/-- The times of the transmission, read off a history. -/
def txTimes (history : List (Nat × Event)) : TxTimes := history.foldl noteTx {}

/-- A Consecutive Frame comes at least `stmin` after the one before it in its block. -/
def Paced (stmin : Nat) (t : TxTimes) (p : Nat × Event) : Prop :=
  ∀ frame, p.2 = .queued frame → pciType frame = isoTpPciConsecutive →
    ∀ before, t.blockCf = some before → before + stmin ≤ p.1

/-- The timers measure real time in one call. -/
structure Honest (above : Upper σ κ) (start : Nat) (past : List (Nat × Event)) (s : Clocked σ)
    (call : Nat × Call κ) : Prop where
  /-- A tick ends a reception only a second after its last frame. -/
  reception : ∀ sampled, call.2 = .tick sampled → s.world.link.ctx.rxState = .waitCf →
    (timedStep above start s call).1.world.link.ctx.rxState ≠ .waitCf →
    lastAccepted past + isoTpRxTimeoutMs ≤ call.1
  /-- A tick gives up waiting for flow control only after a second. -/
  flow : ∀ sampled, call.2 = .tick sampled → s.world.link.ctx.txState = .waitFc →
    (timedStep above start s call).1.world.link.ctx.txState ≠ .waitFc →
    (txTimes past).last + isoTpTxFcTimeoutMs ≤ call.1
  /-- Consecutive Frames of a block keep the distance asked for. -/
  pacing : Run.Each noteTx (Paced s.world.link.ctx.txStmin.toNat) (txTimes past)
    (timedStep above start s call).2

/-! ## The stamps -/

/-- The receive stamp is the tick of the last frame accepted. -/
def RxStamped (time last : Nat) (c : RxContext) : Prop :=
  c.rxState = .waitCf → c.lastRxTick = halGetTick last ∧ last ≤ time

/-- The transmit stamp is the tick of the last frame sent or FC.WAIT accepted. -/
def TxStamped (time : Nat) (t : TxTimes) (c : TxContext) : Prop :=
  (c.txState = .waitFc → c.lastTxTick = halGetTick t.last ∧ t.last ≤ time) ∧
    (c.txState = .sendCf →
      ∃ before, t.blockCf = some before ∧ c.lastTxTick = halGetTick before ∧ before ≤ time)

/-- Inert events are no frames. -/
theorem note_rx_inert (last time : Nat) (events : List Event) (inert : ∀ e ∈ events, e.Inert) :
    (events.map fun e => (time, e)).foldl noteRx last = last := by
  induction events with
  | nil => rfl
  | cons e rest ih =>
    have here : noteRx last (time, e) = last := by
      have first := inert e List.mem_cons_self
      cases e <;> first | rfl | exact first.elim
    rw [List.map_cons, List.foldl_cons, here]
    exact ih fun later member => inert later (List.mem_cons_of_mem _ member)

/-- A reception step stamps the time of the frame it accepts. -/
theorem rx_step_stamped (before time last : Nat) (c c' : RxContext) (i : Input κ)
    (events : List Event) (step : RxStep c i c' events)
    (clock : ∀ hal f, i = .frame hal f → hal = halGetTick time) (ordered : before ≤ time)
    (stamped : RxStamped before last c) :
    RxStamped time ((events.map fun e => (time, e)).foldl noteRx last) c' := by
  intro waiting
  cases step with
  | kept addr _ inert =>
    rw [note_rx_inert last time events inert]
    obtain ⟨stamp, past⟩ := stamped waiting
    exact ⟨stamp, Nat.le_trans past ordered⟩
  | dropped _ _ idle _ _ _ =>
    rw [idle] at waiting
    cases waiting
  | started hal f totalSize off early late input _ _ _ inert =>
    have later : ∀ e ∈ late, e.Inert := fun e member => inert e (List.mem_append_right _ member)
    rw [List.map_append, List.foldl_append, List.map_cons, List.foldl_cons,
      note_rx_inert _ time late later]
    exact ⟨clock hal f input, Nat.le_refl time⟩
  | continued hal f late input _ _ _ _ _ _ inert =>
    rw [List.map_cons, List.foldl_cons, note_rx_inert _ time late inert]
    refine ⟨?_, Nat.le_refl time⟩
    rw [finish_rx_waiting _ waiting]
    exact clock hal f input
  | completed => cases waiting
  | single _ _ _ _ _ _ _ _ _ idle _ _ =>
    rw [idle] at waiting
    cases waiting

/-- A Consecutive Frame that keeps its distance stamps its time. -/
theorem cf_sent_stamped (time stmin : Nat) (t : TxTimes) (c c' : TxContext) (events : List Event)
    (sent : CfSent c (halGetTick time) c' events) (sending : c.txState = .sendCf)
    (apart : ∀ before, t.blockCf = some before → before + stmin ≤ time) :
    Run.Each (fun t e => noteTx t (time, e)) (fun t e => Paced stmin t (time, e)) t events ∧
      TxStamped time (events.foldl (fun t e => noteTx t (time, e)) t) c' := by
  have noted : noteTx t (time, .queued (nextCf c)) = { last := time, blockCf := some time } := by
    have other : isoTpPciConsecutive ≠ isoTpPciFirstFrame := by decide
    simp only [noteTx, next_cf_pci, if_neg other, if_true]
  have paced : Paced stmin t (time, .queued (nextCf c)) := by
    intro frame same kind before found
    exact apart before found
  cases sent with
  | nothingLeft => exact ⟨⟨nofun, trivial⟩, nofun, nofun⟩
  | refused => exact ⟨⟨nofun, nofun, trivial⟩, nofun, nofun⟩
  | last => exact ⟨⟨paced, nofun, trivial⟩, nofun, nofun⟩
  | blockEnd =>
    refine ⟨⟨paced, trivial⟩, ?_, nofun⟩
    rw [List.foldl_cons, noted]
    exact fun _ => ⟨rfl, Nat.le_refl time⟩
  | sent =>
    refine ⟨⟨paced, trivial⟩, ?_, ?_⟩
    · intro waiting
      have same : (advanceTx c (halGetTick time)).txState = c.txState := rfl
      rw [same, sending] at waiting
      cases waiting
    · rw [List.foldl_cons, noted]
      exact fun _ => ⟨time, rfl, rfl, Nat.le_refl time⟩

/-- The stamps stay right while time passes. -/
theorem TxStamped.later {before time : Nat} {t : TxTimes} {c : TxContext}
    (stamped : TxStamped before t c) (ordered : before ≤ time) : TxStamped time t c := by
  constructor
  · intro waiting
    obtain ⟨stamp, past⟩ := stamped.1 waiting
    exact ⟨stamp, Nat.le_trans past ordered⟩
  · intro sending
    obtain ⟨last, found, stamp, past⟩ := stamped.2 sending
    exact ⟨last, found, stamp, Nat.le_trans past ordered⟩

/-- An event of the receive side notes no transmit time. -/
theorem note_tx_foreign (t : TxTimes) (time : Nat) (e : Event) (other : e.Foreign) :
    noteTx t (time, e) = t := by
  rcases other with ofRx | ⟨request, addr, rfl⟩
  · cases e with
    | queued frame =>
      have kind : pciType frame = isoTpPciFlowControl := ofRx
      have first : isoTpPciFlowControl ≠ isoTpPciFirstFrame := by decide
      have consecutive : isoTpPciFlowControl ≠ isoTpPciConsecutive := by decide
      simp only [noteTx, kind, if_neg first, if_neg consecutive]
    | flowWait => exact ofRx.elim
    | flowContinue => exact ofRx.elim
    | _ => rfl
  · rfl

/-- Events of others are not paced. -/
theorem paced_foreign (stmin : Nat) (t : TxTimes) (time : Nat) (e : Event) (other : e.Foreign) :
    Paced stmin t (time, e) := by
  rintro frame rfl kind
  rcases other with ofRx | ⟨request, addr, same⟩
  · have flow : pciType frame = isoTpPciFlowControl := ofRx
    rw [flow] at kind
    exact absurd kind (by decide)
  · cases same

/-- A call other than a tick stamps what it sends, and starts a block at most. -/
theorem tx_run_stamped (time stmin : Nat) (t : TxTimes) (c c' : TxContext) (i : Input κ)
    (events : List Event) (run : TxRun i (fun _ => True) c c' events)
    (clock : i.hal = halGetTick time) (other : ∀ now hal, i ≠ .tick now hal)
    (stamped : TxStamped time t c) :
    Run.Each (fun t e => noteTx t (time, e)) (fun t e => Paced stmin t (time, e)) t events ∧
      TxStamped time (events.foldl (fun t e => noteTx t (time, e)) t) c' := by
  refine run.each _ _ (TxStamped time) ?_ ?_ ?_ t stamped
  · intro t c e foreign kept
    refine ⟨paced_foreign stmin t time e foreign, ?_⟩
    rw [note_tx_foreign t time e foreign]
    exact kept
  · intro t c message _ kept
    have kind := single_frame_pci canIdPhysicalResp message
    constructor
    · rintro frame same consecutive
      cases same
      rw [kind] at consecutive
      exact absurd consecutive (by decide)
    · have first : isoTpPciSingleFrame ≠ isoTpPciFirstFrame := by decide
      have consecutive : isoTpPciSingleFrame ≠ isoTpPciConsecutive := by decide
      simp only [noteTx, kind, if_neg first, if_neg consecutive]
      exact kept
  · intro t c c' events op kept
    cases op with
    | lost => exact ⟨⟨nofun, trivial⟩, kept⟩
    | rejected => exact ⟨⟨nofun, trivial⟩, kept⟩
    | started message _ _ fits =>
      have kind := first_frame_pci canIdPhysicalResp message fits
      refine ⟨⟨nofun, ?_, trivial⟩, ?_, nofun⟩
      · rintro frame same consecutive
        cases same
        rw [kind] at consecutive
        exact absurd consecutive (by decide)
      · simp only [List.foldl_cons, List.foldl_nil, noteTx, kind, if_true]
        exact fun _ => ⟨clock, Nat.le_refl time⟩
    | notStarted => exact ⟨⟨nofun, nofun, nofun, trivial⟩, nofun, nofun⟩
    | continued hal f _ events input _ sent =>
      have hal_eq : hal = halGetTick time := by
        rw [← clock, input]
        rfl
      subst hal_eq
      obtain ⟨each, last⟩ := cf_sent_stamped time stmin { t with blockCf := none } _ c' events sent
        rfl nofun
      exact ⟨⟨nofun, each⟩, last⟩
    | waited hal f input waiting =>
      have hal_eq : hal = halGetTick time := by
        rw [← clock, input]
        rfl
      refine ⟨⟨nofun, trivial⟩, fun _ => ⟨hal_eq, Nat.le_refl time⟩, ?_⟩
      intro sending
      have same : c.txState = .sendCf := sending
      rw [waiting] at same
      cases same
    | tooManyWaits => exact ⟨⟨nofun, trivial⟩, nofun, nofun⟩
    | overflow => exact ⟨⟨nofun, trivial⟩, nofun, nofun⟩
    | timedOut now hal input => exact absurd input (other now hal)
    | paced now hal _ events input => exact absurd input (other now hal)

/-! ## Agreement of the counters -/

/-- With a start that is a multiple of the counter's range, the argument of
`ISO_TP_Tick` is the value of `HAL_GetTick`. -/
theorem tick_argument_agrees (start time : Nat) (aligned : start % 2 ^ 32 = 0)
    (running : start ≤ time) : tickArgument start time = halGetTick time := by
  have period : portTickPeriodMs = 1 := rfl
  have whole := Nat.div_add_mod start (2 ^ 32)
  have split : time = (time - start) + 2 ^ 32 * (start / 2 ^ 32) := by omega
  rw [tickArgument, xTaskGetTickCount, halGetTick, Clock.shown, Clock.shown, period, Nat.mul_one,
    Nat.mod_mod, Nat.sub_zero]
  conv_rhs => rw [split, Nat.add_mul_mod_self_left]

/-- What a tick measures is then never more than what passed. -/
theorem elapsed_agrees (start since sampled : Nat) (aligned : start % 2 ^ 32 = 0)
    (running : start ≤ sampled) (past : since ≤ sampled) :
    elapsed (tickArgument start sampled) (halGetTick since) ≤ sampled - since := by
  rw [tick_argument_agrees start sampled aligned running]
  exact Clock.sub_samples_le (2 ^ 32) since sampled (by decide) past

/-! ## Runs -/

/-- The stamps of the context are the ticks of the times the history gives. -/
structure Stamped (past : List (Nat × Event)) (s : Clocked σ) : Prop where
  ready : Ready s.world.link.ctx.toRxContext
  rx : RxStamped s.time (lastAccepted past) s.world.link.ctx.toRxContext
  tx : TxStamped s.time (txTimes past) s.world.link.ctx.toTxContext

/-- The frame of a call comes with its tick. -/
theorem call_frame_hal (start time hal : Nat) (f : CanFrame) (call : Call κ)
    (input : call.input start time = .frame hal f) : hal = halGetTick time := by
  cases call with
  | frame f' => exact (Input.frame.inj input).1.symm
  | work k => cases input
  | tick sampled => cases input
  | registerStreamSink sink => cases input

/-- What a tick does to the transmission, with the distance it keeps where the
measured time is no more than the real one. -/
theorem tick_stamped (l : Link) (now time stmin : Nat) (t : TxTimes)
    (stamped : TxStamped time t l.ctx.toTxContext)
    (apart : l.ctx.txState = .sendCf → l.ctx.txStmin.toNat ≤ elapsed now l.ctx.lastTxTick →
      ∀ before, t.blockCf = some before → before + stmin ≤ time) (log : l.log = []) :
    let l' := isoTpTick l now (halGetTick time)
    Run.Each (fun t e => noteTx t (time, e)) (fun t e => Paced stmin t (time, e)) t l'.log ∧
      TxStamped time (l'.log.foldl (fun t e => noteTx t (time, e)) t) l'.ctx.toTxContext := by
  intro l'
  obtain ⟨received, ofRx, cases⟩ := tick_cases l now (halGetTick time)
  have foreign : ∀ e ∈ received, e.Foreign := fun e member => Or.inl (ofRx e member)
  have each : Run.Each (fun t e => noteTx t (time, e)) (fun t e => Paced stmin t (time, e)) t
      received :=
    Run.each_of_forall _ _ _ _ fun t e member => paced_foreign stmin t time e (foreign e member)
  have kept : received.foldl (fun t e => noteTx t (time, e)) t = t := by
    clear each ofRx cases
    induction received with
    | nil => rfl
    | cons e rest ih =>
      rw [List.foldl_cons, note_tx_foreign t time e (foreign e List.mem_cons_self)]
      exact ih fun later member => foreign later (List.mem_cons_of_mem _ member)
  rw [log, List.nil_append] at cases
  rcases cases with ⟨same, log'⟩ | ⟨_, _, idle, log'⟩ | ⟨sending, due, events, sent, log'⟩
  · simp only [l', log', same, kept]
    exact ⟨each, stamped⟩
  · simp only [l', log', idle, List.foldl_append, kept, Run.each_append]
    exact ⟨⟨each, nofun, trivial⟩, nofun, nofun⟩
  · obtain ⟨sent_each, last⟩ := cf_sent_stamped time stmin t _ _ events sent sending
      (apart sending due)
    simp only [l', log', List.foldl_append, kept, Run.each_append]
    exact ⟨⟨each, sent_each⟩, last⟩

/-- Every call stamps what it accepts and sends, whatever the counters show. -/
theorem step_stamped (above : Upper σ κ) (start lag : Nat) (past : List (Nat × Event))
    (s : Clocked σ) (call : Nat × Call κ) (stamped : Stamped past s)
    (scheduled : Scheduled start lag past s call) :
    Stamped (past ++ (timedStep above start s call).2) (timedStep above start s call).1 := by
  obtain ⟨time, call⟩ := call
  obtain ⟨_, ordered, _⟩ := scheduled
  have reception := step_reception above s.world (call.input start time)
    stamped.ready.dispatched
  have later : TxStamped time (txTimes past) s.world.link.ctx.toTxContext :=
    stamped.tx.later ordered
  refine ⟨reception.ready stamped.ready, ?_, ?_⟩
  · rw [lastAccepted, List.foldl_append]
    exact rx_step_stamped s.time time (lastAccepted past) _ _ _ _ reception
      (fun hal f input => call_frame_hal start time hal f call input) ordered stamped.rx
  · rw [txTimes, List.foldl_append]
    simp only [timedStep, List.foldl_map]
    cases call with
    | frame f =>
      exact (tx_run_stamped time 0 (txTimes past) _ _ _ _
        (step_transmission above _ s.world (.frame (halGetTick time) f) stamped.ready
          (allowed_always _ _ _))
        rfl nofun later).2
    | work k =>
      exact (tx_run_stamped time 0 (txTimes past) _ _ _ _
        (step_transmission above _ s.world (.work (halGetTick time) k) stamped.ready
          (allowed_always _ _ _))
        rfl nofun later).2
    | tick sampled =>
      refine (tick_stamped s.world.quiet.link (tickArgument start sampled) time 0 (txTimes past)
        later ?_ rfl).2
      intro sending _ before found
      obtain ⟨last, found', _, inside⟩ := later.2 sending
      rw [found] at found'
      cases found'
      exact inside
    | registerStreamSink sink => exact later

section Honesty

variable (above : Upper σ κ) (start : Nat) (past : List (Nat × Event)) (s : Clocked σ)

/-- A reception is given up no earlier than its time-out after its last frame. -/
theorem reception_honest (time sampled : Nat) (aligned : start % 2 ^ 32 = 0)
    (stamped : Stamped past s)
    (scheduled : Scheduled start 0 past s (time, (.tick sampled : Call κ)))
    (waiting : s.world.link.ctx.rxState = .waitCf)
    (ended : (timedStep above start s (time, .tick sampled)).1.world.link.ctx.rxState ≠ .waitCf) :
    lastAccepted past + isoTpRxTimeoutMs ≤ time := by
  obtain ⟨_, _, sample⟩ := scheduled
  obtain ⟨running, inside, fresh⟩ := sample sampled rfl
  obtain ⟨stamp, before⟩ := stamped.rx waiting
  have reception := step_reception above s.world
    (.tick (tickArgument start sampled) (halGetTick time)) stamped.ready.dispatched
  have timed : isoTpRxTimeoutMs ≤
      elapsed (tickArgument start sampled) s.world.link.ctx.lastRxTick := by
    rcases reception.tick with same | ⟨_, due⟩
    · exact absurd (same.trans waiting) ended
    · exact due
  rw [stamp] at timed
  have real := elapsed_agrees start (lastAccepted past) sampled aligned running (by omega)
  have second : isoTpRxTimeoutMs = 1000 := rfl
  simp only at inside
  omega

/-- A transmission is given up no earlier than its time-out after its last event. -/
theorem flow_honest (time sampled : Nat) (aligned : start % 2 ^ 32 = 0)
    (stamped : Stamped past s)
    (scheduled : Scheduled start 0 past s (time, (.tick sampled : Call κ)))
    (waiting : s.world.link.ctx.txState = .waitFc)
    (ended : (timedStep above start s (time, .tick sampled)).1.world.link.ctx.txState ≠ .waitFc) :
    (txTimes past).last + isoTpTxFcTimeoutMs ≤ time := by
  obtain ⟨_, _, sample⟩ := scheduled
  obtain ⟨running, inside, fresh⟩ := sample sampled rfl
  obtain ⟨stamp, before⟩ := stamped.tx.1 waiting
  obtain ⟨_, _, same | timedOut | paced⟩ := tick_cases s.world.quiet.link
    (tickArgument start sampled) (halGetTick time)
  · refine absurd ?_ ended
    exact (congrArg TxContext.txState same.1).trans waiting
  · have due : isoTpTxFcTimeoutMs ≤
        elapsed (tickArgument start sampled) s.world.link.ctx.lastTxTick := timedOut.2.1
    rw [stamp] at due
    have real := elapsed_agrees start (txTimes past).last sampled aligned running (by omega)
    have second : isoTpTxFcTimeoutMs = 1000 := rfl
    simp only at inside
    omega
  · have sending : s.world.link.ctx.txState = .sendCf := paced.1
    rw [waiting] at sending
    cases sending

/-- No Consecutive Frame goes out before its STmin. -/
theorem pacing_honest (call : Nat × Call κ) (aligned : start % 2 ^ 32 = 0)
    (stamped : Stamped past s) (scheduled : Scheduled start 0 past s call) :
    Run.Each noteTx (Paced s.world.link.ctx.txStmin.toNat) (txTimes past)
      (timedStep above start s call).2 := by
  obtain ⟨time, call⟩ := call
  obtain ⟨_, ordered, sample⟩ := scheduled
  have later : TxStamped time (txTimes past) s.world.link.ctx.toTxContext :=
    stamped.tx.later ordered
  simp only [timedStep]
  rw [Run.each_map]
  cases call with
  | frame f =>
    exact (tx_run_stamped time _ (txTimes past) _ _ _ _
      (step_transmission above _ s.world (.frame (halGetTick time) f) stamped.ready
        (allowed_always _ _ _))
      rfl nofun later).1
  | work k =>
    exact (tx_run_stamped time _ (txTimes past) _ _ _ _
      (step_transmission above _ s.world (.work (halGetTick time) k) stamped.ready
        (allowed_always _ _ _))
      rfl nofun later).1
  | tick sampled =>
    obtain ⟨running, inside, fresh⟩ := sample sampled rfl
    refine (tick_stamped s.world.quiet.link (tickArgument start sampled) time _ (txTimes past)
      later ?_ rfl).1
    intro sending due before found
    obtain ⟨last, found', stamp, early⟩ := stamped.tx.2 sending
    rw [found] at found'
    cases found'
    have due' : s.world.link.ctx.txStmin.toNat ≤
      elapsed (tickArgument start sampled) s.world.link.ctx.lastTxTick := due
    rw [stamp] at due'
    have real := elapsed_agrees start before sampled aligned running (by omega)
    omega
  | registerStreamSink sink => exact trivial

/-- With counters that agree and samples that are not overtaken, every call is honest. -/
theorem step_honest (call : Nat × Call κ) (aligned : start % 2 ^ 32 = 0)
    (stamped : Stamped past s) (scheduled : Scheduled start 0 past s call) :
    Honest above start past s call := by
  obtain ⟨time, call⟩ := call
  constructor
  · intro sampled same waiting ended
    have tick : call = .tick sampled := same
    subst tick
    exact reception_honest above start past s time sampled aligned stamped scheduled waiting ended
  · intro sampled same waiting ended
    have tick : call = .tick sampled := same
    subst tick
    exact flow_honest above start past s time sampled aligned stamped scheduled waiting ended
  · exact pacing_honest above start past s (time, call) aligned stamped scheduled

end Honesty

/-- The node after `ISO_TP_Init`, before its first call. -/
def fresh (sink : Bool) (faults : List Bool) (upper : σ) : Clocked σ :=
  { world := isoTpInit sink faults upper }

/-- A First Frame of a message that fits the buffer. -/
structure Starting (f : CanFrame) : Prop where
  sized : f.dlc ≠ 0
  kind : byte f.data 0 &&& 0xF0 = isoTpPciFirstFrame
  sender : canAddrClassify f.canId = .physical
  decoded : ∃ totalSize off, firstFrameSize f = some (totalSize, off) ∧
    totalSize ≤ isoTpMaxMessageSize

/-- The First Frame starts a reception and is stamped. -/
theorem starting_frame_starts (above : Upper σ κ) (w : World σ) (hal : Nat) (f : CanFrame)
    (starting : Starting f) (log : w.link.log = []) :
    let after := (isoTpProcessFrame above w hal f).link
    after.ctx.rxState = .waitCf ∧ after.ctx.lastRxTick = hal ∧
      ∃ early late, after.log = early ++ .rxStarted f :: late ∧ ∀ e ∈ late, e.Inert := by
  intro after
  obtain ⟨totalSize, off, decoded, fits⟩ := starting.decoded
  have data : byte f.data 0 &&& 0xF0 ≠ isoTpPciFlowControl := by
    rw [starting.kind]
    decide
  have mine : canAddrClassify f.canId ≠ .ignore := by
    rw [starting.sender]
    nofun
  let l := w.link.addressed (canAddrClassify f.canId)
  have physical : l.ctx.rxAddrType ≠ .functional := by
    rw [addressed_ctx, starting.sender]
    nofun
  obtain ⟨started, before, ⟨early, log', _⟩, ⟨late, log'', inert⟩⟩ :=
    process_first_frame_starts l hal f totalSize off physical decoded fits
  have whole : after = processFirstFrame l hal f := by
    have waits : (processFirstFrame l hal f).ctx.rxState ≠ .complete := by
      rw [started]
      nofun
    have spec := process_frame_spec above w hal f starting.sized data mine
    rw [receive_first l hal f starting.kind, dispatch_nothing above _ hal waits] at spec
    exact congrArg World.link spec
  rw [whole]
  refine ⟨congrArg RxContext.rxState started, congrArg RxContext.lastRxTick started, early, late,
    ?_, inert⟩
  have silent : l.log = [] := log
  rw [log'', emit_log, log', silent, List.nil_append, List.append_assoc, List.singleton_append]

/-- A tick that finds the time of a reception over ends it. -/
theorem tick_ends_reception (l : Link) (now hal : Nat) (waiting : l.ctx.rxState = .waitCf)
    (due : isoTpRxTimeoutMs ≤ elapsed now l.ctx.lastRxTick) :
    (isoTpTick l now hal).ctx.rxState = .idle := by
  have sends := ((tx_fc_timeout_transmits (rxTimeout l now) now).trans
    (cf_pacing_transmits _ now hal)).rx
  refine (congrArg RxContext.rxState sends).trans ?_
  rw [rxTimeout, if_pos ⟨waiting, due⟩]
  rfl

/-- A tick too soon after a First Frame ends its reception when the measured time
reaches the time-out. -/
theorem early_tick_dishonest (above : Upper σ κ) (start first sampled time : Nat) (f : CanFrame)
    (sink : Bool) (faults : List Bool) (upper : σ) (starting : Starting f)
    (early : time < first + isoTpRxTimeoutMs)
    (measured : isoTpRxTimeoutMs ≤ elapsed (tickArgument start sampled) (halGetTick first)) :
    ¬ Run.Along (timedStep above start) (Honest above start) [] (fresh sink faults upper)
      [(first, .frame f), (time, .tick sampled)] := by
  rintro ⟨_, second, _⟩
  obtain ⟨waiting, stamp, early_events, late_events, events, inert⟩ := starting_frame_starts above
    (isoTpInit sink faults upper).quiet (halGetTick first) f starting rfl
  let next := timedStep above start (fresh sink faults upper) (first, .frame f)
  have accepted : lastAccepted next.2 = first := by
    have timed : next.2 = (early_events ++ .rxStarted f :: late_events).map fun e => (first, e) :=
      congrArg (List.map fun e => (first, e)) events
    rw [timed, lastAccepted, List.map_append, List.foldl_append, List.map_cons, List.foldl_cons,
      note_rx_inert _ first late_events inert]
    rfl
  have honest : Honest above start next.2 next.1 (time, .tick sampled) := second
  have due : isoTpRxTimeoutMs ≤
      elapsed (tickArgument start sampled) next.1.world.link.ctx.lastRxTick := by
    rw [show next.1.world.link.ctx.lastRxTick = halGetTick first from stamp]
    exact measured
  have ended : (timedStep above start next.1 (time, .tick sampled)).1.world.link.ctx.rxState =
      .idle := tick_ends_reception next.1.world.quiet.link _ (halGetTick time) waiting due
  have late := honest.reception sampled rfl waiting (by rw [ended]; nofun)
  rw [accepted] at late
  exact absurd early (Nat.not_lt.mpr late)

/-- A First Frame of sixty-three bytes. -/
def startingFrame : CanFrame :=
  rxFifo0Message canIdPhysicalReq 15 (0x10 :: 63 :: List.replicate 62 0)

/-- The frame of the witness starts a reception. -/
theorem starting_frame_starting : Starting startingFrame :=
  ⟨by decide, by decide, by decide, 63, 2, by decide, by decide⟩

/-- A First Frame and a tick form a schedule. -/
theorem early_tick_scheduled (above : Upper σ κ) (start lag first sampled time : Nat)
    (f : CanFrame) (sink : Bool) (faults : List Bool) (upper : σ) (running : start ≤ first)
    (ordered : first ≤ time) (begun : start ≤ sampled) (inside : sampled ≤ time)
    (fresh_sample : first ≤ sampled + lag) :
    Run.Along (timedStep above start) (Scheduled start lag) [] (fresh sink faults upper)
      [(first, .frame f), (time, .tick sampled)] := by
  refine ⟨⟨running, Nat.zero_le _, nofun⟩, ⟨Nat.le_trans running ordered, ordered, ?_⟩, trivial⟩
  rintro sampled' same
  cases same
  exact ⟨begun, inside, fresh_sample⟩

/-- Counters that differ make a tick measure a second less than a second after a frame. -/
theorem differing_counters_measure (start : Nat) (differ : start % 2 ^ 32 ≠ 0) :
    let ahead := 2 ^ 32 - start % 2 ^ 32
    isoTpRxTimeoutMs ≤ elapsed (tickArgument start (start + (isoTpRxTimeoutMs - ahead)))
      (halGetTick start) := by
  intro ahead
  have below : start % 2 ^ 32 < 2 ^ 32 := Nat.mod_lt _ (by decide)
  have second : isoTpRxTimeoutMs = 1000 := rfl
  have period : portTickPeriodMs = 1 := rfl
  have argument : tickArgument start (start + (isoTpRxTimeoutMs - ahead)) =
      isoTpRxTimeoutMs - ahead := by
    rw [tickArgument, xTaskGetTickCount, Clock.shown, period, Nat.mul_one, Nat.mod_mod,
      Nat.add_sub_cancel_left]
    exact Nat.mod_eq_of_lt (by omega)
  rw [argument, elapsed, Clock.sub, halGetTick, Clock.shown, Nat.sub_zero, Nat.mod_mod,
    Nat.mod_eq_of_lt (by omega)]
  omega

/-- A sample that is overtaken by a frame measures almost a whole turn of the counter. -/
theorem overtaken_sample_measures (start : Nat) (aligned : start % 2 ^ 32 = 0) :
    isoTpRxTimeoutMs ≤ elapsed (tickArgument start start) (halGetTick (start + 1)) := by
  have later : (start + 1) % 2 ^ 32 = 1 := by omega
  have second : isoTpRxTimeoutMs = 1000 := rfl
  rw [tick_argument_agrees start start aligned (Nat.le_refl start), halGetTick, halGetTick,
    Clock.shown, Clock.shown, Nat.sub_zero, Nat.sub_zero, aligned, later, second]
  decide

/-- The timers measure real time in every run exactly when both counters agree
and no call overtakes the sample of a tick.

Proof: every call stamps its time, so agreeing counters measure at most the time
that passed. Otherwise a First Frame and one tick are enough. -/
theorem timers_honest_iff (above : Upper σ κ) (start lag : Nat) (sink : Bool) (faults : List Bool)
    (upper : σ) :
    (∀ calls, Run.Along (timedStep above start) (Scheduled start lag) [] (fresh sink faults upper)
        calls →
      Run.Along (timedStep above start) (Honest above start) [] (fresh sink faults upper) calls) ↔
      start % 2 ^ 32 = 0 ∧ lag = 0 := by
  have second : isoTpRxTimeoutMs = 1000 := rfl
  constructor
  · intro honest
    have aligned : start % 2 ^ 32 = 0 := by
      by_contra differ
      let ahead := 2 ^ 32 - start % 2 ^ 32
      have some_ahead : 0 < ahead := Nat.sub_pos_of_lt (Nat.mod_lt _ (by decide))
      let time := start + (isoTpRxTimeoutMs - ahead)
      have ordered : start ≤ time := Nat.le_add_right _ _
      refine early_tick_dishonest above start start time time startingFrame sink faults upper
        starting_frame_starting ?_ (differing_counters_measure start differ) (honest _ ?_)
      · simp only [time]
        omega
      · exact early_tick_scheduled above start lag start time time startingFrame sink faults upper
          (Nat.le_refl _) ordered ordered (Nat.le_refl _)
          (Nat.le_trans ordered (Nat.le_add_right _ _))
    refine ⟨aligned, ?_⟩
    by_contra overtaken
    refine early_tick_dishonest above start (start + 1) start (start + 1) startingFrame sink faults
      upper starting_frame_starting ?_ (overtaken_sample_measures start aligned) (honest _ ?_)
    · omega
    · exact early_tick_scheduled above start lag (start + 1) start (start + 1) startingFrame sink
        faults upper (Nat.le_succ _) (Nat.le_refl _) (Nat.le_refl _) (Nat.le_succ _)
        (Nat.add_le_add_left (Nat.pos_of_ne_zero overtaken) start)
  · rintro ⟨aligned, rfl⟩ calls scheduled
    have initial : Stamped [] (fresh sink faults upper) :=
      ⟨⟨nofun, nofun⟩, nofun, nofun, nofun⟩
    exact Run.along_of_invariant (timedStep above start) (Scheduled start 0) (Honest above start)
      Stamped (fun past s call => step_stamped above start 0 past s call)
      (fun past s call => step_honest above start past s call aligned) [] _ calls initial scheduled

/-- With a scheduler started 300 ms after `HAL_Init`, a tick ends the reception of
a First Frame five milliseconds after it. -/
theorem late_scheduler_drops_reception :
    ¬ ∀ calls, Run.Along (timedStep silent 300) (Scheduled 300 0) [] (fresh false [] ()) calls →
      Run.Along (timedStep silent 300) (Honest silent 300) [] (fresh false [] ()) calls := by
  intro honest
  refine early_tick_dishonest silent 300 2000 2005 2005 startingFrame false [] ()
    starting_frame_starting (by decide) (by decide) (honest _ ?_)
  exact early_tick_scheduled silent 300 0 2000 2005 2005 startingFrame false [] () (by decide)
    (by decide) (by decide) (by decide) (by decide)

end ObdSimulator.IsoTp
