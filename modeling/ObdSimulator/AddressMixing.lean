import ObdSimulator.Reassembly

/-!
# Receptions and addresses

One reassembly state serves the physical and the functional address. The
addressing type of the context is written before every use, so a stray frame on
the functional address is without effect unless it is a Consecutive Frame: that
one is not checked against the address of the reception and continues or ends it.
-/

namespace ObdSimulator.IsoTp

open Bytes

universe u v

variable {σ : Type u} {κ : Type v}

/-! ## The transmit side and the receive fields -/

/-- The transmit queue does not see the receive fields. -/
theorem add_message_set_rx (l : Link) (rx : RxContext) (frame : TxFrame) :
    addMessageToTxFifoQ (l.setRx rx) frame =
      ((addMessageToTxFifoQ l frame).1.setRx rx, (addMessageToTxFifoQ l frame).2) := by
  by_cases refused : l.faults.headD false = true
  · have other : (l.setRx rx).faults.headD false = true := refused
    rw [addMessageToTxFifoQ, if_pos other, addMessageToTxFifoQ, if_pos refused]
    rfl
  · have other : ¬ (l.setRx rx).faults.headD false = true := refused
    rw [addMessageToTxFifoQ, if_neg other, addMessageToTxFifoQ, if_neg refused]
    rfl

/-- Sending a Consecutive Frame neither reads nor writes the receive fields. -/
theorem send_next_cf_set_rx (l : Link) (rx : RxContext) (hal : Nat) :
    sendNextCf (l.setRx rx) hal = (sendNextCf l hal).setRx rx := by
  by_cases finished : l.ctx.txTotalSize ≤ l.ctx.txSent
  · simp only [sendNextCf, set_rx_ctx, finished, if_true]
    rfl
  · simp only [sendNextCf, set_rx_ctx, finished, if_false, add_message_set_rx]
    generalize addMessageToTxFifoQ l _ = queued
    obtain ⟨l', taken⟩ := queued
    cases taken with
    | false => rfl
    | true =>
      simp only
      by_cases last : l.ctx.txTotalSize ≤
          l.ctx.txSent + min isoTpCfPayloadSize (l.ctx.txTotalSize - l.ctx.txSent)
      · simp only [last, if_true]
        rfl
      · simp only [last, if_false]
        by_cases block : l.ctx.txBlockSize ≠ 0 ∧ l.ctx.txBlockSize ≤ l.ctx.txBlockCounter + 1
        · simp only [block, ne_eq, not_false_eq_true, and_self, if_true]
          rfl
        · simp only [block, if_false]
          rfl

/-- Sending a First Frame neither reads nor writes the receive fields. -/
theorem send_first_frame_set_rx (l : Link) (rx : RxContext) (hal canId : Nat) (data : List UInt8) :
    sendFirstFrame (l.setRx rx) hal canId data = (sendFirstFrame l hal canId data).setRx rx := by
  let sent := min data.length (isoTpFrameSize - (firstFrameHead data.length).length)
  have same : ({ l.setRx rx with ctx := { (l.setRx rx).ctx with txSent := sent } } : Link) =
      ({ l with ctx := { l.ctx with txSent := sent } } : Link).setRx rx := rfl
  simp only [sendFirstFrame]
  rw [same, add_message_set_rx]
  generalize addMessageToTxFifoQ _ _ = queued
  obtain ⟨l', taken⟩ := queued
  cases taken with
  | false => rfl
  | true => rfl

/-- Sending a response neither reads nor writes the receive fields. -/
theorem send_response_set_rx (l : Link) (rx : RxContext) (hal canId : Nat) (data : List UInt8) :
    isoTpSendResponse (l.setRx rx) hal canId data =
      (isoTpSendResponse l hal canId data).setRx rx := by
  simp only [isoTpSendResponse, set_rx_ctx]
  by_cases empty : data.length = 0
  · rw [if_pos empty, if_pos empty]
  · rw [if_neg empty, if_neg empty]
    by_cases large : isoTpMaxMessageSize < data.length
    · rw [if_pos large, if_pos large]
      rfl
    · rw [if_neg large, if_neg large]
      by_cases short : data.length ≤ isoTpSfMaxPayload
      · rw [if_pos short, if_pos short]
        simp only [sendSingleFrame, add_message_set_rx]
      · rw [if_neg short, if_neg short]
        by_cases idle : l.ctx.txState = .idle
        · simp only [idle, ne_eq, not_true_eq_false, if_false]
          rw [← send_first_frame_set_rx]
          rfl
        · simp only [idle, ne_eq, not_false_eq_true, if_true]
          rfl

/-- Sending any number of messages neither reads nor writes the receive fields. -/
theorem send_all_set_rx (l : Link) (rx : RxContext) (hal : Nat) (messages : List (List UInt8)) :
    sendAll (l.setRx rx) hal messages = (sendAll l hal messages).setRx rx := by
  induction messages generalizing l with
  | nil => rfl
  | cons data rest ih =>
    rw [sendAll, List.foldl_cons, send_response_set_rx]
    exact ih (isoTpSendResponse l hal canIdPhysicalResp data)

/-- Flow control that is received does not reach the receive fields. -/
theorem process_flow_control_set_rx (l : Link) (rx : RxContext) (hal : Nat) (f : CanFrame) :
    processFlowControl (l.setRx rx) hal f = (processFlowControl l hal f).setRx rx := by
  simp only [processFlowControl, set_rx_ctx]
  by_cases waiting : l.ctx.txState = .waitFc
  · simp only [waiting, ne_eq, not_true_eq_false, if_false]
    by_cases go : byte f.data 0 &&& 0x0F = isoTpFcContinue
    · rw [if_pos go, if_pos go, ← send_next_cf_set_rx]
      rfl
    · rw [if_neg go, if_neg go]
      by_cases wait : byte f.data 0 &&& 0x0F = isoTpFcWait
      · rw [if_pos wait, if_pos wait]
        by_cases many : isoTpMaxWft ≠ 0 ∧ isoTpMaxWft < l.ctx.txWaitFrameCount + 1
        · rw [if_pos many, if_pos many]
          rfl
        · rw [if_neg many, if_neg many]
          rfl
      · rw [if_neg wait, if_neg wait]
        rfl
  · simp only [waiting, ne_eq, not_false_eq_true, if_true]

/-- Giving up a transmission does not reach the receive fields. -/
theorem tx_fc_timeout_set_rx (l : Link) (rx : RxContext) (now : Nat) :
    txFcTimeout (l.setRx rx) now = (txFcTimeout l now).setRx rx := by
  by_cases due : l.ctx.txState = .waitFc ∧ isoTpTxFcTimeoutMs ≤ elapsed now l.ctx.lastTxTick
  · have other : (l.setRx rx).ctx.txState = .waitFc ∧
        isoTpTxFcTimeoutMs ≤ elapsed now (l.setRx rx).ctx.lastTxTick := due
    rw [txFcTimeout, if_pos other, txFcTimeout, if_pos due]
    rfl
  · have other : ¬ ((l.setRx rx).ctx.txState = .waitFc ∧
        isoTpTxFcTimeoutMs ≤ elapsed now (l.setRx rx).ctx.lastTxTick) := due
    rw [txFcTimeout, if_neg other, txFcTimeout, if_neg due]

/-- The pacing of Consecutive Frames does not reach the receive fields. -/
theorem cf_pacing_set_rx (l : Link) (rx : RxContext) (now hal : Nat) :
    cfPacing (l.setRx rx) now hal = (cfPacing l now hal).setRx rx := by
  by_cases due : l.ctx.txState = .sendCf ∧ l.ctx.txStmin.toNat ≤ elapsed now l.ctx.lastTxTick
  · have other : (l.setRx rx).ctx.txState = .sendCf ∧
        (l.setRx rx).ctx.txStmin.toNat ≤ elapsed now (l.setRx rx).ctx.lastTxTick := due
    rw [cfPacing, if_pos other, cfPacing, if_pos due, send_next_cf_set_rx]
  · have other : ¬ ((l.setRx rx).ctx.txState = .sendCf ∧
        (l.setRx rx).ctx.txStmin.toNat ≤ elapsed now (l.setRx rx).ctx.lastTxTick) := due
    rw [cfPacing, if_neg other, cfPacing, if_neg due]

/-! ## The addressing type is written before it is read -/

/-- The world with another addressing type in the context. -/
def World.readdressed (w : World σ) (addr : AddrType) : World σ :=
  { w with link := w.link.addressed addr }

/-- A part of the transmit side takes the addressing type along. -/
theorem addressed_transmits (send : Link → Link)
    (set_rx : ∀ l rx, send (l.setRx rx) = (send l).setRx rx)
    (transmits : ∀ l, Transmits l (send l)) (l : Link) (addr : AddrType) :
    send (l.addressed addr) = (send l).addressed addr := by
  rw [Link.addressed, set_rx, Link.addressed, (transmits l).rx]

/-- Giving up a reception does not look at the addressing type. -/
theorem rx_timeout_addressed (l : Link) (addr : AddrType) (now : Nat) :
    rxTimeout (l.addressed addr) now = (rxTimeout l now).addressed addr := by
  by_cases due : l.ctx.rxState = .waitCf ∧ isoTpRxTimeoutMs ≤ elapsed now l.ctx.lastRxTick
  · have other : (l.addressed addr).ctx.rxState = .waitCf ∧
        isoTpRxTimeoutMs ≤ elapsed now (l.addressed addr).ctx.lastRxTick := due
    rw [rxTimeout, if_pos other, rxTimeout, if_pos due]
    by_cases stream : l.ctx.streamMode = true ∧ l.streamSink = true
    · have same : (l.addressed addr).ctx.streamMode = true ∧
          (l.addressed addr).streamSink = true := stream
      rw [abortStreamRx, if_pos same, abortStreamRx, if_pos stream]
      rfl
    · have same : ¬ ((l.addressed addr).ctx.streamMode = true ∧
          (l.addressed addr).streamSink = true) := stream
      rw [abortStreamRx, if_neg same, abortStreamRx, if_neg stream]
      rfl
  · have other : ¬ ((l.addressed addr).ctx.rxState = .waitCf ∧
        isoTpRxTimeoutMs ≤ elapsed now (l.addressed addr).ctx.lastRxTick) := due
    rw [rxTimeout, if_neg other, rxTimeout, if_neg due]

/-- A call on another addressing type gives the same events, and the same world
but for the addressing type. -/
theorem step_readdressed (above : Upper σ κ) (w : World σ) (addr : AddrType) (i : Input κ) :
    ∃ addr', (step above (w.readdressed addr) i).1 = (step above w i).1.readdressed addr' ∧
      (step above (w.readdressed addr) i).2 = (step above w i).2 := by
  have started : (w.readdressed addr).quiet = w.quiet.readdressed addr := rfl
  have along : ∀ addr', act above (w.quiet.readdressed addr) i =
      (act above w.quiet i).readdressed addr' → ∃ addr',
        (step above (w.readdressed addr) i).1 = (step above w i).1.readdressed addr' ∧
          (step above (w.readdressed addr) i).2 = (step above w i).2 := by
    intro addr' same
    refine ⟨addr', ?_, ?_⟩
    · rw [step, started, same]
      rfl
    · rw [step, started, same]
      rfl
  cases i with
  | frame hal f =>
    by_cases sized : f.dlc = 0
    · refine along addr ?_
      simp only [act, isoTpProcessFrame, sized, if_true]
    · by_cases flow : byte f.data 0 &&& 0xF0 = isoTpPciFlowControl
      · refine along addr ?_
        simp only [act, isoTpProcessFrame, sized, flow, if_true, if_false, World.readdressed]
        rw [addressed_transmits (fun l => processFlowControl l hal f)
          (fun l rx => process_flow_control_set_rx l rx hal f)
          (fun l => process_flow_control_transmits l hal f)]
      · by_cases mine : canAddrClassify f.canId = .ignore
        · refine along addr ?_
          simp only [act, isoTpProcessFrame, sized, flow, mine, if_false]
        · refine ⟨(step above w (.frame hal f)).1.link.ctx.rxAddrType, ?_⟩
          have same : act above (w.quiet.readdressed addr) (.frame hal f) =
              act above w.quiet (.frame hal f) := by
            simp only [act]
            rw [process_frame_spec above _ hal f sized flow mine,
              process_frame_spec above _ hal f sized flow mine]
            rfl
          rw [step, started, same]
          exact ⟨rfl, rfl⟩
  | work hal k =>
    refine along addr ?_
    simp only [act, World.readdressed]
    rw [addressed_transmits (fun l => sendAll l hal _) (fun l rx => send_all_set_rx l rx hal _)
      (fun l => send_all_transmits l hal _)]
  | tick now hal =>
    refine along addr ?_
    simp only [act, World.readdressed, isoTpTick]
    rw [rx_timeout_addressed,
      addressed_transmits (fun l => txFcTimeout l now) (fun l rx => tx_fc_timeout_set_rx l rx now)
        (fun l => tx_fc_timeout_transmits l now),
      addressed_transmits (fun l => cfPacing l now hal) (fun l rx => cf_pacing_set_rx l rx now hal)
        (fun l => cf_pacing_transmits l now hal)]
  | registerStreamSink sink => exact along addr rfl

/-- The addressing type of the context is never seen by a later call. -/
theorem trace_readdressed (above : Upper σ κ) (w : World σ) (addr : AddrType)
    (inputs : List (Input κ)) :
    Run.trace (step above) (w.readdressed addr) inputs = Run.trace (step above) w inputs := by
  induction inputs generalizing w addr with
  | nil => rfl
  | cons i rest ih =>
    obtain ⟨addr', world, events⟩ := step_readdressed above w addr i
    rw [Run.trace, Run.trace, events, world, ih]

/-! ## One address for every reception -/

/-- A frame on the functional address, neither a Single Frame nor flow control,
while a reception waits. -/
def Stray (c : RxContext) : Input κ → Prop
  | .frame _ f => c.rxState = .waitCf ∧ f.canId = canIdFunctionalReq ∧ f.dlc ≠ 0 ∧
      byte f.data 0 &&& 0xF0 ≠ isoTpPciSingleFrame ∧ byte f.data 0 &&& 0xF0 ≠ isoTpPciFlowControl
  | _ => False

/-- A Consecutive Frame on the functional address while a reception waits. -/
def Mixes (c : RxContext) : Input κ → Prop
  | .frame _ f => c.rxState = .waitCf ∧ f.canId = canIdFunctionalReq ∧ f.dlc ≠ 0 ∧
      byte f.data 0 &&& 0xF0 = isoTpPciConsecutive
  | _ => False

/-- A request whose reception began with a First Frame is made of frames with the
identifier of that frame, and is dispatched as a physical request. -/
def OneAddress (frames : List CanFrame) : Event → Prop
  | .dispatched request addr =>
    ∀ first rest, frames = first :: rest → byte first.data 0 &&& 0xF0 = isoTpPciFirstFrame →
      assembled first rest = some request ∧ (∀ f ∈ rest, f.canId = first.canId) ∧
        addr = canAddrClassify first.canId ∧ addr = .physical
  | _ => True

/-- The step dispatches requests of one address only, and a stray frame changes
neither the reception nor anything that is observed later. -/
def Unmixed (above : Upper σ κ) (past : List Event) (w : World σ) (i : Input κ) : Prop :=
  Run.Each collect OneAddress (receptionFrames past) (step above w i).2 ∧
    (Stray w.link.ctx.toRxContext i →
      { (step above w i).1.link.ctx.toRxContext with rxAddrType := w.link.ctx.rxAddrType } =
          w.link.ctx.toRxContext ∧
        (step above w i).2 = [] ∧
        ∀ inputs,
          Run.trace (step above) (step above w i).1 inputs = Run.trace (step above) w inputs)

/-- What a reception holds, and from whom while it waits. -/
structure FromOne (past : List Event) (c : RxContext) : Prop where
  held : Held past c
  sender : c.rxState = .waitCf → ∀ f ∈ receptionFrames past, f.canId = canIdPhysicalReq

/-- The log before a run is not part of its trace. -/
theorem trace_quiet (above : Upper σ κ) (w : World σ) (inputs : List (Input κ)) :
    Run.trace (step above) w.quiet inputs = Run.trace (step above) w inputs := by
  cases inputs with
  | nil => rfl
  | cons i rest => rfl

/-- Inert events mix no addresses. -/
theorem inert_one_address (frames : List CanFrame) (events : List Event)
    (inert : ∀ e ∈ events, e.Inert) : Run.Each collect OneAddress frames events := by
  refine Run.each_of_forall collect OneAddress frames events ?_
  intro frames e member
  have here := inert e member
  cases e <;> trivial

/-- A frame that continues a reception has its address. -/
theorem not_mixes_sender (c : RxContext) (hal : Nat) (f : CanFrame)
    (kind : byte f.data 0 &&& 0xF0 = isoTpPciConsecutive) (waiting : c.rxState = .waitCf)
    (sized : f.dlc ≠ 0) (mine : canAddrClassify f.canId ≠ .ignore)
    (unmixed : ¬ Mixes (κ := κ) c (.frame hal f)) : f.canId = canIdPhysicalReq := by
  cases classified : canAddrClassify f.canId with
  | ignore => exact absurd classified mine
  | physical => exact (can_addr_physical_iff _).mp classified
  | functional =>
    have functional := (can_addr_functional_iff _).mp classified
    exact absurd ⟨waiting, functional, sized, kind⟩ unmixed

/-- A step without a Consecutive Frame on the functional address keeps every
reception at one address.

Proof: the cases of a reception step; a request is the payload of the frames of
its reception and of the frame that completes it. -/
theorem step_from_one (past events : List Event) (c c' : RxContext) (i : Input κ)
    (one : FromOne past c) (unmixed : ¬ Mixes c i) (step : RxStep c i c' events) :
    FromOne (past ++ events) c' ∧ Run.Each collect OneAddress (receptionFrames past) events := by
  have held := step_held past events c c' i one.held step
  cases step with
  | kept addr events inert =>
    refine ⟨⟨held, ?_⟩, inert_one_address _ events inert⟩
    rw [reception_frames_inert past events inert]
    exact one.sender
  | dropped _ _ idle buffer _ inert =>
    refine ⟨⟨held, ?_⟩, inert_one_address _ events inert⟩
    intro waiting
    rw [idle] at waiting
    cases waiting
  | started hal f totalSize off before after input kind sender decoded inert =>
    have first : ∀ e ∈ before, e.Inert := fun e member => inert e (List.mem_append_left _ member)
    have later : ∀ e ∈ after, e.Inert := fun e member => inert e (List.mem_append_right _ member)
    refine ⟨⟨held, ?_⟩, ?_⟩
    · intro _ f' member
      rw [reception_frames_started past before after f later] at member
      rw [List.mem_singleton.mp member]
      exact sender
    · rw [Run.each_append]
      exact ⟨inert_one_address _ before first, trivial, inert_one_address _ after later⟩
  | continued hal f after input sized mine kind waiting _ partly inert =>
    subst input
    have sender := not_mixes_sender c hal f kind waiting sized mine unmixed
    refine ⟨⟨held, ?_⟩, trivial, inert_one_address _ after inert⟩
    intro _ f' member
    rw [reception_frames_continued past after f inert] at member
    rcases List.mem_append.mp member with early | last
    · exact one.sender waiting f' early
    · rw [List.mem_singleton.mp last]
      exact sender
  | completed hal f after sent input sized mine kind waiting _ complete inert =>
    subst input
    have sender := not_mixes_sender c hal f kind waiting sized mine unmixed
    have first : ∀ e ∈ after, e.Inert := fun e member => inert e (List.mem_append_left _ member)
    have later : ∀ e ∈ sent, e.Inert := fun e member => inert e (List.mem_append_right _ member)
    obtain ⟨head, rest, frames, _, request⟩ :=
      completed_request past c hal f one.held waiting complete
    have own := one.sender waiting
    rw [frames] at own
    refine ⟨⟨held, nofun⟩, ?_⟩
    rw [List.cons_append]
    refine ⟨trivial, ?_⟩
    rw [Run.each_append, collect_inert _ after first]
    refine ⟨inert_one_address _ after first, ?_, inert_one_address _ sent later⟩
    intro head' rest' frames' _
    have whole : receptionFrames past ++ [f] = head' :: rest' := frames'
    rw [frames, List.cons_append] at whole
    obtain ⟨rfl, rfl⟩ := List.cons.inj whole
    have physical : canAddrClassify canIdPhysicalReq = .physical := by decide
    have from_head := own head List.mem_cons_self
    refine ⟨request, ?_, by rw [sender, from_head], by rw [sender, physical]⟩
    intro f' member
    rw [from_head]
    rcases List.mem_append.mp member with early | last
    · exact own f' (List.mem_cons_of_mem _ early)
    · rw [List.mem_singleton.mp last, sender]
  | single _ hal f addr before after sent input kind idle buffer inert =>
    refine ⟨⟨held, ?_⟩, ?_⟩
    · intro waiting
      rw [idle] at waiting
      cases waiting
    · have first : ∀ e ∈ before, e.Inert := fun e member =>
        inert e (List.mem_append_left _ (List.mem_append_left _ member))
      have later : ∀ e ∈ after, e.Inert := fun e member =>
        inert e (List.mem_append_left _ (List.mem_append_right _ member))
      have last : ∀ e ∈ sent, e.Inert := fun e member => inert e (List.mem_append_right _ member)
      rw [Run.each_append, Run.each_append, List.foldl_append, List.foldl_cons,
        collect_inert _ after later]
      refine ⟨⟨inert_one_address _ before first, trivial, inert_one_address _ after later⟩, ?_,
        inert_one_address _ sent last⟩
      intro head rest frames first_frame
      obtain ⟨rfl, _⟩ := List.cons.inj frames
      rw [kind] at first_frame
      cases first_frame

/-- A stray frame that is no Consecutive Frame leaves nothing but its addressing
type. -/
theorem stray_ignored (above : Upper σ κ) (w : World σ) (i : Input κ)
    (stray : Stray w.link.ctx.toRxContext i) (unmixed : ¬ Mixes w.link.ctx.toRxContext i) :
    (step above w i).1 = w.quiet.readdressed .functional ∧ (step above w i).2 = [] := by
  cases i with
  | frame hal f =>
    obtain ⟨waiting, functional, sized, single, flow⟩ := stray
    have consecutive : byte f.data 0 &&& 0xF0 ≠ isoTpPciConsecutive := fun kind =>
      unmixed ⟨waiting, functional, sized, kind⟩
    have classified := (can_addr_functional_iff _).mpr functional
    have mine : canAddrClassify f.canId ≠ .ignore := by
      rw [classified]
      decide
    have received : receive (w.quiet.link.addressed (canAddrClassify f.canId)) hal f =
        w.quiet.link.addressed .functional := by
      rw [classified]
      by_cases first : byte f.data 0 &&& 0xF0 = isoTpPciFirstFrame
      · rw [receive_first _ hal f first, processFirstFrame]
        exact if_pos rfl
      · simp only [receive, if_neg single, if_neg first, if_neg consecutive]
    have done : act above w.quiet (.frame hal f) = w.quiet.readdressed .functional := by
      rw [act, process_frame_spec above w.quiet hal f sized flow mine, received]
      refine dispatch_nothing above _ hal ?_
      change w.link.ctx.rxState ≠ .complete
      rw [waiting]
      decide
    rw [step, done]
    exact ⟨rfl, rfl⟩
  | work hal k => exact stray.elim
  | tick now hal => exact stray.elim
  | registerStreamSink sink => exact stray.elim

/-- A mixing frame is a stray one during a reception. -/
theorem Mixes.stray {c : RxContext} {i : Input κ} (mixes : Mixes c i) :
    Stray c i ∧ c.rxState = .waitCf := by
  cases i with
  | frame hal f =>
    obtain ⟨waiting, functional, sized, kind⟩ := mixes
    have single : isoTpPciConsecutive ≠ isoTpPciSingleFrame := by decide
    have flow : isoTpPciConsecutive ≠ isoTpPciFlowControl := by decide
    rw [← kind] at single flow
    exact ⟨⟨waiting, functional, sized, single, flow⟩, waiting⟩
  | work hal k => exact mixes.elim
  | tick now hal => exact mixes.elim
  | registerStreamSink sink => exact mixes.elim

/-- The sequence counter never stays the same. -/
theorem sequence_moves (seq : UInt8) : (seq + 1) &&& 0x0F ≠ seq := by
  intro same
  have value := congrArg UInt8.toNat same
  have mask : (0x0F : UInt8).toNat = 2 ^ 4 - 1 := rfl
  rw [UInt8.toNat_and, mask, Nat.and_two_pow_sub_one_eq_mod, UInt8.toNat_add] at value
  have one : (1 : UInt8).toNat = 1 := rfl
  rw [one] at value
  omega

/-- A Consecutive Frame on the functional address changes a waiting reception. -/
theorem mixes_changes (above : Upper σ κ) (w : World σ) (i : Input κ)
    (mixes : Mixes w.link.ctx.toRxContext i) :
    (step above w i).1.link.ctx.rxState ≠ .waitCf ∨
      (step above w i).1.link.ctx.rxExpectedSeq ≠ w.link.ctx.rxExpectedSeq := by
  cases i with
  | frame hal f =>
    obtain ⟨waiting, functional, sized, kind⟩ := mixes
    have classified := (can_addr_functional_iff _).mpr functional
    have mine : canAddrClassify f.canId ≠ .ignore := by
      rw [classified]
      decide
    have flow : byte f.data 0 &&& 0xF0 ≠ isoTpPciFlowControl := by
      rw [kind]
      decide
    let l := w.quiet.link.addressed (canAddrClassify f.canId)
    have received : receive l hal f = receiveConsecutive l hal f := receive_consecutive l hal f kind
    obtain ⟨dispatched, _⟩ := dispatch_completed_spec above ⟨receive l hal f, w.upper⟩ hal
    have next : (step above w (.frame hal f)).1 =
        dispatchIfComplete above ⟨receive l hal f, w.upper⟩ hal :=
      process_frame_spec above w.quiet hal f sized flow mine
    rw [next]
    by_cases complete : (receive l hal f).ctx.rxState = .complete
    · refine Or.inl ?_
      rw [dispatchIfComplete, if_pos complete]
      have idle := congrArg RxContext.rxState dispatched
      rw [show (dispatchCompletedMessage above ⟨receive l hal f, w.upper⟩ hal).link.ctx.rxState =
        .idle from idle]
      decide
    · rw [dispatch_nothing above ⟨receive l hal f, w.upper⟩ hal complete]
      simp only [received]
      rcases receive_consecutive_cases l hal f with
        ⟨other, _⟩ | ⟨_, _, dropped, _⟩ | ⟨_, _, continued, _⟩
      · exact absurd waiting other
      · refine Or.inl ?_
        rw [dropped]
        intro same
        cases same
      · refine Or.inr ?_
        have sequence : (finishRx (continueRx l.ctx.toRxContext hal f)).rxExpectedSeq =
            (w.link.ctx.rxExpectedSeq + 1) &&& 0x0F := by
          unfold finishRx
          split
          · rfl
          · split
            · rfl
            · rfl
        rw [continued, sequence]
        exact sequence_moves w.link.ctx.rxExpectedSeq
  | work hal k => exact mixes.elim
  | tick now hal => exact mixes.elim
  | registerStreamSink sink => exact mixes.elim

/-- Receptions keep to one address, and frames astray on the functional address
are without effect, exactly in the runs in which no Consecutive Frame comes on the
functional address while a reception waits. -/
theorem unmixed_iff (above : Upper σ κ) (sink : Bool) (faults : List Bool) (upper : σ)
    (inputs : List (Input κ)) :
    Run.Along (step above) (Unmixed above) [] (isoTpInit sink faults upper) inputs ↔
      Run.Along (step above) (fun _ w i => ¬ Mixes w.link.ctx.toRxContext i) []
        (isoTpInit sink faults upper) inputs := by
  have start : FromOne [] (isoTpInit sink faults upper).link.ctx.toRxContext :=
    ⟨⟨nofun, List.length_replicate, nofun⟩, nofun⟩
  refine (Run.along_iff_of_invariant (step above) (fun _ w i => ¬ Mixes w.link.ctx.toRxContext i)
    (Unmixed above) (fun past w => FromOne past w.link.ctx.toRxContext) ?_ ?_ []
    (isoTpInit sink faults upper) inputs start).symm
  · intro past w i one unmixed
    exact (step_from_one past _ _ _ i one unmixed (step_reception above w i one.held.ready)).1
  · intro past w i one
    constructor
    · intro unmixed
      refine ⟨(step_from_one past _ _ _ i one unmixed
        (step_reception above w i one.held.ready)).2, ?_⟩
      intro stray
      obtain ⟨world, silent⟩ := stray_ignored above w i stray unmixed
      refine ⟨by rw [world]; rfl, silent, ?_⟩
      intro inputs
      rw [world, trace_readdressed, trace_quiet]
    · rintro ⟨_, ignored⟩ mixes
      obtain ⟨stray, waiting⟩ := mixes.stray
      obtain ⟨same, _, _⟩ := ignored stray
      rcases mixes_changes above w i mixes with state | sequence
      · exact state ((congrArg RxContext.rxState same).trans waiting)
      · have still := congrArg RxContext.rxExpectedSeq same
        exact sequence still

/-- A physical First Frame for 63 bytes, whose last byte a Consecutive Frame on
the functional address supplies. -/
theorem functional_frame_completes :
    ¬ Run.Along (step silent) (Unmixed silent) [] (isoTpInit false [] ())
      [.frame 0 (rxFifo0Message 0x7E0 15 (0x10 :: 0x3F :: List.replicate 62 0x11)),
        .frame 1 (rxFifo0Message 0x7DF 2 [0x21, 0x22])] := by
  let first := rxFifo0Message 0x7E0 15 (0x10 :: 0x3F :: List.replicate 62 0x11)
  let last := rxFifo0Message 0x7DF 2 [0x21, 0x22]
  let started := step silent (isoTpInit false [] ()) (.frame 0 first)
  have frames : receptionFrames ([] ++ started.2) = [first] := by decide +kernel
  have events : (step silent started.1 (.frame 1 last)).2 =
      [.rxContinued last, .dispatched (List.replicate 62 0x11 ++ [0x22]) .functional] := by
    decide +kernel
  rintro ⟨_, ⟨each, _⟩, _⟩
  rw [frames, events] at each
  obtain ⟨_, _, _, physical⟩ := each.2.1 first [last] rfl (by decide)
  cases physical

end ObdSimulator.IsoTp
