import ObdSimulator.Reassembly
import ObdSimulator.Segmentation

/-!
# What the transmit side does

One call of the transport is a sequence of operations of the transmit side, with
receive events in between: a frame queued or refused, a segmented transmission
started, continued, delayed or ended. Each operation is listed once, with the
state it needs and the events it gives; properties of runs follow by checking the
operations.
-/

namespace ObdSimulator.IsoTp

open Bytes

universe u v w

variable {σ : Type u} {κ : Type v}

/-- The value `HAL_GetTick` has during a call. -/
def Input.hal : Input κ → Nat
  | .frame hal _ | .work hal _ | .tick _ hal => hal
  | .registerStreamSink _ => 0

/-! ## Frame types -/

/-- A Single Frame is of the type it is named for. -/
theorem single_frame_pci (canId : Nat) (message : List UInt8) :
    pciType (singleFrame canId message) = isoTpPciSingleFrame := by
  rw [pciType, singleFrame, singleFrameBytes]
  split
  · exact high_nibble isoTpPciSingleFrame (UInt8.ofNat message.length) (by decide)
  · exact (by decide : isoTpPciSingleFrame &&& 0xF0 = isoTpPciSingleFrame)

/-- A First Frame is of the type it is named for. -/
theorem first_frame_pci (canId : Nat) (message : List UInt8)
    (fits : message.length ≤ isoTpMaxMessageSize) :
    pciType (firstFrame canId message) = isoTpPciFirstFrame := by
  have classic : message.length ≤ isoTpFfEscapeThreshold :=
    Nat.le_trans fits (by decide : isoTpMaxMessageSize ≤ isoTpFfEscapeThreshold)
  have small : message.length / 256 % 16 < 16 := Nat.mod_lt _ (by decide)
  have table : ∀ r < 16, (isoTpPciFirstFrame ||| UInt8.ofNat r) &&& 0xF0 = isoTpPciFirstFrame := by
    decide
  rw [pciType, firstFrame, firstFrameHead, if_pos classic]
  exact table _ small

/-- A Consecutive Frame is of the type it is named for. -/
theorem next_cf_pci (c : TxContext) : pciType (nextCf c) = isoTpPciConsecutive :=
  high_nibble isoTpPciConsecutive c.txSeq (by decide)

/-! ## The operations -/

/-- The frame just queued was the last of its block. -/
def BlockEnds (c : TxContext) : Prop := c.txBlockSize ≠ 0 ∧ c.txBlockSize ≤ c.txBlockCounter

instance (c : TxContext) : Decidable (BlockEnds c) := inferInstanceAs (Decidable (_ ∧ _))

/-- What `send_next_cf` does. -/
inductive CfSent (c : TxContext) (hal : Nat) : TxContext → List Event → Prop
  | nothingLeft (all : c.txTotalSize ≤ c.txSent) :
    CfSent c hal { c with txState := .idle } [.txComplete]
  | refused (more : c.txSent < c.txTotalSize) :
    CfSent c hal { c with txState := .idle }
      [.lost (nextCf c), .txAborted .consecutiveFailed]
  | last (more : c.txSent < c.txTotalSize) (all : c.txTotalSize ≤ (advanceTx c hal).txSent) :
    CfSent c hal { advanceTx c hal with txState := .idle } [.queued (nextCf c), .txComplete]
  | blockEnd (more : c.txSent < c.txTotalSize) (left : (advanceTx c hal).txSent < c.txTotalSize)
    (ends : BlockEnds (advanceTx c hal)) :
    CfSent c hal { advanceTx c hal with txState := .waitFc } [.queued (nextCf c)]
  | sent (more : c.txSent < c.txTotalSize) (left : (advanceTx c hal).txSent < c.txTotalSize)
    (within : ¬ BlockEnds (advanceTx c hal)) :
    CfSent c hal (advanceTx c hal) [.queued (nextCf c)]

/-- The fields a segmented message sets; its First Frame takes 62 bytes. -/
def beginTx (c : TxContext) (message : List UInt8) : TxContext :=
  { c with
    txBuffer := memcpy c.txBuffer 0 message
    txTotalSize := message.length
    txSent := 62
    txSeq := 1
    txCanId := canIdPhysicalResp
    txWaitFrameCount := 0
    txState := .waitFc }

/-- The fields a FC.CTS sets. -/
def resumeTx (c : TxContext) (hal : Nat) (f : CanFrame) : TxContext :=
  { c with
    txStmin := if byte f.data 2 < 0x80 then byte f.data 2 else 0
    txBlockSize := byte f.data 1
    txBlockCounter := 0
    lastTxTick := hal
    txState := .sendCf }

/-- An operation of the transmit side during a call, other than a queued Single
Frame. -/
inductive TxOp (i : Input κ) (c : TxContext) : TxContext → List Event → Prop
  | lost (message : List UInt8) (short : message.length ≤ isoTpSfMaxPayload) :
    TxOp i c c [.lost (singleFrame canIdPhysicalResp message)]
  | rejected (message : List UInt8) : TxOp i c c [.rejected message]
  | started (message : List UInt8) (idle : c.txState = .idle)
    (long : isoTpSfMaxPayload < message.length) (fits : message.length ≤ isoTpMaxMessageSize) :
    TxOp i c { beginTx c message with lastTxTick := i.hal }
      [.txStarted message, .queued (firstFrame canIdPhysicalResp message)]
  | notStarted (message : List UInt8) (idle : c.txState = .idle)
    (long : isoTpSfMaxPayload < message.length) (fits : message.length ≤ isoTpMaxMessageSize) :
    TxOp i c { beginTx c message with txState := .idle }
      [.txStarted message, .lost (firstFrame canIdPhysicalResp message),
        .txAborted .firstFrameFailed]
  | continued (hal : Nat) (f : CanFrame) (c' : TxContext) (events : List Event)
    (input : i = .frame hal f) (waiting : c.txState = .waitFc)
    (sent : CfSent (resumeTx c hal f) hal c' events) : TxOp i c c' (.flowContinue :: events)
  | waited (hal : Nat) (f : CanFrame) (input : i = .frame hal f) (waiting : c.txState = .waitFc) :
    TxOp i c { c with txWaitFrameCount := c.txWaitFrameCount + 1, lastTxTick := hal } [.flowWait]
  | tooManyWaits (waiting : c.txState = .waitFc)
    (many : isoTpMaxWft < c.txWaitFrameCount + 1) :
    TxOp i c { c with txWaitFrameCount := c.txWaitFrameCount + 1, txState := .idle }
      [.txAborted .tooManyWaits]
  | overflow (waiting : c.txState = .waitFc) :
    TxOp i c { c with txState := .idle } [.txAborted .overflow]
  | timedOut (now hal : Nat) (input : i = .tick now hal) (waiting : c.txState = .waitFc)
    (due : isoTpTxFcTimeoutMs ≤ elapsed now c.lastTxTick) :
    TxOp i c { c with txState := .idle } [.txAborted .flowTimeout]
  | paced (now hal : Nat) (c' : TxContext) (events : List Event) (input : i = .tick now hal)
    (sending : c.txState = .sendCf) (due : c.txStmin.toNat ≤ elapsed now c.lastTxTick)
    (sent : CfSent c hal c' events) : TxOp i c c' events

/-- An event of the receive side, or a dispatch. -/
def Event.Foreign (e : Event) : Prop :=
  e.OfRx ∨ ∃ request addr, e = .dispatched request addr

/-- The transmit side during a call; `may` is met where a Single Frame is queued. -/
inductive TxRun (i : Input κ) (may : TxContext → Prop) :
    TxContext → TxContext → List Event → Prop
  | done (c : TxContext) : TxRun i may c c []
  | foreign (c c' : TxContext) (e : Event) (rest : List Event) (other : e.Foreign)
    (later : TxRun i may c c' rest) : TxRun i may c c' (e :: rest)
  | single (c c' : TxContext) (message : List UInt8) (rest : List Event)
    (short : message.length ≤ isoTpSfMaxPayload) (allowed : may c)
    (later : TxRun i may c c' rest) :
    TxRun i may c c' (.queued (singleFrame canIdPhysicalResp message) :: rest)
  | op (c c' c'' : TxContext) (events rest : List Event) (here : TxOp i c c' events)
    (later : TxRun i may c' c'' rest) : TxRun i may c c'' (events ++ rest)

/-- Two stretches of a transmission, one behind the other. -/
theorem TxRun.trans {i : Input κ} {may : TxContext → Prop} {c c' c'' : TxContext}
    {before after : List Event} (first : TxRun i may c c' before)
    (second : TxRun i may c' c'' after) : TxRun i may c c'' (before ++ after) := by
  induction first with
  | done c => exact second
  | foreign c c' e rest other _ ih => exact .foreign c c'' e _ other (ih second)
  | single c c' message rest short allowed _ ih =>
    exact .single c c'' message _ short allowed (ih second)
  | op c c₁ c' events rest here _ ih =>
    rw [List.append_assoc]
    exact .op c c₁ c'' events _ here (ih second)

/-- A single operation. -/
theorem TxRun.one {i : Input κ} {may : TxContext → Prop} {c c' : TxContext} {events : List Event}
    (here : TxOp i c c' events) : TxRun i may c c' events := by
  have whole : TxRun i may c c' (events ++ []) := .op c c' c' events [] here (.done c')
  rwa [List.append_nil] at whole

/-- Events of others do not belong to it. -/
theorem TxRun.of_foreign {i : Input κ} {may : TxContext → Prop} (c : TxContext)
    (events : List Event) (other : ∀ e ∈ events, e.Foreign) : TxRun i may c c events := by
  induction events with
  | nil => exact .done c
  | cons e rest ih =>
    exact .foreign c c e rest (other e List.mem_cons_self)
      (ih fun later member => other later (List.mem_cons_of_mem _ member))

/-- A condition on the events with a fold over them, and an invariant between the
fold and the state, hold over a call when every operation keeps them. -/
theorem TxRun.each {α : Type w} {i : Input κ} {may : TxContext → Prop} (f : α → Event → α)
    (check : α → Event → Prop) (inv : α → TxContext → Prop)
    (foreign : ∀ a c e, e.Foreign → inv a c → check a e ∧ inv (f a e) c)
    (single : ∀ a c message, may c → inv a c →
      check a (.queued (singleFrame canIdPhysicalResp message)) ∧
        inv (f a (.queued (singleFrame canIdPhysicalResp message))) c)
    (op : ∀ a c c' events, TxOp i c c' events → inv a c →
      Run.Each f check a events ∧ inv (events.foldl f a) c')
    {c c' : TxContext} {events : List Event} (run : TxRun i may c c' events) (a : α)
    (initial : inv a c) : Run.Each f check a events ∧ inv (events.foldl f a) c' := by
  induction run generalizing a with
  | done c => exact ⟨trivial, initial⟩
  | foreign c c' e rest other _ ih =>
    obtain ⟨met, kept⟩ := foreign a c e other initial
    obtain ⟨later, last⟩ := ih (f a e) kept
    exact ⟨⟨met, later⟩, last⟩
  | single c c' message rest short allowed _ ih =>
    obtain ⟨met, kept⟩ := single a c message allowed initial
    obtain ⟨later, last⟩ := ih _ kept
    exact ⟨⟨met, later⟩, last⟩
  | op c c₁ c' events rest here _ ih =>
    obtain ⟨met, kept⟩ := op a c c₁ events here initial
    obtain ⟨later, last⟩ := ih _ kept
    refine ⟨(Run.each_append f check a events rest).mpr ⟨met, later⟩, ?_⟩
    rw [List.foldl_append]
    exact last

/-! ## Every call is such a run -/

/-- From `l` to `l'` the transmit side runs, and the log keeps its events. -/
def Runs (i : Input κ) (may : TxContext → Prop) (l l' : Link) : Prop :=
  ∃ events, l'.log = l.log ++ events ∧
    TxRun i may l.ctx.toTxContext l'.ctx.toTxContext events

/-- Two parts of a call, one behind the other. -/
theorem Runs.trans {i : Input κ} {may : TxContext → Prop} {l l' l'' : Link}
    (first : Runs i may l l') (second : Runs i may l' l'') : Runs i may l l'' := by
  obtain ⟨before, log, run⟩ := first
  obtain ⟨after, log', run'⟩ := second
  exact ⟨before ++ after, by rw [log', log, List.append_assoc], run.trans run'⟩

/-- A part that neither logs nor touches the transmit fields. -/
theorem Runs.same {i : Input κ} {may : TxContext → Prop} {l l' : Link} (log : l'.log = l.log)
    (tx : l'.ctx.toTxContext = l.ctx.toTxContext) : Runs i may l l' := by
  refine ⟨[], by rw [log, List.append_nil], ?_⟩
  rw [tx]
  exact .done _

/-- Reception does nothing to the transmission. -/
theorem Receives.runs {i : Input κ} {may : TxContext → Prop} {l l' : Link}
    (receives : Receives l l') : Runs i may l l' := by
  obtain ⟨events, log, ofRx⟩ := receives.log
  refine ⟨events, log, ?_⟩
  rw [receives.tx]
  exact .of_foreign _ events fun e member => Or.inl (ofRx e member)

/-- What sending the next frame logs and sets. -/
theorem send_next_cf_sent (l : Link) (hal : Nat) :
    ∃ events, (sendNextCf l hal).log = l.log ++ events ∧
      CfSent l.ctx.toTxContext hal (sendNextCf l hal).ctx.toTxContext events := by
  by_cases all : l.ctx.txTotalSize ≤ l.ctx.txSent
  · rw [sendNextCf, if_pos all]
    exact ⟨_, rfl, .nothingLeft all⟩
  · have more : l.ctx.txSent < l.ctx.txTotalSize := Nat.not_le.mp all
    simp only [sendNextCf, if_neg all]
    rcases add_message_cases l (nextCf l.ctx.toTxContext) with refused | taken
    · rw [nextCf] at refused
      simp only [refused]
      refine ⟨_, ?_, .refused more⟩
      rw [emit_log, List.append_assoc]
      rfl
    · rw [nextCf] at taken
      simp only [taken]
      split
      · rename_i last
        refine ⟨_, ?_, .last more last⟩
        rw [emit_log, List.append_assoc]
        rfl
      · rename_i left
        split
        · rename_i ends
          exact ⟨_, rfl, .blockEnd more (Nat.not_le.mp left) ends⟩
        · rename_i within
          exact ⟨_, rfl, .sent more (Nat.not_le.mp left) within⟩

/-- The message goes out at once in a Single Frame. -/
def Queues (l : Link) (message : List UInt8) : Prop :=
  0 < message.length ∧ message.length ≤ isoTpSfMaxPayload ∧ l.faults.headD false = false

/-- A message that needs several frames and finds the transmitter idle is queued. -/
theorem send_response_queues (l : Link) (hal canId : Nat) (message : List UInt8)
    (queues : Queues l message) :
    isoTpSendResponse l hal canId message =
      { l with
        faults := l.faults.tail
        log := l.log ++ [.queued (singleFrame canId message)] } := by
  obtain ⟨filled, short, room⟩ := queues
  have fits : ¬ isoTpMaxMessageSize < message.length :=
    Nat.not_lt.mpr (Nat.le_trans short (by decide))
  rw [isoTpSendResponse, if_neg (Nat.ne_of_gt filled), if_neg fits, if_pos short, sendSingleFrame,
    addMessageToTxFifoQ, room]
  rfl

/-- The First Frame is lost, which ends the transmission, or queued. -/
theorem send_first_frame_cases (l : Link) (hal canId : Nat) (message : List UInt8)
    (long : isoTpSfMaxPayload < message.length) (fits : message.length ≤ isoTpMaxMessageSize) :
    let l' := sendFirstFrame l hal canId message
    (l'.log = l.log ++ [.lost (firstFrame canId message), .txAborted .firstFrameFailed] ∧
        l'.ctx.toTxContext = { l.ctx.toTxContext with txSent := 62, txState := .idle }) ∨
      (l'.log = l.log ++ [.queued (firstFrame canId message)] ∧
        l'.ctx.toTxContext = { l.ctx.toTxContext with txSent := 62, lastTxTick := hal }) := by
  have head := first_frame_room fits
  have payload : min message.length 62 = 62 := Nat.min_eq_right (Nat.le_of_lt long)
  simp only [sendFirstFrame, head, payload]
  rcases add_message_cases { l with ctx := { l.ctx with txSent := 62 } }
      (firstFrame canId message) with refused | taken
  · rw [firstFrame] at refused
    simp only [refused]
    refine Or.inl ⟨?_, rfl⟩
    rw [emit_log, List.append_assoc]
    rfl
  · rw [firstFrame] at taken
    simp only [taken]
    exact Or.inr ⟨rfl, trivial⟩

/-- Any other message is dropped, lost, refused, or starts a segmented transmission. -/
theorem send_response_op (i : Input κ) (l : Link) (message : List UInt8)
    (other : ¬ Queues l message) :
    let l' := isoTpSendResponse l i.hal canIdPhysicalResp message
    l' = l ∨ ∃ events, l'.log = l.log ++ events ∧
      TxOp i l.ctx.toTxContext l'.ctx.toTxContext events := by
  intro l'
  by_cases empty : message.length = 0
  · exact Or.inl (if_pos empty)
  · refine Or.inr ?_
    simp only [l']
    rw [isoTpSendResponse, if_neg empty]
    by_cases large : isoTpMaxMessageSize < message.length
    · rw [if_pos large]
      exact ⟨_, rfl, .rejected message⟩
    · rw [if_neg large]
      by_cases short : message.length ≤ isoTpSfMaxPayload
      · have refused : l.faults.headD false = true := by
          cases room : l.faults.headD false with
          | false => exact absurd ⟨Nat.pos_of_ne_zero empty, short, room⟩ other
          | true => rfl
        rw [if_pos short, sendSingleFrame, addMessageToTxFifoQ, if_pos refused]
        exact ⟨_, rfl, .lost message short⟩
      · rw [if_neg short]
        by_cases busy : l.ctx.txState = .idle
        · have long : isoTpSfMaxPayload < message.length := Nat.not_le.mp short
          have fits : message.length ≤ isoTpMaxMessageSize := Nat.not_lt.mp large
          rw [if_neg (not_not.mpr busy)]
          let begun : Link := Link.emit { l with ctx := { l.ctx with
            toTxContext := { beginTx l.ctx.toTxContext message with txSent := 0 } } }
            (.txStarted message)
          have grown : ∀ events, begun.log ++ events = l.log ++ .txStarted message :: events := by
            intro events
            simp [begun]
          change ∃ events, (sendFirstFrame begun i.hal canIdPhysicalResp message).log =
              l.log ++ events ∧
            TxOp i l.ctx.toTxContext
              (sendFirstFrame begun i.hal canIdPhysicalResp message).ctx.toTxContext events
          rcases send_first_frame_cases begun i.hal canIdPhysicalResp message long fits with
            ⟨log, tx⟩ | ⟨log, tx⟩
          · refine ⟨_, by rw [log, grown], ?_⟩
            rw [tx]
            exact .notStarted message busy long fits
          · refine ⟨_, by rw [log, grown], ?_⟩
            rw [tx]
            exact .started message busy long fits
        · rw [if_pos busy]
          exact ⟨_, rfl, .rejected message⟩

/-- Every message of a list that goes out in a Single Frame may do so. -/
def Allowed (may : TxContext → Prop) (hal : Nat) : Link → List (List UInt8) → Prop
  | _, [] => True
  | l, message :: rest =>
    (Queues l message → may l.ctx.toTxContext) ∧
      Allowed may hal (isoTpSendResponse l hal canIdPhysicalResp message) rest

/-- Messages sent behind others must be allowed in the state those leave. -/
theorem allowed_append (may : TxContext → Prop) (hal : Nat) (l : Link)
    (before after : List (List UInt8)) :
    Allowed may hal l (before ++ after) ↔
      Allowed may hal l before ∧ Allowed may hal (sendAll l hal before) after := by
  induction before generalizing l with
  | nil => simp [Allowed, sendAll]
  | cons message rest ih => simp [Allowed, sendAll, ih, and_assoc]

/-- Where everything may be sent, everything is allowed. -/
theorem allowed_always (hal : Nat) (l : Link) (messages : List (List UInt8)) :
    Allowed (fun _ => True) hal l messages := by
  induction messages generalizing l with
  | nil => trivial
  | cons message rest ih => exact ⟨fun _ => trivial, ih _⟩

/-- Sending a response is one operation of the transmission, or an event of others. -/
theorem send_response_runs (i : Input κ) (may : TxContext → Prop) (l : Link)
    (message : List UInt8) (allowed : Queues l message → may l.ctx.toTxContext) :
    Runs i may l (isoTpSendResponse l i.hal canIdPhysicalResp message) := by
  by_cases queues : Queues l message
  · rw [send_response_queues l i.hal canIdPhysicalResp message queues]
    exact ⟨_, rfl, .single _ _ message [] queues.2.1 (allowed queues) (.done _)⟩
  · rcases send_response_op i l message queues with same | ⟨events, log, op⟩
    · rw [same]
      exact Runs.same rfl rfl
    · exact ⟨events, log, .one op⟩

/-- Sending some messages is a run of such operations. -/
theorem send_all_runs (i : Input κ) (may : TxContext → Prop) (l : Link)
    (messages : List (List UInt8)) (allowed : Allowed may i.hal l messages) :
    Runs i may l (sendAll l i.hal messages) := by
  induction messages generalizing l with
  | nil => exact Runs.same rfl rfl
  | cons message rest ih =>
    exact (send_response_runs i may l message allowed.1).trans
      (ih (isoTpSendResponse l i.hal canIdPhysicalResp message) allowed.2)

/-- Flow control that is received is one operation of the transmission, or none. -/
theorem process_flow_control_runs (may : TxContext → Prop) (l : Link) (hal : Nat) (f : CanFrame) :
    Runs (κ := κ) (.frame hal f) may l (processFlowControl l hal f) := by
  by_cases waiting : l.ctx.txState = .waitFc
  · simp only [processFlowControl, if_neg (not_not.mpr waiting)]
    split
    · let resumed : Link := Link.emit { l with ctx := { l.ctx with
        toTxContext := resumeTx l.ctx.toTxContext hal f } } .flowContinue
      obtain ⟨events, log, sent⟩ := send_next_cf_sent resumed hal
      refine ⟨.flowContinue :: events, ?_, .one (.continued hal f _ events rfl waiting sent)⟩
      calc (sendNextCf resumed hal).log = resumed.log ++ events := log
        _ = l.log ++ .flowContinue :: events := by simp [resumed]
    · split
      · split
        · rename_i many
          exact ⟨_, rfl, .one (.tooManyWaits waiting many.2)⟩
        · exact ⟨_, rfl, .one (.waited hal f rfl waiting)⟩
      · exact ⟨_, rfl, .one (.overflow waiting)⟩
  · rw [processFlowControl, if_pos waiting]
    exact Runs.same rfl rfl

/-- A tick does one thing to the transmission: nothing, the flow control time-out,
or the next Consecutive Frame. -/
theorem tick_cases (l : Link) (now hal : Nat) :
    let l' := isoTpTick l now hal
    ∃ received, (∀ e ∈ received, e.OfRx) ∧
      ((l'.ctx.toTxContext = l.ctx.toTxContext ∧ l'.log = l.log ++ received) ∨
        (l.ctx.txState = .waitFc ∧ isoTpTxFcTimeoutMs ≤ elapsed now l.ctx.lastTxTick ∧
          l'.ctx.toTxContext = { l.ctx.toTxContext with txState := .idle } ∧
          l'.log = l.log ++ received ++ [.txAborted .flowTimeout]) ∨
        (l.ctx.txState = .sendCf ∧ l.ctx.txStmin.toNat ≤ elapsed now l.ctx.lastTxTick ∧
          ∃ events, CfSent l.ctx.toTxContext hal l'.ctx.toTxContext events ∧
            l'.log = l.log ++ received ++ events)) := by
  have receives := rx_timeout_receives l now
  have same := receives.tx
  obtain ⟨received, log, ofRx⟩ := receives.log
  have state : (rxTimeout l now).ctx.txState = l.ctx.txState := congrArg TxContext.txState same
  have stamp : (rxTimeout l now).ctx.lastTxTick = l.ctx.lastTxTick :=
    congrArg TxContext.lastTxTick same
  have stmin : (rxTimeout l now).ctx.txStmin = l.ctx.txStmin := congrArg TxContext.txStmin same
  refine ⟨received, ofRx, ?_⟩
  by_cases given_up : l.ctx.txState = .waitFc ∧ isoTpTxFcTimeoutMs ≤ elapsed now l.ctx.lastTxTick
  · refine Or.inr (Or.inl ⟨given_up.1, given_up.2, ?_⟩)
    rw [isoTpTick, txFcTimeout, state, stamp, if_pos given_up, cfPacing]
    have not_paced : ¬ ((TxState.idle = .sendCf) ∧ (rxTimeout l now).ctx.txStmin.toNat ≤
        elapsed now (rxTimeout l now).ctx.lastTxTick) := by simp
    rw [emit_ctx, if_neg not_paced, emit_log, log, emit_ctx]
    exact ⟨congrArg (fun c : TxContext => { c with txState := .idle }) same, rfl⟩
  · have waits : txFcTimeout (rxTimeout l now) now = rxTimeout l now := by
      rw [txFcTimeout, state, stamp, if_neg given_up]
    rw [isoTpTick, waits, cfPacing, state, stmin, stamp]
    by_cases due : l.ctx.txState = .sendCf ∧ l.ctx.txStmin.toNat ≤ elapsed now l.ctx.lastTxTick
    · obtain ⟨events, log', sent⟩ := send_next_cf_sent (rxTimeout l now) hal
      rw [same] at sent
      rw [if_pos due]
      exact Or.inr (Or.inr ⟨due.1, due.2, events, sent, by rw [log', log]⟩)
    · rw [if_neg due]
      exact Or.inl ⟨same, log⟩

/-- A tick is a run of operations of the transmission. -/
theorem tick_runs (may : TxContext → Prop) (l : Link) (now hal : Nat) :
    Runs (κ := κ) (.tick now hal) may l (isoTpTick l now hal) := by
  obtain ⟨received, ofRx, same | timedOut | paced⟩ := tick_cases l now hal
  · refine ⟨received, same.2, ?_⟩
    rw [same.1]
    exact .of_foreign _ received fun e member => Or.inl (ofRx e member)
  · obtain ⟨waiting, due, idle, log⟩ := timedOut
    refine ⟨received ++ _, by rw [log, List.append_assoc], ?_⟩
    rw [idle]
    exact (TxRun.of_foreign _ received fun e member => Or.inl (ofRx e member)).trans
      (.one (.timedOut now hal rfl waiting due))
  · obtain ⟨sending, due, events, sent, log⟩ := paced
    refine ⟨received ++ events, by rw [log, List.append_assoc], ?_⟩
    exact (TxRun.of_foreign _ received fun e member => Or.inl (ofRx e member)).trans
      (.one (.paced now hal _ events rfl sending due sent))

/-- The link at a dispatch, and the messages it hands to `ISO_TP_SendResponse`. -/
def dispatchSends (above : Upper σ κ) (w : World σ) (hal : Nat) : Link × List (List UInt8) :=
  let c := w.link.ctx
  let served := above.dispatch w.upper hal c.rxBuffer c.rxTotalSize c.rxAddrType
  (w.link.emit (.dispatched (c.rxBuffer.take c.rxTotalSize) c.rxAddrType),
    served.sent ++ [served.response])

/-- A dispatch sends its messages in order, all on the response identifier. -/
theorem dispatch_runs (above : Upper σ κ) (i : Input κ) (may : TxContext → Prop) (w : World σ)
    (answers : responseId w.link.ctx = canIdPhysicalResp)
    (allowed : Allowed may i.hal (dispatchSends above w i.hal).1 (dispatchSends above w i.hal).2) :
    Runs i may w.link (dispatchCompletedMessage above w i.hal).link := by
  obtain ⟨first, last⟩ := (allowed_append may i.hal (dispatchAsked w) _ _).mp allowed
  have dispatched : Runs i may w.link (dispatchAsked w) :=
    ⟨_, rfl, .of_foreign _ _ (by simp [Event.Foreign])⟩
  have told : Runs i may (dispatchAsked w) (dispatchTold above w i.hal) :=
    send_all_runs i may (dispatchAsked w) _ first
  have rested : Runs i may (dispatchTold above w i.hal) (dispatchRested above w i.hal) :=
    Runs.same rfl rfl
  have answered := send_response_runs i may (dispatchRested above w i.hal)
    (dispatchServed above w i.hal).response last.1
  rw [← answers, ← dispatch_rested_id above w i.hal, ← dispatch_completed_link] at answered
  exact ((dispatched.trans told).trans rested).trans answered

/-- The link and the messages of a call, at the point where it hands them to
`ISO_TP_SendResponse`. -/
def handed (above : Upper σ κ) (w : World σ) : Input κ → Link × List (List UInt8)
  | .frame hal f =>
    let w' := { w with link := receive (w.link.addressed (canAddrClassify f.canId)) hal f }
    if f.dlc ≠ 0 ∧ byte f.data 0 &&& 0xF0 ≠ isoTpPciFlowControl ∧
        canAddrClassify f.canId ≠ .ignore ∧ w'.link.ctx.rxState = .complete then
      dispatchSends above w' hal
    else (w.link, [])
  | .work hal k => (w.link, (above.work w.upper hal k).2)
  | .tick _ _ | .registerStreamSink _ => (w.link, [])

/-- With requests from the tester alone there is one response identifier. -/
theorem response_id_physical (c : Context)
    (sender : c.rxAddrType ≠ .functional → c.rxCanId = canIdPhysicalReq) :
    responseId c = canIdPhysicalResp := by
  by_cases functional : c.rxAddrType = .functional
  · exact if_pos functional
  · rw [responseId, if_neg functional, sender functional]
    rfl

/-- A request is complete with a frame from the address it is answered to. -/
theorem complete_response_id (l : Link) (hal : Nat) (f : CanFrame)
    (ready : Ready l.ctx.toRxContext) (mine : canAddrClassify f.canId ≠ .ignore)
    (complete : (receive (l.addressed (canAddrClassify f.canId)) hal f).ctx.rxState = .complete) :
    responseId (receive (l.addressed (canAddrClassify f.canId)) hal f).ctx = canIdPhysicalResp := by
  let l' := l.addressed (canAddrClassify f.canId)
  have physical : canAddrClassify f.canId ≠ .functional → f.canId = canIdPhysicalReq := by
    intro other
    apply (can_addr_physical_iff _).mp
    cases classified : canAddrClassify f.canId with
    | ignore => exact absurd classified mine
    | physical => rfl
    | functional => exact absurd classified other
  by_cases single : byte f.data 0 &&& 0xF0 = isoTpPciSingleFrame
  · rw [receive_single l' hal f single]
    apply response_id_physical
    intro other
    have addr : (receiveSingleFrame l' f).ctx.rxAddrType = canAddrClassify f.canId :=
      restart_rx_address l' .singleFrame
    rw [addr] at other
    exact physical other
  · by_cases first : byte f.data 0 &&& 0xF0 = isoTpPciFirstFrame
    · rw [receive_first l' hal f first] at complete
      rcases process_first_frame_cases l' hal f with
        ⟨_, kept⟩ | ⟨_, idle, _⟩ | ⟨_, _, _, _, begun, _⟩
      · rw [kept] at complete
        exact absurd complete ready.dispatched
      · rw [idle] at complete
        cases complete
      · rw [begun] at complete
        cases complete
    · by_cases consecutive : byte f.data 0 &&& 0xF0 = isoTpPciConsecutive
      · rw [receive_consecutive l' hal f consecutive] at complete ⊢
        rcases receive_consecutive_cases l' hal f with
          ⟨_, kept⟩ | ⟨_, _, dropped, _⟩ | ⟨waiting, _, continued, _⟩
        · rw [kept] at complete
          exact absurd complete ready.dispatched
        · rw [dropped] at complete
          cases complete
        · apply response_id_physical
          intro _
          rw [continued]
          exact (finish_rx_can_id _).trans (ready.sender waiting)
      · have unknown : receive l' hal f = l' := by
          simp only [receive, if_neg single, if_neg first, if_neg consecutive]
        rw [unknown] at complete
        exact absurd complete ready.dispatched

/-- Every call is a run of the transmit side. -/
theorem act_runs (above : Upper σ κ) (may : TxContext → Prop) (w : World σ) (i : Input κ)
    (ready : Ready w.link.ctx.toRxContext)
    (allowed : Allowed may i.hal (handed above w i).1 (handed above w i).2) :
    Runs i may w.link (act above w i).link := by
  cases i with
  | frame hal f =>
    change Runs _ may w.link (isoTpProcessFrame above w hal f).link
    by_cases sized : f.dlc = 0
    · rw [isoTpProcessFrame, if_pos sized]
      exact Runs.same rfl rfl
    · by_cases flow : byte f.data 0 &&& 0xF0 = isoTpPciFlowControl
      · rw [isoTpProcessFrame, if_neg sized, if_pos flow]
        exact process_flow_control_runs may w.link hal f
      · by_cases mine : canAddrClassify f.canId = .ignore
        · rw [isoTpProcessFrame, if_neg sized, if_neg flow, mine]
          exact Runs.same rfl rfl
        · rw [process_frame_spec above w hal f sized flow mine]
          let l := w.link.addressed (canAddrClassify f.canId)
          have addressed : Runs (.frame hal f : Input κ) may w.link l := Runs.same rfl rfl
          have received := addressed.trans (receive_receives l hal f).runs
          by_cases complete : (receive l hal f).ctx.rxState = .complete
          · rw [dispatchIfComplete, if_pos complete]
            simp only [handed] at allowed
            rw [if_pos ⟨sized, flow, mine, complete⟩] at allowed
            exact received.trans (dispatch_runs above (.frame hal f) may _
              (complete_response_id w.link hal f ready mine complete) allowed)
          · rw [dispatch_nothing above _ hal complete]
            exact received
  | work hal k => exact send_all_runs (.work hal k) may w.link _ allowed
  | tick now hal => exact tick_runs may w.link now hal
  | registerStreamSink sink => exact Runs.same rfl rfl

/-- What the transmit side does in one step, from its events. -/
theorem step_transmission (above : Upper σ κ) (may : TxContext → Prop) (w : World σ) (i : Input κ)
    (ready : Ready w.link.ctx.toRxContext)
    (allowed : Allowed may i.hal (handed above w.quiet i).1 (handed above w.quiet i).2) :
    TxRun i may w.link.ctx.toTxContext (step above w i).1.link.ctx.toTxContext
      (step above w i).2 := by
  obtain ⟨events, log, run⟩ := act_runs above may w.quiet i ready allowed
  have whole : (step above w i).2 = events := log
  rw [whole]
  exact run

end ObdSimulator.IsoTp
