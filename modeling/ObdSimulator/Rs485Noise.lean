import ObdSimulator.Rs485

/-!
# Noise on the RS485 link

The stream has no mark, so after noise or a restart any byte may be taken for an
identifier, a length or data. Whatever comes in, the buffer is not overrun, a queued
message is a run of received bytes within one restart, and the task transmits its payload
padded. The identifier is not masked, though: a message whose first byte is more than the
upper three bits of one goes out as a standard frame with an identifier above 0x7FF.
-/

namespace ObdSimulator.Rs485Noise

open Bytes Framing Run

/-- The queue between the interrupt and the task. -/
def rs485RxQueueLen : Nat := 8

/-- The receiver and `xRS485RxQueue`, as `RS485_Init` leaves them. -/
structure Node where
  receiver : Rs485Receiver := ⟨List.replicate rs485MaxDataLen 0, 0, List.length_replicate⟩
  queue : List Rs485RxMessage := []

/-- A byte or an error from the line, or the task's turn. -/
inductive Input where
  /-- A byte arrives. -/
  | byte (b : UInt8)
  /-- `HAL_UART_ErrorCallback` restarts the receiver. -/
  | error
  /-- One round of `vRS485Task`; the transmit FIFO takes a frame or refuses it. -/
  | task (accepted : Bool)
deriving DecidableEq, Repr

/-- What the line brought and what was sent on. -/
inductive Event where
  | received (b : UInt8)
  | restarted
  | queued (m : Rs485RxMessage)
  | dropped (m : Rs485RxMessage)
  | transmitted (m : Rs485RxMessage) (frame : TxFrame)
deriving DecidableEq

/-- `xQueueSendFromISR` of the messages of a callback; a full queue drops them. -/
def xQueueSendFromIsr (queue : List Rs485RxMessage) :
    List Rs485RxMessage → List Rs485RxMessage × List Event
  | [] => (queue, [])
  | m :: rest =>
    if queue.length < rs485RxQueueLen then
      let (queue, events) := xQueueSendFromIsr (queue ++ [m]) rest
      (queue, .queued m :: events)
    else
      let (queue, events) := xQueueSendFromIsr queue rest
      (queue, .dropped m :: events)

/-- `xQueueReceive` and what the task does with the message. -/
def receiveAndSend (queue : List Rs485RxMessage) (accepted : Bool) :
    List Rs485RxMessage × List Event :=
  match queue with
  | [] => ([], [])
  | m :: rest =>
    match vRs485Task m with
    | none => (rest, [])
    | some frame => (rest, if accepted then [.transmitted m frame] else [])

/-- One turn of the interrupt or of the task. -/
def step (s : Node) : Input → Node × List Event
  | .byte b =>
    let (receiver, messages) := halUartRxCpltCallback s.receiver b
    let (queue, events) := xQueueSendFromIsr s.queue messages
    ({ receiver, queue }, .received b :: events)
  | .error => ({ s with receiver := rs485RestartReceive s.receiver }, [.restarted])
  | .task accepted =>
    let (queue, events) := receiveAndSend s.queue accepted
    ({ s with queue }, events)

/-! ## The rule -/

/-- What came in on the line: bytes, and `none` where the receiver was restarted. -/
def line (past : List Event) : List (Option UInt8) :=
  past.filterMap fun
    | .received b => some (some b)
    | .restarted => some none
    | _ => none

/-- The payload bytes of a message. -/
def payload (m : Rs485RxMessage) : List UInt8 := m.data.drop 3

/-- A message is a run of received bytes without a restart in it, as long as its length
byte says. -/
structure CutFrom (received : List (Option UInt8)) (m : Rs485RxMessage) : Prop where
  run : m.data.map some <:+: received
  len : m.len = 3 + (byte m.data 2).toNat
  fits : m.len ≤ rs485MaxDataLen

/-- A transmitted frame has an identifier of a standard frame, and carries the payload
and its padding. -/
structure Valid (m : Rs485RxMessage) (frame : TxFrame) : Prop where
  identifier : frame.canId ≤ 0x7FF
  carries : frame.wire = payload m ++
    List.replicate (dlcBytes frame.dlcCode - (payload m).length) 0xCC

/-- The rule for one step: `s_rx_len` stays within the buffer, also before a complete
message is taken out of it, messages are cut from the line, and frames are valid. -/
structure Routes (past : List Event) (s : Node) (i : Input) : Prop where
  room : s.receiver.len ≤ rs485MaxDataLen ∧ ∀ b, i = .byte b →
    (s.receiver.store b).len ≤ rs485MaxDataLen
  queued : ∀ m, .queued m ∈ (step s i).2 → CutFrom (line (past ++ (step s i).2)) m
  transmitted : ∀ m frame, .transmitted m frame ∈ (step s i).2 →
    .queued m ∈ past ∧ Valid m frame

/-- The first byte of a message the task gets to transmit is at most the upper three bits
of an identifier. -/
def HighByte (_ : List Event) (s : Node) (i : Input) : Prop :=
  i = .task true → ∀ m, s.queue.head? = some m → byte m.data 0 ≤ 0x07

/-! ## What is cut from the line -/

/-- A message is as long as the length byte it was checked by. -/
theorem delivered_sized (s : Rs485Receiver) (m : Rs485RxMessage) (delivered : m ∈ s.deliver.2) :
    m.len = 3 + (byte m.data 2).toNat ∧ m.len ≤ rs485MaxDataLen := by
  unfold Rs485Receiver.deliver at delivered
  split at delivered
  · split at delivered
    · rename_i bounded
      split at delivered
      · rw [List.mem_singleton.mp delivered]
        have third : byte (s.buf.take (3 + (byte s.buf 2).toNat)) 2 = byte s.buf 2 :=
          byte_take s.buf _ 2 (Nat.lt_add_right _ (by decide))
        simp only [Rs485Receiver.message, third, true_and]
        exact Nat.add_le_add_left bounded 3
      · cases delivered
    · cases delivered
  · cases delivered

/-- The receiver collects the end of the line, and every waiting message has been cut
from it. -/
structure Follows (past : List Event) (s : Node) : Prop where
  collects : ∃ front, Collects s.receiver front ∧ front.map some <:+ line past
  waiting : ∀ m ∈ s.queue, .queued m ∈ past ∧ CutFrom (line past) m

/-- The line goes on. -/
@[simp] theorem line_append (before after : List Event) :
    line (before ++ after) = line before ++ line after := List.filterMap_append ..

/-- A message cut from the line is cut from a longer one. -/
theorem CutFrom.mono {received : List (Option UInt8)} {m : Rs485RxMessage}
    (cut : CutFrom received m) (more : List (Option UInt8)) : CutFrom (received ++ more) m :=
  ⟨cut.run.trans (List.prefix_append received more).isInfix, cut.len, cut.fits⟩

/-- Collected bytes are within the buffer, with room for one more. -/
theorem collects_room {s : Rs485Receiver} {front : List UInt8} (collects : Collects s front)
    (b : UInt8) : s.len ≤ rs485MaxDataLen ∧ (s.store b).len ≤ rs485MaxDataLen := by
  have limit : rs485MaxDataLen = 67 := rfl
  have len := collects.len
  have stored := (collects.store b).1
  rcases (rs485_progress_more front).mp collects.partly with short | ⟨bounded, short⟩
  · omega
  · omega

/-- The queue takes messages or drops them. -/
theorem send_cases (queue messages : List Rs485RxMessage) :
    (∀ m ∈ (xQueueSendFromIsr queue messages).1, m ∈ queue ∨
        .queued m ∈ (xQueueSendFromIsr queue messages).2) ∧
      ∀ e ∈ (xQueueSendFromIsr queue messages).2,
        ∃ m ∈ messages, e = .queued m ∨ e = .dropped m := by
  induction messages generalizing queue with
  | nil => exact ⟨fun m member => Or.inl member, by simp [xQueueSendFromIsr]⟩
  | cons m rest ih =>
    unfold xQueueSendFromIsr
    split
    · obtain ⟨held, events⟩ := ih (queue ++ [m])
      constructor
      · intro m' member
        rcases held m' member with early | late
        · rcases List.mem_append.mp early with before | same
          · exact Or.inl before
          · rw [List.mem_singleton.mp same]
            exact Or.inr List.mem_cons_self
        · exact Or.inr (List.mem_cons_of_mem _ late)
      · intro e member
        rcases List.mem_cons.mp member with same | later
        · exact ⟨m, List.mem_cons_self, Or.inl same⟩
        · obtain ⟨m', among, kind⟩ := events e later
          exact ⟨m', List.mem_cons_of_mem _ among, kind⟩
    · obtain ⟨held, events⟩ := ih queue
      constructor
      · intro m' member
        rcases held m' member with early | late
        · exact Or.inl early
        · exact Or.inr (List.mem_cons_of_mem _ late)
      · intro e member
        rcases List.mem_cons.mp member with same | later
        · exact ⟨m, List.mem_cons_self, Or.inr same⟩
        · obtain ⟨m', among, kind⟩ := events e later
          exact ⟨m', List.mem_cons_of_mem _ among, kind⟩

/-- A byte extends what is collected, and a message it completes is cut from the line. -/
theorem callback_cuts (past : List Event) (receiver : Rs485Receiver) (front : List UInt8)
    (b : UInt8) (collects : Collects receiver front) (ends : front.map some <:+ line past) :
    (∃ front', Collects (halUartRxCpltCallback receiver b).1 front' ∧
        front'.map some <:+ line past ++ [some b]) ∧
      ∀ m ∈ (halUartRxCpltCallback receiver b).2, CutFrom (line past ++ [some b]) m := by
  obtain ⟨messages, next⟩ := callback_simulates receiver front b collects
  obtain ⟨kept, cut⟩ := Framing.step_cases rs485Progress front b
  have extended : (front ++ [b]).map some <:+ line past ++ [some b] := by
    obtain ⟨before, whole⟩ := ends
    exact ⟨before, by rw [List.map_append, ← List.append_assoc, whole]; rfl⟩
  constructor
  · refine ⟨_, next, ?_⟩
    rcases kept with longer | nothing
    · rw [longer]
      exact extended
    · rw [nothing]
      exact List.nil_suffix
  · intro m delivered
    have data : m.data = front ++ [b] := by
      refine cut m.data ?_
      rw [← messages]
      exact List.mem_map_of_mem delivered
    obtain ⟨len, fits⟩ := delivered_sized _ m delivered
    exact ⟨by rw [data]; exact extended.isInfix, len, fits⟩

/-! ## What the task transmits -/

/-- The payload of a message is as long as its length byte says. -/
theorem payload_length {received : List (Option UInt8)} {m : Rs485RxMessage}
    (cut : CutFrom received m) : (payload m).length = (byte m.data 2).toNat := by
  rw [payload, List.length_drop, m.data_length, cut.len]
  omega

/-- The task transmits every message that was cut from the line, and its frame is valid
when the first byte is small. -/
theorem task_valid_iff {received : List (Option UInt8)} {m : Rs485RxMessage}
    (cut : CutFrom received m) :
    ∃ frame, vRs485Task m = some frame ∧ (Valid m frame ↔ byte m.data 0 ≤ 0x07) := by
  have len := cut.len
  have fits := cut.fits
  have limit : rs485MaxDataLen = 67 := rfl
  have bounded : (byte m.data 2).toNat ≤ 64 := by omega
  have length := payload_length cut
  have whole : (m.data.drop 3).take (byte m.data 2).toNat = payload m :=
    List.take_of_length_le (Nat.le_of_eq length)
  unfold vRs485Task
  rw [if_pos ⟨by omega, bounded, Nat.le_of_eq len.symm⟩]
  refine ⟨_, rfl, ?_⟩
  have room := le_dlc_bytes (byte m.data 2).toNat bounded
  have most := dlc_bytes_le (fdcanBytesToDlc (byte m.data 2).toNat)
  constructor
  · intro valid
    have identifier := valid.identifier
    rw [UInt8.le_iff_toNat_le]
    simp only at identifier
    have seven : (0x07 : UInt8).toNat = 7 := rfl
    omega
  · intro small
    rw [UInt8.le_iff_toNat_le] at small
    have seven : (0x07 : UInt8).toNat = 7 := rfl
    have low := (byte m.data 1).toNat_lt
    refine ⟨by simp only; omega, ?_⟩
    simp only [TxFrame.wire, whole]
    rw [List.take_append, length, List.take_of_length_le (by omega), List.take_replicate,
      Nat.min_eq_left (by omega)]

/-- A round of the task takes the oldest message and transmits it, or takes nothing. -/
theorem receive_cases (queue : List Rs485RxMessage) (accepted : Bool) :
    (∀ m ∈ (receiveAndSend queue accepted).1, m ∈ queue) ∧
      ∀ e ∈ (receiveAndSend queue accepted).2, ∃ m frame, e = .transmitted m frame ∧
        accepted = true ∧ queue.head? = some m ∧ vRs485Task m = some frame := by
  cases queue with
  | nil => exact ⟨fun m member => member, by simp [receiveAndSend]⟩
  | cons m rest =>
    simp only [receiveAndSend]
    cases sends : vRs485Task m with
    | none => exact ⟨fun m' member => List.mem_cons_of_mem m member, by simp⟩
    | some frame =>
      refine ⟨fun m' member => List.mem_cons_of_mem m member, fun e member => ?_⟩
      cases accepted with
      | false => cases member
      | true => exact ⟨m, frame, List.mem_singleton.mp member, rfl, rfl, sends⟩

/-! ## Runs -/

/-- Queueing messages brings nothing in from the line. -/
theorem sent_line (queue messages : List Rs485RxMessage) :
    line (xQueueSendFromIsr queue messages).2 = [] := by
  rw [line, List.filterMap_eq_nil_iff]
  intro e member
  obtain ⟨m, _, rfl | rfl⟩ := (send_cases queue messages).2 e member
  · rfl
  · rfl

/-- The task brings nothing in from the line. -/
theorem task_line (queue : List Rs485RxMessage) (accepted : Bool) :
    line (receiveAndSend queue accepted).2 = [] := by
  rw [line, List.filterMap_eq_nil_iff]
  intro e member
  obtain ⟨m, frame, rfl, _⟩ := (receive_cases queue accepted).2 e member
  rfl

/-- A received byte is what its step brings in from the line. -/
theorem byte_line (past : List Event) (s : Node) (b : UInt8) :
    line (past ++ (step s (.byte b)).2) = line past ++ [some b] := by
  rw [line_append]
  exact congrArg (line past ++ some b :: ·) (sent_line s.queue _)

/-- Only a byte queues a message, which its callback has completed. -/
theorem queued_cases (s : Node) (i : Input) (m : Rs485RxMessage)
    (queued : .queued m ∈ (step s i).2) :
    ∃ b, i = .byte b ∧ m ∈ (halUartRxCpltCallback s.receiver b).2 := by
  cases i with
  | byte b =>
    rcases List.mem_cons.mp queued with other | sent
    · cases other
    · obtain ⟨m', among, same | other⟩ := (send_cases s.queue _).2 _ sent
      · cases same
        exact ⟨b, rfl, among⟩
      · cases other
  | error => simp [step] at queued
  | task accepted =>
    obtain ⟨m', frame, other, _⟩ := (receive_cases s.queue accepted).2 _ queued
    cases other

/-- Only a round of the task transmits, and it transmits the oldest message. -/
theorem transmitted_cases (s : Node) (i : Input) (m : Rs485RxMessage) (frame : TxFrame)
    (sent : .transmitted m frame ∈ (step s i).2) :
    i = .task true ∧ s.queue.head? = some m ∧ vRs485Task m = some frame := by
  cases i with
  | byte b =>
    rcases List.mem_cons.mp sent with other | among
    · cases other
    · obtain ⟨m', _, other | other⟩ := (send_cases s.queue _).2 _ among
      · cases other
      · cases other
  | error => simp [step] at sent
  | task accepted =>
    obtain ⟨m', frame', same, rfl, head, sends⟩ := (receive_cases s.queue accepted).2 _ sent
    cases same
    exact ⟨rfl, head, sends⟩

/-- Every step sends on only what was cut from the line. -/
theorem follows_step (past : List Event) (s : Node) (i : Input) (follows : Follows past s) :
    Follows (past ++ (step s i).2) (step s i).1 := by
  obtain ⟨front, collects, ends⟩ := follows.collects
  cases i with
  | byte b =>
    obtain ⟨next, cut⟩ := callback_cuts past s.receiver front b collects ends
    refine ⟨by rw [byte_line]; exact next, fun m member => ?_⟩
    rw [byte_line]
    rcases (send_cases s.queue _).1 m member with before | here
    · obtain ⟨queued, from_line⟩ := follows.waiting m before
      exact ⟨List.mem_append_left _ queued, from_line.mono [some b]⟩
    · have queued : .queued m ∈ (step s (.byte b)).2 := List.mem_cons_of_mem _ here
      obtain ⟨b', same, among⟩ := queued_cases s (.byte b) m queued
      cases same
      exact ⟨List.mem_append_right _ queued, cut m among⟩
  | error =>
    refine ⟨⟨[], collects_nothing _ rfl, List.nil_suffix⟩, fun m member => ?_⟩
    obtain ⟨queued, from_line⟩ := follows.waiting m member
    rw [line_append]
    exact ⟨List.mem_append_left _ queued, from_line.mono _⟩
  | task accepted =>
    have grown : line (past ++ (step s (.task accepted)).2) = line past := by
      rw [line_append]
      exact (congrArg (line past ++ ·) (task_line s.queue accepted)).trans (List.append_nil _)
    refine ⟨by rw [grown]; exact ⟨front, collects, ends⟩, fun m member => ?_⟩
    rw [grown]
    obtain ⟨queued, from_line⟩ :=
      follows.waiting m ((receive_cases s.queue accepted).1 m member)
    exact ⟨List.mem_append_left _ queued, from_line⟩

/-- On each step the rule holds when the task's message begins as an identifier does. -/
theorem routes_iff (past : List Event) (s : Node) (i : Input) (follows : Follows past s) :
    Routes past s i ↔ HighByte past s i := by
  obtain ⟨front, collects, ends⟩ := follows.collects
  constructor
  · rintro routes rfl m head
    cases queue : s.queue with
    | nil =>
      rw [queue] at head
      cases head
    | cons m' rest =>
      rw [queue] at head
      cases head
      obtain ⟨_, cut⟩ := follows.waiting m (by rw [queue]; exact List.mem_cons_self)
      obtain ⟨frame, sends, valid_iff⟩ := task_valid_iff cut
      refine valid_iff.mp (routes.transmitted m frame ?_).2
      simp [step, receiveAndSend, queue, sends]
  · intro high
    refine ⟨⟨(collects_room collects 0).1, fun b _ => (collects_room collects b).2⟩, ?_, ?_⟩
    · intro m queued
      obtain ⟨b, rfl, among⟩ := queued_cases s i m queued
      rw [byte_line]
      exact (callback_cuts past s.receiver front b collects ends).2 m among
    · intro m frame sent
      obtain ⟨rfl, head, sends⟩ := transmitted_cases s i m frame sent
      obtain ⟨queued, cut⟩ := follows.waiting m (List.mem_of_mem_head? head)
      obtain ⟨frame', sends', valid_iff⟩ := task_valid_iff cut
      rw [sends] at sends'
      cases sends'
      exact ⟨queued, valid_iff.mpr (high rfl m head)⟩

/-- Whatever comes in on the link, only valid frames are routed in exactly the runs in
which every message the task gets to transmit begins with a byte of at most 0x07. -/
theorem routes_valid_iff (inputs : List Input) :
    Along step Routes [] {} inputs ↔ Along step HighByte [] {} inputs :=
  along_iff_of_invariant step Routes HighByte Follows
    (fun past s i follows _ => follows_step past s i follows) routes_iff [] {} inputs
    ⟨⟨[], collects_nothing _ rfl, List.nil_suffix⟩, by simp⟩

/-- Three bytes of noise are a standard frame with the identifier 0xFFFF. -/
theorem noise_is_routed :
    ¬ Along step Routes [] {} [.byte 0xFF, .byte 0xFF, .byte 0x00, .task true] := by
  intro routed
  have last : Routes _ _ (.task true) := routed.2.2.2.1
  have sent := last.transmitted ⟨[0xFF, 0xFF, 0x00], 3, rfl⟩
    ⟨0xFFFF, 0, List.replicate 64 0xCC⟩ (by decide +kernel)
  exact absurd sent.2.identifier (by decide)

end ObdSimulator.Rs485Noise
