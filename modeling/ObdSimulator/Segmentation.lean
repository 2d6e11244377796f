import ObdSimulator.IsoTp
import ObdSimulator.Lib.Chunks

/-!
# Segmentation and reassembly

A message is cut into a Single Frame, or into a First Frame and Consecutive
Frames numbered from 1. The transport sends these frames in this order and stops
early only by an abort, whatever flow control, ticks and refused messages come
in between; a receiver given a part of them dispatches the message when the part
is all of them, and nothing otherwise. The two halves meet in the list of frames
of a message, which neither of them mentions.
-/

namespace ObdSimulator.IsoTp

open Bytes Chunks

universe u v u' v'

variable {σ : Type u} {κ : Type v} {σ' : Type u'} {κ' : Type v'}

/-! ## The frames of a message -/

/-- The frame of a short message. -/
def singleFrame (canId : Nat) (message : List UInt8) : TxFrame :=
  ⟨canId, fdcanBytesToDlc (singleFrameBytes message).length, padFrame (singleFrameBytes message)⟩

/-- The First Frame of a long message. -/
def firstFrame (canId : Nat) (message : List UInt8) : TxFrame :=
  ⟨canId, 0xF, padFrame (firstFrameHead message.length ++ message.take 62)⟩

/-- No message the transport accepts takes the escape form of the First Frame. -/
theorem first_frame_room {totalLen : Nat} (fits : totalLen ≤ isoTpMaxMessageSize) :
    isoTpFrameSize - (firstFrameHead totalLen).length = 62 := by
  have classic : totalLen ≤ isoTpFfEscapeThreshold :=
    Nat.le_trans fits (by decide : isoTpMaxMessageSize ≤ isoTpFfEscapeThreshold)
  rw [firstFrameHead, if_pos classic]
  rfl

/-- The Consecutive Frame of a given position, counted from the First Frame. -/
def consecutiveFrame (canId position : Nat) (part : List UInt8) : TxFrame :=
  ⟨canId, fdcanBytesToDlc (part.length + 1),
    padFrame ((isoTpPciConsecutive ||| UInt8.ofNat (position % 16)) :: part)⟩

/-- One Consecutive Frame for each part, numbered from a position on. -/
def numbered (canId : Nat) : Nat → List (List UInt8) → List TxFrame
  | _, [] => []
  | position, part :: rest =>
    consecutiveFrame canId position part :: numbered canId (position + 1) rest

/-- The rest of a message, 63 bytes a frame. -/
def consecutiveFrames (canId position : Nat) (rest : List UInt8) : List TxFrame :=
  numbered canId position (chunks 62 rest)

/-- All frames of a message. -/
def segments (canId : Nat) (message : List UInt8) : List TxFrame :=
  if message.length ≤ isoTpSfMaxPayload then [singleFrame canId message]
  else firstFrame canId message :: consecutiveFrames canId 1 (message.drop 62)

/-- Nothing is left to send. -/
theorem consecutive_frames_nil (canId position : Nat) :
    consecutiveFrames canId position [] = [] := by
  rw [consecutiveFrames, chunks_nil, numbered]

/-- The next Consecutive Frame, then those behind it. -/
theorem consecutive_frames_cons (canId position : Nat) (rest : List UInt8) (filled : rest ≠ []) :
    consecutiveFrames canId position rest =
      consecutiveFrame canId position (rest.take 63) ::
        consecutiveFrames canId (position + 1) (rest.drop 63) := by
  rw [consecutiveFrames, chunks_cons 62 rest filled, numbered, ← consecutiveFrames]

/-- The `i`-th frame carries the `i`-th part under its number. -/
theorem numbered_get (canId position : Nat) (parts : List (List UInt8)) (i : Nat) :
    (numbered canId position parts)[i]? =
      (parts[i]?).map (consecutiveFrame canId (position + i)) := by
  induction parts generalizing position i with
  | nil => simp [numbered]
  | cons part rest ih =>
    cases i with
    | zero => simp [numbered]
    | succ i =>
      rw [numbered, List.getElem?_cons_succ, List.getElem?_cons_succ, ih (position + 1) i]
      congr 2
      omega

/-- The Consecutive Frames carry the parts behind the First Frame in order, and
are numbered from 1. -/
theorem segments_consecutive (canId : Nat) (message : List UInt8) (i : Nat) (frame : TxFrame)
    (found : (segments canId message)[i + 1]? = some frame) :
    ∃ part, (chunks 62 (message.drop 62))[i]? = some part ∧
      frame = consecutiveFrame canId (i + 1) part := by
  unfold segments at found
  split at found
  · simp at found
  · rw [List.getElem?_cons_succ, consecutiveFrames, numbered_get, Option.map_eq_some_iff] at found
    obtain ⟨part, here, equal⟩ := found
    exact ⟨part, here, by rw [← equal, Nat.add_comm]⟩

/-- The counter of the source runs through the positions modulo 16. -/
theorem next_sequence (position : Nat) :
    (UInt8.ofNat (position % 16) + 1) &&& 0x0F = UInt8.ofNat ((position + 1) % 16) := by
  have table : ∀ r < 16, (UInt8.ofNat r + 1) &&& 0x0F = UInt8.ofNat ((r + 1) % 16) := by decide
  rw [table (position % 16) (Nat.mod_lt _ (by decide)), Nat.mod_add_mod]

/-- The sequence number fits the low half of the byte. -/
theorem sequence_low (position : Nat) :
    UInt8.ofNat (position % 16) &&& 0x0F = UInt8.ofNat (position % 16) := by
  have table : ∀ r < 16, UInt8.ofNat r &&& 0x0F = UInt8.ofNat r := by decide
  exact table (position % 16) (Nat.mod_lt _ (by decide))

/-! ## The sender -/

/-- The frames that entered the queue, in order. -/
def queuedFrames (events : List Event) : List TxFrame :=
  events.filterMap fun
    | .queued frame => some frame
    | _ => none

/-- The queued frames, one part of a log behind the other. -/
@[simp] theorem queued_frames_append (before after : List Event) :
    queuedFrames (before ++ after) = queuedFrames before ++ queuedFrames after := by
  simp [queuedFrames]

/-- The next Consecutive Frame of a transmission. -/
def nextCf (c : TxContext) : TxFrame :=
  ⟨c.txCanId, fdcanBytesToDlc (min isoTpCfPayloadSize (c.txTotalSize - c.txSent) + 1),
    padFrame (nextCfBytes c)⟩

/-- The fields a queued Consecutive Frame sets. -/
def advanceTx (c : TxContext) (hal : Nat) : TxContext :=
  { c with
    txSent := c.txSent + min isoTpCfPayloadSize (c.txTotalSize - c.txSent)
    txSeq := (c.txSeq + 1) &&& 0x0F
    lastTxTick := hal
    txBlockCounter := c.txBlockCounter + 1 }

/-- Some of the message is not sent yet: the frames sent and the frames of what is
left are together the frames of the message. -/
structure Sent (canId : Nat) (message : List UInt8) (frames : List TxFrame) (c : TxContext) :
    Prop where
  buffer : c.txBuffer.take message.length = message
  total : c.txTotalSize = message.length
  identifier : c.txCanId = canId
  left : c.txSent < message.length
  rest : ∃ position, c.txSeq = UInt8.ofNat (position % 16) ∧
    frames ++ consecutiveFrames canId position (message.drop c.txSent) = segments canId message

/-- The part of the buffer a Consecutive Frame takes. -/
theorem next_part (buffer message : List UInt8) (sent : Nat)
    (stored : buffer.take message.length = message) :
    (buffer.drop sent).take (min 63 (message.length - sent)) = (message.drop sent).take 63 := by
  rw [← List.take_take, ← List.drop_take, stored]

/-- Every part but the last is full. -/
theorem part_length (message : List UInt8) (sent : Nat) :
    ((message.drop sent).take 63).length = min 63 (message.length - sent) := by
  rw [List.length_take, List.length_drop]

/-- The next Consecutive Frame is the next frame of the message; it is the last,
or some of the message is still left. -/
theorem Sent.next {canId : Nat} {message : List UInt8} {frames : List TxFrame} {c : TxContext}
    (sent : Sent canId message frames c) (hal : Nat) :
    (message.length ≤ (advanceTx c hal).txSent ∧
        frames ++ [nextCf c] = segments canId message) ∨
      ((advanceTx c hal).txSent < message.length ∧
        Sent canId message (frames ++ [nextCf c]) (advanceTx c hal)) := by
  obtain ⟨position, sequence, whole⟩ := sent.rest
  have left := sent.left
  have filled : message.drop c.txSent ≠ [] := by
    rw [ne_eq, List.drop_eq_nil_iff]
    exact Nat.not_le.mpr left
  have moved : (advanceTx c hal).txSent = c.txSent + min 63 (message.length - c.txSent) := by
    rw [← sent.total]
    rfl
  have frame : nextCf c = consecutiveFrame canId position ((message.drop c.txSent).take 63) := by
    have size : min isoTpCfPayloadSize (c.txTotalSize - c.txSent) =
        min 63 (message.length - c.txSent) := by
      rw [sent.total]
      rfl
    rw [nextCf, nextCfBytes, size, next_part c.txBuffer message c.txSent sent.buffer,
      consecutiveFrame, part_length, sent.identifier, sequence, sequence_low]
  have rest : message.drop (advanceTx c hal).txSent = (message.drop c.txSent).drop 63 := by
    rw [moved, List.drop_drop]
    rcases Nat.le_total 63 (message.length - c.txSent) with long | short
    · rw [Nat.min_eq_left long]
    · rw [Nat.min_eq_right short, List.drop_of_length_le (by omega),
        List.drop_of_length_le (by omega)]
  have following : frames ++ [nextCf c] ++
      consecutiveFrames canId (position + 1) (message.drop (advanceTx c hal).txSent) =
        segments canId message := by
    rw [rest, ← whole, consecutive_frames_cons canId position _ filled, frame, List.append_assoc]
    rfl
  rcases Nat.lt_or_ge (advanceTx c hal).txSent message.length with more | finished
  · refine Or.inr ⟨more, sent.buffer, sent.total, sent.identifier, more, position + 1, ?_,
      following⟩
    change (c.txSeq + 1) &&& 0x0F = _
    rw [sequence, next_sequence]
  · refine Or.inl ⟨finished, ?_⟩
    rw [List.drop_of_length_le finished, consecutive_frames_nil, List.append_nil] at following
    exact following

/-- The pacing fields play no part in what is sent. -/
theorem Sent.same {canId : Nat} {message : List UInt8} {frames : List TxFrame} {c : TxContext}
    (sent : Sent canId message frames c) (c' : TxContext) (buffer : c'.txBuffer = c.txBuffer)
    (total : c'.txTotalSize = c.txTotalSize) (identifier : c'.txCanId = c.txCanId)
    (position : c'.txSent = c.txSent) (seq : c'.txSeq = c.txSeq) :
    Sent canId message frames c' where
  buffer := by rw [buffer, sent.buffer]
  total := by rw [total, sent.total]
  identifier := by rw [identifier, sent.identifier]
  left := by rw [position]; exact sent.left
  rest := by
    rw [position, seq]
    exact sent.rest

/-- The transmission of a message is under way. -/
structure Underway (canId : Nat) (message : List UInt8) (history : List Event) (c : TxContext)
    (faults : List Bool) : Prop where
  state : c.txState ≠ .idle
  queue : faults = []
  sent : Sent canId message (queuedFrames history) c
  running : ∀ reason, .txAborted reason ∉ history

/-- The transmission is over after all frames. -/
structure Completed (canId : Nat) (message : List UInt8) (history : List Event) (c : TxContext) :
    Prop where
  state : c.txState = .idle
  frames : queuedFrames history = segments canId message
  running : ∀ reason, .txAborted reason ∉ history

/-- The transmission is over before its last frame. -/
structure Aborted (canId : Nat) (message : List UInt8) (history : List Event) (c : TxContext) :
    Prop where
  state : c.txState = .idle
  frames : ∃ frame rest, queuedFrames history ++ frame :: rest = segments canId message
  reason : ∃ reason, .txAborted reason ∈ history

/-- The three stages of a transmission. -/
def Progress (canId : Nat) (message : List UInt8) (history : List Event) (c : TxContext)
    (faults : List Bool) : Prop :=
  Underway canId message history c faults ∨ Completed canId message history c ∨
    Aborted canId message history c

/-- Progress of a link over an earlier history. -/
def Progresses (canId : Nat) (message : List UInt8) (past : List Event) (l : Link) : Prop :=
  Progress canId message (past ++ l.log) l.ctx.toTxContext l.faults

/-- Without refusals the frame is queued. -/
theorem add_message_queued (l : Link) (frame : TxFrame) (queue : l.faults = []) :
    addMessageToTxFifoQ l frame = ({ l with log := l.log ++ [.queued frame] }, true) := by
  simp [addMessageToTxFifoQ, queue]

/-- The next frame of a transmission under way is the next frame of the message. -/
theorem send_next_cf_progresses (canId : Nat) (message : List UInt8) (past : List Event) (l : Link)
    (hal : Nat)
    (under : Underway canId message (past ++ l.log) l.ctx.toTxContext l.faults) :
    Progresses canId message past (sendNextCf l hal) := by
  let c := l.ctx.toTxContext
  have total : c.txTotalSize = message.length := under.sent.total
  have unfinished : ¬ l.ctx.txTotalSize ≤ l.ctx.txSent := by
    rw [show l.ctx.txTotalSize = message.length from total]
    exact Nat.not_le.mpr under.sent.left
  have queued : addMessageToTxFifoQ l (nextCf c) =
      ({ l with log := l.log ++ [.queued (nextCf c)] }, true) :=
    add_message_queued l _ under.queue
  have frames : queuedFrames (past ++ (l.log ++ [.queued (nextCf c)])) =
      queuedFrames (past ++ l.log) ++ [nextCf c] := by
    rw [← List.append_assoc, queued_frames_append]
    rfl
  have running : ∀ reason, .txAborted reason ∉ past ++ (l.log ++ [.queued (nextCf c)]) := by
    simpa using under.running
  rw [nextCf] at queued
  unfold sendNextCf
  simp only [if_neg unfinished, c] at queued ⊢
  rw [queued]
  rcases under.sent.next hal with ⟨finished, whole⟩ | ⟨more, next⟩
  · rw [← total] at finished
    have last : l.ctx.txTotalSize ≤
        l.ctx.txSent + min isoTpCfPayloadSize (l.ctx.txTotalSize - l.ctx.txSent) := finished
    have ended : queuedFrames (past ++ (l.log ++ [.queued (nextCf c)] ++ [.txComplete])) =
        segments canId message := by
      rw [← List.append_assoc, queued_frames_append, frames, whole]
      exact List.append_nil _
    have unbroken : ∀ reason,
        .txAborted reason ∉ past ++ (l.log ++ [.queued (nextCf c)] ++ [.txComplete]) := by
      simpa using running
    simp only [if_pos last]
    exact Or.inr (Or.inl ⟨rfl, ended, unbroken⟩)
  · rw [← total] at more
    have going : ¬ l.ctx.txTotalSize ≤
        l.ctx.txSent + min isoTpCfPayloadSize (l.ctx.txTotalSize - l.ctx.txSent) :=
      Nat.not_le.mpr more
    rw [← frames] at next
    simp only [if_neg going]
    -- the transmission goes on, whichever state it waits in
    split
    · exact Or.inl ⟨by simp, under.queue, next.same _ rfl rfl rfl rfl rfl, running⟩
    · exact Or.inl ⟨under.state, under.queue, next, running⟩

/-- An event that neither queues a frame nor ends a transmission. -/
def Event.Neutral : Event → Prop
  | .queued _ | .txComplete | .txAborted _ => False
  | _ => True

/-- Neutral events queue nothing. -/
theorem neutral_queues_nothing (events : List Event) (neutral : ∀ e ∈ events, e.Neutral) :
    queuedFrames events = [] := by
  rw [queuedFrames, List.filterMap_eq_nil_iff]
  intro e member
  have here := neutral e member
  cases e <;> first | rfl | exact here.elim

/-- Neutral events and changes of the pacing fields leave a transmission under way. -/
theorem Underway.keep {canId : Nat} {message : List UInt8} {history : List Event} {c : TxContext}
    {faults : List Bool} (under : Underway canId message history c faults) (c' : TxContext)
    (events : List Event) (neutral : ∀ e ∈ events, e.Neutral) (state : c'.txState ≠ .idle)
    (buffer : c'.txBuffer = c.txBuffer) (total : c'.txTotalSize = c.txTotalSize)
    (identifier : c'.txCanId = c.txCanId) (sent : c'.txSent = c.txSent) (seq : c'.txSeq = c.txSeq) :
    Underway canId message (history ++ events) c' faults where
  state := state
  queue := under.queue
  sent := by
    rw [queued_frames_append, neutral_queues_nothing events neutral, List.append_nil]
    exact under.sent.same c' buffer total identifier sent seq
  running := by
    intro reason member
    rcases List.mem_append.mp member with early | late
    · exact under.running reason early
    · exact neutral _ late

/-- A transmission under way that is given up misses at least one frame. -/
theorem Underway.abort {canId : Nat} {message : List UInt8} {history : List Event}
    {c : TxContext} {faults : List Bool} (under : Underway canId message history c faults)
    (c' : TxContext) (reason : Abort) (state : c'.txState = .idle) :
    Aborted canId message (history ++ [.txAborted reason]) c' where
  state := state
  frames := by
    obtain ⟨position, _, whole⟩ := under.sent.rest
    have filled : message.drop c.txSent ≠ [] := by
      rw [ne_eq, List.drop_eq_nil_iff]
      exact Nat.not_le.mpr under.sent.left
    rw [consecutive_frames_cons canId position _ filled] at whole
    exact ⟨_, _, by simpa [queuedFrames] using whole⟩
  reason := ⟨reason, List.mem_append_right _ List.mem_cons_self⟩

/-- A transmission that is over does not look at anything any more. -/
theorem Progress.under_or_idle {canId : Nat} {message : List UInt8} {history : List Event}
    {c : TxContext} {faults : List Bool} (progress : Progress canId message history c faults) :
    Underway canId message history c faults ∨ c.txState = .idle := by
  rcases progress with under | completed | aborted
  · exact Or.inl under
  · exact Or.inr completed.state
  · exact Or.inr aborted.state

/-- Flow control of any kind keeps what was queued a beginning of the message's frames. -/
theorem process_flow_control_progresses (canId : Nat) (message : List UInt8) (past : List Event)
    (l : Link) (hal : Nat) (f : CanFrame) (progress : Progresses canId message past l) :
    Progresses canId message past (processFlowControl l hal f) := by
  unfold processFlowControl
  simp only
  split
  · exact progress
  · rename_i waiting
    have waits : l.ctx.txState = .waitFc := not_not.mp waiting
    rcases progress.under_or_idle with under | idle
    · split
      · apply send_next_cf_progresses
        have kept := under.keep { l.ctx.toTxContext with
            txStmin := if byte f.data 2 < 0x80 then byte f.data 2 else 0
            txBlockSize := byte f.data 1
            txBlockCounter := 0
            lastTxTick := hal
            txState := .sendCf }
          [.flowContinue] (by simp [Event.Neutral]) (by simp) rfl rfl rfl rfl rfl
        rw [List.append_assoc] at kept
        exact kept
      · split
        · split
          · have aborted := under.abort { l.ctx.toTxContext with
              txWaitFrameCount := l.ctx.txWaitFrameCount + 1, txState := .idle } .tooManyWaits rfl
            rw [List.append_assoc] at aborted
            exact Or.inr (Or.inr aborted)
          · have kept := under.keep { l.ctx.toTxContext with
                txWaitFrameCount := l.ctx.txWaitFrameCount + 1, lastTxTick := hal }
              [.flowWait] (by simp [Event.Neutral]) under.state rfl rfl rfl rfl rfl
            rw [List.append_assoc] at kept
            exact Or.inl kept
        · have aborted := under.abort { l.ctx.toTxContext with txState := .idle } .overflow rfl
          rw [List.append_assoc] at aborted
          exact Or.inr (Or.inr aborted)
    · rw [idle] at waits
      cases waits

/-- Neutral events leave the stage as it is. -/
theorem Progress.keep {canId : Nat} {message : List UInt8} {history : List Event} {c : TxContext}
    {faults : List Bool} (progress : Progress canId message history c faults)
    (events : List Event) (neutral : ∀ e ∈ events, e.Neutral) :
    Progress canId message (history ++ events) c faults := by
  have silent := neutral_queues_nothing events neutral
  rcases progress with under | completed | aborted
  · exact Or.inl (under.keep c events neutral under.state rfl rfl rfl rfl rfl)
  · refine Or.inr (Or.inl ⟨completed.state, ?_, ?_⟩)
    · rw [queued_frames_append, silent, List.append_nil, completed.frames]
    · intro reason member
      rcases List.mem_append.mp member with early | late
      · exact completed.running reason early
      · exact neutral _ late
  · refine Or.inr (Or.inr ⟨aborted.state, ?_, ?_⟩)
    · rw [queued_frames_append, silent, List.append_nil]
      exact aborted.frames
    · obtain ⟨reason, member⟩ := aborted.reason
      exact ⟨reason, List.mem_append_left _ member⟩

/-- Giving up a reception keeps what was queued a beginning of the message's frames. -/
theorem rx_timeout_progresses (canId : Nat) (message : List UInt8) (past : List Event) (l : Link)
    (now : Nat) (progress : Progresses canId message past l) :
    Progresses canId message past (rxTimeout l now) := by
  have same := rx_timeout_receives l now
  have faults : (rxTimeout l now).faults = l.faults := by
    unfold rxTimeout abortStreamRx
    split
    · split <;> rfl
    · rfl
  have neutral : Logs Event.Neutral l (rxTimeout l now) := by
    unfold rxTimeout
    split
    · exact (abort_stream_rx_logs l (fun _ => trivial)).trans
        (Logs.one _ (.rxDropped .timeout) rfl trivial)
    · exact Logs.same _ rfl
  obtain ⟨events, log, silent⟩ := neutral
  have kept := Progress.keep progress events silent
  rw [Progresses, log, same.tx, faults, ← List.append_assoc]
  exact kept

/-- Giving up the transmission keeps what was queued a beginning of the message's frames. -/
theorem tx_fc_timeout_progresses (canId : Nat) (message : List UInt8) (past : List Event) (l : Link)
    (now : Nat) (progress : Progresses canId message past l) :
    Progresses canId message past (txFcTimeout l now) := by
  unfold txFcTimeout
  split
  · rename_i waited
    rcases progress.under_or_idle with under | idle
    · have aborted := under.abort { l.ctx.toTxContext with txState := .idle } .flowTimeout rfl
      rw [List.append_assoc] at aborted
      exact Or.inr (Or.inr aborted)
    · have waits := waited.1
      rw [idle] at waits
      cases waits
  · exact progress

/-- The next paced frame is the next of the message's frames. -/
theorem cf_pacing_progresses (canId : Nat) (message : List UInt8) (past : List Event) (l : Link)
    (now hal : Nat) (progress : Progresses canId message past l) :
    Progresses canId message past (cfPacing l now hal) := by
  unfold cfPacing
  split
  · rename_i due
    rcases progress.under_or_idle with under | idle
    · exact send_next_cf_progresses canId message past l hal under
    · have sending := due.1
      rw [idle] at sending
      cases sending
  · exact progress

/-- A tick keeps what was queued a beginning of the message's frames. -/
theorem tick_progresses (canId : Nat) (message : List UInt8) (past : List Event) (l : Link)
    (now hal : Nat) (progress : Progresses canId message past l) :
    Progresses canId message past (isoTpTick l now hal) :=
  cf_pacing_progresses canId message past _ now hal
    (tx_fc_timeout_progresses canId message past _ now
      (rx_timeout_progresses canId message past l now progress))

/-- A segmented message is refused while a transmission is under way. -/
theorem busy_rejects (l : Link) (hal canId : Nat) (data : List UInt8)
    (busy : l.ctx.txState ≠ .idle) (long : isoTpSfMaxPayload < data.length) :
    isoTpSendResponse l hal canId data = l.emit (.rejected data) := by
  have filled : data.length ≠ 0 := Nat.ne_of_gt (Nat.lt_of_le_of_lt (Nat.zero_le _) long)
  rw [isoTpSendResponse, if_neg filled, if_neg (Nat.not_le.mpr long), if_pos busy, ite_self]

/-- A busy transmitter rejects other long messages, which queue nothing. -/
theorem busy_rejects_all (canId : Nat) (message : List UInt8) (past : List Event) (l : Link)
    (hal : Nat) (messages : List (List UInt8)) (busy : l.ctx.txState ≠ .idle)
    (long : ∀ data ∈ messages, isoTpSfMaxPayload < data.length)
    (progress : Progresses canId message past l) :
    Progresses canId message past (sendAll l hal messages) := by
  induction messages generalizing l with
  | nil => exact progress
  | cons data rest ih =>
    rw [sendAll, List.foldl_cons, busy_rejects l hal _ data busy (long data List.mem_cons_self)]
    refine ih (l.emit (.rejected data)) busy ?_ ?_
    · exact fun later member => long later (List.mem_cons_of_mem _ member)
    · have kept := Progress.keep progress [.rejected data] (by simp [Event.Neutral])
      rw [List.append_assoc] at kept
      exact kept

/-- Sending a message in the idle state sends its first frame. -/
theorem send_response_progresses (start : Link) (hal canId : Nat) (message : List UInt8)
    (log : start.log = []) (idle : start.ctx.txState = .idle) (queue : start.faults = [])
    (filled : 0 < message.length) (fits : message.length ≤ isoTpMaxMessageSize) :
    Progresses canId message [] (isoTpSendResponse start hal canId message) := by
  unfold isoTpSendResponse
  rw [if_neg (Nat.ne_of_gt filled), if_neg (Nat.not_lt.mpr fits)]
  by_cases short : message.length ≤ isoTpSfMaxPayload
  · rw [if_pos short, sendSingleFrame, add_message_queued start _ queue]
    refine Or.inr (Or.inl ⟨idle, ?_, ?_⟩)
    · simp [log, queuedFrames, segments, short, singleFrame]
    · simp [log]
  · have long : 62 < message.length := Nat.not_le.mp short
    have head := first_frame_room fits
    rw [if_neg short, if_neg (not_not.mpr idle)]
    unfold sendFirstFrame
    simp only [head, Nat.min_eq_right (Nat.le_of_lt long)]
    rw [add_message_queued _ _ (by exact queue)]
    refine Or.inl ⟨by simp [Link.emit], queue, ⟨?_, rfl, rfl, long, ⟨1, rfl, ?_⟩⟩, ?_⟩
    · have copied := memcpy_take start.ctx.txBuffer 0 message (Nat.zero_le _)
      simpa [Link.emit] using copied
    · simp [Link.emit, log, queuedFrames, segments, short, firstFrame]
    · simp [Link.emit, log]

/-- A schedule disturbs a transmission with flow control from any identifier,
ticks, and segmented messages that find it busy. -/
def Disturbs (above : Upper σ κ) (_ : List Event) (w : World σ) : Input κ → Prop
  | .frame _ f => byte f.data 0 &&& 0xF0 = isoTpPciFlowControl
  | .tick _ _ => True
  | .work hal k => w.link.ctx.txState ≠ .idle ∧
      ∀ data ∈ (above.work w.upper hal k).2, isoTpSfMaxPayload < data.length
  | .registerStreamSink _ => False

/-- One input of the schedule. -/
theorem step_progresses (above : Upper σ κ) (canId : Nat) (message : List UInt8)
    (past : List Event) (w : World σ) (i : Input κ)
    (progress : Progress canId message past w.link.ctx.toTxContext w.link.faults)
    (disturbs : Disturbs above past w i) :
    Progress canId message (past ++ (step above w i).2)
      (step above w i).1.link.ctx.toTxContext (step above w i).1.link.faults := by
  have quiet : Progresses canId message past w.quiet.link := by
    rw [Progresses, World.quiet, List.append_nil]
    exact progress
  change Progresses canId message past (act above w.quiet i).link
  cases i with
  | frame hal f =>
    have flow : byte f.data 0 &&& 0xF0 = isoTpPciFlowControl := disturbs
    unfold act isoTpProcessFrame
    simp only [flow, if_true]
    split
    · exact quiet
    · exact process_flow_control_progresses canId message past _ hal f quiet
  | work hal k => exact busy_rejects_all canId message past _ hal _ disturbs.1 disturbs.2 quiet
  | tick now hal => exact tick_progresses canId message past _ now hal quiet
  | registerStreamSink sink => exact disturbs.elim

/-! ## The receiver -/

/-- The requests handed to the layer above, with their addressing type. -/
def dispatchedRequests (events : List Event) : List (List UInt8 × AddrType) :=
  events.filterMap fun
    | .dispatched request addr => some (request, addr)
    | _ => none

/-- The dispatched requests, one part of a log behind the other. -/
@[simp] theorem dispatched_requests_append (before after : List Event) :
    dispatchedRequests (before ++ after) =
      dispatchedRequests before ++ dispatchedRequests after := by
  simp [dispatchedRequests]

/-- Reception alone dispatches nothing. -/
theorem received_dispatches_nothing (events : List Event) (ofRx : ∀ e ∈ events, e.OfRx) :
    dispatchedRequests events = [] := by
  rw [dispatchedRequests, List.filterMap_eq_nil_iff]
  intro e member
  have here := ofRx e member
  cases e <;> first | rfl | exact here.elim

/-- Transmission dispatches nothing. -/
theorem transmitted_dispatches_nothing (events : List Event) (ofTx : ∀ e ∈ events, e.OfTx) :
    dispatchedRequests events = [] := by
  rw [dispatchedRequests, List.filterMap_eq_nil_iff]
  intro e member
  have here := ofTx e member
  cases e <;> first | rfl | exact here.elim

/-- A buffered reception whose first bytes are in and whose next Consecutive
Frame has a given position. -/
structure Receiving (message : List UInt8) (position : Nat) (c : RxContext) : Prop where
  state : c.rxState = .waitCf
  buffered : c.streamMode = false
  room : c.rxBuffer.length = isoTpMaxMessageSize
  total : c.rxTotalSize = message.length
  left : c.rxReceived < message.length
  sequence : c.rxExpectedSeq = UInt8.ofNat (position % 16)
  stored : c.rxBuffer.take c.rxReceived = message.take c.rxReceived

/-- The used bytes of the Consecutive Frame that comes next. -/
def nextBytes (message : List UInt8) (position : Nat) (c : RxContext) : List UInt8 :=
  (isoTpPciConsecutive ||| UInt8.ofNat (position % 16)) :: (message.drop c.rxReceived).take 63

/-- The payload of a frame that begins like the next Consecutive Frame is its part: the
padding is cut off by what is missing. -/
theorem consecutive_front (message : List UInt8) (position : Nat) (c : RxContext)
    (f : CanFrame) (receiving : Receiving message position c)
    (fits : (nextBytes message position c).length ≤ f.dlc)
    (front : f.data.take (nextBytes message position c).length = nextBytes message position c) :
    consecutivePayload c f = (message.drop c.rxReceived).take 63 ∧
      byte f.data 0 = isoTpPciConsecutive ||| UInt8.ofNat (position % 16) ∧ f.dlc ≠ 0 := by
  obtain ⟨part, part_def⟩ : ∃ part, part = (message.drop c.rxReceived).take 63 := ⟨_, rfl⟩
  have size : part.length = min 63 (message.length - c.rxReceived) := by
    rw [part_def, part_length]
  have left := receiving.left
  rw [nextBytes, ← part_def, List.length_cons] at fits front
  rw [← part_def]
  have full : 63 < message.length - c.rxReceived → part.length = 63 := by omega
  have cut : min (f.dlc - 1) (message.length - c.rxReceived) = part.length := by
    have most := f.dlc_le
    omega
  refine ⟨?_, ?_, by omega⟩
  · have body := congrArg (List.drop 1) front
    rw [List.drop_take, Nat.add_sub_cancel, List.drop_succ_cons, List.drop_zero] at body
    rw [consecutivePayload, receiving.total, cut]
    exact body
  · have first := congrArg (fun bytes => byte bytes 0) front
    simpa [byte] using first

/-- The used bytes of a Consecutive Frame fit a frame. -/
theorem next_bytes_length (message : List UInt8) (position : Nat) (c : RxContext) :
    (nextBytes message position c).length ≤ 64 := by
  rw [nextBytes, List.length_cons, part_length]
  exact Nat.succ_le_succ (Nat.min_le_left _ _)

/-- The payload of a Consecutive Frame of the message is its part. -/
theorem consecutive_payload_part (message : List UInt8) (position canId : Nat) (c : RxContext)
    (f : CanFrame) (receiving : Receiving message position c)
    (carried : Carries (consecutiveFrame canId position
      ((message.drop c.rxReceived).take 63)) f) :
    consecutivePayload c f = (message.drop c.rxReceived).take 63 ∧
      byte f.data 0 = isoTpPciConsecutive ||| UInt8.ofNat (position % 16) ∧ f.dlc ≠ 0 := by
  have fits : (nextBytes message position c).length ≤ f.dlc := by
    rw [carried.dlc]
    exact le_dlc_bytes _ (next_bytes_length message position c)
  exact consecutive_front message position c f receiving fits (carried.front _ _ rfl fits)

/-- A Consecutive Frame with the next number and the next part is accepted. -/
theorem receive_consecutive_decoded (message : List UInt8) (position : Nat) (l : Link)
    (hal : Nat) (f : CanFrame) (fits : message.length ≤ isoTpMaxMessageSize)
    (receiving : Receiving message position l.ctx.toRxContext)
    (first : byte f.data 0 = isoTpPciConsecutive ||| UInt8.ofNat (position % 16))
    (payload : consecutivePayload l.ctx.toRxContext f =
      (message.drop l.ctx.rxReceived).take 63) :
    let c := (receive l hal f).ctx.toRxContext
    (Receiving message (position + 1) c ∧ c.rxReceived = l.ctx.rxReceived + 63 ∧
        l.ctx.rxReceived + 63 < message.length) ∨
      (c.rxState = .complete ∧ c.rxBuffer.take c.rxTotalSize = message ∧
        c.rxAddrType = l.ctx.rxAddrType ∧ message.length ≤ l.ctx.rxReceived + 63) := by
  have left := receiving.left
  have size := part_length message l.ctx.rxReceived
  have low : byte f.data 0 &&& 0x0F = l.ctx.rxExpectedSeq := by
    rw [first, ← sequence_low, low_nibble _ _ (by decide), sequence_low, receiving.sequence]
  have high : byte f.data 0 &&& 0xF0 = isoTpPciConsecutive := by
    rw [first, ← sequence_low, high_nibble _ _ (by decide)]
  obtain ⟨received, received_def⟩ : ∃ received, received = l.ctx.rxReceived +
      ((message.drop l.ctx.rxReceived).take 63).length := ⟨_, rfl⟩
  have stored : (memcpy l.ctx.rxBuffer l.ctx.rxReceived
      ((message.drop l.ctx.rxReceived).take 63)).take received = message.take received := by
    have part : (message.drop l.ctx.rxReceived).take 63 = (message.drop l.ctx.rxReceived).take
        ((message.drop l.ctx.rxReceived).take 63).length := by
      rw [List.take_eq_take_iff, size, List.length_drop]
      omega
    rw [received_def, memcpy_take _ _ _ (by rw [receiving.room]; omega), receiving.stored,
      List.take_add, ← part]
  have continued : continueRx l.ctx.toRxContext hal f = { l.ctx.toRxContext with
      rxBuffer := memcpy l.ctx.rxBuffer l.ctx.rxReceived ((message.drop l.ctx.rxReceived).take 63)
      rxReceived := received
      rxExpectedSeq := (l.ctx.rxExpectedSeq + 1) &&& 0x0F
      lastRxTick := hal } := by
    simp only [continueRx, payload, receiving.buffered, Bool.false_eq_true, if_false, received_def]
  have taken : (receive l hal f).ctx.toRxContext =
      finishRx (continueRx l.ctx.toRxContext hal f) := by
    rw [receive_consecutive l hal f high, receiveConsecutive]
    simp only [if_neg (not_not.mpr receiving.state), if_neg (not_not.mpr low), set_rx_ctx]
  rw [taken, continued, finishRx]
  simp only [receiving.total]
  have room : (memcpy l.ctx.rxBuffer l.ctx.rxReceived
      ((message.drop l.ctx.rxReceived).take 63)).length = isoTpMaxMessageSize := by
    rw [memcpy_length _ _ _ (by rw [receiving.room]; omega), receiving.room]
  by_cases more : received < message.length
  · rw [if_pos more]
    refine Or.inl ⟨⟨receiving.state, receiving.buffered, room, rfl, more, ?_, stored⟩,
      by simp only; omega, by omega⟩
    simp only
    rw [receiving.sequence, next_sequence]
  · rw [if_neg more, receiving.buffered]
    have whole : received = message.length := by omega
    refine Or.inr ⟨rfl, ?_, rfl, by omega⟩
    simp only [Bool.false_eq_true, if_false]
    rw [← whole, stored, whole, List.take_length]

/-- A Consecutive Frame of the message is accepted. -/
theorem receive_consecutive_part (message : List UInt8) (position canId : Nat) (l : Link)
    (hal : Nat) (f : CanFrame) (fits : message.length ≤ isoTpMaxMessageSize)
    (receiving : Receiving message position l.ctx.toRxContext)
    (carried : Carries (consecutiveFrame canId position
      ((message.drop l.ctx.rxReceived).take 63)) f) :
    let c := (receive l hal f).ctx.toRxContext
    (Receiving message (position + 1) c ∧ c.rxReceived = l.ctx.rxReceived + 63 ∧
        l.ctx.rxReceived + 63 < message.length) ∨
      (c.rxState = .complete ∧ c.rxBuffer.take c.rxTotalSize = message ∧
        c.rxAddrType = l.ctx.rxAddrType ∧ message.length ≤ l.ctx.rxReceived + 63) := by
  obtain ⟨payload, first, _⟩ :=
    consecutive_payload_part message position canId l.ctx.toRxContext f receiving carried
  exact receive_consecutive_decoded message position l hal f fits receiving first payload

/-- The used bytes of a First Frame. -/
def firstFrameBytes (message : List UInt8) : List UInt8 :=
  firstFrameHead message.length ++ message.take 62

/-- A frame that begins like a First Frame of a message gives its length and its first
62 bytes. -/
theorem first_frame_front (message : List UInt8) (f : CanFrame) (long : 62 < message.length)
    (fits : message.length ≤ isoTpMaxMessageSize) (whole : f.dlc = 64)
    (front : f.data.take (firstFrameBytes message).length = firstFrameBytes message) :
    f.dlc ≠ 0 ∧ byte f.data 0 &&& 0xF0 = isoTpPciFirstFrame ∧
      firstFrameSize f = some (message.length, 2) ∧
      firstFramePayload f message.length 2 = message.take 62 := by
  have classic : message.length ≤ isoTpFfEscapeThreshold :=
    Nat.le_trans fits (by decide : isoTpMaxMessageSize ≤ isoTpFfEscapeThreshold)
  have size : message.length ≤ 512 := fits
  have head : firstFrameHead message.length =
      [isoTpPciFirstFrame ||| UInt8.ofNat (message.length / 256 % 16),
        UInt8.ofNat (message.length % 256)] := by
    rw [firstFrameHead, if_pos classic]
  have taken : (message.take 62).length = 62 := by
    rw [List.length_take, Nat.min_eq_left (Nat.le_of_lt long)]
  rw [firstFrameBytes, head, List.length_append, taken] at front
  have first : byte f.data 0 = isoTpPciFirstFrame ||| UInt8.ofNat (message.length / 256 % 16) := by
    have here := congrArg (fun bytes => byte bytes 0) front
    simpa [byte] using here
  have second : byte f.data 1 = UInt8.ofNat (message.length % 256) := by
    have here := congrArg (fun bytes => byte bytes 1) front
    simpa [byte] using here
  have kind : byte f.data 0 &&& 0xF0 = isoTpPciFirstFrame := by
    rw [first, ← sequence_low, high_nibble _ _ (by decide)]
  have low : byte f.data 0 &&& 0x0F = UInt8.ofNat (message.length / 256 % 16) := by
    rw [first, ← sequence_low, low_nibble _ _ (by decide), sequence_low]
  have len12 : (byte f.data 0 &&& 0x0F).toNat * 256 + (byte f.data 1).toNat = message.length := by
    rw [low, second, UInt8.toNat_ofNat', UInt8.toNat_ofNat']
    omega
  refine ⟨by rw [whole]; decide, kind, ?_, ?_⟩
  · simp only [firstFrameSize, len12]
    rw [if_pos (by omega)]
  · have body := congrArg (List.drop 2) front
    have cut : min (min (f.dlc - 2) (isoTpFrameSize - 2)) message.length = 62 := by
      rw [whole]
      exact Nat.min_eq_left (Nat.le_of_lt long)
    rw [List.drop_take] at body
    rw [firstFramePayload, cut]
    simpa using body

/-- The used bytes of a First Frame fit a frame. -/
theorem first_frame_bytes_length (message : List UInt8)
    (fits : message.length ≤ isoTpMaxMessageSize) : (firstFrameBytes message).length ≤ 64 := by
  have classic : message.length ≤ isoTpFfEscapeThreshold :=
    Nat.le_trans fits (by decide : isoTpMaxMessageSize ≤ isoTpFfEscapeThreshold)
  rw [firstFrameBytes, firstFrameHead, if_pos classic, List.length_append, List.length_take]
  exact Nat.add_le_add_left (Nat.min_le_left _ _) 2

/-- A First Frame of a message gives its length and its first 62 bytes. -/
theorem first_frame_decoded (message : List UInt8) (canId : Nat) (f : CanFrame)
    (long : 62 < message.length) (fits : message.length ≤ isoTpMaxMessageSize)
    (carried : Carries (firstFrame canId message) f) :
    f.dlc ≠ 0 ∧ byte f.data 0 &&& 0xF0 = isoTpPciFirstFrame ∧
      firstFrameSize f = some (message.length, 2) ∧
      firstFramePayload f message.length 2 = message.take 62 := by
  have whole : f.dlc = 64 := carried.dlc
  refine first_frame_front message f long fits whole (carried.front _ _ rfl ?_)
  rw [whole]
  exact first_frame_bytes_length message fits

/-- A First Frame with the length of a message and its first 62 bytes starts a
reception, whatever was received before. -/
theorem receive_first_decoded (message : List UInt8) (l : Link) (hal : Nat)
    (f : CanFrame) (long : 62 < message.length) (fits : message.length ≤ isoTpMaxMessageSize)
    (room : l.ctx.rxBuffer.length = isoTpMaxMessageSize)
    (physical : l.ctx.rxAddrType = .physical)
    (kind : byte f.data 0 &&& 0xF0 = isoTpPciFirstFrame)
    (decoded : firstFrameSize f = some (message.length, 2))
    (payload : firstFramePayload f message.length 2 = message.take 62) :
    Receiving message 1 (receive l hal f).ctx.toRxContext ∧
      (receive l hal f).ctx.rxReceived = 62 := by
  have taken : (message.take 62).length = 62 := by
    rw [List.length_take, Nat.min_eq_left (Nat.le_of_lt long)]
  have functional : l.ctx.rxAddrType ≠ .functional := by
    rw [physical]
    decide
  have stored := memcpy_take l.ctx.rxBuffer 0 (message.take 62) (Nat.zero_le _)
  rw [taken] at stored
  rw [receive_first l hal f kind, processFirstFrame, if_neg functional]
  simp only [decoded, payload, if_neg (Nat.not_lt.mpr fits), start_rx_restart,
    send_flow_control_ctx, emit_ctx, set_rx_ctx]
  simp only [startRx, taken, if_neg (Nat.not_lt.mpr fits)]
  have buffered : decide (isoTpMaxMessageSize < message.length) = false :=
    decide_eq_false (Nat.not_lt.mpr fits)
  refine ⟨⟨rfl, buffered, ?_, rfl, long, rfl, ?_⟩, trivial⟩
  · rw [memcpy_length _ _ _ (by rw [taken, room]; decide), room]
  · simpa using stored

/-- The First Frame of a message starts its reception. -/
theorem receive_first_part (message : List UInt8) (canId : Nat) (l : Link) (hal : Nat)
    (f : CanFrame) (long : 62 < message.length) (fits : message.length ≤ isoTpMaxMessageSize)
    (room : l.ctx.rxBuffer.length = isoTpMaxMessageSize)
    (physical : l.ctx.rxAddrType = .physical) (carried : Carries (firstFrame canId message) f) :
    Receiving message 1 (receive l hal f).ctx.toRxContext ∧
      (receive l hal f).ctx.rxReceived = 62 := by
  obtain ⟨_, kind, decoded, payload⟩ := first_frame_decoded message canId f long fits carried
  exact receive_first_decoded message l hal f long fits room physical kind decoded payload

/-- The payload of a frame that begins like a Single Frame of a message is the
message. -/
theorem single_frame_front (message : List UInt8) (f : CanFrame) (filled : 0 < message.length)
    (short : message.length ≤ isoTpSfMaxPayload)
    (fits : (singleFrameBytes message).length ≤ f.dlc)
    (front : f.data.take (singleFrameBytes message).length = singleFrameBytes message) :
    f.dlc ≠ 0 ∧ byte f.data 0 &&& 0xF0 = isoTpPciSingleFrame ∧ singleFramePayload f = message := by
  have small : message.length ≤ 62 := short
  by_cases classic : message.length ≤ 7
  · have used : singleFrameBytes message =
        (isoTpPciSingleFrame ||| (UInt8.ofNat message.length &&& 0x0F)) :: message := by
      rw [singleFrameBytes, if_pos classic]
    rw [used] at fits front
    rw [List.length_cons] at fits
    have first : byte f.data 0 =
        isoTpPciSingleFrame ||| (UInt8.ofNat message.length &&& 0x0F) := by
      have here := congrArg (fun bytes => byte bytes 0) front
      simpa [byte] using here
    have low : (byte f.data 0 &&& 0x0F).toNat = message.length := by
      have table : ∀ n ≤ 7, (UInt8.ofNat n &&& 0x0F).toNat = n := by decide
      rw [first, low_nibble _ _ (by decide), table message.length classic]
    have body := congrArg (List.drop 1) front
    rw [List.length_cons, List.drop_take, Nat.add_sub_cancel, List.drop_succ_cons,
      List.drop_zero] at body
    refine ⟨by omega, by rw [first, high_nibble _ _ (by decide)], ?_⟩
    rw [singleFramePayload]
    simp only [low]
    rw [if_neg (by omega), Nat.min_eq_left (by omega), body]
  · have used : singleFrameBytes message =
        isoTpPciSingleFrame :: UInt8.ofNat message.length :: message := by
      rw [singleFrameBytes, if_neg classic]
    rw [used] at fits front
    rw [List.length_cons, List.length_cons] at fits
    have first : byte f.data 0 = isoTpPciSingleFrame := by
      have here := congrArg (fun bytes => byte bytes 0) front
      simpa [byte] using here
    have second : (byte f.data 1).toNat = message.length := by
      have here := congrArg (fun bytes => byte bytes 1) front
      have length : byte f.data 1 = UInt8.ofNat message.length := by simpa [byte] using here
      rw [length, UInt8.toNat_ofNat', Nat.mod_eq_of_lt (by omega)]
    have low : (byte f.data 0 &&& 0x0F).toNat = 0 := by
      rw [first]
      decide
    have body := congrArg (List.drop 2) front
    have behind : message.length + 1 + 1 - 2 = message.length := by omega
    rw [List.length_cons, List.length_cons, List.drop_take, behind] at body
    simp only [List.drop_succ_cons, List.drop_zero] at body
    refine ⟨by omega, by rw [first]; decide, ?_⟩
    rw [singleFramePayload]
    simp only [low]
    rw [if_pos ⟨by omega, trivial⟩, second, Nat.min_eq_left (by omega), body]

/-- The used bytes of a Single Frame fit a frame. -/
theorem single_frame_bytes_length (message : List UInt8) (short : message.length ≤ 62) :
    (singleFrameBytes message).length ≤ 64 := by
  unfold singleFrameBytes
  split
  · rw [List.length_cons]
    omega
  · rw [List.length_cons, List.length_cons]
    omega

/-- The payload of a Single Frame of a message is the message. -/
theorem single_frame_payload (message : List UInt8) (canId : Nat) (f : CanFrame)
    (filled : 0 < message.length) (short : message.length ≤ isoTpSfMaxPayload)
    (carried : Carries (singleFrame canId message) f) :
    f.dlc ≠ 0 ∧ byte f.data 0 &&& 0xF0 = isoTpPciSingleFrame ∧ singleFramePayload f = message := by
  have fits : (singleFrameBytes message).length ≤ f.dlc := by
    rw [carried.dlc]
    exact le_dlc_bytes _ (single_frame_bytes_length message short)
  exact single_frame_front message f filled short fits (carried.front _ _ rfl fits)

/-- A Single Frame with the whole message completes its reception. -/
theorem receive_single_decoded (message : List UInt8) (l : Link) (hal : Nat) (f : CanFrame)
    (kind : byte f.data 0 &&& 0xF0 = isoTpPciSingleFrame)
    (payload : singleFramePayload f = message) :
    let c := (receive l hal f).ctx
    c.rxState = .complete ∧ c.rxBuffer.take c.rxTotalSize = message ∧
      c.rxAddrType = l.ctx.rxAddrType := by
  rw [receive_single l hal f kind, receiveSingleFrame]
  simp only [payload, emit_ctx]
  have stored := memcpy_take (restartRx l .singleFrame).ctx.rxBuffer 0 message (Nat.zero_le _)
  refine ⟨trivial, ?_, restart_rx_address l .singleFrame⟩
  simpa using stored

/-- A Single Frame carries the whole message. -/
theorem receive_single_part (message : List UInt8) (canId : Nat) (l : Link) (hal : Nat)
    (f : CanFrame) (filled : 0 < message.length) (short : message.length ≤ isoTpSfMaxPayload)
    (carried : Carries (singleFrame canId message) f) :
    let c := (receive l hal f).ctx
    c.rxState = .complete ∧ c.rxBuffer.take c.rxTotalSize = message ∧
      c.rxAddrType = l.ctx.rxAddrType := by
  obtain ⟨_, kind, payload⟩ := single_frame_payload message canId f filled short carried
  exact receive_single_decoded message l hal f kind payload

/-! ## Feeding frames to a receiver -/

/-- What a frame for this node does that is not flow control: the reception of
its link, and the requests it dispatches. -/
theorem step_frame_dispatches (above : Upper σ κ) (w : World σ) (hal : Nat) (f : CanFrame)
    (sized : f.dlc ≠ 0) (data : byte f.data 0 &&& 0xF0 ≠ isoTpPciFlowControl)
    (mine : canAddrClassify f.canId ≠ .ignore) :
    let l := receive (w.quiet.link.addressed (canAddrClassify f.canId)) hal f
    (l.ctx.rxState ≠ .complete →
      dispatchedRequests (step above w (.frame hal f)).2 = [] ∧
        (step above w (.frame hal f)).1.link.ctx.toRxContext = l.ctx.toRxContext) ∧
    (l.ctx.rxState = .complete →
      dispatchedRequests (step above w (.frame hal f)).2 =
        [(l.ctx.rxBuffer.take l.ctx.rxTotalSize, l.ctx.rxAddrType)]) := by
  intro l
  have spec : act above w.quiet (.frame hal f) = dispatchIfComplete above ⟨l, w.upper⟩ hal :=
    process_frame_spec above w.quiet hal f sized data mine
  obtain ⟨received, log, ofRx⟩ :=
    (receive_receives (w.quiet.link.addressed (canAddrClassify f.canId)) hal f).log
  have events : l.log = received := log
  have silent := received_dispatches_nothing received ofRx
  constructor
  · intro partly
    rw [step, spec, dispatch_nothing above _ hal partly]
    exact ⟨by rw [events]; exact silent, rfl⟩
  · intro complete
    obtain ⟨_, _, sent, log', ofTx⟩ := dispatch_completed_spec above ⟨l, w.upper⟩ hal
    rw [step, spec, dispatchIfComplete, if_pos complete]
    simp only
    rw [log', events, dispatched_requests_append, silent, List.nil_append]
    have rest := transmitted_dispatches_nothing sent ofTx
    simpa [dispatchedRequests] using rest

/-- The addressing type does not matter to what is received. -/
theorem Receiving.address {message : List UInt8} {position : Nat} {c : RxContext}
    (receiving : Receiving message position c) (addr : AddrType) :
    Receiving message position { c with rxAddrType := addr } :=
  ⟨receiving.state, receiving.buffered, receiving.room, receiving.total, receiving.left,
    receiving.sequence, receiving.stored⟩

/-- Frames received as physical requests carry transmitted ones, in order. -/
def Fed (frames : List TxFrame) (feed : List (Nat × CanFrame)) : Prop :=
  List.Forall₂ (fun tx p => Carries tx p.2 ∧ p.2.canId = canIdPhysicalReq) frames feed

/-- The frames as the receive interrupt hands them to the other node. -/
def received (frames : List TxFrame) : List (Nat × CanFrame) :=
  frames.map fun tx => (0, rxFifo0Message canIdPhysicalReq tx.dlcCode tx.data)

/-- Frames that arrive in order feed the reception. -/
theorem received_fed (frames : List TxFrame)
    (formed : ∀ tx ∈ frames, tx.dlcCode < 16 ∧ tx.data.length = 64) :
    Fed frames (received frames) := by
  induction frames with
  | nil => exact List.Forall₂.nil
  | cons tx rest ih =>
    obtain ⟨code, sized⟩ := formed tx List.mem_cons_self
    refine List.Forall₂.cons ⟨received_carries canIdPhysicalReq tx code sized, rfl⟩ (ih ?_)
    exact fun later member => formed later (List.mem_cons_of_mem _ member)

/-- The requests a receiver dispatches for a list of frames. -/
def feedRequests (above : Upper σ κ) (w : World σ) (feed : List (Nat × CanFrame)) :
    List (List UInt8 × AddrType) :=
  dispatchedRequests (Run.trace (step above) w (feed.map fun p => .frame p.1 p.2))

/-- The requests of the first frame, then those of the others. -/
theorem feed_requests_cons (above : Upper σ κ) (w : World σ) (p : Nat × CanFrame)
    (feed : List (Nat × CanFrame)) :
    feedRequests above w (p :: feed) =
      dispatchedRequests (step above w (.frame p.1 p.2)).2 ++
        feedRequests above (step above w (.frame p.1 p.2)).1 feed := by
  rw [feedRequests, List.map_cons, Run.trace, dispatched_requests_append, feedRequests]

/-- A reception under way dispatches its message with its last frame.

Proof: induction follows the frames fed; each is the next of the message. -/
theorem feed_consecutive (above : Upper σ κ) (canId : Nat) (message : List UInt8) (position : Nat)
    (w : World σ) (feed : List (Nat × CanFrame)) (sent rest : List TxFrame)
    (fits : message.length ≤ isoTpMaxMessageSize)
    (receiving : Receiving message position w.link.ctx.toRxContext)
    (whole : sent ++ rest =
      consecutiveFrames canId position (message.drop w.link.ctx.rxReceived))
    (fed : Fed sent feed) :
    feedRequests above w feed = if rest = [] then [(message, .physical)] else [] := by
  have filled : message.drop w.link.ctx.rxReceived ≠ [] := by
    rw [ne_eq, List.drop_eq_nil_iff]
    exact Nat.not_le.mpr receiving.left
  induction feed generalizing sent w position with
  | nil =>
    cases fed
    rw [List.nil_append, consecutive_frames_cons canId position _ filled] at whole
    rw [whole, if_neg (List.cons_ne_nil _ _)]
    rfl
  | cons p feed ih =>
    cases fed with
    | cons carried fed =>
      rename_i tx sent
      rw [List.cons_append, consecutive_frames_cons canId position _ filled] at whole
      obtain ⟨first, later⟩ := List.cons.inj whole
      subst first
      have physical : canAddrClassify p.2.canId = .physical :=
        (can_addr_physical_iff _).mpr carried.2
      have addressed := receiving.address (canAddrClassify p.2.canId)
      obtain ⟨_, data, sized⟩ := consecutive_payload_part message position canId
        { w.link.ctx.toRxContext with rxAddrType := canAddrClassify p.2.canId } p.2 addressed
        carried.1
      have kind : byte p.2.data 0 &&& 0xF0 ≠ isoTpPciFlowControl := by
        rw [data, ← sequence_low, high_nibble _ _ (by decide)]
        decide
      obtain ⟨partly, complete⟩ := step_frame_dispatches above w p.1 p.2 sized kind
        (by rw [physical]; decide)
      rw [feed_requests_cons]
      rcases receive_consecutive_part message position canId
          (w.quiet.link.addressed (canAddrClassify p.2.canId)) p.1 p.2 fits addressed carried.1 with
        ⟨next, received, more⟩ | ⟨done, taken, addr, last⟩
      · obtain ⟨silent, same⟩ := partly (by rw [next.state]; decide)
        rw [silent, List.nil_append]
        have received' : (step above w (.frame p.1 p.2)).1.link.ctx.rxReceived =
            w.link.ctx.rxReceived + 63 := (congrArg RxContext.rxReceived same).trans received
        rw [← same] at next
        refine ih (position + 1) _ sent next ?_ fed ?_
        · rw [later, received', List.drop_drop]
        · rw [received', ne_eq, List.drop_eq_nil_iff]
          exact Nat.not_le.mpr more
      · have ended : (message.drop w.link.ctx.rxReceived).drop 63 = [] := by
          rw [List.drop_drop, List.drop_eq_nil_iff]
          exact last
        rw [ended, consecutive_frames_nil, List.append_eq_nil_iff] at later
        obtain ⟨rfl, rfl⟩ := later
        cases fed
        rw [complete done, taken, addr, physical, if_pos rfl]
        rfl

/-- A receiver given the first frames of a message dispatches it once all of them
are in, whatever it was receiving before. -/
theorem feed_segments (above : Upper σ κ) (canId : Nat) (message : List UInt8) (w : World σ)
    (feed : List (Nat × CanFrame)) (sent rest : List TxFrame)
    (room : w.link.ctx.rxBuffer.length = isoTpMaxMessageSize) (filled : 0 < message.length)
    (fits : message.length ≤ isoTpMaxMessageSize)
    (whole : sent ++ rest = segments canId message) (fed : Fed sent feed) :
    feedRequests above w feed = if rest = [] then [(message, .physical)] else [] := by
  have some_frame : segments canId message ≠ [] := by
    unfold segments
    split
    · exact List.cons_ne_nil _ _
    · exact List.cons_ne_nil _ _
  cases fed with
  | nil =>
    rw [List.nil_append] at whole
    rw [if_neg (by rw [whole]; exact some_frame)]
    rfl
  | cons carried fed =>
    rename_i tx p sent feed
    have physical : canAddrClassify p.2.canId = .physical :=
      (can_addr_physical_iff _).mpr carried.2
    have mine : canAddrClassify p.2.canId ≠ .ignore := by
      rw [physical]
      decide
    rw [feed_requests_cons]
    by_cases short : message.length ≤ isoTpSfMaxPayload
    · rw [segments, if_pos short, List.cons_append] at whole
      obtain ⟨rfl, later⟩ := List.cons.inj whole
      obtain ⟨rfl, rfl⟩ := List.append_eq_nil_iff.mp later
      cases fed
      obtain ⟨sized, kind, _⟩ := single_frame_payload message canId p.2 filled short carried.1
      obtain ⟨_, complete⟩ := step_frame_dispatches above w p.1 p.2 sized
        (by rw [kind]; decide) mine
      obtain ⟨done, taken, addr⟩ := receive_single_part message canId
        (w.quiet.link.addressed (canAddrClassify p.2.canId)) p.1 p.2 filled short carried.1
      rw [complete done, taken, addr, physical, if_pos rfl]
      rfl
    · rw [segments, if_neg short, List.cons_append] at whole
      obtain ⟨rfl, later⟩ := List.cons.inj whole
      have long : 62 < message.length := Nat.not_le.mp short
      let l := w.quiet.link.addressed (canAddrClassify p.2.canId)
      obtain ⟨sized, kind, _⟩ := first_frame_decoded message canId p.2 long fits carried.1
      obtain ⟨partly, _⟩ := step_frame_dispatches above w p.1 p.2 sized
        (by rw [kind]; decide) mine
      obtain ⟨receiving, received⟩ := receive_first_part message canId l p.1 p.2 long fits room
        physical carried.1
      obtain ⟨silent, same⟩ := partly (by rw [receiving.state]; decide)
      rw [silent, List.nil_append]
      have received' : (step above w (.frame p.1 p.2)).1.link.ctx.rxReceived = 62 :=
        (congrArg RxContext.rxReceived same).trans received
      rw [← same] at receiving
      exact feed_consecutive above canId message 1 _ feed sent rest fits receiving
        (by rw [later, received']) fed

/-! ## Both halves -/

/-- The node after it was given a message. -/
def given (start : World σ) (hal canId : Nat) (message : List UInt8) : World σ :=
  { start with link := isoTpSendResponse start.quiet.link hal canId message }

/-- The events from the message on, over a schedule. -/
def sendingEvents (above : Upper σ κ) (start : World σ) (hal canId : Nat) (message : List UInt8)
    (schedule : List (Input κ)) : List Event :=
  (given start hal canId message).link.log ++
    Run.trace (step above) (given start hal canId message) schedule

/-- The stage a transmission has reached after a schedule. -/
theorem schedule_progresses (above : Upper σ κ) (start : World σ) (hal canId : Nat)
    (message : List UInt8) (schedule : List (Input κ)) (idle : start.link.ctx.txState = .idle)
    (queue : start.link.faults = []) (filled : 0 < message.length)
    (fits : message.length ≤ isoTpMaxMessageSize)
    (disturbed : Run.Along (step above) (Disturbs above) (given start hal canId message).link.log
      (given start hal canId message) schedule) :
    let last := Run.final (step above) (given start hal canId message) schedule
    Progress canId message (sendingEvents above start hal canId message schedule)
      last.link.ctx.toTxContext last.link.faults := by
  have begun : Progresses canId message [] (given start hal canId message).link :=
    send_response_progresses start.quiet.link hal canId message rfl idle queue filled fits
  exact Run.invariant_final (step above) (Disturbs above)
    (fun past w => Progress canId message past w.link.ctx.toTxContext w.link.faults)
    (fun past w i progress disturbs =>
      step_progresses above canId message past w i progress disturbs)
    (given start hal canId message).link.log (given start hal canId message) schedule begun
    disturbed

/-- Whatever disturbs a transmission, the frames it queues are the first frames of
its message, numbered from 1 behind the First Frame, each with the next part of
the message. A fresh receiver of these frames dispatches exactly the message when
the transmission ended without an abort, and nothing when it was aborted or has
not ended. -/
theorem segments_reassembled (above : Upper σ κ) (below : Upper σ' κ') (start : World σ)
    (receiver : World σ') (hal canId : Nat) (message : List UInt8) (schedule : List (Input κ))
    (feed : List (Nat × CanFrame)) (idle : start.link.ctx.txState = .idle)
    (queue : start.link.faults = []) (fresh : receiver.link.ctx = {})
    (filled : 0 < message.length) (fits : message.length ≤ isoTpMaxMessageSize)
    (disturbed : Run.Along (step above) (Disturbs above) (given start hal canId message).link.log
      (given start hal canId message) schedule)
    (fed : Fed (queuedFrames (sendingEvents above start hal canId message schedule)) feed) :
    let events := sendingEvents above start hal canId message schedule
    let ended := (Run.final (step above) (given start hal canId message) schedule).link.ctx.txState
      = .idle
    let aborted := ∃ reason, .txAborted reason ∈ events
    (ended ∧ ¬ aborted → feedRequests below receiver feed = [(message, .physical)]) ∧
      (¬ ended ∨ aborted → feedRequests below receiver feed = []) ∧
      queuedFrames events <+: segments canId message ∧
      ∀ i frame, (queuedFrames events)[i + 1]? = some frame →
        ∃ part, (chunks 62 (message.drop 62))[i]? = some part ∧
          frame = consecutiveFrame canId (i + 1) part := by
  intro events ended aborted
  have progress := schedule_progresses above start hal canId message schedule idle queue filled fits
    disturbed
  obtain ⟨rest, whole, stage⟩ : ∃ rest, queuedFrames events ++ rest = segments canId message ∧
      ((rest = [] ∧ ended ∧ ¬ aborted) ∨ (rest ≠ [] ∧ (¬ ended ∨ aborted))) := by
    rcases progress with under | completed | stopped
    · obtain ⟨position, _, whole⟩ := under.sent.rest
      have filled : message.drop _ ≠ [] :=
        mt List.drop_eq_nil_iff.mp (Nat.not_le.mpr under.sent.left)
      refine ⟨_, whole, Or.inr ⟨?_, Or.inl under.state⟩⟩
      rw [consecutive_frames_cons canId position _ filled]
      exact List.cons_ne_nil _ _
    · refine ⟨[], by rw [List.append_nil]; exact completed.frames,
        Or.inl ⟨rfl, completed.state, ?_⟩⟩
      rintro ⟨reason, member⟩
      exact completed.running reason member
    · obtain ⟨frame, rest, whole⟩ := stopped.frames
      exact ⟨_, whole, Or.inr ⟨List.cons_ne_nil _ _, Or.inr stopped.reason⟩⟩
  have room : receiver.link.ctx.rxBuffer.length = isoTpMaxMessageSize := by
    rw [fresh]
    exact List.length_replicate
  have requests := feed_segments below canId message receiver feed _ rest room filled fits whole fed
  refine ⟨?_, ?_, ⟨rest, whole⟩, ?_⟩
  · rintro ⟨idle, unbroken⟩
    rcases stage with ⟨nothing, _⟩ | ⟨_, running | broken⟩
    · rw [requests, if_pos nothing]
    · exact absurd idle running
    · exact absurd broken unbroken
  · intro partly
    rcases stage with ⟨_, idle, unbroken⟩ | ⟨more, _⟩
    · rcases partly with running | broken
      · exact absurd idle running
      · exact absurd broken unbroken
    · rw [requests, if_neg more]
  · intro i frame found
    have inside : i + 1 < (queuedFrames events).length := (List.getElem?_eq_some_iff.mp found).1
    refine segments_consecutive canId message i frame ?_
    rw [← whole, List.getElem?_append_left inside]
    exact found

/-- A hundred bytes, sent with one Consecutive Frame after a late FC.CTS. -/
theorem hundred_bytes_reassembled :
    let message := List.replicate 100 0x55
    let schedule : List (Input Unit) :=
      [.tick 3 3, .frame 7 (rxFifo0Message 0x123 3 [0x31, 0, 0]),
        .frame 9 (rxFifo0Message 0x7E0 3 [0x30, 0, 0])]
    let events := sendingEvents silent ⟨{}, ()⟩ 1 canIdPhysicalResp message schedule
    feedRequests silent ⟨{}, ()⟩ (received (queuedFrames events)) = [(message, .physical)] := by
  intro message schedule events
  have formed : ∀ tx ∈ queuedFrames events, tx.dlcCode < 16 ∧ tx.data.length = 64 := by
    decide +kernel
  have idle : (Run.final (step silent) (given ⟨{}, ()⟩ 1 canIdPhysicalResp message)
      schedule).link.ctx.txState = .idle := by decide +kernel
  have unbroken : ¬ ∃ reason, .txAborted reason ∈ events := by
    rintro ⟨reason, member⟩
    cases reason <;> revert member <;> decide +kernel
  have waits : byte (rxFifo0Message 0x123 3 [0x31, 0, 0]).data 0 &&& 0xF0 =
      isoTpPciFlowControl := by
    decide
  have continues : byte (rxFifo0Message 0x7E0 3 [0x30, 0, 0]).data 0 &&& 0xF0 =
      isoTpPciFlowControl := by decide
  exact (segments_reassembled silent silent ⟨{}, ()⟩ ⟨{}, ()⟩ 1 canIdPhysicalResp message schedule
    (received (queuedFrames events)) rfl rfl rfl (by decide) (by decide)
    ⟨trivial, waits, continues, trivial⟩ (received_fed _ formed)).1 ⟨idle, unbroken⟩

end ObdSimulator.IsoTp
