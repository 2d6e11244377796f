import ObdSimulator.Reassembly

/-!
# What reassembly stores and hands over

A received frame makes at most one store into the receive buffer, and it stays
inside. A request is the payload of the Single Frame just received, or the announced
number of bytes of the frames of its reception, the Consecutive Frames of which were
numbered one, two, and so on modulo sixteen.

Lengths of a frame are clamped before they are used, and a reception announces at most
the buffer unless its bytes go to the stream sink instead; the invariant is that the
received count never passes the announced one.
-/

namespace ObdSimulator.IsoTp

open Bytes

universe u v

variable {σ : Type u} {κ : Type v}

/-! ## The stores of a call -/

/-- The store an input makes into the receive buffer: its offset and its bytes. -/
def rxStore (c : RxContext) : Input κ → Option (Nat × List UInt8)
  | .frame _ f =>
    let pciType := byte f.data 0 &&& 0xF0
    if f.dlc = 0 ∨ canAddrClassify f.canId = .ignore then none
    else if pciType = isoTpPciSingleFrame then some (0, singleFramePayload f)
    else if pciType = isoTpPciFirstFrame then
      if canAddrClassify f.canId = .functional then none
      else
        (firstFrameSize f).bind fun found =>
          if isoTpMaxMessageSize < found.1 then none
          else some (0, firstFramePayload f found.1 found.2)
    else if pciType = isoTpPciConsecutive ∧ c.rxState = .waitCf ∧
        byte f.data 0 &&& 0x0F = c.rxExpectedSeq ∧ c.streamMode = false then
      some (c.rxReceived, consecutivePayload c f)
    else none
  | _ => none

/-- The buffer after a store. -/
def stored (buffer : List UInt8) (store : Option (Nat × List UInt8)) : List UInt8 :=
  store.elim buffer fun copied => memcpy buffer copied.1 copied.2

/-- A call that copies nothing keeps the buffer. -/
@[simp] theorem stored_none (buffer : List UInt8) : stored buffer none = buffer := rfl

/-- A call that copies a payload puts it at its offset. -/
@[simp] theorem stored_some (buffer : List UInt8) (off : Nat) (payload : List UInt8) :
    stored buffer (some (off, payload)) = memcpy buffer off payload := rfl

/-- The payload of a Single Frame is no longer than a frame. -/
theorem single_frame_payload_length (f : CanFrame) : (singleFramePayload f).length ≤ 64 := by
  have whole := f.data_length
  unfold singleFramePayload
  simp only
  split
  · simp only [List.length_take, List.length_drop]
    omega
  · simp only [List.length_take, List.length_drop]
    omega

/-- The payload of a First Frame is no longer than a frame, nor than what it announces. -/
theorem first_frame_payload_length (f : CanFrame) (totalSize off : Nat) :
    (firstFramePayload f totalSize off).length ≤ 64 ∧
      (firstFramePayload f totalSize off).length ≤ totalSize := by
  have most : isoTpFrameSize = 64 := rfl
  simp only [firstFramePayload, List.length_take]
  omega

/-- The payload of a Consecutive Frame is no longer than what is missing. -/
theorem consecutive_payload_length (c : RxContext) (f : CanFrame) :
    (consecutivePayload c f).length ≤ c.rxTotalSize - c.rxReceived := by
  simp only [consecutivePayload, List.length_take]
  omega

/-- A First Frame stores its payload if the buffer is to hold the message. -/
theorem first_frame_buffer (l : Link) (hal : Nat) (f : CanFrame)
    (physical : l.ctx.rxAddrType ≠ .functional) :
    (processFirstFrame l hal f).ctx.rxBuffer = stored l.ctx.rxBuffer
      ((firstFrameSize f).bind fun found =>
        if isoTpMaxMessageSize < found.1 then none
        else some (0, firstFramePayload f found.1 found.2)) := by
  have restarted : (restartRx l .firstFrame).ctx.rxBuffer = l.ctx.rxBuffer := by
    rw [restart_rx_ctx]
    split
    · rfl
    · rfl
  cases decoded : firstFrameSize f with
  | none =>
    simp only [processFirstFrame, if_neg physical, decoded, Option.bind_none, stored_none]
    exact restarted
  | some found =>
    obtain ⟨totalSize, off⟩ := found
    rw [Option.bind_some]
    by_cases large : isoTpMaxMessageSize < totalSize
    · rw [if_pos large, stored_none]
      rcases process_first_frame_cases l hal f with
        ⟨functional, _⟩ | ⟨_, idle, _⟩ | ⟨_, size, off', decoded', begun, _⟩
      · exact absurd functional physical
      · rw [idle]
        exact restarted
      · rw [decoded] at decoded'
        cases decoded'
        rw [begun]
        exact if_pos large
    · have starts := process_first_frame_starts l hal f totalSize off physical decoded
        (Nat.not_lt.mp large)
      rw [if_neg large, stored_some, starts.1]
      exact if_neg large

/-- A Consecutive Frame stores its payload behind the received bytes if it is
accepted and the buffer holds the message. -/
theorem consecutive_buffer (l : Link) (hal : Nat) (f : CanFrame) :
    (receiveConsecutive l hal f).ctx.rxBuffer = stored l.ctx.rxBuffer
      (if l.ctx.rxState = .waitCf ∧ byte f.data 0 &&& 0x0F = l.ctx.rxExpectedSeq ∧
          l.ctx.streamMode = false then
        some (l.ctx.rxReceived, consecutivePayload l.ctx.toRxContext f)
      else none) := by
  rcases receive_consecutive_cases l hal f with
    ⟨waiting, kept⟩ | ⟨_, sequence, dropped, _⟩ | ⟨waiting, sequence, continued, _⟩
  · rw [kept, if_neg (fun all => waiting all.1), stored_none]
  · rw [dropped, if_neg (fun all => sequence all.2.1), stored_none]
    rfl
  · rw [continued, finish_rx_buffer, continueRx]
    cases stream : l.ctx.streamMode with
    | true => simp
    | false => simp [waiting, sequence]

/-- The store of a frame for this node. -/
theorem receive_stores (w : World σ) (hal : Nat) (f : CanFrame) (sized : f.dlc ≠ 0)
    (mine : canAddrClassify f.canId ≠ .ignore) :
    (receive (w.link.addressed (canAddrClassify f.canId)) hal f).ctx.rxBuffer =
      stored w.link.ctx.rxBuffer (rxStore w.link.ctx.toRxContext (.frame hal f : Input κ)) := by
  have through : ¬ (f.dlc = 0 ∨ canAddrClassify f.canId = .ignore) := not_or.mpr ⟨sized, mine⟩
  let l := w.link.addressed (canAddrClassify f.canId)
  simp only [rxStore, if_neg through]
  by_cases single : byte f.data 0 &&& 0xF0 = isoTpPciSingleFrame
  · rw [receive_single _ hal f single, if_pos single, stored_some]
    exact (receive_single_frame_cases l f).2.1
  rw [if_neg single]
  by_cases first : byte f.data 0 &&& 0xF0 = isoTpPciFirstFrame
  · rw [receive_first _ hal f first, if_pos first]
    by_cases functional : canAddrClassify f.canId = .functional
    · have dropped : processFirstFrame l hal f = l := if_pos functional
      rw [dropped, if_pos functional]
      rfl
    · rw [if_neg functional]
      exact first_frame_buffer l hal f functional
  rw [if_neg first]
  by_cases consecutive : byte f.data 0 &&& 0xF0 = isoTpPciConsecutive
  · rw [receive_consecutive _ hal f consecutive, consecutive_buffer]
    simp only [consecutive, true_and]
    rfl
  have unknown : receive l hal f = l := by
    simp only [receive, if_neg single, if_neg first, if_neg consecutive]
  rw [unknown, if_neg (fun all => consecutive all.1)]
  rfl

/-- A dispatch does not write into the receive buffer. -/
theorem dispatch_stores_nothing (above : Upper σ κ) (w : World σ) (hal : Nat) :
    (dispatchIfComplete above w hal).link.ctx.rxBuffer = w.link.ctx.rxBuffer := by
  rw [dispatchIfComplete]
  split
  · rw [(dispatch_completed_spec above w hal).1]
  · rfl

/-- Giving up a reception does not write into the receive buffer. -/
theorem rx_timeout_buffer (l : Link) (now : Nat) :
    (rxTimeout l now).ctx.rxBuffer = l.ctx.rxBuffer := by
  unfold rxTimeout
  split
  · simp only [emit_ctx, abort_stream_rx_ctx]
  · rfl

/-- A call leaves the buffer as it was but for its store. -/
theorem step_stores (above : Upper σ κ) (w : World σ) (i : Input κ) :
    (step above w i).1.link.ctx.rxBuffer =
      stored w.link.ctx.rxBuffer (rxStore w.link.ctx.toRxContext i) := by
  cases i with
  | frame hal f =>
    by_cases sized : f.dlc = 0
    · simp [step, act, isoTpProcessFrame, sized, rxStore, World.quiet]
    · by_cases flow : byte f.data 0 &&& 0xF0 = isoTpPciFlowControl
      · have transmits := process_flow_control_transmits w.quiet.link hal f
        have single : isoTpPciFlowControl ≠ isoTpPciSingleFrame := by decide
        have first : isoTpPciFlowControl ≠ isoTpPciFirstFrame := by decide
        have consecutive : isoTpPciFlowControl ≠ isoTpPciConsecutive := by decide
        have kept : rxStore w.link.ctx.toRxContext (.frame hal f : Input κ) = none := by
          simp [rxStore, flow, single, first, consecutive]
        rw [kept, step, act, isoTpProcessFrame, if_neg sized, if_pos flow]
        exact congrArg RxContext.rxBuffer transmits.rx
      · by_cases mine : canAddrClassify f.canId = .ignore
        · have kept : rxStore w.link.ctx.toRxContext (.frame hal f : Input κ) = none := by
            simp [rxStore, mine]
          rw [kept, step, act, isoTpProcessFrame, if_neg sized, if_neg flow, mine]
          rfl
        · rw [step, act, process_frame_spec above w.quiet hal f sized flow mine,
            dispatch_stores_nothing]
          exact receive_stores w.quiet hal f sized mine
  | work hal k =>
    exact congrArg RxContext.rxBuffer (send_all_transmits w.quiet.link hal _).rx
  | tick now hal =>
    calc (isoTpTick w.quiet.link now hal).ctx.rxBuffer
        = (rxTimeout w.quiet.link now).ctx.rxBuffer :=
          congrArg RxContext.rxBuffer (tick_transmits w.quiet.link now hal).rx
      _ = w.link.ctx.rxBuffer := rx_timeout_buffer w.quiet.link now
  | registerStreamSink sink => rfl

/-! ## The numbers of the Consecutive Frames -/

/-- Consecutive Frames numbered from one, modulo sixteen. -/
def InSequence (frames : List CanFrame) : Prop :=
  ∀ k f, frames[k]? = some f → byte f.data 0 &&& 0xF0 = isoTpPciConsecutive ∧
    (byte f.data 0 &&& 0x0F).toNat = (k + 1) % 16

/-- No frames are in sequence. -/
theorem InSequence.nil : InSequence [] := by
  intro k f found
  cases found

/-- A Consecutive Frame of the next number keeps the frames in sequence. -/
theorem InSequence.snoc {frames : List CanFrame} (numbered : InSequence frames) (f : CanFrame)
    (kind : byte f.data 0 &&& 0xF0 = isoTpPciConsecutive)
    (next : (byte f.data 0 &&& 0x0F).toNat = (frames.length + 1) % 16) :
    InSequence (frames ++ [f]) := by
  intro k g found
  rcases Nat.lt_trichotomy k frames.length with early | last | late
  · rw [List.getElem?_append_left early] at found
    exact numbered k g found
  · rw [last, List.getElem?_concat_length] at found
    cases found
    rw [last]
    exact ⟨kind, next⟩
  · rw [List.getElem?_eq_none (by simp; omega)] at found
    cases found

/-- The nibble counter goes on modulo sixteen. -/
theorem next_number (seq : UInt8) (n : Nat) (number : seq.toNat = n % 16) :
    ((seq + 1) &&& 0x0F).toNat = (n + 1) % 16 := by
  have mask : ((seq + 1) &&& 0x0F).toNat = (seq.toNat + 1) % 256 % 16 := by
    rw [UInt8.toNat_and, UInt8.toNat_add]
    exact Nat.and_two_pow_sub_one_eq_mod _ 4
  rw [mask, number]
  omega

/-! ## The invariant -/

/-- A reception that waits has received at most what it announced, and expects the
number after those of its frames. -/
structure Counted (history : List Event) (c : RxContext) : Prop where
  held : Held history c
  received : c.rxState = .waitCf → c.rxReceived ≤ c.rxTotalSize
  sequence : c.rxState = .waitCf → ∃ first rest, receptionFrames history = first :: rest ∧
    InSequence rest ∧ c.rxExpectedSeq.toNat = (rest.length + 1) % 16

/-- A Consecutive Frame with the expected number goes on with the sequence. -/
theorem sequence_continued (past : List Event) (c : RxContext) (f : CanFrame)
    (counted : Counted past c) (waiting : c.rxState = .waitCf)
    (kind : byte f.data 0 &&& 0xF0 = isoTpPciConsecutive)
    (expected : byte f.data 0 &&& 0x0F = c.rxExpectedSeq) :
    ∃ first rest, receptionFrames past = first :: rest ∧ InSequence (rest ++ [f]) ∧
      ((c.rxExpectedSeq + 1) &&& 0x0F).toNat = ((rest ++ [f]).length + 1) % 16 := by
  obtain ⟨first, rest, frames, numbered, next⟩ := counted.sequence waiting
  refine ⟨first, rest, frames, numbered.snoc f kind ?_, ?_⟩
  · rw [expected]
    exact next
  · rw [List.length_append, List.length_singleton]
    exact next_number _ _ next

/-- Every step of a reception keeps its counts. -/
theorem step_counted (past events : List Event) (c c' : RxContext) (i : Input κ)
    (counted : Counted past c) (step : RxStep c i c' events) : Counted (past ++ events) c' := by
  have held := step_held past events c c' i counted.held step
  cases step with
  | kept addr events inert =>
    refine ⟨held, counted.received, ?_⟩
    rw [reception_frames_inert past events inert]
    exact counted.sequence
  | dropped _ _ idle =>
    refine ⟨held, ?_, ?_⟩
    · intro waiting
      rw [idle] at waiting
      cases waiting
    · intro waiting
      rw [idle] at waiting
      cases waiting
  | started hal f totalSize off before after input kind sender decoded inert =>
    have later : ∀ e ∈ after, e.Inert := fun e member => inert e (List.mem_append_right _ member)
    refine ⟨held, ?_, ?_⟩
    · intro _
      exact (first_frame_payload_length f totalSize off).2
    · intro _
      rw [reception_frames_started past before after f later]
      exact ⟨f, [], rfl, InSequence.nil, rfl⟩
  | continued hal f after input sized mine kind waiting expected partly inert =>
    refine ⟨held, ?_, ?_⟩
    · intro still
      have before := counted.received waiting
      have room := consecutive_payload_length c f
      rw [finish_rx_waiting _ still]
      simp only [continueRx]
      omega
    · intro still
      obtain ⟨first, rest, frames, numbered, next⟩ :=
        sequence_continued past c f counted waiting kind expected
      rw [finish_rx_waiting _ still, reception_frames_continued past after f inert, frames]
      exact ⟨first, rest ++ [f], rfl, numbered, next⟩
  | completed =>
    refine ⟨held, ?_, ?_⟩
    · intro waiting
      cases waiting
    · intro waiting
      cases waiting
  | single _ _ _ _ _ _ _ _ _ idle =>
    refine ⟨held, ?_, ?_⟩
    · intro waiting
      rw [idle] at waiting
      cases waiting
    · intro waiting
      rw [idle] at waiting
      cases waiting

/-! ## Requests -/

/-- What a reception completed by this frame looks like. -/
theorem completing_cases (l : Link) (hal : Nat) (f : CanFrame) (c : RxContext)
    (ready : l.ctx.rxState ≠ .complete) (done : completing l hal f = some c) :
    (byte f.data 0 &&& 0xF0 = isoTpPciSingleFrame ∧
        c.rxTotalSize = (singleFramePayload f).length ∧
        c.rxBuffer.take c.rxTotalSize = singleFramePayload f) ∨
      (byte f.data 0 &&& 0xF0 = isoTpPciConsecutive ∧ l.ctx.rxState = .waitCf ∧
        byte f.data 0 &&& 0x0F = l.ctx.rxExpectedSeq ∧
        (finishRx (continueRx l.ctx.toRxContext hal f)).rxState = .complete ∧
        c.rxTotalSize = l.ctx.rxTotalSize ∧
        c.rxBuffer = (continueRx l.ctx.toRxContext hal f).rxBuffer) := by
  unfold completing at done
  simp only at done
  generalize canAddrClassify f.canId = addr at done
  split at done
  · rename_i all
    obtain ⟨_, _, _, complete⟩ := all
    cases done
    by_cases single : byte f.data 0 &&& 0xF0 = isoTpPciSingleFrame
    · obtain ⟨_, _, request, _⟩ := receive_single_frame_cases (l.addressed addr) f
      rw [receive_single _ hal f single]
      exact Or.inl ⟨single, rfl, request⟩
    · by_cases first : byte f.data 0 &&& 0xF0 = isoTpPciFirstFrame
      · rw [receive_first _ hal f first] at complete
        rcases process_first_frame_cases (l.addressed addr) hal f with
          ⟨_, kept⟩ | ⟨_, idle, _⟩ | ⟨_, totalSize, off, _, begun, _⟩
        · rw [kept] at complete
          exact absurd complete ready
        · rw [idle] at complete
          cases complete
        · rw [begun] at complete
          cases complete
      · by_cases consecutive : byte f.data 0 &&& 0xF0 = isoTpPciConsecutive
        · rw [receive_consecutive _ hal f consecutive] at complete ⊢
          rcases receive_consecutive_cases (l.addressed addr) hal f with
            ⟨_, kept⟩ | ⟨_, _, dropped, _⟩ | ⟨waiting, expected, continued, _⟩
          · rw [kept] at complete
            exact absurd complete ready
          · rw [dropped] at complete
            cases complete
          · have fields := continue_rx_addressed l.ctx.toRxContext addr hal f
            rw [continued] at complete ⊢
            have finished : (finishRx (continueRx l.ctx.toRxContext hal f)).rxState =
                .complete := (congrArg RxContext.rxState fields).symm.trans complete
            obtain ⟨whole, _, _⟩ := finish_rx_complete _ finished waiting
            refine Or.inr ⟨consecutive, waiting, expected, finished, ?_, ?_⟩
            · refine (congrArg RxContext.rxTotalSize fields).trans ?_
              rw [whole]
              rfl
            · refine (congrArg RxContext.rxBuffer fields).trans ?_
              rw [whole]
        · have unknown : receive (l.addressed addr) hal f = l.addressed addr := by
            simp only [receive, if_neg single, if_neg first, if_neg consecutive]
          rw [unknown] at complete
          exact absurd complete ready
  · cases done

/-- The frames a request is made of, if this frame completes it. -/
def RequestOf (past : List Event) (f : CanFrame) (request : List UInt8) : Prop :=
  (byte f.data 0 &&& 0xF0 = isoTpPciSingleFrame ∧ request = singleFramePayload f) ∨
    ∃ first rest, receptionFrames past = first :: rest ∧
      byte first.data 0 &&& 0xF0 = isoTpPciFirstFrame ∧
      assembled first (rest ++ [f]) = some request ∧ InSequence (rest ++ [f])

/-- The layer above is shown a request that fits the buffer and was received. -/
theorem completing_sound (past : List Event) (l : Link) (hal : Nat) (f : CanFrame)
    (c : RxContext) (counted : Counted past l.ctx.toRxContext)
    (done : completing l hal f = some c) :
    c.rxTotalSize ≤ isoTpMaxMessageSize ∧
      (c.rxBuffer.take c.rxTotalSize).length = c.rxTotalSize ∧
      RequestOf past f (c.rxBuffer.take c.rxTotalSize) := by
  have frame : isoTpMaxMessageSize = 512 := rfl
  rcases completing_cases l hal f c counted.held.ready done with
    ⟨single, size, request⟩ | ⟨kind, waiting, expected, complete, size, buffer⟩
  · have short := single_frame_payload_length f
    refine ⟨by omega, ?_, Or.inl ⟨single, request⟩⟩
    rw [request, size]
  · obtain ⟨_, _, buffered⟩ := finish_rx_complete _ complete waiting
    obtain ⟨_, _, _, _, _, _, fitting⟩ := counted.held.frames waiting
    have fits := (fitting buffered).1
    obtain ⟨_, room⟩ := continue_rx_assembling _ l.ctx.toRxContext hal f counted.held.room
      (counted.held.frames waiting)
    obtain ⟨first, rest, frames, started, request⟩ :=
      completed_request past l.ctx.toRxContext hal f counted.held waiting complete
    obtain ⟨first', rest', frames', numbered, _⟩ :=
      sequence_continued past l.ctx.toRxContext f counted waiting kind expected
    rw [frames] at frames'
    obtain ⟨rfl, rfl⟩ := List.cons.inj frames'
    rw [size, buffer]
    refine ⟨fits, ?_, Or.inr ⟨first, rest, frames, started, request, numbered⟩⟩
    rw [List.length_take, room]
    omega

/-! ## Runs -/

/-- What a call stores, leaves behind and hands to the layer above. -/
structure SoundCall (above : Upper σ κ) (past : List Event) (w : World σ) (i : Input κ) :
    Prop where
  buffer : (step above w i).1.link.ctx.rxBuffer =
    stored w.link.ctx.rxBuffer (rxStore w.link.ctx.toRxContext i)
  inside : ∀ off payload, rxStore w.link.ctx.toRxContext i = some (off, payload) →
    off + payload.length ≤ isoTpMaxMessageSize
  settled : (step above w i).1.link.ctx.rxState = .idle ∨
    (step above w i).1.link.ctx.rxState = .waitCf
  received : (step above w i).1.link.ctx.rxState = .waitCf →
    (step above w i).1.link.ctx.rxReceived ≤ (step above w i).1.link.ctx.rxTotalSize
  request : ∀ hal f c, i = .frame hal f → completing w.link hal f = some c →
    c.rxTotalSize ≤ isoTpMaxMessageSize ∧
      (c.rxBuffer.take c.rxTotalSize).length = c.rxTotalSize ∧
      RequestOf past f (c.rxBuffer.take c.rxTotalSize)

/-- Every store of a counted reception is inside the buffer. -/
theorem store_inside (past : List Event) (c : RxContext) (i : Input κ) (counted : Counted past c)
    (off : Nat) (payload : List UInt8) (store : rxStore c i = some (off, payload)) :
    off + payload.length ≤ isoTpMaxMessageSize := by
  have frame : isoTpMaxMessageSize = 512 := rfl
  cases i with
  | frame hal f =>
    simp only [rxStore] at store
    split at store
    · cases store
    · split at store
      · cases store
        have short := single_frame_payload_length f
        omega
      · split at store
        · split at store
          · cases store
          · obtain ⟨found, _, kept⟩ := Option.bind_eq_some_iff.mp store
            split at kept
            · cases kept
            · cases kept
              have short := (first_frame_payload_length f found.1 found.2).1
              omega
        · split at store
          · rename_i accepted
            obtain ⟨_, waiting, _, buffered⟩ := accepted
            cases store
            have most := counted.received waiting
            have room := consecutive_payload_length c f
            obtain ⟨_, _, _, _, _, _, fitting⟩ := counted.held.frames waiting
            have fits := (fitting buffered).1
            omega
          · cases store
  | work hal k => cases store
  | tick now hal => cases store
  | registerStreamSink sink => cases store

/-- Every call is sound and keeps the count of the frames. -/
theorem step_sound (above : Upper σ κ) (past : List Event) (w : World σ) (i : Input κ)
    (counted : Counted past w.link.ctx.toRxContext) :
    SoundCall above past w i ∧
      Counted (past ++ (step above w i).2) (step above w i).1.link.ctx.toRxContext := by
  have ready := counted.held.ready
  have after := step_counted past _ _ _ i counted (step_reception above w i ready)
  refine ⟨⟨step_stores above w i, store_inside past _ i counted, ?_, after.received, ?_⟩,
    after⟩
  · cases state : (step above w i).1.link.ctx.rxState with
    | idle => exact Or.inl rfl
    | waitCf => exact Or.inr rfl
    | complete => exact absurd state after.held.ready
  · rintro hal f c rfl done
    exact completing_sound past w.link hal f c counted done

/-- In every run every call is sound, whatever the frames, the ticks, the changes of
the stream sink and the layer above. -/
theorem reassembly_sound (above : Upper σ κ) (sink : Bool) (faults : List Bool) (upper : σ)
    (inputs : List (Input κ)) :
    Run.Along (step above) (SoundCall above) [] (isoTpInit sink faults upper) inputs := by
  have start : Counted [] (isoTpInit sink faults upper).link.ctx.toRxContext :=
    ⟨⟨nofun, by simp [isoTpInit], nofun⟩, nofun, nofun⟩
  have unconditional := Run.along_of_forall (step above) (fun _ _ _ => True)
    (fun _ _ _ => trivial) [] (isoTpInit sink faults upper) inputs
  exact Run.along_of_invariant (step above) (fun _ _ _ => True) (SoundCall above)
    (fun past w => Counted past w.link.ctx.toRxContext)
    (fun past w i counted _ => (step_sound above past w i counted).2)
    (fun past w i counted _ => (step_sound above past w i counted).1) [] _ inputs start
    unconditional

end ObdSimulator.IsoTp
