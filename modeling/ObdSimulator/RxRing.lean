import ObdSimulator.Fdcan
import ObdSimulator.Lib.Ring

/-!
# The receive ring of the bootloader

The receive interrupt pushes frames into `s_bl_ring` and the main loop pops them with
`FDCAN_BL_Pop`, which an interrupt may fall into at any place. Every frame that is
accepted comes out once, unchanged and in its turn. The ring of eight is full with
seven frames, though: the eighth is dropped where a queue of `CAN_RX_QUEUE_LEN` frames
still has room.
-/

namespace ObdSimulator.RxRing

open Spsc Run

/-- `CAN_RX_QUEUE_LEN`. -/
def canRxQueueLen : Nat := 8

/-! ## The ring as the source has it -/

/-- A frame of a cleared buffer. -/
def zeroFrame : CanFrame := ⟨0, List.replicate 64 0, 0, by simp, by omega⟩

/-- `s_bl_ring` and its two indices at power-up. -/
def blRing : RingBuffer CanFrame 8 := ⟨fun _ => zeroFrame, 0, 0⟩

/-- `bl_ring_push`: the frame is lost when the ring is full. -/
def blRingPush (r : RingBuffer CanFrame 8) (msg : CanFrame) : RingBuffer CanFrame 8 :=
  (r.push msg).1

/-- `FDCAN_BL_Pop` when no interrupt falls into it. -/
def fdcanBlPop (r : RingBuffer CanFrame 8) : RingBuffer CanFrame 8 × Option CanFrame :=
  if r.tail = r.head then (r, none) else (r.advance, some (r.cells r.tail))

/-- The interrupt's step is the push. -/
theorem step_push (r : RingBuffer CanFrame 8) (phase : Phase CanFrame) (msg : CanFrame) :
    (step ⟨r, phase⟩ (.push msg)).1 = ⟨blRingPush r msg, phase⟩ := by
  simp only [step, blRingPush]
  generalize r.push msg = outcome
  obtain ⟨ring, done⟩ := outcome
  cases done <;> rfl

/-- The main loop's steps make up the pop: one where the ring is empty, else three. -/
theorem steps_pop (r : RingBuffer CanFrame 8) :
    match fdcanBlPop r with
    | (after, none) => step ⟨r, .idle⟩ .consume = (⟨after, .idle⟩, [.found_empty])
    | (after, some frame) =>
      final step ⟨r, .idle⟩ [.consume, .consume, .consume] = ⟨after, .idle⟩ ∧
        trace step ⟨r, .idle⟩ [.consume, .consume, .consume] = [.popped frame] := by
  by_cases empty : r.tail = r.head
  · simp only [fdcanBlPop, if_pos empty, step]
  · simp [fdcanBlPop, empty, final, trace, step]

/-! ## The rule -/

/-- The ring at power-up, the main loop outside the pop. -/
def start : State CanFrame 8 := ⟨blRing, .idle⟩

/-- The frames accepted so far, and those popped. -/
def accepted (events : List (Event CanFrame)) : List CanFrame := events.filterMap Event.accepted?

/-- The frames that were popped, in order. -/
def popped (events : List (Event CanFrame)) : List CanFrame := events.filterMap Event.popped?

/-- How many accepted frames have not been popped. -/
def pending (past : List (Event CanFrame)) : Nat := (accepted past).length - (popped past).length

/-- A step that drops a frame finds the stated number of frames pending. -/
def DropsAtDepth (past : List (Event CanFrame)) (s : State CanFrame 8) (i : Input CanFrame) :
    Prop :=
  ∀ msg, .dropped msg ∈ (step s i).2 → pending past = canRxQueueLen

/-- A queue of the stated depth: at every point the popped frames are the front of the
accepted ones, the main loop alone gets all the others, and frames are dropped at the
depth only. -/
structure QueueOfDepth (inputs : List (Input CanFrame)) : Prop where
  order : ∀ before, before <+: inputs →
    popped (trace step start before) <+: accepted (trace step start before)
  complete : ∃ steps, popped (trace step start (inputs ++ List.replicate steps .consume)) =
    accepted (trace step start inputs)
  depth : Along step DropsAtDepth [] start inputs

/-- The step is no push into a ring that holds seven frames. -/
def RoomLeft (s : State CanFrame 8) (i : Input CanFrame) : Prop :=
  ∀ msg, i = .push msg → s.ring.count ≠ 7

/-! ## Every interleaving -/

/-- Frames leave the ring in the order they came. -/
theorem ring_fifo (inputs : List (Input CanFrame)) :
    Fifo (trace step start inputs) (final step start inputs) :=
  run_fifo blRing rfl inputs

/-- What is pending by the history is what the ring holds. -/
theorem pending_count (past : List (Event CanFrame)) (s : State CanFrame 8)
    (fifo : Fifo past s) : pending past = s.ring.count := by
  have lengths := congrArg List.length fifo.conserved
  rw [List.length_append, RingBuffer.contents_length] at lengths
  rw [pending, accepted, popped, lengths]
  omega

/-- The frames popped are the accepted ones in order, whatever the interleaving. -/
theorem popped_prefix (inputs : List (Input CanFrame)) :
    popped (trace step start inputs) <+: accepted (trace step start inputs) :=
  ⟨_, (ring_fifo inputs).conserved.symm⟩

/-- Nothing that was accepted is lost. -/
theorem all_popped (inputs : List (Input CanFrame)) : ∃ steps,
    popped (trace step start (inputs ++ List.replicate steps .consume)) =
      accepted (trace step start inputs) := by
  have fifo := ring_fifo inputs
  obtain ⟨steps, drained⟩ := drains _ fifo.steady
  refine ⟨steps, ?_⟩
  rw [trace_append, popped, List.filterMap_append, drained, accepted, fifo.conserved]

/-- A full ring holds seven frames, so a dropped one never finds eight. -/
theorem drops_at_depth_iff (past : List (Event CanFrame)) (s : State CanFrame 8)
    (i : Input CanFrame) (fifo : Fifo past s) : DropsAtDepth past s i ↔ RoomLeft s i := by
  have seven : s.ring.count + 1 = 8 ↔ s.ring.count = 7 := by omega
  constructor
  · rintro only_full msg rfl held
    have full := only_full msg ((dropped_iff s _ msg).mpr ⟨rfl, seven.mpr held⟩)
    rw [pending_count past s fifo, held] at full
    cases full
  · intro room msg lost
    obtain ⟨pushed, full⟩ := (dropped_iff s i msg).mp lost
    exact absurd (seven.mp full) (room msg pushed)

/-- The ring drops at the stated depth only, exactly if no push finds seven frames. -/
theorem depth_iff (inputs : List (Input CanFrame)) :
    Along step DropsAtDepth [] start inputs ↔
      Along step (fun _ s i => RoomLeft s i) [] start inputs :=
  along_iff_of_invariant step DropsAtDepth (fun _ s i => RoomLeft s i) Fifo
    (fun past s i fifo _ => step_fifo past s i fifo) drops_at_depth_iff [] start inputs
    (ring_fifo [])

/-- The ring is a queue of its stated depth in exactly those runs in which no push
finds seven frames in it. -/
theorem queue_of_depth_iff (inputs : List (Input CanFrame)) :
    QueueOfDepth inputs ↔ Along step (fun _ s i => RoomLeft s i) [] start inputs := by
  constructor
  · exact fun queue => (depth_iff inputs).mp queue.depth
  · intro room
    exact ⟨fun before _ => popped_prefix before, all_popped inputs, (depth_iff inputs).mpr room⟩

/-- Eight frames received before the main loop gets to pop: the eighth is dropped with
seven pending. -/
theorem eighth_frame_dropped :
    trace step start (List.replicate 8 (.push zeroFrame)) =
      List.replicate 7 (.accepted zeroFrame) ++ [.dropped zeroFrame] ∧
    pending (List.replicate 7 (.accepted zeroFrame)) = 7 ∧
    ¬ QueueOfDepth (List.replicate 8 (.push zeroFrame)) := by
  refine ⟨rfl, rfl, ?_⟩
  intro queue
  have room := (depth_iff _).mp queue.depth
  have last := (along_append step _ [] start (List.replicate 7 (.push zeroFrame))
    [.push zeroFrame]).mp room
  exact last.2.1 zeroFrame rfl rfl

end ObdSimulator.RxRing
