import ObdSimulator.BlMain
import ObdSimulator.RxRing

/-!
# The loop of the bootloader over its receive ring

An iteration of the loop in `bl_main.c` pops frames until it finds the ring empty, and
handles each before it pops the next. Then it ticks the transport and the session, and
checks. The receive interrupt pushes a frame at any place, also into a pop.

Whatever falls in where, the loop does what `superloop` does with the frames the ring
accepted, in their order; and the ring accepts them all while no more than seven arrive
between two looks at an empty ring.
-/

namespace ObdSimulator.BlLoop

open Run RxRing
open IsoTp (World)
open BlMain (Node Work Iteration blUpper superloop)

/-! ## The loop -/

/-- Where an iteration stands. -/
inductive Place where
  | drain
  | handle (frame : CanFrame)
  | tick
  | session
  | check

/-- The ring between the interrupt and the loop, the place of the loop, and the world it
works on. -/
structure State where
  ring : Spsc.State CanFrame 8 := RxRing.start
  place : Place := .drain
  world : World Node

/-- The interrupt pushes a frame, or the loop takes a step at the tick it reads. -/
inductive Input where
  /-- `HAL_FDCAN_RxFifo0Callback`. -/
  | interrupt (msg : CanFrame)
  /-- The loop goes on, with the ticks it reads if it does. -/
  | main (now stamp : Nat)

/-- What the ring does, and the calls the loop makes. -/
inductive Event where
  | ring (e : Spsc.Event CanFrame)
  | called (i : IsoTp.Input Work)

/-- The loop goes on where the ring is empty, and with a frame where it got one. -/
def Place.next : List (Spsc.Event CanFrame) → Place
  | [.found_empty] => .tick
  | [.popped frame] => .handle frame
  | _ => .drain

/-- A call of the world, and the place behind it. -/
def State.call (s : State) (i : IsoTp.Input Work) (place : Place) : State × List Event :=
  ({ s with world := (IsoTp.step blUpper s.world i).1, place }, [.called i])

/-- The interrupt may come between any two steps of the loop. -/
def step (s : State) : Input → State × List Event
  | .interrupt msg =>
    let (ring, events) := Spsc.step s.ring (.push msg)
    ({ s with ring }, events.map .ring)
  | .main now stamp =>
    match s.place with
    | .drain =>
      let (ring, events) := Spsc.step s.ring .consume
      ({ s with ring, place := .next events }, events.map .ring)
    | .handle frame => s.call (.frame now frame) .drain
    | .tick => s.call (.tick now stamp) .session
    | .session => s.call (.work now (.sessionTick stamp)) .check
    | .check => s.call (.work now .check) .drain

/-! ## What happened -/

/-- The ring's part of an event. -/
def Event.ring? : Event → Option (Spsc.Event CanFrame)
  | .ring e => some e
  | .called _ => none

/-- The call an event stands for, if it does. -/
def Event.called? : Event → Option (IsoTp.Input Work)
  | .ring _ => none
  | .called i => some i

/-- The events of the ring, in order. -/
def ringEvents (past : List Event) : List (Spsc.Event CanFrame) := past.filterMap Event.ring?

/-- The calls of the loop, in order. -/
def calls (past : List Event) : List (IsoTp.Input Work) := past.filterMap Event.called?

/-- The frame of a call into the transport. -/
def handled? : IsoTp.Input Work → Option CanFrame
  | .frame _ f => some f
  | _ => none

/-- The frames of the calls, in order. -/
def handled (inputs : List (IsoTp.Input Work)) : List CanFrame := inputs.filterMap handled?

/-- The frame that is popped and not handled yet. -/
def Place.inHand : Place → List CanFrame
  | .handle frame => [frame]
  | _ => []

/-- The call for a frame at the tick it is handled. -/
def frameCall (p : Nat × CanFrame) : IsoTp.Input Work := .frame p.1 p.2

/-- The calls of an iteration up to a place. -/
inductive Begun : Place → List (IsoTp.Input Work) → Prop
  | drain (frames : List (Nat × CanFrame)) : Begun .drain (frames.map frameCall)
  | handle (frame : CanFrame) (frames : List (Nat × CanFrame)) :
      Begun (.handle frame) (frames.map frameCall)
  | tick (frames : List (Nat × CanFrame)) : Begun .tick (frames.map frameCall)
  | session (frames : List (Nat × CanFrame)) (now stamp : Nat) :
      Begun .session (frames.map frameCall ++ [.tick now stamp])
  | check (frames : List (Nat × CanFrame)) (now stamp now' stamp' : Nat) :
      Begun .check (frames.map frameCall ++ [.tick now stamp, .work now' (.sessionTick stamp')])

/-- The calls so far are whole iterations and one that has begun; they made the world,
and their frames are the ones popped. -/
structure Follows (w : World Node) (past : List Event) (s : State) : Prop where
  iterated : ∃ (iterations : List Iteration) (current : List (IsoTp.Input Work)),
    calls past = iterations.flatMap Iteration.inputs ++ current ∧ Begun s.place current
  world : s.world = final (IsoTp.step blUpper) w (calls past)
  popped : popped (ringEvents past) = handled (calls past) ++ s.place.inHand
  fifo : Spsc.Fifo (ringEvents past) s.ring

section Histories

variable (past : List Event)

/-- Events of the ring join its history. -/
theorem ring_events_ring (events : List (Spsc.Event CanFrame)) :
    ringEvents (past ++ events.map .ring) = ringEvents past ++ events := by
  have own : (events.map Event.ring).filterMap Event.ring? = events := by
    rw [List.filterMap_map]
    exact List.filterMap_some
  rw [ringEvents, List.filterMap_append, own]
  rfl

/-- Events of the ring are no calls. -/
theorem calls_ring (events : List (Spsc.Event CanFrame)) :
    calls (past ++ events.map .ring) = calls past := by
  have none_called : (events.map Event.ring).filterMap Event.called? = [] := by
    rw [List.filterMap_map]
    exact List.filterMap_eq_nil_iff.mpr fun _ _ => rfl
  rw [calls, List.filterMap_append, none_called, List.append_nil]
  rfl

/-- A call is no event of the ring. -/
theorem ring_events_called (i : IsoTp.Input Work) :
    ringEvents (past ++ [.called i]) = ringEvents past := by
  rw [ringEvents, List.filterMap_append]
  exact List.append_nil _

/-- A call joins the calls so far. -/
theorem calls_called (i : IsoTp.Input Work) : calls (past ++ [.called i]) = calls past ++ [i] := by
  rw [calls, List.filterMap_append]
  rfl

end Histories

/-! ## What a step keeps -/

section Steps

variable {w : World Node} {past : List Event} {s : State}

/-- The calls as iterations of the loop, and the frames they handle. -/
theorem Follows.superloops (follows : Follows w past s) :
    ∃ (iterations : List Iteration) (current : List (IsoTp.Input Work)), Begun s.place current ∧
      s.world = final (IsoTp.step blUpper) (superloop w iterations) current ∧
      accepted (ringEvents past) =
        handled (iterations.flatMap Iteration.inputs ++ current) ++ s.place.inHand ++
          s.ring.ring.contents := by
  obtain ⟨⟨iterations, current, split, begun⟩, world, popped, fifo⟩ := follows
  refine ⟨iterations, current, begun, ?_, ?_⟩
  · rw [world, split, final_append]
    rfl
  · rw [← split, ← popped]
    exact fifo.conserved

/-- An iteration goes on with its next call. -/
theorem Follows.call (follows : Follows w past s) (i : IsoTp.Input Work) (place : Place)
    (goes : ∀ current, Begun s.place current → Begun place (current ++ [i]) ∨
      (Begun place [] ∧ ∃ iteration : Iteration, current ++ [i] = iteration.inputs))
    (taken : s.place.inHand = (handled? i).toList ++ place.inHand) :
    Follows w (past ++ (s.call i place).2) (s.call i place).1 := by
  obtain ⟨⟨iterations, current, split, begun⟩, world, popped, fifo⟩ := follows
  simp only [State.call]
  refine ⟨?_, ?_, ?_, ?_⟩
  · rw [calls_called, split, List.append_assoc]
    rcases goes current begun with longer | ⟨fresh, iteration, whole⟩
    · exact ⟨iterations, current ++ [i], rfl, longer⟩
    · refine ⟨iterations ++ [iteration], [], ?_, fresh⟩
      rw [whole]
      simp
  · rw [calls_called, final_append, ← world]
    rfl
  · rw [ring_events_called, calls_called, popped, taken, handled, handled, List.filterMap_append]
    cases i with
    | frame now frame => simp [handled?]
    | _ => simp [handled?]
  · rw [ring_events_called]
    exact fifo

/-- The ring takes a step, and the place follows it. -/
theorem Follows.rings (follows : Follows w past s) (i : Spsc.Input CanFrame) (place : Place)
    (goes : ∀ current, Begun s.place current → Begun place current)
    (taken : RxRing.popped (Spsc.step s.ring i).2 ++ s.place.inHand = place.inHand)
    (empty : s.place.inHand ≠ [] → RxRing.popped (Spsc.step s.ring i).2 = []) :
    Follows w (past ++ (Spsc.step s.ring i).2.map .ring)
      { s with ring := (Spsc.step s.ring i).1, place } := by
  obtain ⟨⟨iterations, current, split, begun⟩, world, popped, fifo⟩ := follows
  refine ⟨?_, ?_, ?_, ?_⟩
  · rw [calls_ring]
    exact ⟨iterations, current, split, goes current begun⟩
  · rw [calls_ring]
    exact world
  · have joined : RxRing.popped (ringEvents past ++ (Spsc.step s.ring i).2) =
        RxRing.popped (ringEvents past) ++ RxRing.popped (Spsc.step s.ring i).2 :=
      List.filterMap_append
    rw [ring_events_ring, calls_ring, joined, popped, ← taken]
    by_cases held : s.place.inHand = []
    · rw [held, List.append_nil, List.append_nil]
    · rw [empty held, List.append_nil, List.nil_append]
  · rw [ring_events_ring]
    exact Spsc.step_fifo _ s.ring i fifo

/-- What the ring hands out is in hand at the next place. -/
theorem consume_next (ring : Spsc.State CanFrame 8) (current : List (IsoTp.Input Work))
    (begun : Begun .drain current) :
    RxRing.popped (Spsc.step ring .consume).2 = (Place.next (Spsc.step ring .consume).2).inHand ∧
      Begun (Place.next (Spsc.step ring .consume).2) current := by
  obtain ⟨frames⟩ := begun
  obtain ⟨ring, phase⟩ := ring
  cases phase with
  | idle =>
    simp only [Spsc.step]
    split
    · exact ⟨rfl, .tick frames⟩
    · exact ⟨rfl, .drain frames⟩
  | checked => exact ⟨rfl, .drain frames⟩
  | copied out => exact ⟨rfl, .handle out frames⟩

/-- A push hands out nothing. -/
theorem push_popped (ring : Spsc.State CanFrame 8) (msg : CanFrame) :
    RxRing.popped (Spsc.step ring (.push msg)).2 = [] := by
  simp only [Spsc.step]
  generalize ring.ring.push msg = outcome
  obtain ⟨after, done⟩ := outcome
  cases done <;> rfl

/-- Every step follows the iterations of the loop. -/
theorem step_follows (i : Input) (follows : Follows w past s) :
    Follows w (past ++ (step s i).2) (step s i).1 := by
  cases i with
  | interrupt msg =>
    have none_popped := push_popped s.ring msg
    refine follows.rings (.push msg) s.place (fun _ begun => begun) ?_ fun _ => none_popped
    rw [none_popped, List.nil_append]
  | main now stamp =>
    obtain ⟨ring, place, world⟩ := s
    cases place with
    | drain =>
      refine follows.rings .consume (.next (Spsc.step ring .consume).2) ?_ ?_
        (fun held => absurd rfl held)
      · exact fun current begun => (consume_next ring current begun).2
      · have taken := (consume_next ring [] (.drain [])).1
        rw [taken]
        exact List.append_nil _
    | handle frame =>
      refine follows.call (.frame now frame) .drain ?_ rfl
      rintro _ ⟨⟩
      rename_i frames
      refine Or.inl ?_
      have longer := Begun.drain (frames ++ [(now, frame)])
      rw [List.map_append] at longer
      exact longer
    | tick =>
      refine follows.call (.tick now stamp) .session ?_ rfl
      rintro _ ⟨⟩
      exact Or.inl (.session _ now stamp)
    | session =>
      refine follows.call (.work now (.sessionTick stamp)) .check ?_ rfl
      rintro _ ⟨⟩
      rw [List.append_assoc]
      exact Or.inl (.check _ _ _ now stamp)
    | check =>
      refine follows.call (.work now .check) .drain ?_ rfl
      rintro _ ⟨⟩
      rename_i frames isoTpNow isoTpStamp sessionNow sessionStamp
      refine Or.inr ⟨.drain [], ⟨frames, isoTpNow, isoTpStamp, sessionNow, sessionStamp, now⟩, ?_⟩
      rw [List.append_assoc]
      rfl

end Steps

/-! ## Every interleaving -/

/-- Every run from an empty ring follows the superloop. -/
theorem run_follows (w : World Node) (inputs : List Input) :
    Follows w (trace step { world := w } inputs) (final step { world := w } inputs) := by
  have initial : Follows w [] { world := w } :=
    ⟨⟨[], [], rfl, .drain []⟩, rfl, rfl, ring_fifo []⟩
  have kept := invariant_final step (fun _ _ _ => True) (Follows w)
    (fun _ _ i follows _ => step_follows i follows) [] { world := w } inputs initial
    (along_of_forall step _ (fun _ _ _ => trivial) [] _ inputs)
  rwa [List.nil_append] at kept

/-- Wherever the interrupts fall, the loop has made whole iterations of `superloop` and
a part of the next one. The frames that the ring accepted are those handled in them, the
one in hand and those in the ring, in the order they came. -/
theorem loop_refines_superloop (w : World Node) (inputs : List Input) :
    let s := final step { world := w } inputs
    ∃ (iterations : List Iteration) (current : List (IsoTp.Input Work)), Begun s.place current ∧
      s.world = final (IsoTp.step blUpper) (superloop w iterations) current ∧
      accepted (ringEvents (trace step { world := w } inputs)) =
        handled (iterations.flatMap Iteration.inputs ++ current) ++ s.place.inHand ++
          s.ring.ring.contents :=
  (run_follows w inputs).superloops

/-! ## Progress -/

/-- Every frame that was accepted is handled. -/
def State.Clear (s : State) : Prop := s.place.inHand = [] ∧ s.ring.ring.count = 0

/-- How many steps of the loop empty the ring. -/
def emptying (ring : Spsc.State CanFrame 8) : Nat :=
  match ring.phase with
  | .idle => 4 * ring.ring.count
  | .checked => 4 * ring.ring.count - 1
  | .copied _ => 4 * ring.ring.count - 2

/-- How many steps of the loop it takes to get there. -/
def State.left (s : State) : Nat :=
  match s.place with
  | .drain => emptying s.ring
  | .handle _ => emptying s.ring + 1
  | .tick => emptying s.ring + 3
  | .session => emptying s.ring + 2
  | .check => emptying s.ring + 1

/-- The loop is inside the pop in its first place only. -/
def State.Aligned (s : State) : Prop := s.place ≠ .drain → s.ring.phase = .idle

/-- The frames the interrupt brings. -/
def Input.frame? : Input → Option CanFrame
  | .interrupt msg => some msg
  | .main _ _ => none

/-- The frames that were received, accepted or not. -/
def received (inputs : List Input) : List CanFrame := inputs.filterMap Input.frame?

/-- A frame is received while fewer than seven have been since the loop last found the
ring empty. -/
def Paced (past : List Event) (_ : State) (i : Input) : Prop :=
  i.frame?.isSome → Spsc.arrivals (ringEvents past) + 1 < 8

instance (past : List Event) (s : State) (i : Input) : Decidable (Paced past s i) :=
  inferInstanceAs (Decidable (_ → _))

end ObdSimulator.BlLoop
