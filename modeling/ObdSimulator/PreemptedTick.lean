import ObdSimulator.ClearedIdentifier
import ObdSimulator.Lib.Run
import ObdSimulator.ServiceAccess

/-!
# The periodic scheduler under preemption

`UDS_PeriodicTick` runs in the main task. The receive task has the higher priority and
comes in between any two of the tick's accesses to the tables, has a request dispatched
and is done before the tick goes on. Critical sections make the assembly of a frame one
access, and the end of a subscription another; all the other accesses stand alone.

A tick into which nothing falls that changes the tables or their sources is the one of
`udsPeriodicTick`. In any other, a frame is still the data of one definition at one
moment, but the identifier in front may be that of another.
-/

namespace ObdSimulator.PreemptedTick

open UdsService NorFlash Bytes Run

/-- The next access of the tick and what it holds for it; `k` is the subscription it is
at. -/
inductive Place where
  | outside
  | test (k : Nat)
  | load (k : Nat)
  | store (k : Nat) (counter : UInt8)
  | compare (k : Nat) (counter : UInt8)
  | reset (k : Nat)
  /-- The identifier is read for `dyn_find`. -/
  | name (k : Nat)
  /-- `dyn_find` is at slot `i`. -/
  | find (k : Nat) (did : UInt16) (i : Nat)
  /-- `dyn_find` has returned slot `i`. -/
  | assemble (k i : Nat)
  | stop (k : Nat)
  | label (k : Nat) (data : List UInt8)
  | send (k : Nat) (frame : List UInt8)
deriving DecidableEq

/-- The subscription whose turn it is, once it has been found active. -/
def Place.turn : Place → Option Nat
  | .outside | .test _ => none
  | .load k | .store k _ | .compare k _ | .reset k | .name k | .find k _ _ | .assemble k _
  | .stop k | .label k _ | .send k _ => some k

/-- The application and the place the tick has come to. -/
structure State where
  app : App
  place : Place := .outside

/-- The main task takes a step, or the CAN task runs a whole call between two. -/
inductive Input where
  /-- The main task goes on, over the memory it finds. -/
  | main (mem : Memory)
  /-- The receive task has a request dispatched. -/
  | request (mem : Memory) (now : Nat) (req : List UInt8) (reqLen : Nat) (addr : AddrType)

/-- What the main task sends and the CAN task answers. -/
inductive Event where
  | sent (frame : List UInt8)
  | answered (response : List UInt8)
deriving DecidableEq

/-- A subscription of the table. -/
def sub (s : App) (k : Nat) : PeriodicSub := s.periodic.getD k {}

/-- A slot of the table. -/
def slot (s : App) (i : Nat) : DynSlot := s.dyn.getD i {}

/-- One access of the tick; it has no event but the frame it sends. -/
def State.runMain (s : State) (mem : Memory) : State × List Event :=
  let at_place (place : Place) : State × List Event := ({ s with place }, [])
  let write (k : Nat) (p : PeriodicSub) (place : Place) : State × List Event :=
    (⟨{ s.app with periodic := s.app.periodic.set k p }, place⟩, [])
  match s.place with
  | .outside => at_place (.test 0)
  | .test k =>
    if udsPeriodicSlots ≤ k then at_place .outside
    else if (sub s.app k).divider = 0 then at_place (.test (k + 1))
    else at_place (.load k)
  | .load k => at_place (.store k (sub s.app k).counter)
  | .store k counter =>
    write k { sub s.app k with counter := counter + 1 } (.compare k (counter + 1))
  | .compare k counter =>
    if counter < (sub s.app k).divider then at_place (.test (k + 1)) else at_place (.reset k)
  | .reset k => write k { sub s.app k with counter := 0 } (.name k)
  | .name k => at_place (.find k (periodicDid (sub s.app k).pdid) 0)
  | .find k did i =>
    if udsDynSlots ≤ i then at_place (.stop k)
    else if (slot s.app i).did = did then at_place (.assemble k i)
    else at_place (.find k did (i + 1))
  | .assemble k i =>
    let data := dynAssemble mem s.app (slot s.app i)
    if data = [] then at_place (.stop k) else at_place (.label k data)
  | .stop k => write k { sub s.app k with divider := 0 } (.test (k + 1))
  | .label k data => at_place (.send k ((sub s.app k).pdid :: data))
  | .send k frame => ({ s with place := .test (k + 1) }, [.sent frame])

/-- One step of either task. -/
def step (s : State) : Input → State × List Event
  | .main mem => s.runMain mem
  | .request mem now req reqLen addr =>
    let (app, response) := udsDispatchRequest mem s.app now req reqLen addr
    ({ s with app }, [.answered response])

/-- The frames of the main task. -/
def Event.frame? : Event → Option (List UInt8)
  | .sent frame => some frame
  | .answered _ => none

/-- The frames of a run. -/
def frames (events : List Event) : List (List UInt8) := events.filterMap Event.frame?

/-! ## After a stop -/

/-- No subscription is active. -/
def Stopped (s : App) : Prop := ∀ k, (sub s k).divider = 0

/-- Not a ReadDataByPeriodicIdentifier. -/
def Input.Unsubscribing : Input → Prop
  | .main _ => True
  | .request _ _ req _ _ => byte req 0 ≠ udsSidReadDataPeriodic

instance : ∀ i : Input, Decidable i.Unsubscribing
  | .main _ => isTrue trivial
  | .request _ _ _ _ _ => inferInstanceAs (Decidable (_ ≠ _))

/-- How many frames the tick may still send without a subscription. -/
def Place.owed : Place → Nat
  | .outside | .test _ | .stop _ => 0
  | _ => 1

/-- The main task owes at most one frame. -/
theorem Place.owed_le (p : Place) : p.owed ≤ 1 := by
  cases p <;> simp [owed]

/-- Writing one subscription leaves the others alone. -/
theorem sub_set (s : App) (k j : Nat) (p : PeriodicSub) :
    sub { s with periodic := s.periodic.set k p } j =
      if k = j ∧ k < s.periodic.length then p else sub s j := by
  simp only [sub, List.getD_eq_getElem?_getD, List.getElem?_set]
  by_cases same : k = j
  · by_cases inside : j < s.periodic.length
    · simp [same, inside]
    · simp [same, inside]
  · simp [same]

/-- What is written back over a subscription that is not active is not active. -/
theorem Stopped.set {s : App} (stopped : Stopped s) (k : Nat) (p : PeriodicSub)
    (idle : p.divider = 0) : Stopped { s with periodic := s.periodic.set k p } := by
  intro j
  rw [sub_set]
  split
  · exact idle
  · exact stopped j

/-- Stopping all leaves none. -/
theorem Stopped.stop_all (s : App) :
    Stopped { s with periodic := udsPeriodicStopAll s.periodic } := by
  intro k
  simp only [sub, udsPeriodicStopAll, List.getD_eq_getElem?_getD, List.getElem?_map]
  cases s.periodic[k]? <;> rfl

/-- Entering a session starts no subscription. -/
theorem Stopped.enter {s : App} (stopped : Stopped s) (now : Nat) (t : SessionType) :
    Stopped (enterSession s now t) := by
  unfold enterSession
  split
  · exact Stopped.stop_all s
  · exact stopped

/-- 0x10 starts no subscription. -/
theorem Stopped.session_control {s : App} (stopped : Stopped s) (now : Nat) (req : List UInt8)
    (reqLen : Nat) : Stopped (handleSessionControl s now req reqLen).1 := by
  unfold handleSessionControl
  simp only
  split
  · exact stopped
  · split
    · exact stopped
    · cases SessionType.ofByte (subFunction (byte req 1)) with
      | none => exact stopped
      | some t =>
        simp only
        split
        · exact stopped.enter now t
        · exact stopped.enter now t

/-- No other service makes a subscription active. -/
theorem Stopped.request {s : App} (stopped : Stopped s) (mem : Memory) (now : Nat)
    (req : List UInt8) (reqLen : Nat) (addr : AddrType)
    (other : byte req 0 ≠ udsSidReadDataPeriodic) :
    Stopped (udsDispatchRequest mem s now req reqLen addr).1 := by
  have still : Stopped (stamped s now) := stopped
  cases reaches : admitted req reqLen addr with
  | false =>
    rw [dispatch_ignored mem s now req reqLen addr reaches]
    exact stopped
  | true =>
    rw [dispatch_served mem s now req reqLen addr reaches]
    by_cases control : byte req 0 = udsSidDiagSessionCtrl
    · rw [serve_session_control mem (stamped s now) now req reqLen control]
      exact still.session_control now req reqLen
    · have kept := (serve_frame mem (stamped s now) now req reqLen).periodic control other
      intro k
      rw [sub, kept]
      exact still k

/-- Without a subscription the tick goes on to at most one frame. -/
theorem main_owed (s : State) (mem : Memory) (stopped : Stopped s.app) :
    Stopped (s.runMain mem).1.app ∧
      (frames (s.runMain mem).2).length + (s.runMain mem).1.place.owed ≤ s.place.owed := by
  obtain ⟨app, place⟩ := s
  cases place with
  | outside => exact ⟨stopped, Nat.le_refl _⟩
  | test k =>
    have idle : (sub app k).divider = 0 := stopped k
    simp only [State.runMain, idle, if_true]
    split <;> exact ⟨stopped, Nat.le_refl _⟩
  | load k => exact ⟨stopped, Nat.le_refl _⟩
  | store k counter => exact ⟨stopped.set k _ (stopped k), Nat.le_refl _⟩
  | compare k counter =>
    simp only [State.runMain]
    split
    · exact ⟨stopped, Nat.zero_le _⟩
    · exact ⟨stopped, Nat.le_refl _⟩
  | reset k => exact ⟨stopped.set k _ (stopped k), Nat.le_refl _⟩
  | name k => exact ⟨stopped, Nat.le_refl _⟩
  | find k did i =>
    simp only [State.runMain]
    split
    · exact ⟨stopped, Nat.zero_le _⟩
    · split <;> exact ⟨stopped, Nat.le_refl _⟩
  | assemble k i =>
    simp only [State.runMain]
    split
    · exact ⟨stopped, Nat.zero_le _⟩
    · exact ⟨stopped, Nat.le_refl _⟩
  | stop k => exact ⟨stopped.set k _ rfl, Nat.le_refl _⟩
  | label k data => exact ⟨stopped, Nat.le_refl _⟩
  | send k frame => exact ⟨stopped, Nat.le_refl _⟩

/-- Without subscriptions a run sends at most what is owed. -/
theorem run_owed (s : State) (inputs : List Input) (stopped : Stopped s.app)
    (others : ∀ i ∈ inputs, i.Unsubscribing) :
    (frames (trace step s inputs)).length + (final step s inputs).place.owed ≤ s.place.owed := by
  have joined (before after : List Event) : frames (before ++ after) =
      frames before ++ frames after := List.filterMap_append
  induction inputs generalizing s with
  | nil => exact Nat.le_of_eq (Nat.zero_add _)
  | cons i rest ih =>
    simp only [trace, final, joined, List.length_append]
    have here : Stopped (step s i).1.app ∧
        (frames (step s i).2).length + (step s i).1.place.owed ≤ s.place.owed := by
      cases i with
      | main mem => exact main_owed s mem stopped
      | request mem now req reqLen addr =>
        exact ⟨stopped.request mem now req reqLen addr (others _ List.mem_cons_self),
          Nat.le_of_eq (Nat.zero_add _)⟩
    have later := ih _ here.1 fun j member => others j (List.mem_cons_of_mem i member)
    omega

/-- Once no subscription is active, at most one frame is sent until the next
ReadDataByPeriodicIdentifier, however requests and ticks interleave; none, if the stop
fell between two ticks. -/
theorem stopped_sends_one (s : State) (inputs : List Input) (stopped : Stopped s.app)
    (others : ∀ i ∈ inputs, i.Unsubscribing) :
    (frames (trace step s inputs)).length ≤ 1 ∧
      (s.place = .outside → frames (trace step s inputs) = []) := by
  have owed := run_owed s inputs stopped others
  constructor
  · exact (Nat.le_trans (Nat.le_add_right _ _) owed).trans s.place.owed_le
  · intro outside
    rw [outside] at owed
    exact List.length_eq_zero_iff.mp (Nat.le_zero.mp (Nat.le_trans (Nat.le_add_right _ _) owed))

/-- An application that sends the first three bytes of the VIN, with a frame due. -/
def vinSubscribed : App where
  session := { sessionType := .extended }
  dyn := ⟨0xF201, [{ srcDid := udsDidVin, position := 1, size := 3 }]⟩ :: List.replicate 3 {}
  periodic := ⟨0x01, 2, 1⟩ :: List.replicate 3 {}

/-- The tick has found the subscription active when the tester returns to Default. -/
def overtaken : State :=
  final step ⟨vinSubscribed, .test 0⟩
    [.main fun _ => 0xFF, .request (fun _ => 0xFF) 0 [0x10, 0x01] 2 .physical]

/-- The frame of a subscription that was stopped while it was assembled. -/
theorem overtaken_sends_one :
    let rest := List.replicate 9 (.main fun _ => 0xFF)
    (frames (trace step overtaken rest)).length ≤ 1 ∧
      frames (trace step overtaken rest) = [0x01 :: vehicleVin.take 3] := by
  have stopped : Stopped overtaken.app :=
    Stopped.stop_all { stamped vinSubscribed 0 with
      session := diagSessionEnter (stamped vinSubscribed 0).session 0 .default }
  refine ⟨(stopped_sends_one overtaken _ stopped ?_).1, by decide +kernel⟩
  intro i member
  rw [List.eq_of_mem_replicate member]
  trivial

/-! ## What is in a frame -/

section Frames

variable (app : App)

/-- The application after some inputs, the first of which found the tick outside. -/
def reached (inputs : List Input) : State := final step { app } inputs

/-- The data were assembled at a moment of the run from a definition of that moment. -/
def Assembled (inputs : List Input) (data : List UInt8) : Prop :=
  ∃ before mem, before ++ [.main mem] <+: inputs ∧ ∃ x ∈ (reached app before).app.dyn,
    data = dynAssemble mem (reached app before).app x ∧ data ≠ []

/-- The frame is such data behind the identifier that a subscription had later. -/
def Labelled (inputs : List Input) (frame : List UInt8) : Prop :=
  ∃ before k data, before <+: inputs ∧ k < udsPeriodicSlots ∧ Assembled app before data ∧
    frame = (sub (reached app before).app k).pdid :: data

/-- What the tick holds and what it has sent was assembled. -/
structure Composed (inputs : List Input) : Prop where
  inside : ∀ k, (reached app inputs).place.turn = some k → k < udsPeriodicSlots
  label : ∀ k data, (reached app inputs).place = .label k data → Assembled app inputs data
  send : ∀ k frame, (reached app inputs).place = .send k frame → Labelled app inputs frame
  sent : ∀ frame ∈ frames (trace step { app } inputs), Labelled app inputs frame

variable {app}

/-- What was assembled stays so in a longer run. -/
theorem Assembled.later {inputs : List Input} {data : List UInt8}
    (assembled : Assembled app inputs data) (more : List Input) :
    Assembled app (inputs ++ more) data := by
  obtain ⟨before, mem, earlier, found⟩ := assembled
  exact ⟨before, mem, earlier.trans (List.prefix_append inputs more), found⟩

/-- What was labelled stays so in a longer run. -/
theorem Labelled.later {inputs : List Input} {frame : List UInt8}
    (labelled : Labelled app inputs frame) (more : List Input) :
    Labelled app (inputs ++ more) frame := by
  obtain ⟨before, k, data, earlier, found⟩ := labelled
  exact ⟨before, k, data, earlier.trans (List.prefix_append inputs more), found⟩

/-- A turn is begun for a subscription of the table. -/
theorem main_inside (s : State) (mem : Memory)
    (inside : ∀ k, s.place.turn = some k → k < udsPeriodicSlots) :
    ∀ k, (s.runMain mem).1.place.turn = some k → k < udsPeriodicSlots := by
  obtain ⟨app, place⟩ := s
  cases place with
  | outside => simp [State.runMain, Place.turn]
  | test k =>
    simp only [State.runMain]
    split
    · simp [Place.turn]
    · rename_i more
      split
      · simp [Place.turn]
      · simpa [Place.turn] using Nat.lt_of_not_le more
  | compare k counter =>
    simp only [State.runMain]
    split
    · simp [Place.turn]
    · exact inside
  | find k did i =>
    simp only [State.runMain]
    split
    · exact inside
    · split <;> exact inside
  | assemble k i =>
    simp only [State.runMain]
    split <;> exact inside
  | stop k => simp [State.runMain, Place.turn]
  | send k frame => simp [State.runMain, Place.turn]
  | _ => exact inside

/-- A slot inside the table. -/
theorem slot_inside {s : App} {i : Nat} (inside : i < s.dyn.length) : slot s i = s.dyn[i] := by
  simp [slot, List.getD_eq_getElem?_getD, List.getElem?_eq_getElem inside]

/-- Behind the table there is nothing but free slots. -/
theorem used_inside {s : App} {i : Nat} (used : slot s i ≠ {}) : i < s.dyn.length := by
  by_contra beyond
  have none_there : slot s i = {} := by
    simp [slot, List.getD_eq_getElem?_getD, List.getElem?_eq_none (Nat.le_of_not_lt beyond)]
  exact used none_there

/-- A slot that yields data is in the table. -/
theorem assembled_member (mem : Memory) (s : App) (i : Nat)
    (some_data : dynAssemble mem s (slot s i) ≠ []) : slot s i ∈ s.dyn := by
  have inside : i < s.dyn.length := by
    refine used_inside ?_
    intro none_there
    rw [none_there] at some_data
    exact some_data rfl
  rw [slot_inside inside]
  exact List.getElem_mem inside

/-- The places that hold data are entered from the one before only. -/
theorem main_holds (s : State) (mem : Memory) :
    (∀ k data, (s.runMain mem).1.place = .label k data →
      ∃ i, data = dynAssemble mem s.app (slot s.app i) ∧ data ≠ []) ∧
    (∀ k frame, (s.runMain mem).1.place = .send k frame →
      ∃ data, s.place = .label k data ∧ frame = (sub s.app k).pdid :: data) ∧
    (∀ frame ∈ frames (s.runMain mem).2, ∃ k, s.place = .send k frame) := by
  obtain ⟨app, place⟩ := s
  cases place with
  | test k =>
    simp only [State.runMain]
    split
    · simp [frames]
    · split <;> simp [frames]
  | compare k counter =>
    simp only [State.runMain]
    split <;> simp [frames]
  | find k did i =>
    simp only [State.runMain]
    split
    · simp [frames]
    · split <;> simp [frames]
  | assemble k i =>
    simp only [State.runMain]
    split
    · simp [frames]
    · rename_i some_data
      simp only [Place.label.injEq, reduceCtorEq, false_implies, implies_true, frames,
        List.filterMap_nil, List.not_mem_nil, and_true]
      rintro _ data ⟨rfl, rfl⟩
      exact ⟨i, rfl, some_data⟩
  | label k data => simp [State.runMain, frames]
  | send k frame => simp [State.runMain, frames, Event.frame?]
  | _ => simp [State.runMain, frames]

/-- Every step sends only frames of data that one definition gave at one moment. -/
theorem step_composed (inputs : List Input) (i : Input) (before : Composed app inputs) :
    Composed app (inputs ++ [i]) := by
  obtain ⟨inside, label, send, sent⟩ := before
  have next : reached app (inputs ++ [i]) = (step (reached app inputs) i).1 := by
    rw [reached, final_append]
    rfl
  have events : frames (trace step { app } (inputs ++ [i])) =
      frames (trace step { app } inputs) ++ frames (step (reached app inputs) i).2 := by
    rw [trace_append, frames, List.filterMap_append, trace, trace, List.append_nil]
    rfl
  cases i with
  | request mem now req reqLen addr =>
    have place : (reached app (inputs ++ [.request mem now req reqLen addr])).place =
        (reached app inputs).place := by
      rw [next]
      rfl
    refine ⟨place ▸ inside, ?_, ?_, ?_⟩
    · intro k data held
      exact (label k data (place ▸ held)).later _
    · intro k frame held
      exact (send k frame (place ▸ held)).later _
    · intro frame member
      rw [events] at member
      rcases List.mem_append.mp member with old | new
      · exact (sent frame old).later _
      · cases new
  | main mem =>
    obtain ⟨labels, sends, emits⟩ := main_holds (reached app inputs) mem
    refine ⟨?_, ?_, ?_, ?_⟩
    · rw [next]
      exact main_inside _ mem inside
    · intro k data held
      rw [next] at held
      obtain ⟨i, made, some_data⟩ := labels k data held
      refine ⟨inputs, mem, List.prefix_rfl, slot (reached app inputs).app i, ?_, made, some_data⟩
      exact assembled_member mem _ i (made ▸ some_data)
    · intro k frame held
      rw [next] at held
      obtain ⟨data, was, made⟩ := sends k frame held
      have turn : k < udsPeriodicSlots := inside k (by rw [was]; rfl)
      exact ⟨inputs, k, data, List.prefix_append _ _, turn, label k data was, made⟩
    · intro frame member
      rw [events] at member
      rcases List.mem_append.mp member with old | new
      · exact (sent frame old).later _
      · obtain ⟨k, was⟩ := emits frame new
        exact (send k frame was).later _

/-- Every run sends only frames of data that one definition gave at one moment. -/
theorem run_composed (inputs : List Input) : Composed app inputs := by
  induction inputs using List.reverseRecOn with
  | nil =>
    refine ⟨?_, ?_, ?_, ?_⟩
    · intro k turn
      cases turn
    · intro k data held
      cases held
    · intro k frame held
      cases held
    · intro frame member
      cases member
  | append_singleton inputs i ih => exact step_composed inputs i ih

variable (app)

/-- Whatever falls into the ticks, every frame is one identifier and the data of one
definition as it stood at one moment: never parts of two, never more than fits a Single
Frame. -/
theorem frame_is_snapshot (inputs : List Input) (frame : List UInt8)
    (sent : .sent frame ∈ trace step { app } inputs) :
    Labelled app inputs frame ∧ frame.length ≤ IsoTp.isoTpSfMaxPayload := by
  have member : frame ∈ frames (trace step { app } inputs) :=
    List.mem_filterMap.mpr ⟨_, sent, rfl⟩
  have labelled := (run_composed inputs).sent frame member
  refine ⟨labelled, ?_⟩
  obtain ⟨before, k, data, _, _, ⟨_, mem, _, x, _, made, _⟩, rfl⟩ := labelled
  have fits : data.length ≤ udsDynMaxData := by
    rw [made]
    exact Safe.assemble_fits _ x
  exact Nat.le_trans (Nat.succ_le_succ fits) (by decide)

end Frames

/-- The frame that is due on the first tick. -/
theorem first_frame_snapshot :
    let inputs : List Input := List.replicate 11 (.main fun _ => 0xFF)
    let frame : List UInt8 := 0x01 :: vehicleVin.take 3
    .sent frame ∈ trace step { app := vinSubscribed } inputs ∧
      Labelled vinSubscribed inputs frame ∧ frame.length ≤ IsoTp.isoTpSfMaxPayload := by
  have sent : Event.sent (0x01 :: vehicleVin.take 3) ∈
      trace step { app := vinSubscribed } (List.replicate 11 (.main fun _ => 0xFF)) := by
    decide +kernel
  exact ⟨sent, frame_is_snapshot vinSubscribed _ _ sent⟩

/-! ## A tick that nothing disturbs -/

section Undisturbed

variable (mem : Memory) (app : App)

/-- What the assembly of a frame reads, but for the raw memory. -/
structure SameSources (s s' : App) : Prop where
  dyn : s'.dyn = s.dyn
  vin : s'.vin = s.vin
  ioPort : s'.ioPort = s.ioPort

/-- The tick goes on over the same memory until it is done, and a request that falls in
changes neither table nor their sources. -/
def Undisturbed (_ : List Event) (s : State) : Input → Prop
  | .main mem' => mem' = mem ∧ s.place ≠ .outside
  | .request mem' now req reqLen addr =>
    let s' := (udsDispatchRequest mem' s.app now req reqLen addr).1
    SameSources s.app s' ∧ s'.periodic = s.app.periodic

/-- What the atomic tick makes of a subscription. -/
def ticked (k : Nat) : PeriodicSub × List (List UInt8) := periodicTickSub mem app (sub app k)

/-- The period of the subscription ends with this tick. -/
structure Due (k : Nat) : Prop where
  inside : k < udsPeriodicSlots
  active : (sub app k).divider ≠ 0
  over_period : ¬ (sub app k).counter + 1 < (sub app k).divider

/-- How far a turn is, and what it has left in the subscription by then. -/
inductive Turn (k : Nat) : PeriodicSub → Place → Prop
  | test (inside : k ≤ udsPeriodicSlots) : Turn k (sub app k) (.test k)
  | outside (ended : k = udsPeriodicSlots) : Turn k (sub app k) .outside
  | load (inside : k < udsPeriodicSlots) (active : (sub app k).divider ≠ 0) :
      Turn k (sub app k) (.load k)
  | store (inside : k < udsPeriodicSlots) (active : (sub app k).divider ≠ 0) :
      Turn k (sub app k) (.store k (sub app k).counter)
  | compare (inside : k < udsPeriodicSlots) (active : (sub app k).divider ≠ 0) :
      Turn k { sub app k with counter := (sub app k).counter + 1 }
        (.compare k ((sub app k).counter + 1))
  | reset (due : Due app k) :
      Turn k { sub app k with counter := (sub app k).counter + 1 } (.reset k)
  | name (due : Due app k) : Turn k { sub app k with counter := 0 } (.name k)
  | find (due : Due app k) (i : Nat)
      (others : ∀ j < i, (slot app j).did ≠ periodicDid (sub app k).pdid) :
      Turn k { sub app k with counter := 0 } (.find k (periodicDid (sub app k).pdid) i)
  | assemble (due : Due app k) (i : Nat)
      (found : dynFind app (periodicDid (sub app k).pdid) = some (slot app i)) :
      Turn k { sub app k with counter := 0 } (.assemble k i)
  | stop (due : Due app k) (empty : periodicData mem app (sub app k).pdid = []) :
      Turn k { sub app k with counter := 0 } (.stop k)
  | label (due : Due app k) (some_data : periodicData mem app (sub app k).pdid ≠ []) :
      Turn k { sub app k with counter := 0 } (.label k (periodicData mem app (sub app k).pdid))
  | send (due : Due app k) (some_data : periodicData mem app (sub app k).pdid ≠ []) :
      Turn k { sub app k with counter := 0 }
        (.send k ((sub app k).pdid :: periodicData mem app (sub app k).pdid))

/-- The subscriptions before the turn are ticked, and those behind are as they were. -/
def Upto (k : Nat) (p : PeriodicSub) (s : App) : Prop :=
  ∀ j, sub s j = if j < k then (ticked mem app j).1 else if j = k then p else sub app j

/-- The tick stands as the atomic one would after some subscriptions. -/
structure Progress (past : List Event) (s : State) : Prop where
  sources : SameSources app s.app
  slots : s.app.periodic.length = udsPeriodicSlots
  turn : ∃ k p, Turn mem app k p s.place ∧ Upto mem app k p s.app ∧
    frames past = (List.range k).flatMap fun j => (ticked mem app j).2

variable {mem app}

/-- The sources stay the same along a run that keeps them. -/
theorem SameSources.trans {s s' s'' : App} (first : SameSources s s')
    (second : SameSources s' s'') : SameSources s s'' :=
  ⟨second.dyn.trans first.dyn, second.vin.trans first.vin, second.ioPort.trans first.ioPort⟩

/-- With the same sources the slots are the same. -/
theorem SameSources.slot {s s' : App} (same : SameSources s s') (i : Nat) :
    slot s' i = slot s i := by
  rw [PreemptedTick.slot, same.dyn]
  rfl

/-- The data of a definition depend on the sources only. -/
theorem SameSources.assemble {s s' : App} (same : SameSources s s') (x : DynSlot) :
    dynAssemble mem s' x = dynAssemble mem s x := by
  have resolved : resolveSource s' = resolveSource s := by
    funext did
    simp only [resolveSource, registered, kDidRead, same.vin, same.ioPort]
  have record : dynRecData mem s' = dynRecData mem s := by
    funext r
    simp only [dynRecData, resolved]
  have loop (recs : List DynRec) (out : List UInt8) :
      dynAssembleLoop mem s' out recs = dynAssembleLoop mem s out recs := by
    induction recs generalizing out with
    | nil => rfl
    | cons r rest ih => simp only [dynAssembleLoop, record, ih]
  rw [dynAssemble, loop]
  rfl

/-- The subscription the tick stands at. -/
theorem Upto.here {k : Nat} {p : PeriodicSub} {s : App} (upto : Upto mem app k p s) :
    sub s k = p := by
  have found := upto k
  rwa [if_neg (Nat.lt_irrefl k), if_pos rfl] at found

/-- The turn writes its own subscription only. -/
theorem Upto.write {k : Nat} {p : PeriodicSub} {s : App} (upto : Upto mem app k p s)
    (inside : k < s.periodic.length) (p' : PeriodicSub) :
    Upto mem app k p' { s with periodic := s.periodic.set k p' } := by
  intro j
  rw [sub_set, upto j]
  by_cases same : k = j
  · subst same
    simp [inside]
  · have other : ¬ j = k := fun eq => same eq.symm
    simp [same, other]

/-- A turn that ends as the atomic one does hands over to the next. -/
theorem Upto.next {k : Nat} {p : PeriodicSub} {s : App} (upto : Upto mem app k p s)
    (made : p = (ticked mem app k).1) : Upto mem app (k + 1) (sub app (k + 1)) s := by
  intro j
  rw [upto j]
  rcases Nat.lt_trichotomy j k with before | rfl | behind
  · simp [before, Nat.lt_succ_of_lt before]
  · simp [made]
  · by_cases next : j = k + 1
    · subst next
      simp
    · have still : ¬ j < k + 1 := by omega
      have other : ¬ j = k := by omega
      have late : ¬ j < k := by omega
      simp [still, next, other, late]

/-! ### The atomic turn -/

/-- The atomic tick leaves a free subscription alone. -/
theorem ticked_idle {k : Nat} (idle : (sub app k).divider = 0) :
    ticked mem app k = (sub app k, []) := by
  simp only [ticked, periodicTickSub, idle, if_true]

/-- The atomic tick counts a subscription that is early. -/
theorem ticked_early {k : Nat} (active : (sub app k).divider ≠ 0)
    (early : (sub app k).counter + 1 < (sub app k).divider) :
    ticked mem app k = ({ sub app k with counter := (sub app k).counter + 1 }, []) := by
  simp only [ticked, periodicTickSub, active, early, if_false, if_true]

/-- The atomic tick stops a subscription that is due without data. -/
theorem Due.ticked_empty {k : Nat} (due : Due app k)
    (empty : periodicData mem app (sub app k).pdid = []) :
    ticked mem app k = ({ sub app k with counter := 0, divider := 0 }, []) := by
  simp only [ticked, periodicTickSub, due.active, due.over_period, empty, if_false, if_true]

/-- The atomic tick sends a subscription that is due with data. -/
theorem Due.ticked_sent {k : Nat} (due : Due app k)
    (some_data : periodicData mem app (sub app k).pdid ≠ []) :
    ticked mem app k = ({ sub app k with counter := 0 },
      [(sub app k).pdid :: periodicData mem app (sub app k).pdid]) := by
  simp only [ticked, periodicTickSub, due.active, due.over_period, some_data, if_false]

/-- The frames up to the next subscription. -/
theorem frames_next (k : Nat) : ((List.range (k + 1)).flatMap fun j => (ticked mem app j).2) =
    ((List.range k).flatMap fun j => (ticked mem app j).2) ++ (ticked mem app k).2 := by
  rw [List.range_succ, List.flatMap_append]
  simp

/-! ### The search of `dyn_find` -/

/-- A periodic identifier never marks an empty slot. -/
theorem periodic_did_nonzero (pdid : UInt8) : periodicDid pdid ≠ 0 :=
  dynamic_nonzero _ (periodic_did_dynamic pdid)

/-- The search finds the first slot of an identifier. -/
theorem dyn_find_some {s : App} {did : UInt16} {i : Nat} (nonzero : did ≠ 0)
    (found : (slot s i).did = did) (others : ∀ j < i, (slot s j).did ≠ did) :
    dynFind s did = some (slot s i) := by
  have inside : i < s.dyn.length := by
    refine used_inside ?_
    intro none_there
    rw [none_there] at found
    exact nonzero found.symm
  refine List.find?_eq_some_iff_getElem.mpr ⟨by simpa using found, i, inside, ?_, ?_⟩
  · exact (slot_inside inside).symm
  · intro j before
    have other := others j before
    rw [slot_inside (before.trans inside)] at other
    simpa using other

/-- The search finds nothing where all four slots are others'. -/
theorem dyn_find_none {s : App} {did : UInt16} (slots : s.dyn.length = udsDynSlots)
    (others : ∀ j < udsDynSlots, (slot s j).did ≠ did) : dynFind s did = none := by
  refine List.find?_eq_none.mpr ?_
  intro x member
  obtain ⟨j, inside, rfl⟩ := List.getElem_of_mem member
  have other := others j (slots ▸ inside)
  rw [slot_inside inside] at other
  simpa using other

/-- Without a slot there are no data. -/
theorem periodic_data_none {pdid : UInt8} (absent : dynFind app (periodicDid pdid) = none) :
    periodicData mem app pdid = [] := by
  rw [periodicData, absent]

/-- The data are those of the slot that is found. -/
theorem periodic_data_some {pdid : UInt8} {x : DynSlot}
    (found : dynFind app (periodicDid pdid) = some x) :
    periodicData mem app pdid = dynAssemble mem app x := by
  rw [periodicData, found]

/-! ### What a step keeps -/

section Steps

variable {past : List Event} {s : State}

/-- The tick goes on to a place of the same turn. -/
theorem Progress.go {k : Nat} {p : PeriodicSub} (sources : SameSources app s.app)
    (slots : s.app.periodic.length = udsPeriodicSlots) (upto : Upto mem app k p s.app)
    (sent : frames past = (List.range k).flatMap fun j => (ticked mem app j).2) (place : Place)
    (turn : Turn mem app k p place) : Progress mem app (past ++ []) { s with place } := by
  rw [List.append_nil]
  exact ⟨sources, slots, k, p, turn, upto, sent⟩

/-- The progress goes on after a write to the subscription in hand. -/
theorem Progress.written {k : Nat} {p : PeriodicSub} (sources : SameSources app s.app)
    (slots : s.app.periodic.length = udsPeriodicSlots) (upto : Upto mem app k p s.app)
    (sent : frames past = (List.range k).flatMap fun j => (ticked mem app j).2)
    (inside : k < udsPeriodicSlots) (p' : PeriodicSub) (place : Place)
    (turn : Turn mem app k p' place) :
    Progress mem app (past ++ [])
      ⟨{ s.app with periodic := s.app.periodic.set k p' }, place⟩ := by
  rw [List.append_nil]
  refine ⟨⟨sources.dyn, sources.vin, sources.ioPort⟩, ?_, k, p', turn, ?_, sent⟩
  · exact List.length_set.trans slots
  · exact upto.write (slots ▸ inside) p'

/-- The end of a turn leaves the subscription as the atomic turn does. -/
theorem Progress.done {k : Nat} {p : PeriodicSub} {more : List Event} (s' : App)
    (sources : SameSources app s') (slots : s'.periodic.length = udsPeriodicSlots)
    (upto : Upto mem app k p s') (inside : k < udsPeriodicSlots)
    (sent : frames past = (List.range k).flatMap fun j => (ticked mem app j).2)
    (made : ticked mem app k = (p, frames more)) :
    Progress mem app (past ++ more) ⟨s', .test (k + 1)⟩ := by
  refine ⟨sources, slots, k + 1, sub app (k + 1), .test inside, upto.next (by rw [made]), ?_⟩
  have joined : frames (past ++ more) = frames past ++ frames more := List.filterMap_append
  rw [joined, sent, frames_next, made]

/-- A step of the main task gets on with the atomic tick. -/
theorem main_progress (slots : app.dyn.length = udsDynSlots) (running : s.place ≠ .outside)
    (before : Progress mem app past s) :
    Progress mem app (past ++ (s.runMain mem).2) (s.runMain mem).1 := by
  obtain ⟨sources, subs, k, p, turn, upto, sent⟩ := before
  obtain ⟨s, place⟩ := s
  have here := upto.here
  cases turn with
  | test inside =>
    simp only [State.runMain, here]
    split
    · rename_i ended
      exact .go sources subs upto sent _ (.outside (Nat.le_antisymm inside ended))
    · rename_i more
      have inside := Nat.lt_of_not_le more
      split
      · rename_i idle
        exact .done s sources subs upto inside sent (ticked_idle idle)
      · rename_i active
        exact .go sources subs upto sent _ (.load inside active)
  | outside ended => exact absurd rfl running
  | load inside active =>
    simp only [State.runMain, here]
    exact .go sources subs upto sent _ (.store inside active)
  | store inside active =>
    simp only [State.runMain, here]
    exact .written sources subs upto sent inside _ _ (.compare inside active)
  | compare inside active =>
    simp only [State.runMain, here]
    split
    · rename_i early
      exact .done s sources subs upto inside sent (ticked_early active early)
    · rename_i due
      exact .go sources subs upto sent _ (.reset ⟨inside, active, due⟩)
  | reset due =>
    simp only [State.runMain, here]
    exact .written sources subs upto sent due.inside _ _ (.name due)
  | name due =>
    simp only [State.runMain, here]
    have none_before (j : Nat) (before : j < 0) :
        (slot app j).did ≠ periodicDid (sub app k).pdid := absurd before (Nat.not_lt_zero j)
    exact .go sources subs upto sent _ (.find due 0 none_before)
  | find due i others =>
    simp only [State.runMain, sources.slot]
    split
    · rename_i ended
      have absent := dyn_find_none slots fun j inside => others j (by omega)
      exact .go sources subs upto sent _ (.stop due (periodic_data_none absent))
    · split
      · rename_i found
        have first := dyn_find_some (periodic_did_nonzero _) found others
        exact .go sources subs upto sent _ (.assemble due i first)
      · rename_i other
        refine .go sources subs upto sent _ (.find due (i + 1) ?_)
        intro j before
        rcases Nat.lt_succ_iff_lt_or_eq.mp before with earlier | rfl
        · exact others j earlier
        · exact other
  | assemble due i found =>
    have data : periodicData mem app (sub app k).pdid = dynAssemble mem app (slot app i) :=
      periodic_data_some found
    simp only [State.runMain, sources.slot, sources.assemble, ← data]
    split
    · rename_i empty
      exact .go sources subs upto sent _ (.stop due empty)
    · rename_i some_data
      exact .go sources subs upto sent _ (.label due some_data)
  | stop due empty =>
    simp only [State.runMain, here]
    have written := upto.write (subs ▸ due.inside) { sub app k with counter := 0, divider := 0 }
    refine .done _ ⟨sources.dyn, sources.vin, sources.ioPort⟩ ?_ written due.inside sent
      (due.ticked_empty empty)
    exact List.length_set.trans subs
  | label due some_data =>
    simp only [State.runMain, here]
    exact .go sources subs upto sent _ (.send due some_data)
  | send due some_data =>
    exact .done s sources subs upto due.inside sent (due.ticked_sent some_data)

/-- No undisturbed step departs from the atomic tick. -/
theorem step_progress (slots : app.dyn.length = udsDynSlots) (i : Input)
    (before : Progress mem app past s) (undisturbed : Undisturbed mem past s i) :
    Progress mem app (past ++ (step s i).2) (step s i).1 := by
  cases i with
  | main mem' =>
    obtain ⟨rfl, running⟩ := undisturbed
    exact main_progress slots running before
  | request mem' now req reqLen addr =>
    obtain ⟨sources, periodic⟩ := undisturbed
    obtain ⟨same, subs, k, p, turn, upto, sent⟩ := before
    refine ⟨same.trans sources, periodic ▸ subs, k, p, turn, ?_, ?_⟩
    · intro j
      rw [← upto j, sub, sub]
      exact congrArg (List.getD · j {}) periodic
    · have joined : frames (past ++ (step s (.request mem' now req reqLen addr)).2) =
          frames past ++ [] := List.filterMap_append
      rw [joined, List.append_nil]
      exact sent

end Steps

/-- The table as its subscriptions in turn. -/
theorem subs_listed (s : App) (subs : s.periodic.length = udsPeriodicSlots) :
    s.periodic = (List.range udsPeriodicSlots).map (sub s) := by
  apply List.ext_getElem
  · rw [List.length_map, List.length_range, subs]
  · intro j inside _
    simp [sub, List.getD_eq_getElem?_getD, List.getElem?_eq_getElem inside]

/-- The atomic tick takes one subscription at a time. -/
theorem periodic_tick_turns (mem : Memory) (app : App)
    (subs : app.periodic.length = udsPeriodicSlots) :
    (udsPeriodicTick mem app).2 =
        (List.range udsPeriodicSlots).flatMap (fun j => (ticked mem app j).2) ∧
      (udsPeriodicTick mem app).1.periodic =
        (List.range udsPeriodicSlots).map fun j => (ticked mem app j).1 := by
  simp only [udsPeriodicTick]
  rw [subs_listed app subs, List.map_map, List.map_map, List.flatMap_map]
  exact ⟨rfl, rfl⟩

/-- A tick into which only requests fall that leave the tables and their sources alone
sends the frames of the atomic tick and leaves its subscriptions. -/
theorem undisturbed_tick_atomic (mem : Memory) (app : App) (inputs : List Input)
    (subs : app.periodic.length = udsPeriodicSlots) (slots : app.dyn.length = udsDynSlots)
    (undisturbed : Along step (Undisturbed mem) [] ⟨app, .test 0⟩ inputs)
    (ended : (final step ⟨app, .test 0⟩ inputs).place = .outside) :
    frames (trace step ⟨app, .test 0⟩ inputs) = (udsPeriodicTick mem app).2 ∧
      (final step ⟨app, .test 0⟩ inputs).app.periodic = (udsPeriodicTick mem app).1.periodic ∧
      SameSources app (final step ⟨app, .test 0⟩ inputs).app := by
  have start : Progress mem app [] ⟨app, .test 0⟩ := by
    refine ⟨⟨rfl, rfl, rfl⟩, subs, 0, sub app 0, .test (Nat.zero_le _), ?_, rfl⟩
    intro j
    by_cases first : j = 0 <;> simp [first]
  have progress := invariant_final step (Undisturbed mem) (Progress mem app)
    (fun past s i before met => step_progress slots i before met) [] _ inputs start undisturbed
  rw [List.nil_append] at progress
  obtain ⟨sources, same, k, p, turn, upto, sent⟩ := progress
  rw [ended] at turn
  obtain ⟨rfl⟩ : k = udsPeriodicSlots := by
    cases turn
    assumption
  obtain ⟨atomic_frames, atomic_subs⟩ := periodic_tick_turns mem app subs
  refine ⟨sent.trans atomic_frames.symm, ?_, sources⟩
  rw [atomic_subs, subs_listed _ same]
  refine List.map_congr_left ?_
  intro j inside
  have found := upto j
  rwa [if_pos (List.mem_range.mp inside)] at found

/-- A TesterPresent in the middle of a tick that sends. -/
def attendedTick : List Input :=
  List.replicate 5 (.main fun _ => 0xFF) ++
    .request (fun _ => 0xFF) 7 [0x3E, 0x00] 2 .physical :: List.replicate 9 (.main fun _ => 0xFF)

/-- A tick with a read of the VIN in its midst. -/
theorem attended_tick_atomic :
    frames (trace step ⟨vinSubscribed, .test 0⟩ attendedTick) =
      (udsPeriodicTick (fun _ => 0xFF) vinSubscribed).2 := by
  have undisturbed : Along step (Undisturbed fun _ => 0xFF) [] ⟨vinSubscribed, .test 0⟩
      attendedTick := by
    have away (s : State) (running : s.place ≠ .outside) :
        (fun _ => 0xFF : Memory) = (fun _ => 0xFF) ∧ s.place ≠ .outside := ⟨rfl, running⟩
    refine ⟨away _ (by decide +kernel), away _ (by decide +kernel), away _ (by decide +kernel),
      away _ (by decide +kernel), away _ (by decide +kernel), ⟨⟨rfl, rfl, rfl⟩, rfl⟩,
      away _ (by decide +kernel), away _ (by decide +kernel), away _ (by decide +kernel),
      away _ (by decide +kernel), away _ (by decide +kernel), away _ (by decide +kernel),
      away _ (by decide +kernel), away _ (by decide +kernel), away _ (by decide +kernel), trivial⟩
  exact (undisturbed_tick_atomic _ vinSubscribed attendedTick rfl rfl undisturbed
    (by decide +kernel)).1

end Undisturbed

/-! ## What does disturb it -/

section Races

/-- Clear a dynamic identifier. -/
def clearRequest (did : UInt16) : List UInt8 := udsSidDynamicDefineDid :: 0x03 :: wordBytes did

/-- Define one by a part of the record of another. -/
def defineRequest (did src : UInt16) (position size : UInt8) : List UInt8 :=
  udsSidDynamicDefineDid :: 0x01 :: (wordBytes did ++ wordBytes src ++ [position, size])

/-- The record that such a definition stores. -/
def partRecord (src : UInt16) (position size : UInt8) : DynRec where
  srcDid := src
  position := position.toNat
  size := size.toNat

/-- The part lies in the record and fits a frame. -/
structure Part (app : App) (src : UInt16) (position size : UInt8) (record : List UInt8) : Prop where
  resolved : resolveSource app src = some record
  from_one : position ≠ 0
  some_bytes : size ≠ 0
  inside : position.toNat - 1 + size.toNat ≤ record.length
  short : size.toNat ≤ udsDynMaxData

/-- The part passes the checks of a definition and of an assembly alike. -/
theorem Part.fits {app : App} {src : UInt16} {position size : UInt8} {record : List UInt8}
    (part : Part app src position size record) :
    ¬ (position.toNat = 0 ∨ record.length < position.toNat - 1 + size.toNat) := by
  rintro (none_there | beyond)
  · exact part.from_one (UInt8.toNat_inj.mp none_there)
  · exact absurd part.inside (Nat.not_le.mpr beyond)

/-- A part has some bytes. -/
theorem Part.size_pos {app : App} {src : UInt16} {position size : UInt8} {record : List UInt8}
    (part : Part app src position size record) : size.toNat ≠ 0 :=
  fun none_there => part.some_bytes (UInt8.toNat_inj.mp none_there)

variable (mem : Memory) (app : App) (now : Nat)

/-- The application after the search: the period of the first subscription has begun anew. -/
def searched (p : PeriodicSub) (rest : List PeriodicSub) : App :=
  { app with periodic := { p with counter := 0 } :: rest }

/-- The first slot is cleared by a request. -/
def cleared (others : List DynSlot) : App := { stamped app now with dyn := {} :: others }

/-- The first slot is given to an identifier by a request. -/
def redefined (did src : UInt16) (position size : UInt8) (others : List DynSlot) : App :=
  { stamped app now with dyn := ⟨did, [partRecord src position size]⟩ :: others }

/-- 0x2C is open in the Extended session. -/
theorem define_opened (extended : app.session.sessionType = .extended) :
    accessGate (stamped app now) udsSidDynamicDefineDid = none :=
  (access_gate_iff _ _ false rfl).mpr ⟨extended, fun asked => absurd asked Bool.false_ne_true⟩

/-- A gated request that is answered positively and not suppressed. -/
theorem define_dispatch (extended : app.session.sessionType = .extended) (req : List UInt8)
    (service : byte req 0 = udsSidDynamicDefineDid) (sub : UInt8) (function : byte req 1 = sub)
    (plain : sub &&& 0x80 = 0) (some_bytes : 0 < req.length) :
    udsDispatchRequest mem app now req req.length .physical =
      handleDynamicDefineDid (stamped app now) req req.length := by
  have reaches := admitted_physical req req.length some_bytes
  have served : serve mem (stamped app now) now req req.length =
      handleDynamicDefineDid (stamped app now) req req.length := by
    rw [serve_define mem (stamped app now) now req req.length service, gated,
      define_opened app now extended]
  have loud (response : List UInt8) : suppressed req req.length response = false := by
    simp [suppressed, function, plain]
  simp [udsDispatchRequest, reaches, served, loud]

/-- What clearing the identifier of the first slot does. -/
theorem clear_dispatch (extended : app.session.sessionType = .extended) (did : UInt16)
    (dynamic : dynamicDid did) (recs : List DynRec) (others : List DynSlot)
    (slots : app.dyn = ⟨did, recs⟩ :: others) :
    udsDispatchRequest mem app now (clearRequest did) 4 .physical =
      (cleared app now others, dynResponse 0x03 did) := by
  have dispatched := define_dispatch mem app now extended (clearRequest did) rfl 0x03 rfl
    (by decide) (Nat.zero_lt_succ _)
  have named : word (byte (clearRequest did) 2) (byte (clearRequest did) 3) = did :=
    word_word_bytes did
  have inside : ¬ (did < udsDidDynamicBase ∨ udsDidDynamicEnd < did) := by
    rw [not_or, UInt16.not_lt, UInt16.not_lt]
    exact dynamic
  have function : subFunction (byte (clearRequest did) 1) = 0x03 := by
    change subFunction 0x03 = 0x03
    decide
  have one : ¬ (0x03 : UInt8) = 0x01 := by decide
  have two : ¬ (0x03 : UInt8) = 0x02 := by decide
  have place : (stamped app now).dyn.findIdx? (·.did == did) = some 0 := by
    change app.dyn.findIdx? (·.did == did) = some 0
    simp [slots, List.findIdx?_cons]
  have long : ¬ (clearRequest did).length < 4 := Nat.lt_irrefl 4
  refine dispatched.trans ?_
  simp only [handleDynamicDefineDid, named, function, if_neg inside, if_neg one, if_neg two,
    if_neg long, if_true, place]
  have table : (stamped app now).dyn = ⟨did, recs⟩ :: others := slots
  rw [table, List.set_cons_zero]
  rfl

/-- A definition by one record that is valid is accepted as spelled out. -/
theorem part_defined (did src : UInt16) (position size : UInt8) (record : List UInt8)
    (part : Part app src position size record) :
    defineByIdentifier app (defineRequest did src position size) 8 =
      .ok [partRecord src position size] := by
  have fields : ((defineRequest did src position size).drop 4).take 4 =
      wordBytes src ++ [position, size] := rfl
  have source : word (byte (wordBytes src ++ [position, size]) 0)
      (byte (wordBytes src ++ [position, size]) 1) = src := word_word_bytes src
  have parsed : identifierRecord app (((defineRequest did src position size).drop 4).take 4) =
      some (partRecord src position size) := by
    rw [fields, identifierRecord]
    simp only [source, part.resolved]
    exact if_neg (not_or.mpr ⟨part.size_pos, part.fits⟩)
  have records : dynRecords (identifierRecord app) 4 1
      ((defineRequest did src position size).drop 4) = some [partRecord src position size] := by
    rw [dynRecords, parsed]
    rfl
  have count : ¬ ((1 : Nat) = 0 ∨ udsDynMaxRec < 1) := by decide
  have total : totalSize [partRecord src position size] = size.toNat := Nat.add_zero _
  have limit : ¬ (size.toNat = 0 ∨ udsDynMaxData < size.toNat) :=
    not_or.mpr ⟨part.size_pos, Nat.not_lt.mpr part.short⟩
  simp only [defineByIdentifier, scratchRecords]
  rw [if_neg (by decide), if_neg count]
  simp only [records, total, if_neg limit]

/-- An identifier without a slot gets the first if it is free. -/
theorem first_free_slot (did : UInt16) (nonzero : did ≠ 0) (others : List DynSlot)
    (unbound : ∀ x ∈ others, x.did ≠ did) : dynSlotFor ({} :: others) did = some 0 := by
  have none_named : ({} :: others : List DynSlot).findIdx? (·.did == did) = none := by
    rw [List.findIdx?_eq_none_iff]
    intro x member
    rcases List.mem_cons.mp member with rfl | behind
    · exact beq_eq_false_iff_ne.mpr nonzero.symm
    · exact beq_eq_false_iff_ne.mpr (unbound x behind)
  rw [dynSlotFor, none_named]
  rfl

/-- What defining another identifier does while the first slot is free. -/
theorem define_dispatch_free (extended : app.session.sessionType = .extended) (did src : UInt16)
    (dynamic : dynamicDid did) (position size : UInt8) (record : List UInt8)
    (part : Part app src position size record) (others : List DynSlot)
    (slots : app.dyn = {} :: others) (unbound : ∀ x ∈ others, x.did ≠ did) :
    udsDispatchRequest mem app now (defineRequest did src position size) 8 .physical =
      (redefined app now did src position size others, dynResponse 0x01 did) := by
  have dispatched := define_dispatch mem app now extended
    (defineRequest did src position size) rfl 0x01 rfl (by decide) (Nat.zero_lt_succ _)
  have named : word (byte (defineRequest did src position size) 2)
      (byte (defineRequest did src position size) 3) = did := word_word_bytes did
  have inside : ¬ (did < udsDidDynamicBase ∨ udsDidDynamicEnd < did) := by
    rw [not_or, UInt16.not_lt, UInt16.not_lt]
    exact dynamic
  have function : subFunction (byte (defineRequest did src position size) 1) = 0x01 := by
    change subFunction 0x01 = 0x01
    decide
  have length : (defineRequest did src position size).length = 8 := rfl
  have long : ¬ (defineRequest did src position size).length < 4 := by
    rw [length]
    decide
  have place : dynSlotFor (stamped app now).dyn did = some 0 := by
    change dynSlotFor app.dyn did = some 0
    rw [slots]
    exact first_free_slot did (dynamic_nonzero did dynamic) others unbound
  have same : Part (stamped app now) src position size record :=
    ⟨part.resolved, part.from_one, part.some_bytes, part.inside, part.short⟩
  have defined : defineByIdentifier (stamped app now) (defineRequest did src position size)
      (defineRequest did src position size).length = .ok [partRecord src position size] :=
    part_defined (stamped app now) did src position size record same
  refine dispatched.trans ?_
  simp only [handleDynamicDefineDid, named, function, if_neg inside, if_neg long, if_true, defined,
    commitDynamic, place]
  have table : (stamped app now).dyn = {} :: others := slots
  rw [table, List.set_cons_zero]
  rfl

/-- The definition that is assembled in place of the one that was found. -/
theorem part_assembled (src : UInt16) (position size : UInt8) (record : List UInt8)
    (part : Part app src position size record) (did : UInt16) :
    dynAssemble mem app ⟨did, [partRecord src position size]⟩ =
      (record.drop (position.toNat - 1)).take size.toNat := by
  have source : (partRecord src position size).srcDid ≠ udsDynSrcMem := by
    intro raw
    have resolved := part.resolved
    rw [show src = udsDynSrcMem from raw, resolve_marker] at resolved
    cases resolved
  have room : ¬ udsDynMaxData < ([] : List UInt8).length + (partRecord src position size).size := by
    rw [List.length_nil, Nat.zero_add, Nat.not_lt]
    exact part.short
  have resolved : resolveSource app (partRecord src position size).srcDid = some record :=
    part.resolved
  have loaded : dynRecData mem app (partRecord src position size) =
      some ((record.drop (position.toNat - 1)).take size.toNat) := by
    rw [dynRecData, if_neg source]
    simp only [resolved]
    exact if_neg part.fits
  simp only [dynAssemble, dynAssembleLoop, if_neg room, loaded, List.nil_append, Option.getD_some]

/-- The slot that was given away yields the part. -/
theorem redefined_assembled (did src : UInt16) (position size : UInt8) (record : List UInt8)
    (part : Part app src position size record) (others : List DynSlot) :
    let after := redefined app now did src position size others
    dynAssemble mem after (slot after 0) = (record.drop (position.toNat - 1)).take size.toNat :=
  part_assembled mem (redefined app now did src position size others) src position size record
    ⟨part.resolved, part.from_one, part.some_bytes, part.inside, part.short⟩ did

/-- The tick up to the assembly of its first subscription. -/
theorem first_found (p : PeriodicSub) (rest : List PeriodicSub) (recs : List DynRec)
    (others : List DynSlot) (subs : app.periodic = p :: rest) (active : p.divider ≠ 0)
    (due : ¬ p.counter + 1 < p.divider)
    (slots : app.dyn = ⟨periodicDid p.pdid, recs⟩ :: others) :
    trace step ⟨app, .test 0⟩ (List.replicate 7 (.main mem)) = [] ∧
      final step ⟨app, .test 0⟩ (List.replicate 7 (.main mem)) =
        ⟨searched app p rest, .assemble 0 0⟩ := by
  have some_slots : ¬ udsPeriodicSlots ≤ 0 := by decide
  have some_dyn : ¬ udsDynSlots ≤ 0 := by decide
  constructor
  · simp [List.replicate, trace, step, State.runMain, sub, slot, subs, slots, active, due,
      some_slots, some_dyn]
  · simp [List.replicate, final, step, State.runMain, sub, slot, subs, slots, active, due,
      some_slots, some_dyn, searched]

/-- In the Extended session, two requests that are both confirmed give the slot, between
the search and the assembly, to another identifier that had none. Its data go out under
the one that was cleared. -/
theorem preempted_tick_mislabels (p : PeriodicSub) (rest : List PeriodicSub) (b : UInt8)
    (src : UInt16) (position size : UInt8) (record : List UInt8) (recs : List DynRec)
    (others : List DynSlot) (extended : app.session.sessionType = .extended)
    (subs : app.periodic = p :: rest) (active : p.divider ≠ 0)
    (due : ¬ p.counter + 1 < p.divider)
    (slots : app.dyn = ⟨periodicDid p.pdid, recs⟩ :: others)
    (unbound : ∀ x ∈ others, x.did ≠ periodicDid b)
    (part : Part app src position size record) :
    trace step ⟨app, .test 0⟩ (List.replicate 7 (.main mem) ++
        .request mem now (clearRequest (periodicDid p.pdid)) 4 .physical ::
        .request mem now (defineRequest (periodicDid b) src position size) 8 .physical ::
        List.replicate 3 (.main mem)) =
      [.answered (dynResponse 0x03 (periodicDid p.pdid)),
        .answered (dynResponse 0x01 (periodicDid b)),
        .sent (p.pdid :: (record.drop (position.toNat - 1)).take size.toNat)] := by
  obtain ⟨silent, found⟩ := first_found mem app p rest recs others subs active due slots
  have clear := clear_dispatch mem (searched app p rest) now extended _
    (periodic_did_dynamic p.pdid) recs others slots
  -- neither request touches the sources of the part
  have still : Part (cleared (searched app p rest) now others) src position size record :=
    ⟨part.resolved, part.from_one, part.some_bytes, part.inside, part.short⟩
  have define := define_dispatch_free mem (cleared (searched app p rest) now others) now extended
    _ src (periodic_did_dynamic b) position size record still others rfl unbound
  have data := redefined_assembled mem (cleared (searched app p rest) now others) now
    (periodicDid b) src position size record still others
  have some_data : (record.drop (position.toNat - 1)).take size.toNat ≠ [] := by
    have inside := part.inside
    have some_bytes := part.size_pos
    intro empty
    have length := congrArg List.length empty
    rw [List.length_take, List.length_drop, List.length_nil] at length
    omega
  rw [trace_append, silent, found, List.nil_append]
  simp only [trace, step, clear, define, List.replicate, State.runMain, data, if_neg some_data]
  rfl

/-- The identifier 0x01 was cleared and 0x02 stands for the last bytes of the VIN; they go out
as 0x01. -/
theorem vin_mislabelled :
    trace step ⟨vinSubscribed, .test 0⟩ (List.replicate 7 (.main fun _ => 0xFF) ++
        .request (fun _ => 0xFF) 9 (clearRequest 0xF201) 4 .physical ::
        .request (fun _ => 0xFF) 9 (defineRequest 0xF202 udsDidVin 15 3) 8 .physical ::
        List.replicate 3 (.main fun _ => 0xFF)) =
      [.answered (dynResponse 0x03 0xF201), .answered (dynResponse 0x01 0xF202),
        .sent (0x01 :: vehicleVin.drop 14)] := by
  have part : Part vinSubscribed udsDidVin 15 3 vehicleVin := by
    refine ⟨by decide +kernel, by decide, by decide, by decide +kernel, by decide +kernel⟩
  have unbound : ∀ x ∈ List.replicate 3 ({} : DynSlot), x.did ≠ periodicDid 0x02 := by
    intro x member
    rw [List.eq_of_mem_replicate member]
    decide +kernel
  exact preempted_tick_mislabels (fun _ => 0xFF) vinSubscribed 9 ⟨0x01, 2, 1⟩
    (List.replicate 3 {}) 0x02 udsDidVin 15 3 vehicleVin _ (List.replicate 3 {}) rfl rfl
    (by decide) (by decide) rfl unbound part

end Races

end ObdSimulator.PreemptedTick
