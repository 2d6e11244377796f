import ObdSimulator.IsoTp
import ObdSimulator.Lib.Secrecy
import ObdSimulator.UdsService

/-!
# The tasks of the application

`main.c`. The receive task hands requests to the dispatcher; the main task moves
the simulation, runs both ticks and the periodic scheduler every 10 ms. One input
is one call of either task, and a reset of any cause runs `main` again. The same
calls are the layer above the transport, where the frames decide which requests
there are.
-/

namespace ObdSimulator.AppMain

open UdsService NorFlash

/-- The calls of `vMainTask` besides `ISO_TP_Tick`. -/
inductive Work where
  /-- `OBD2_UpdateSimValues`, then `OBD2_DtcUpdate`. -/
  | simulate
  /-- `UDS_PeriodicTick`. -/
  | periodicTick
  /-- `DiagSession_Tick`, with the tick a return to Default stamps. -/
  | sessionTick (stamp : Nat)
deriving DecidableEq, Repr

/-- The work of `vMainTask` on the simulator: the values move and the faults are judged
by them. -/
def updateSimulation (s : App) : App :=
  let sim := obd2UpdateSimValues s.sim
  { s with sim, faults := obd2DtcUpdate s.faults sim }

/-- `DiagSession_Tick` with the hooks of the application. -/
def expireSession (s : App) (now stamp : Nat) : App :=
  if diagSessionExpired s.session now then enterSession s stamp .default else s

/-- A call of the main task, with the messages it sends. -/
def Work.run (mem : Memory) (s : App) (now : Nat) : Work → App × List (List UInt8)
  | .simulate => (updateSimulation s, [])
  | .periodicTick => udsPeriodicTick mem s
  | .sessionTick stamp => (expireSession s now stamp, [])

/-- What reaches the application: a request, other work of the loop, or a start. -/
inductive Input where
  | request (now : Nat) (req : List UInt8) (reqLen : Nat) (addr : AddrType)
  | work (now : Nat) (k : Work)
  /-- A reset, and the ticks `main` initialises the session manager at. -/
  | boot (now ready : Nat)

/-- What a call sends. -/
inductive Event where
  /-- A request and its response, empty when none is sent. -/
  | answered (request : List UInt8) (addr : AddrType) (response : List UInt8)
  | periodic (message : List UInt8)
deriving DecidableEq, Repr

/-- One call of the application, with the memory it may read. -/
def step (mem : Memory) (s : App) : Input → App × List Event
  | .request now req reqLen addr =>
    let (s, response) := udsDispatchRequest mem s now req reqLen addr
    (s, [.answered (req.take reqLen) addr response])
  | .work now k =>
    let (s, messages) := k.run mem s now
    (s, messages.map .periodic)
  | .boot now ready => (appInit now ready, [])

/-! ## The application above the transport -/

/-- The application with the memory of its device. -/
structure Node where
  app : App
  mem : Memory

/-- The work of the loop beside the transport. -/
inductive Task where
  | work (k : Work)
  /-- The memory changes. -/
  | store (mem : Memory)

/-- The application above the transport. -/
def appUpper : IsoTp.Upper Node Task where
  dispatch n now buffer len addr :=
    let (app, response) := udsDispatchRequest n.mem n.app now buffer len addr
    { state := { n with app }, response }
  work n now
    | .work k =>
      let (app, messages) := k.run n.mem n.app now
      ({ n with app }, messages)
    | .store mem => ({ n with mem }, [])

/-- The call of the application that a call of the transport makes, if any. -/
def appInput (l : IsoTp.Link) : IsoTp.Input Task → Option Input
  | .frame hal f => (IsoTp.completing l hal f).map fun c =>
      .request hal c.rxBuffer c.rxTotalSize c.rxAddrType
  | .work hal (.work k) => some (.work hal k)
  | _ => none

/-- What a call of the node does to the application: one of its own calls, or nothing.
-/
theorem act_app (w : IsoTp.World Node) (i : IsoTp.Input Task) :
    (IsoTp.act appUpper w i).upper.app =
      match appInput w.link i with
      | none => w.upper.app
      | some j => (step w.upper.mem w.upper.app j).1 := by
  cases i with
  | frame hal f =>
    have upper := IsoTp.process_frame_upper appUpper w hal f
    simp only [IsoTp.act, appInput]
    rw [upper]
    cases IsoTp.completing w.link hal f with
    | none => rfl
    | some c => rfl
  | work hal task =>
    cases task with
    | work k => rfl
    | store mem => rfl
  | tick now hal => rfl
  | registerStreamSink sink => rfl

/-- Every run of the node takes the application through a run of its own, so what
holds along all runs of the application holds of it above the transport. -/
theorem node_runs_app (w : IsoTp.World Node) (inputs : List (IsoTp.Input Task)) :
    ∃ calls, (Run.final (IsoTp.step appUpper) w inputs).upper.app =
      Run.final (Run.opened step) w.upper.app calls := by
  induction inputs generalizing w with
  | nil => exact ⟨[], rfl⟩
  | cons i rest ih =>
    obtain ⟨calls, later⟩ := ih (IsoTp.step appUpper w i).1
    have first := act_app w.quiet i
    cases made : appInput w.quiet.link i with
    | none =>
      rw [made] at first
      refine ⟨calls, ?_⟩
      calc (Run.final (IsoTp.step appUpper) w (i :: rest)).upper.app
          = Run.final (Run.opened step) (IsoTp.step appUpper w i).1.upper.app calls := later
        _ = Run.final (Run.opened step) w.upper.app calls := congrArg (Run.final _ · calls) first
    | some j =>
      rw [made] at first
      refine ⟨(w.upper.mem, j) :: calls, ?_⟩
      calc (Run.final (IsoTp.step appUpper) w (i :: rest)).upper.app
          = Run.final (Run.opened step) (IsoTp.step appUpper w i).1.upper.app calls := later
        _ = Run.final (Run.opened step) w.upper.app ((w.upper.mem, j) :: calls) :=
            congrArg (Run.final _ · calls) first

end ObdSimulator.AppMain
