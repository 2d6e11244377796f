import ObdSimulator.AppMain
import ObdSimulator.BlMain
import ObdSimulator.Reassembly

/-!
# The whole device

The bootloader of `bl_main.c` and the application of `main.c` on one controller: one
flash, one transport at a time, and a no-init record in RAM by which the application
asks the bootloader to stay. A reset keeps RAM, a power cycle does not. Where the
bootloader jumps, the application starts with its own transport.

Power may also fail while the bootloader handles a request, after any number of
flash primitives; the device is off then until it is started again.
-/

namespace ObdSimulator.Ecu

open Bootloader (Mode)
open NorFlash (Memory)
open UdsService (App appInit)

/-- Both parts of the device, of which one runs. -/
structure Node where
  bl : BlMain.Node
  app : App
  sram : Memory

/-- The part that runs, by the bootloader's machine. -/
def Node.mode (n : Node) : Mode := n.bl.state.mode

/-- What a read of the application sees. -/
def Node.mem (n : Node) : Memory := fun a =>
  if flashBase ≤ a ∧ a < flashEnd then n.bl.state.uds.flash.mem a else n.sram a

/-- The ticks at which a start initialises the session manager, of the server and of
the application. -/
structure Startup where
  now : Nat
  ready : Nat
  appNow : Nat
  appReady : Nat
deriving DecidableEq, Repr

/-- The calls of the two main loops besides `ISO_TP_Tick`, and a store of the program. A
check may jump, so the start of the application comes with the call. -/
inductive Work where
  | loader (k : BlMain.Work) (start : Startup)
  | main (k : AppMain.Work)
  | store (sram : Memory)

/-- The application starts from its initial values where the bootloader jumped. -/
def Node.jumped (n : Node) (start : Startup) : Node :=
  if n.mode = .app then { n with app := appInit start.appNow start.appReady } else n

/-- Each loop runs in its own mode. -/
def Node.work (n : Node) (now : Nat) : Work → Node × List (List UInt8)
  | .loader k start =>
    match n.mode with
    | .server => (({ n with bl := (BlMain.blUpper.work n.bl now k).1 } : Node).jumped start, [])
    | _ => (n, [])
  | .main k =>
    match n.mode with
    | .app =>
      let (app, messages) := k.run n.mem n.app now
      ({ n with app }, messages)
    | _ => (n, [])
  | .store sram => ({ n with sram }, [])

/-- The device above the transport: the dispatcher of the part that runs. -/
def ecuUpper : IsoTp.Upper Node Work where
  dispatch n now buffer len addr :=
    match n.mode with
    | .server =>
      let served := BlMain.blUpper.dispatch n.bl now buffer len addr
      { state := { n with bl := served.state }, sent := served.sent, response := served.response }
    | .app =>
      let (app, response) := UdsService.udsDispatchRequest n.mem n.app now buffer len addr
      { state := { n with app }, response }
    | .off => { state := n }
  work n now k := n.work now k

/-! ## Starts -/

/-- The no-init record asks the bootloader to stay. -/
def Node.flagged (n : Node) : Bool := n.mode == .app && n.app.handoff

/-- The boot gate, and the application where it jumps. -/
def Node.start (n : Node) (flag : Bool) (start : Startup) : Node :=
  ({ n with bl := { n.bl with
      state := Bootloader.boot n.bl.state.uds.flash flag start.now start.ready } } : Node).jumped
    start

/-- A started transport over the coming outcomes of the transmit queue. -/
def started (w : IsoTp.World Node) (n : Node) : IsoTp.World Node :=
  IsoTp.isoTpInit true w.link.faults n

/-- What happens to the device, power failures and resets included. -/
inductive Input where
  | frame (hal : Nat) (f : CanFrame)
  /-- Power fails while the bootloader handles the frame. -/
  | cut (hal : Nat) (f : CanFrame) (primitives : Nat)
  | tick (now hal : Nat)
  | work (hal : Nat) (k : Work)
  | reset (start : Startup)
  | powerCycle (start : Startup) (sram : Memory)

/-- The call of the transport that an input is, while the device is on. -/
def call (w : IsoTp.World Node) (i : IsoTp.Input Work) : IsoTp.World Node × List IsoTp.Event :=
  if w.upper.mode = .off then (w, []) else IsoTp.step ecuUpper w i

/-- The request a frame completes, where the bootloader is there to serve it. -/
def request (w : IsoTp.World Node) (hal : Nat) (f : CanFrame) : Option IsoTp.RxContext :=
  if w.upper.mode = .server then IsoTp.completing w.quiet.link hal f else none

/-- One step of the device. -/
def step (w : IsoTp.World Node) : Input → IsoTp.World Node × List IsoTp.Event
  | .frame hal f => call w (.frame hal f)
  | .cut hal f primitives =>
    match request w hal f with
    | none => (w, [])
    | some c =>
      let (state, events) := Bootloader.cutStep w.upper.bl.state hal
        (c.rxBuffer.take c.rxTotalSize) c.rxAddrType primitives
      (started w { w.upper with bl := ⟨state, w.upper.bl.log ++ events⟩ }, [])
  | .tick now hal => call w (.tick now hal)
  | .work hal k =>
    let (w', events) := call w (.work hal k)
    if w.upper.mode = .server ∧ w'.upper.mode = .app then (started w' w'.upper, events)
    else (w', events)
  | .reset start => (started w (w.upper.start w.upper.flagged start), [])
  | .powerCycle start sram =>
    (started w { w.upper.start false start with sram }, [])

/-- The device switched on over a given flash. -/
def powerUp (faults : List Bool) (flash : NorFlash.Device) (start : Startup) (sram : Memory) :
    IsoTp.World Node :=
  IsoTp.isoTpInit true faults
    (Node.start ⟨{ state := { mode := .off, uds := { flash } } }, {}, sram⟩ false start)

/-- A start replaces the node. -/
@[simp] theorem started_upper (w : IsoTp.World Node) (n : Node) : (started w n).upper = n := rfl

/-- A store of the program touches the program's memory only. -/
theorem stored_bl (n : Node) (sram : Memory) : ({ n with sram } : Node).bl = n.bl := rfl

/-- A power cycle starts the node without the flag, over new contents of the RAM. -/
theorem power_cycle_upper (w : IsoTp.World Node) (start : Startup) (sram : Memory) :
    (step w (.powerCycle start sram)).1.upper = { w.upper.start false start with sram } := rfl

/-! ## The transport -/

/-- Between two calls the reception is in order. -/
def InOrder (w : IsoTp.World Node) : Prop := ∃ past, IsoTp.Held past w.link.ctx.toRxContext

/-- A start leaves the transport in order. -/
theorem started_in_order (w : IsoTp.World Node) (n : Node) : InOrder (started w n) :=
  ⟨[], IsoTp.fresh_held⟩

/-- A call leaves the transport in order. -/
theorem call_in_order (w : IsoTp.World Node) (i : IsoTp.Input Work) (inOrder : InOrder w) :
    InOrder (call w i).1 := by
  unfold call
  split
  · exact inOrder
  · obtain ⟨past, held⟩ := inOrder
    exact ⟨_, IsoTp.step_held past _ _ _ i held (IsoTp.step_reception ecuUpper w i held.ready)⟩

/-- Every step leaves the transport in order. -/
theorem step_in_order (w : IsoTp.World Node) (i : Input) (inOrder : InOrder w) :
    InOrder (step w i).1 := by
  cases i with
  | frame hal f => exact call_in_order w _ inOrder
  | cut hal f primitives =>
    simp only [step]
    split
    · exact inOrder
    · exact started_in_order _ _
  | tick now hal => exact call_in_order w _ inOrder
  | work hal k =>
    simp only [step]
    split
    · exact started_in_order _ _
    · exact call_in_order w _ inOrder
  | reset start => exact started_in_order _ _
  | powerCycle start sram => exact started_in_order _ _

/-- Power comes up in order. -/
theorem power_up_in_order (faults : List Bool) (flash : NorFlash.Device) (start : Startup)
    (sram : Memory) : InOrder (powerUp faults flash start sram) :=
  ⟨[], IsoTp.fresh_held⟩

/-- A completed reception still has its whole buffer. -/
theorem completing_room (w : IsoTp.World Node) (hal : Nat) (f : CanFrame) (c : IsoTp.RxContext)
    (inOrder : InOrder w) (completes : IsoTp.completing w.quiet.link hal f = some c) :
    c.rxBuffer.length = IsoTp.isoTpMaxMessageSize := by
  obtain ⟨past, held⟩ := inOrder
  have after := (IsoTp.step_held past _ _ _ _ held
    (IsoTp.step_reception ecuUpper w (.frame hal f) held.ready)).room
  unfold IsoTp.completing at completes
  simp only at completes
  split at completes
  case isFalse => cases completes
  rename_i all
  obtain ⟨sized, flow, mine, complete⟩ := all
  cases completes
  obtain ⟨rx, _⟩ := IsoTp.dispatch_completed_spec ecuUpper
    ⟨IsoTp.receive (w.quiet.link.addressed (canAddrClassify f.canId)) hal f, w.upper⟩ hal
  have spec := IsoTp.process_frame_spec ecuUpper w.quiet hal f sized flow mine
  rw [IsoTp.dispatchIfComplete, if_pos complete] at spec
  have buffer := congrArg (fun world : IsoTp.World Node => world.link.ctx.rxBuffer) spec
  rw [← after]
  exact congrArg List.length ((congrArg IsoTp.RxContext.rxBuffer rx).symm.trans buffer.symm)

/-- A request is short enough for the length the dispatcher is given. -/
theorem request_short (w : IsoTp.World Node) (hal : Nat) (f : CanFrame) (c : IsoTp.RxContext)
    (inOrder : InOrder w) (completes : IsoTp.completing w.quiet.link hal f = some c) :
    (c.rxBuffer.take c.rxTotalSize).length < 2 ^ 16 := by
  have room := completing_room w hal f c inOrder completes
  have frame : IsoTp.isoTpMaxMessageSize = 512 := rfl
  rw [List.length_take]
  omega

/-! ## The two parts -/

/-- The request that reaches the bootloader with a frame. -/
def blRequest (c : IsoTp.RxContext) : Option Request :=
  if short : (c.rxBuffer.take c.rxTotalSize).length < 2 ^ 16 then
    some ⟨c.rxBuffer.take c.rxTotalSize, short⟩
  else none

/-- The input of the bootloader that an input of the device is, if any. -/
def blInput (w : IsoTp.World Node) : Input → Option Bootloader.Input
  | .frame hal f => (request w hal f).bind fun c =>
      (blRequest c).map fun r => .request hal r c.rxAddrType
  | .cut hal f primitives => (request w hal f).bind fun c =>
      (blRequest c).map fun r => .cut hal r c.rxAddrType primitives
  | .work hal (.loader k _) => if w.upper.mode = .server then some (k.input hal) else none
  | .reset start => some (.boot w.upper.flagged start.now start.ready)
  | .powerCycle start _ => some (.boot false start.now start.ready)
  | _ => none

/-- The bootloader after one of its inputs, or none. -/
def BlAfter (before : BlMain.Node) (input : Option Bootloader.Input) (after : BlMain.Node) : Prop :=
  match input with
  | none => after = before
  | some j => after = ⟨(Bootloader.step before.state j).1,
      before.log ++ (Bootloader.step before.state j).2⟩

/-- A jump does nothing to the bootloader's part. -/
theorem jumped_bl (n : Node) (start : Startup) : (n.jumped start).bl = n.bl := by
  unfold Node.jumped
  split
  · rfl
  · rfl

/-- A start is a boot of the bootloader's machine. -/
theorem start_bl (n : Node) (flag : Bool) (start : Startup) :
    BlAfter n.bl (some (.boot flag start.now start.ready)) (n.start flag start).bl := by
  change ((n.start flag start).bl = _)
  rw [Node.start, jumped_bl]
  simp [Bootloader.step]

/-- A call of the transport reaches the layer above where its frame completes a request,
or where it is that layer's own. -/
theorem call_upper (w : IsoTp.World Node) (i : IsoTp.Input Work) (on : w.upper.mode ≠ .off) :
    (call w i).1.upper = match i with
      | .frame hal f =>
        match IsoTp.completing w.quiet.link hal f with
        | none => w.upper
        | some c => (ecuUpper.dispatch w.upper hal c.rxBuffer c.rxTotalSize c.rxAddrType).state
      | .work hal k => (w.upper.work hal k).1
      | _ => w.upper := by
  rw [call, if_neg on]
  cases i with
  | frame hal f => exact IsoTp.process_frame_upper ecuUpper w.quiet hal f
  | work hal k => rfl
  | tick now hal => rfl
  | registerStreamSink sink => rfl

/-- The dispatcher of the device is that of the part that runs. -/
theorem dispatch_bootloader (n : Node) (hal : Nat) (buffer : List UInt8) (len : Nat)
    (addr : AddrType) : (ecuUpper.dispatch n hal buffer len addr).state.bl =
      if n.mode = .server then
        ⟨(Bootloader.serveStep n.bl.state hal (buffer.take len) addr).1,
          n.bl.log ++ (Bootloader.serveStep n.bl.state hal (buffer.take len) addr).2⟩
      else n.bl := by
  have running : n.mode = n.bl.state.mode := rfl
  cases mode : n.mode with
  | server =>
    rw [running] at mode
    simp [ecuUpper, BlMain.blUpper, running, mode]
  | app => simp [ecuUpper, mode]
  | off => simp [ecuUpper, mode]

/-- Other work of the loop is work of the bootloader's machine, if that part runs. -/
theorem work_bootloader (n : Node) (now : Nat) (k : Work) :
    BlAfter n.bl (match k with
      | .loader k _ => if n.mode = .server then some (k.input now) else none
      | _ => none) (n.work now k).1.bl := by
  cases k with
  | loader k start =>
    cases mode : n.mode with
    | server =>
      simp only [Node.work, mode, jumped_bl, if_true]
      rfl
    | app =>
      simp only [Node.work, mode]
      exact rfl
    | off =>
      simp only [Node.work, mode]
      exact rfl
  | main k =>
    cases mode : n.mode with
    | app =>
      simp only [Node.work, mode]
      exact rfl
    | server =>
      simp only [Node.work, mode]
      exact rfl
    | off =>
      simp only [Node.work, mode]
      exact rfl
  | store sram => exact rfl

/-- The bootloader takes requests of up to 65535 bytes, all the transport can hold. -/
theorem bl_request_some (c : IsoTp.RxContext)
    (short : (c.rxBuffer.take c.rxTotalSize).length < 2 ^ 16) :
    blRequest c = some ⟨c.rxBuffer.take c.rxTotalSize, short⟩ := dif_pos short

/-- Every input of the device is at most one input of the bootloader. -/
theorem step_bootloader (w : IsoTp.World Node) (i : Input) (inOrder : InOrder w) :
    BlAfter w.upper.bl (blInput w i) (step w i).1.upper.bl := by
  have running : w.upper.mode = w.upper.bl.state.mode := rfl
  cases i with
  | frame hal f =>
    simp only [blInput, step, request]
    by_cases server : w.upper.mode = .server
    · have on : w.upper.mode ≠ .off := by
        rw [server]
        decide
      rw [call_upper w _ on, if_pos server]
      simp only
      cases completes : IsoTp.completing w.quiet.link hal f with
      | none => exact rfl
      | some c =>
        have short := request_short w hal f c inOrder completes
        rw [running] at server
        simp only [Option.bind_some, bl_request_some c short, Option.map_some, dispatch_bootloader,
          running, if_pos server]
        simp only [BlAfter, Bootloader.step, server]
    · rw [if_neg server]
      by_cases off : w.upper.mode = .off
      · rw [call, if_pos off]
        exact rfl
      · rw [call_upper w _ off]
        simp only
        cases completes : IsoTp.completing w.quiet.link hal f with
        | none => exact rfl
        | some c =>
          simp only [dispatch_bootloader, if_neg server]
          exact rfl
  | cut hal f primitives =>
    simp only [blInput, step]
    cases asked : request w hal f with
    | none => exact rfl
    | some c =>
      have server : w.upper.mode = .server := by
        by_contra other
        rw [request, if_neg other] at asked
        cases asked
      rw [request, if_pos server] at asked
      have short := request_short w hal f c inOrder asked
      rw [running] at server
      simp only [Option.bind_some, bl_request_some c short, Option.map_some, started_upper]
      simp only [BlAfter, Bootloader.step, server]
  | tick now hal =>
    by_cases off : w.upper.mode = .off
    · simp only [blInput, step, call, if_pos off]
      exact rfl
    · have same := call_upper w (.tick now hal) off
      simp only [blInput, step]
      rw [same]
      exact rfl
  | work hal k =>
    have after : (step w (.work hal k)).1.upper = (call w (.work hal k)).1.upper := by
      simp only [step]
      split
      · rfl
      · rfl
    rw [after]
    by_cases off : w.upper.mode = .off
    · have stopped : w.upper.mode ≠ .server := by
        rw [off]
        decide
      rw [call, if_pos off]
      cases k with
      | loader k start =>
        simp only [blInput, if_neg stopped]
        exact rfl
      | _ => exact rfl
    · rw [call_upper w _ off]
      have here := work_bootloader w.upper hal k
      cases k with
      | loader k start => exact here
      | _ => exact here
  | reset start => exact start_bl w.upper w.upper.flagged start
  | powerCycle start sram =>
    rw [power_cycle_upper, stored_bl]
    exact start_bl w.upper false start

end ObdSimulator.Ecu
