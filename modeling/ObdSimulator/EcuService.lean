import ObdSimulator.BlResponses
import ObdSimulator.DefaultSession
import ObdSimulator.TesterBus

/-!
# The device as a service

What a call gets from the device is the answer of the part that runs, served from the
state it is in. Between calls the device drifts: its loops run, its ticks come, and where
anything may go wrong it is reset or loses power. It answers in single frames and sends
nothing unasked, unless a tester subscribed to something or asked for a long read.
-/

namespace ObdSimulator.Ecu

open NorFlash (Memory)
open UdsService (App appInit)

/-- The flash server. -/
def Node.uds (n : Node) : BlUds.Server := n.bl.state.uds

/-! ## Dispatch -/

/-- A device that is off answers nothing. -/
theorem dispatch_off (n : Node) (hal : Nat) (buffer : List UInt8) (len : Nat) (addr : AddrType)
    (off : n.mode = .off) : ecuUpper.dispatch n hal buffer len addr = { state := n } := by
  simp only [ecuUpper, off]

/-- While the application runs, its dispatcher answers. -/
theorem dispatch_app (n : Node) (hal : Nat) (buffer : List UInt8) (len : Nat) (addr : AddrType)
    (app : n.mode = .app) : ecuUpper.dispatch n hal buffer len addr =
      { state := { n with app := (UdsService.udsDispatchRequest n.mem n.app hal buffer len addr).1 }
        response := (UdsService.udsDispatchRequest n.mem n.app hal buffer len addr).2 } := by
  simp only [ecuUpper, app]

/-- The flash server answers as it would by itself, and goes on from the same state but
for the log of the flash. -/
theorem dispatch_server (n : Node) (hal : Nat) (buffer : List UInt8) (len : Nat)
    (addr : AddrType) (server : n.mode = .server) :
    let out := BlUds.udsDispatchRequest n.uds hal (buffer.take len) addr
    let served := ecuUpper.dispatch n hal buffer len addr
    ∃ uds, out.1.Alike uds ∧ served.state.bl.state = { n.bl.state with uds } ∧
      served.sent = out.2.sent ∧ served.response = out.2.response := by
  intro out served
  have running : n.bl.state.mode = .server := server
  have logs : n.uds.flash.Alike (Bootloader.fresh n.uds).flash := ⟨rfl, rfl, rfl⟩
  have alike := (BlUds.serve_request_alike n.uds logs hal (buffer.take len) addr).1
  have stepped : served.state.bl.state =
      (Bootloader.serveStep n.bl.state hal (buffer.take len) addr).1 := by
    simp only [served, ecuUpper, BlMain.blUpper, server, running]
  refine ⟨_, alike, stepped, ?_, ?_⟩
  · simp only [served, ecuUpper, BlMain.blUpper, server, running]
    rfl
  · simp only [served, ecuUpper, BlMain.blUpper, server, running]
    rfl

/-! ## Nothing unasked -/

/-- The application is sound, and no tester has subscribed to anything. -/
def Node.Settled (n : Node) : Prop :=
  n.mode = .app → Safe.Sound n.app ∧ ∀ p ∈ n.app.periodic, p.divider = 0

/-- With the application stopped no subscription is active. -/
theorem stopped_settled (n : Node) (stopped : n.mode ≠ .app) : n.Settled :=
  fun running => absurd running stopped

/-- A jump starts the application without subscriptions. -/
theorem jumped_settled (n : Node) (start : Startup) : (n.jumped start).Settled := by
  intro running
  rw [jumped_mode] at running
  rw [jumped_app, if_pos running]
  refine ⟨Safe.Sound.initial start.appNow start.appReady, ?_⟩
  intro p member
  rw [List.eq_of_mem_replicate member]

/-- Every start leaves the node settled. -/
theorem start_settled (n : Node) (flag : Bool) (start : Startup) : (n.start flag start).Settled :=
  jumped_settled _ start

/-- The contents of the RAM do not matter. -/
theorem stored_settled (n : Node) (sram : Memory) (settled : n.Settled) :
    ({ n with sram } : Node).Settled := settled

/-- What a call leaves is settled if it leaves the application sound and its
subscriptions stopped. -/
theorem called_settled (n : Node) (app : App) (sound : Safe.Sound app)
    (stopped : ∀ p ∈ app.periodic, p.divider = 0) : ({ n with app } : Node).Settled :=
  fun _ => ⟨sound, stopped⟩

end ObdSimulator.Ecu

namespace ObdSimulator.UdsService

/-- SessionControl subscribes nobody. -/
theorem session_control_stopped (s : App) (now : Nat) (req : List UInt8) (reqLen : Nat)
    (stopped : ∀ p ∈ s.periodic, p.divider = 0) :
    ∀ p ∈ (handleSessionControl s now req reqLen).1.periodic, p.divider = 0 := by
  unfold handleSessionControl
  simp only
  split
  · exact stopped
  · split
    · exact stopped
    · cases SessionType.ofByte (subFunction (Bytes.byte req 1)) with
      | none => exact stopped
      | some t =>
        cases t with
        | default => exact AppMain.stopped_dividers s.periodic
        | programming => exact stopped
        | extended => exact stopped

/-- Only 0x2A subscribes. -/
theorem dispatch_stopped (mem : NorFlash.Memory) (s : App) (now : Nat) (req : List UInt8)
    (reqLen : Nat) (addr : AddrType) (other : Bytes.byte req 0 ≠ udsSidReadDataPeriodic)
    (stopped : ∀ p ∈ s.periodic, p.divider = 0) :
    ∀ p ∈ (udsDispatchRequest mem s now req reqLen addr).1.periodic, p.divider = 0 := by
  unfold udsDispatchRequest
  split
  · exact stopped
  · simp only
    by_cases session : Bytes.byte req 0 = udsSidDiagSessionCtrl
    · rw [serve_session_control mem (stamped s now) now req reqLen session]
      exact session_control_stopped (stamped s now) now req reqLen stopped
    · rw [(serve_frame mem (stamped s now) now req reqLen).periodic session other]
      exact stopped

end ObdSimulator.UdsService

namespace ObdSimulator.Ecu

open UdsService (App appInit)

/-- The loop of the application subscribes nobody, and sends nothing. -/
theorem main_stopped (k : AppMain.Work) (mem : NorFlash.Memory) (s : App) (now : Nat)
    (stopped : ∀ p ∈ s.periodic, p.divider = 0) :
    (∀ p ∈ (k.run mem s now).1.periodic, p.divider = 0) ∧ (k.run mem s now).2 = [] := by
  cases k with
  | simulate => exact ⟨stopped, rfl⟩
  | periodicTick =>
    have still := AppMain.stopped_tick mem s stopped
    simp only [AppMain.Work.run, still]
    exact ⟨stopped, trivial⟩
  | sessionTick stamp =>
    simp only [AppMain.Work.run, AppMain.expireSession]
    split
    · exact ⟨AppMain.stopped_dividers s.periodic, trivial⟩
    · exact ⟨stopped, trivial⟩

/-- No request but 0x2A starts a subscription. -/
theorem dispatch_settled (n : Node) (hal : Nat) (buffer : List UInt8) (len : Nat)
    (addr : AddrType) (other : Bytes.byte buffer 0 ≠ udsSidReadDataPeriodic)
    (settled : n.Settled) : (ecuUpper.dispatch n hal buffer len addr).state.Settled := by
  cases mode : n.mode with
  | server =>
    apply stopped_settled
    rw [dispatch_mode, mode]
    decide
  | app =>
    obtain ⟨sound, stopped⟩ := settled mode
    rw [dispatch_app n hal buffer len addr mode]
    exact called_settled n _ (sound.dispatch n.mem hal buffer len addr)
      (UdsService.dispatch_stopped n.mem n.app hal buffer len addr other stopped)
  | off =>
    rw [dispatch_off n hal buffer len addr mode]
    exact settled

/-- Without subscriptions the other tasks send nothing and start none. -/
theorem work_settled (n : Node) (now : Nat) (k : Work) (settled : n.Settled) :
    (n.work now k).1.Settled ∧ (n.work now k).2 = [] := by
  cases k with
  | loader k start =>
    cases mode : n.mode with
    | server =>
      simp only [Node.work, mode]
      exact ⟨jumped_settled _ start, trivial⟩
    | app =>
      simp only [Node.work, mode]
      exact ⟨settled, trivial⟩
    | off =>
      simp only [Node.work, mode]
      exact ⟨settled, trivial⟩
  | main k =>
    cases mode : n.mode with
    | app =>
      obtain ⟨sound, stopped⟩ := settled mode
      obtain ⟨still, silent⟩ := main_stopped k n.mem n.app now stopped
      simp only [Node.work, mode]
      exact ⟨called_settled n _ (sound.work n.mem now k) still, silent⟩
    | server =>
      simp only [Node.work, mode]
      exact ⟨settled, trivial⟩
    | off =>
      simp only [Node.work, mode]
      exact ⟨settled, trivial⟩
  | store sram => exact ⟨stored_settled n sram settled, rfl⟩

/-- The device is still settled after an input that is not a frame. -/
theorem step_settled (w : IsoTp.World Node) (i : Input) (settled : w.upper.Settled)
    (unasked : ∀ hal f, i ≠ .frame hal f) : (step w i).1.upper.Settled := by
  cases i with
  | frame hal f => exact absurd rfl (unasked hal f)
  | cut hal f primitives =>
    simp only [step]
    split
    · exact settled
    · refine stopped_settled _ ?_
      intro running
      cases running
  | tick now hal =>
    change (call w (.tick now hal)).1.upper.Settled
    by_cases off : w.upper.mode = .off
    · rw [call_off w _ off]
      exact settled
    · rw [call_upper w _ off]
      exact settled
  | work hal k =>
    rw [step_work_upper]
    by_cases off : w.upper.mode = .off
    · rw [call_off w _ off]
      exact settled
    · rw [call_upper w _ off]
      exact (work_settled w.upper hal k settled).1
  | reset start => exact start_settled w.upper _ start
  | powerCycle start sram =>
    rw [power_cycle_upper]
    exact stored_settled _ sram (start_settled w.upper false start)

/-! ## From any state -/

/-- No call leaves a reception complete. -/
theorem call_ready (w : IsoTp.World Node) (i : IsoTp.Input Work)
    (ready : IsoTp.Ready w.link.ctx.toRxContext) :
    IsoTp.Ready (call w i).1.link.ctx.toRxContext := by
  unfold call
  split
  · exact ready
  · exact (IsoTp.step_reception ecuUpper w i ready.dispatched).ready ready

/-- No step leaves a reception complete. -/
theorem step_ready (w : IsoTp.World Node) (i : Input)
    (ready : IsoTp.Ready w.link.ctx.toRxContext) :
    IsoTp.Ready (step w i).1.link.ctx.toRxContext := by
  cases i with
  | frame hal f => exact call_ready w _ ready
  | cut hal f primitives =>
    simp only [step]
    split
    · exact ready
    · exact IsoTp.fresh_ready
  | tick now hal => exact call_ready w _ ready
  | work hal k =>
    simp only [step]
    split
    · exact IsoTp.fresh_ready
    · exact call_ready w _ ready
  | reset start => exact IsoTp.fresh_ready
  | powerCycle start sram => exact IsoTp.fresh_ready

/-! ### The transmission of the flash server -/

/-- The flash server answers in Single Frames, and its loop sends nothing. -/
theorem server_handed (w : IsoTp.World Node) (i : IsoTp.Input Work)
    (server : w.upper.mode = .server) :
    ∀ message ∈ (IsoTp.handed ecuUpper w i).2, AppMain.Short message := by
  cases i with
  | frame hal f =>
    rw [IsoTp.handed]
    split
    · simp only [IsoTp.dispatchSends]
      generalize (IsoTp.receive (w.link.addressed (canAddrClassify f.canId)) hal f).ctx = c
      obtain ⟨uds, _, _, sent, response⟩ :=
        dispatch_server w.upper hal c.rxBuffer c.rxTotalSize c.rxAddrType server
      rw [sent, response]
      intro message member
      exact .of_le (BlUds.dispatch_few _ _ _ _ message member) (by decide)
    · exact List.forall_mem_nil _
  | work hal k =>
    have silent : (w.upper.work hal k).2 = [] := by
      cases k with
      | loader k start => simp only [Node.work, server]
      | main k => simp only [Node.work, server]
      | store sram => rfl
    simp only [IsoTp.handed, ecuUpper, silent]
    exact List.forall_mem_nil _
  | tick now hal => exact List.forall_mem_nil _
  | registerStreamSink sink => exact List.forall_mem_nil _

/-- While the flash server runs, the transport transmits no segmented message. -/
def ServerIdle (w : IsoTp.World Node) : Prop :=
  w.upper.mode = .server → w.link.ctx.txState = .idle

/-- A start initialises the transport. -/
theorem started_idle (w : IsoTp.World Node) (n : Node) : ServerIdle (started w n) := fun _ => rfl

/-- A call of the server leaves its transmission idle. -/
theorem server_call_idle (w : IsoTp.World Node) (i : IsoTp.Input Work)
    (server : w.upper.mode = .server) (idle : w.link.ctx.txState = .idle) :
    (IsoTp.act ecuUpper w i).link.ctx.txState = .idle := by
  have short := server_handed w i server
  have still : AppMain.Still w.link (IsoTp.act ecuUpper w i).link := by
    cases i with
    | frame hal f => exact AppMain.received_still ecuUpper w hal f idle short
    | work hal k => exact AppMain.send_all_still w.link hal _ short
    | tick now hal => exact AppMain.tick_still w.link now hal idle
    | registerStreamSink sink => exact ⟨rfl, .same _ rfl⟩
  exact (congrArg IsoTp.TxContext.txState still.tx).trans idle

/-- A call enters the server from nowhere else. -/
theorem call_server (w : IsoTp.World Node) (i : IsoTp.Input Work)
    (server : (call w i).1.upper.mode = .server) : w.upper.mode = .server := by
  by_cases off : w.upper.mode = .off
  · rwa [call_off w i off] at server
  rw [call_upper w i off] at server
  cases i with
  | frame hal f =>
    simp only at server
    cases completes : IsoTp.completing w.quiet.link hal f with
    | none => rwa [completes] at server
    | some c =>
      rw [completes] at server
      exact (dispatch_mode _ _ _ _ _).symm.trans server
  | work hal k =>
    cases mode : w.upper.mode with
    | server => rfl
    | off => exact absurd mode off
    | app =>
      have stays : (w.upper.work hal k).1.mode = .app := by
        cases k with
        | loader k start =>
          simp only [Node.work, mode]
        | main k =>
          simp only [Node.work, mode]
          exact mode
        | store sram => exact mode
      exact absurd (stays.symm.trans server) (by decide)
  | tick now hal => exact server
  | registerStreamSink sink => exact server

/-- A running flash server sends responses of one frame only, and the hand-over to it
starts the transport anew. -/
theorem call_idle (w : IsoTp.World Node) (i : IsoTp.Input Work) (before : ServerIdle w) :
    ServerIdle (call w i).1 := by
  intro after
  have server := call_server w i after
  have on : w.upper.mode ≠ .off := by
    rw [server]
    decide
  rw [call, if_neg on]
  exact server_call_idle w.quiet i server (before server)

/-- Behind every step the transmitter of the flash server is idle. -/
theorem step_idle (w : IsoTp.World Node) (i : Input) (before : ServerIdle w) :
    ServerIdle (step w i).1 := by
  cases i with
  | frame hal f => exact call_idle w _ before
  | cut hal f primitives =>
    simp only [step]
    split
    · exact before
    · exact started_idle _ _
  | tick now hal => exact call_idle w _ before
  | work hal k =>
    simp only [step]
    split
    · exact started_idle _ _
    · exact call_idle w _ before
  | reset start => exact started_idle _ _
  | powerCycle start sram => exact started_idle _ _

section Reached

variable (faults : List Bool) (flash : NorFlash.Device) (start : Startup) (sram : NorFlash.Memory)
  (inputs : List Input)

/-- Whatever the device received before, its transport is in order. -/
theorem reached_in_order :
    let w := Run.final step (powerUp faults flash start sram) inputs
    InOrder w ∧ IsoTp.Ready w.link.ctx.toRxContext := by
  refine Run.final_of_kept step (fun w => InOrder w ∧ IsoTp.Ready w.link.ctx.toRxContext) ?_ _
    inputs ⟨power_up_in_order faults flash start sram, IsoTp.fresh_ready⟩
  exact fun w i before => ⟨step_in_order w i before.1, step_ready w i before.2⟩

/-- Where it has come to the flash server, it transmits nothing. -/
theorem reached_idle : ServerIdle (Run.final step (powerUp faults flash start sram) inputs) :=
  Run.final_of_kept step ServerIdle step_idle _ inputs fun _ => rfl

/-- While nobody has subscribed to anything, it is settled. -/
theorem reached_settled
    (unsubscribed : ∀ p ∈
      (Run.final step (powerUp faults flash start sram) inputs).upper.app.periodic,
      p.divider = 0) :
    (Run.final step (powerUp faults flash start sram) inputs).upper.Settled := by
  intro running
  obtain ⟨now, ready, calls, app⟩ := (device_runs_parts faults flash start sram inputs).2 running
  refine ⟨?_, unsubscribed⟩
  rw [app]
  exact Safe.Sound.reachable now ready calls

/-- The bootloader of a reached device is regular. -/
theorem reached_regular (standard : flash.accepts = NorFlash.writable stmFlash) :
    Bootloader.Regular
      (Run.final step (powerUp faults flash start sram) inputs).upper.bl.state := by
  rw [(device_runs_parts faults flash start sram inputs).1]
  exact Run.final_of_kept Bootloader.step Bootloader.Regular Bootloader.step_regular _ _
    (Bootloader.power_up_regular flash false start.now start.ready standard)

end Reached

end ObdSimulator.Ecu

namespace ObdSimulator.TesterBus

open Bytes Tester Calls
open IsoTp (World queuedFrames isoTpMaxMessageSize)
open Ecu (Node ecuUpper InOrder)
open AppMain (Short)

/-! ## The service -/

variable {lossy : Prop} {allowed : World Node → Other → Prop}

/-- The device answers a call with what it is served, and drifts by its own inputs. -/
def ecu (allowed : World Node → Other → Prop) : Device where
  drifts n n' := ∃ w o, w.upper = n ∧ allowed w o ∧ InOrder w ∧
    (Ecu.step w o.input).1.upper = n'
  answers n c n' reply := ∃ hal buffer, buffer.take c.payload.length = c.payload ∧
    n' = (ecuUpper.dispatch n hal buffer c.payload.length .physical).state ∧
    reply = replyOf (ecuUpper.dispatch n hal buffer c.payload.length .physical).response c.sid

/-- A request the device answers in single frames, by a tester that waits over a
responsePending where one may come, and subscribes to nothing. -/
structure Proper (c : Call) : Prop where
  filled : 0 < c.payload.length
  fits : c.payload.length ≤ isoTpMaxMessageSize
  service : byte c.payload 0 = c.sid
  pending : c.pending = true ↔ c.sid = udsSidRequestDownload
  memory : c.sid ≠ udsSidReadMemByAddr
  periodic : c.sid ≠ udsSidReadDataPeriodic

/-- What the dispatcher is given begins with the request. -/
theorem buffer_byte (buffer payload : List UInt8) (stored : buffer.take payload.length = payload)
    (i : Nat) (inside : i < payload.length) : byte buffer i = byte payload i := by
  rw [← stored]
  simp [byte, List.getD_eq_getElem?_getD, inside]

/-! ## What is sent -/

/-- What the device sends for a proper call. -/
structure Sends (c : Call) (n : Node) (served : IsoTp.Served Node) : Prop where
  before : served.sent = [] ∨ (c.sid = udsSidRequestDownload ∧
    served.sent = [nrc udsSidRequestDownload nrcResponsePending])
  short : Short served.response
  final : c.pending = true → BlUds.Final served.response
  /-- Only the application and a suppressed response may leave a tester without one. -/
  filled : n.mode = .server →
    byte c.payload 0 ∉ BlUds.suppressibleSids ∨ byte c.payload 1 &&& 0x80 = 0 →
      0 < served.response.length

/-- The application does not know the flash services. -/
theorem app_unsupported (mem : NorFlash.Memory) (s : UdsService.App) (now : Nat)
    (req : List UInt8) (reqLen : Nat) (sized : 0 < reqLen)
    (service : byte req 0 ∈
      [udsSidRequestDownload, udsSidTransferData, udsSidRequestTransferExit]) :
    (UdsService.udsDispatchRequest mem s now req reqLen .physical).2 =
      nrc (byte req 0) nrcServiceNotSupported := by
  have reaches := UdsService.admitted_physical req reqLen sized
  have served (t : UdsService.App) : UdsService.serve mem t now req reqLen =
      (t, nrc (byte req 0) nrcServiceNotSupported) := by
    simp only [List.mem_cons, List.not_mem_nil, or_false] at service
    rcases service with download | transfer | exit
    · simp only [UdsService.serve, download]
      rfl
    · simp only [UdsService.serve, transfer]
      rfl
    · simp only [UdsService.serve, exit]
      rfl
  have negative : UdsService.suppressed req reqLen (nrc (byte req 0) nrcServiceNotSupported) =
      false := by
    have code : byte (nrc (byte req 0) nrcServiceNotSupported) 0 = 0x7F := rfl
    simp [UdsService.suppressed, code]
  rw [UdsService.udsDispatchRequest, if_neg (by rw [reaches]; decide), served]
  simp only [negative, Bool.false_eq_true, if_false]

/-- What the application sends for a proper call is one short frame or silence. -/
theorem app_sends (n : Node) (c : Call) (hal : Nat) (buffer : List UInt8) (proper : Proper c)
    (stored : buffer.take c.payload.length = c.payload) (settled : n.Settled)
    (app : n.mode = .app) :
    Sends c n (ecuUpper.dispatch n hal buffer c.payload.length .physical) := by
  have service : byte buffer 0 = c.sid :=
    (buffer_byte buffer c.payload stored 0 proper.filled).trans proper.service
  rw [Ecu.dispatch_app n hal buffer _ _ app]
  refine ⟨Or.inl rfl, ?_, ?_, ?_⟩
  · refine (AppMain.dispatch_short_iff n.mem n.app hal buffer c.payload.length .physical
      (settled app).1).mpr fun long => ?_
    exact proper.memory (service.symm.trans long.service)
  · intro pending
    have download := service.trans (proper.pending.mp pending)
    have refused := app_unsupported n.mem n.app hal buffer c.payload.length proper.filled
      (by rw [download]; exact List.mem_cons_self)
    simp only [refused]
    exact BlUds.final_nrc _ _ (by decide)
  · intro server
    rw [app] at server
    cases server

/-- What the flash server sends for a proper call is a short response, behind the pending one of
a download. -/
theorem server_sends (n : Node) (c : Call) (hal : Nat) (buffer : List UInt8) (proper : Proper c)
    (stored : buffer.take c.payload.length = c.payload) (server : n.mode = .server) :
    Sends c n (ecuUpper.dispatch n hal buffer c.payload.length .physical) := by
  obtain ⟨uds, _, _, sent, response⟩ :=
    Ecu.dispatch_server n hal buffer c.payload.length .physical server
  rw [stored] at sent response
  obtain ⟨before, few, final, filled⟩ := BlUds.dispatch_brief n.uds hal c.payload
    (List.length_pos_iff.mp proper.filled)
  refine ⟨?_, ?_, ?_, ?_⟩
  · rw [sent, ← proper.service]
    exact before
  · rw [response]
    exact .of_le few (by decide)
  · intro _
    rw [response]
    exact final
  · intro _ plain
    rw [response]
    exact filled plain

/-- Whichever part runs, the device sends for a proper call what its tester can take. -/
theorem device_sends (n : Node) (c : Call) (hal : Nat) (buffer : List UInt8) (proper : Proper c)
    (stored : buffer.take c.payload.length = c.payload) (settled : n.Settled) :
    Sends c n (ecuUpper.dispatch n hal buffer c.payload.length .physical) := by
  cases mode : n.mode with
  | server => exact server_sends n c hal buffer proper stored mode
  | app => exact app_sends n c hal buffer proper stored settled mode
  | off =>
    rw [Ecu.dispatch_off n hal buffer _ _ mode]
    refine ⟨Or.inl rfl, AppMain.short_nil, fun _ negative => ?_, fun server => ?_⟩
    · cases negative
    · rw [mode] at server
      cases server

/-! ## What the tester takes -/

/-- The tester takes a response that is not a responsePending it waits over. -/
theorem final_taken (c : Call) (response : List UInt8) (filled : 0 < response.length)
    (short : Short response) (final : c.pending = true → BlUds.Final response) :
    c.takes (IsoTp.singleFrame canIdPhysicalResp response) = true := by
  have parsed := parse_single_frame canIdPhysicalResp response c.sid filled short
  rw [Call.takes, single_frame_from_ecu, parsed]
  cases pending : c.pending with
  | false => rfl
  | true =>
    have other : replyOf response c.sid ≠ .nrc 0x78 := by
      intro same
      unfold replyOf at same
      split at same
      · cases same
      · split at same
        · rename_i negative
          exact final pending negative.1 (Reply.nrc.inj same)
        · cases same
    simp [other]

/-- A tester that waits over a responsePending passes over it. -/
theorem pending_passed (c : Call) (pending : c.pending = true)
    (service : c.sid = udsSidRequestDownload) :
    c.takes (IsoTp.singleFrame canIdPhysicalResp
      (nrc udsSidRequestDownload nrcResponsePending)) = false := by
  have parsed := parse_single_frame canIdPhysicalResp
    (nrc udsSidRequestDownload nrcResponsePending) c.sid (by decide) (by decide)
  have reply : replyOf (nrc udsSidRequestDownload nrcResponsePending) udsSidRequestDownload =
      .nrc 0x78 := by decide
  rw [Call.takes, parsed, pending, service, reply]
  rfl

/-- The frames the device sends for a proper call make the reply its response is. -/
theorem sends_replied (c : Call) (n : Node) (hal : Nat) (buffer : List UInt8) (proper : Proper c)
    (stored : buffer.take c.payload.length = c.payload)
    (served : IsoTp.Served Node)
    (same : served = ecuUpper.dispatch n hal buffer c.payload.length .physical)
    (sends : Sends c n served) (filled : lossy ∨ 0 < served.response.length) :
    (∀ m ∈ served.sent ++ [served.response], Short m) ∧
      Replied lossy (ecu allowed) n c served.state
        (answerFrames (served.sent ++ [served.response])) := by
  have passed : ∀ f ∈ answerFrames served.sent, c.takes f = false := by
    rcases sends.before with none_sent | ⟨service, sent⟩
    · rw [none_sent]
      exact List.forall_mem_nil _
    · have frames : answerFrames served.sent = [IsoTp.singleFrame canIdPhysicalResp
          (nrc udsSidRequestDownload nrcResponsePending)] := by
        rw [sent]
        rfl
      rw [frames]
      intro f member
      rw [List.mem_singleton.mp member]
      exact pending_passed c (proper.pending.mpr service) service
  have split : answerFrames (served.sent ++ [served.response]) =
      answerFrames served.sent ++ answerFrames [served.response] := by
    rw [answerFrames, answerFrames, answerFrames, ← List.map_append, ← List.filter_append]
  constructor
  · intro m member
    rcases List.mem_append.mp member with before | last
    · rcases sends.before with none_sent | ⟨_, sent⟩
      · rw [none_sent] at before
        cases before
      · rw [sent] at before
        rw [List.mem_singleton.mp before]
        exact AppMain.short_nrc _ _
    · rw [List.mem_singleton.mp last]
      exact sends.short
  · rw [split]
    by_cases empty : served.response = []
    · have loses : lossy := filled.resolve_right (by rw [empty]; decide)
      have nothing : answerFrames [served.response] = [] := by
        rw [empty]
        rfl
      rw [nothing, List.append_nil]
      exact Or.inr ⟨loses, passed⟩
    · have some_response := List.length_pos_iff.mpr empty
      have last : answerFrames [served.response] =
          [IsoTp.singleFrame canIdPhysicalResp served.response] := by
        simp [answerFrames, empty]
      refine Or.inl ⟨_, _, congrArg _ last, passed, ?_, ?_⟩
      · exact final_taken c served.response some_response sends.short sends.final
      · rw [parse_single_frame canIdPhysicalResp served.response c.sid some_response sends.short,
          same]
        exact ⟨hal, buffer, stored, rfl, rfl⟩

/-! ## What the device does by itself -/

/-- A loop call of a settled device sends nothing and leaves the reception alone, unless
the application starts. -/
theorem loop_silent (w : World Node) (hal : Nat) (k : Ecu.Work) (settled : w.upper.Settled)
    (calm : Calm lossy w.link) :
    let r := Ecu.step w (.work hal k)
    queuedFrames r.2 = [] ∧ Calm lossy r.1.link ∧
      (r.1.link.ctx.toRxContext = w.link.ctx.toRxContext ∨
        (r.1.link.ctx.rxState ≠ .waitCf ∧ w.upper.mode = .server ∧ r.1.upper.mode = .app)) := by
  intro r
  have called : (Ecu.call w (.work hal k)).2 = [] ∧
      ((Ecu.call w (.work hal k)).1.link = w.link ∨
        (Ecu.call w (.work hal k)).1.link = w.quiet.link) := by
    unfold Ecu.call
    split
    · exact ⟨rfl, Or.inl rfl⟩
    · have silent : (ecuUpper.work w.upper hal k).2 = [] :=
        (Ecu.work_settled w.upper hal k settled).2
      have link : (IsoTp.step ecuUpper w (.work hal k)).1.link = w.quiet.link := by
        change IsoTp.sendAll w.quiet.link hal (ecuUpper.work w.upper hal k).2 = _
        rw [silent]
        rfl
      refine ⟨?_, Or.inr link⟩
      change (IsoTp.step ecuUpper w (.work hal k)).1.link.log = []
      rw [link]
      rfl
  obtain ⟨events, link⟩ := called
  have rx : (Ecu.call w (.work hal k)).1.link.ctx.toRxContext = w.link.ctx.toRxContext := by
    rcases link with same | same
    · rw [same]
    · rw [same]
      rfl
  have calm' : Calm lossy (Ecu.call w (.work hal k)).1.link := by
    rcases link with same | same
    · rw [same]
      exact calm
    · rw [same]
      exact calm.quiet
  have loop : r = if w.upper.mode = .server ∧ (Ecu.call w (.work hal k)).1.upper.mode = .app then
      (Ecu.started (Ecu.call w (.work hal k)).1 (Ecu.call w (.work hal k)).1.upper,
        (Ecu.call w (.work hal k)).2)
    else ((Ecu.call w (.work hal k)).1, (Ecu.call w (.work hal k)).2) := rfl
  rw [loop]
  split
  · rename_i starts
    refine ⟨by rw [events]; rfl, ?_, Or.inr ⟨?_, starts⟩⟩
    · exact ⟨rfl, ⟨[], IsoTp.fresh_held⟩, IsoTp.fresh_ready, calm'.queue⟩
    · intro waits
      cases waits
  · exact ⟨by rw [events]; rfl, calm', Or.inl rx⟩

/-- A start leaves a calm link that receives nothing. -/
theorem started_calm (w : World Node) (n : Node) (calm : Calm lossy w.link) :
    Calm lossy (Ecu.started w n).link ∧ (Ecu.started w n).link.ctx.rxState ≠ .waitCf := by
  refine ⟨⟨rfl, ⟨[], IsoTp.fresh_held⟩, IsoTp.fresh_ready, calm.queue⟩, ?_⟩
  intro waits
  cases waits

/-- A tick sends nothing, and at most ends a reception that is late. -/
theorem tick_silent (w : World Node) (now hal : Nat) (calm : Calm lossy w.link) :
    let r := Ecu.step w (.tick now hal)
    r.1.upper = w.upper ∧ queuedFrames r.2 = [] ∧ Calm lossy r.1.link ∧
      (r.1.link.ctx.toRxContext = w.link.ctx.toRxContext ∨
        (r.1.link.ctx.rxState ≠ .waitCf ∧ w.link.ctx.rxState = .waitCf ∧
          IsoTp.isoTpRxTimeoutMs ≤ IsoTp.elapsed now w.link.ctx.lastRxTick)) := by
  intro r
  by_cases off : w.upper.mode = .off
  · have same : r = (w, []) := by
      change Ecu.call w _ = _
      rw [Ecu.call, if_pos off]
    rw [same]
    exact ⟨rfl, rfl, calm, Or.inl rfl⟩
  · have on : r = IsoTp.step ecuUpper w (.tick now hal) := by
      change Ecu.call w _ = _
      rw [Ecu.call, if_neg off]
    rw [on]
    exact tick_asked ecuUpper w now hal calm

/-- The other inputs bring no frame. -/
theorem other_not_frame (o : Other) (hal : Nat) (f : CanFrame) : o.input ≠ .frame hal f := by
  cases o with
  | tick now hal' => exact fun same => by cases same
  | work hal' k => exact fun same => by cases same
  | reset start => exact fun same => by cases same
  | powerCycle start sram => exact fun same => by cases same

/-- However the device is disturbed, it is a service for proper calls. -/
theorem disturbed_host : Host True (ecu fun _ _ => True) Node.Settled Proper fun _ _ => True where
  on _ _ := Or.inl trivial
  sized c proper := ⟨proper.filled, proper.fits⟩
  cut _ w hal f primitives settled := by
    refine Ecu.step_settled w _ settled ?_
    intro hal' f' same
    cases same
  serve n c hal buffer settled proper stored := by
    intro served
    have sends := device_sends n c hal buffer proper stored settled
    refine ⟨?_, sends_replied c n hal buffer proper stored served rfl sends (Or.inl trivial)⟩
    refine Ecu.dispatch_settled n hal buffer _ _ ?_ settled
    rw [buffer_byte buffer c.payload stored 0 proper.filled, proper.service]
    exact proper.periodic
  work w o settled calm permitted := by
    intro r
    have drifts : (ecu fun _ _ => True).drifts w.upper r.1.upper :=
      ⟨w, o, rfl, permitted, calm.held, rfl⟩
    have still := Ecu.step_settled w o.input settled (other_not_frame o)
    cases o with
    | tick now hal =>
      obtain ⟨_, silent, calm', reception⟩ := tick_silent w now hal calm
      exact ⟨still, drifts, silent, calm', reception.imp id fun late => ⟨trivial, late.1⟩⟩
    | work hal k =>
      obtain ⟨silent, calm', reception⟩ := loop_silent w hal k settled calm
      exact ⟨still, drifts, silent, calm', reception.imp id fun starts => ⟨trivial, starts.1⟩⟩
    | reset start =>
      obtain ⟨calm', idle⟩ := started_calm w (w.upper.start w.upper.flagged start) calm
      exact ⟨still, drifts, rfl, calm', Or.inr ⟨trivial, idle⟩⟩
    | powerCycle start sram =>
      obtain ⟨calm', idle⟩ := started_calm w { w.upper.start false start with sram } calm
      exact ⟨still, drifts, rfl, calm', Or.inr ⟨trivial, idle⟩⟩

end ObdSimulator.TesterBus
