import ObdSimulator.BrickSafety
import ObdSimulator.Ecu
import ObdSimulator.HarmlessVisit
import ObdSimulator.ServiceFrame

/-!
# Runs of the whole device

A run of the device is at once a run of the bootloader and a run of the
application, so what holds along their runs holds on the device, frame by frame and
across resets. Two results need both parts. The application never runs over a slot in
the middle of an update, whether the boot gate or the check of the loop started it.
And a reset enters the programming session exactly when the application was asked for
it since the last start.
-/

namespace ObdSimulator.Ecu

open Bytes
open Bootloader (Mode)
open NorFlash (Memory)
open UdsService (App appInit)

/-! ## The application -/

/-- A jump starts the application anew, with the ticks of its start-up. -/
theorem jumped_app (n : Node) (start : Startup) : (n.jumped start).app =
    if n.mode = .app then appInit start.appNow start.appReady else n.app := by
  unfold Node.jumped
  split
  · rfl
  · rfl

/-- A jump leaves the mode as the gate has set it. -/
theorem jumped_mode (n : Node) (start : Startup) : (n.jumped start).mode = n.mode := by
  rw [Node.mode, jumped_bl]
  rfl

/-- A request does not leave the part that runs. -/
theorem dispatch_mode (n : Node) (hal : Nat) (buffer : List UInt8) (len : Nat) (addr : AddrType) :
    (ecuUpper.dispatch n hal buffer len addr).state.mode = n.mode := by
  rw [Node.mode, dispatch_bootloader]
  split
  · rfl
  · rfl

/-- While it runs, the application is one that its own machine reaches. -/
def Reached (n : Node) : Prop :=
  n.mode = .app → ∃ now ready calls,
    n.app = Run.final (Run.opened AppMain.step) (appInit now ready) calls

/-- With the application stopped there is nothing to have reached. -/
theorem stopped_reached (n : Node) (stopped : n.mode ≠ .app) : Reached n :=
  fun running => absurd running stopped

/-- A jump starts the application from its initial state. -/
theorem jumped_reached (n : Node) (start : Startup) : Reached (n.jumped start) := by
  intro running
  rw [jumped_mode] at running
  rw [jumped_app, if_pos running]
  exact ⟨start.appNow, start.appReady, [], rfl⟩

/-- After a start a running application is one that its machine reaches. -/
theorem start_reached (n : Node) (flag : Bool) (start : Startup) : Reached (n.start flag start) :=
  jumped_reached _ start

/-- One more input of the application. -/
theorem called_reached (n : Node) (mem : Memory) (input : AppMain.Input) (running : n.mode = .app)
    (before : Reached n) : Reached { n with app := (AppMain.step mem n.app input).1 } := by
  intro _
  obtain ⟨now, ready, calls, app⟩ := before running
  refine ⟨now, ready, calls ++ [(mem, input)], ?_⟩
  rw [Run.final_append, ← app]
  rfl

/-- The contents of the RAM are not part of what is reached. -/
theorem stored_reached (n : Node) (sram : Memory) (before : Reached n) :
    Reached { n with sram } := before

/-- A request takes one call of the part that runs. -/
theorem dispatch_reached (n : Node) (hal : Nat) (buffer : List UInt8) (len : Nat)
    (addr : AddrType) (before : Reached n) :
    Reached (ecuUpper.dispatch n hal buffer len addr).state := by
  cases mode : n.mode with
  | server =>
    apply stopped_reached
    rw [dispatch_mode, mode]
    decide
  | app =>
    have called := called_reached n n.mem (.request hal buffer len addr) mode before
    simp only [ecuUpper, mode]
    exact called
  | off =>
    simp only [ecuUpper, mode]
    exact before

/-- Each task of the loop keeps a running application among the states its machine reaches. -/
theorem work_reached (n : Node) (now : Nat) (k : Work) (before : Reached n) :
    Reached (n.work now k).1 := by
  cases k with
  | loader k start =>
    cases mode : n.mode with
    | server =>
      simp only [Node.work, mode]
      exact jumped_reached _ start
    | app =>
      simp only [Node.work, mode]
      exact before
    | off =>
      simp only [Node.work, mode]
      exact before
  | main k =>
    cases mode : n.mode with
    | app =>
      have called := called_reached n n.mem (.work now k) mode before
      simp only [Node.work, mode]
      exact called
    | server =>
      simp only [Node.work, mode]
      exact before
    | off =>
      simp only [Node.work, mode]
      exact before
  | store sram => exact before

/-- A loop call leaves its world behind a new transport, or as it is. -/
theorem step_work_upper (w : IsoTp.World Node) (hal : Nat) (k : Work) :
    (step w (.work hal k)).1.upper = (call w (.work hal k)).1.upper := by
  simp only [step]
  split
  · rfl
  · rfl

/-- A node that is off does nothing. -/
theorem call_off (w : IsoTp.World Node) (i : IsoTp.Input Work) (off : w.upper.mode = .off) :
    (call w i).1 = w := by
  rw [call, if_pos off]

/-- Whatever happens to the device, its application is in a reached state. -/
theorem step_reached (w : IsoTp.World Node) (i : Input) (before : Reached w.upper) :
    Reached (step w i).1.upper := by
  cases i with
  | frame hal f =>
    change Reached (call w (.frame hal f)).1.upper
    by_cases off : w.upper.mode = .off
    · rw [call_off w _ off]
      exact before
    · rw [call_upper w _ off]
      simp only
      cases IsoTp.completing w.quiet.link hal f with
      | none => exact before
      | some c => exact dispatch_reached w.upper hal _ _ _ before
  | cut hal f primitives =>
    simp only [step]
    split
    · exact before
    · refine stopped_reached _ ?_
      intro running
      cases running
  | tick now hal =>
    change Reached (call w (.tick now hal)).1.upper
    by_cases off : w.upper.mode = .off
    · rw [call_off w _ off]
      exact before
    · rw [call_upper w _ off]
      exact before
  | work hal k =>
    rw [step_work_upper]
    by_cases off : w.upper.mode = .off
    · rw [call_off w _ off]
      exact before
    · rw [call_upper w _ off]
      exact work_reached w.upper hal k before
  | reset start => exact start_reached w.upper _ start
  | powerCycle start sram =>
    rw [power_cycle_upper]
    exact stored_reached _ sram (start_reached w.upper false start)

/-! ## Both parts along a run -/

/-- The inputs of the bootloader in a run of the device. -/
def blInputs : IsoTp.World Node → List Input → List Bootloader.Input
  | _, [] => []
  | w, i :: rest => (blInput w i).toList ++ blInputs (step w i).1 rest

/-- One call of the device is one step of the bootloader's machine or none. -/
theorem bl_after_run (before after : BlMain.Node) (input : Option Bootloader.Input)
    (done : BlAfter before input after) :
    after.state = Run.final Bootloader.step before.state input.toList ∧
      after.log = before.log ++ Run.trace Bootloader.step before.state input.toList := by
  cases input with
  | none =>
    have same : after = before := done
    rw [same]
    exact ⟨rfl, (List.append_nil _).symm⟩
  | some j =>
    have stepped : after = ⟨_, _⟩ := done
    rw [stepped]
    exact ⟨rfl, by simp [Run.trace]⟩

/-- A run of the device is a run of the bootloader on the inputs that reach it, with the
same log. -/
theorem run_bootloader (w : IsoTp.World Node) (inputs : List Input) (inOrder : InOrder w) :
    (Run.final step w inputs).upper.bl.state =
        Run.final Bootloader.step w.upper.bl.state (blInputs w inputs) ∧
      (Run.final step w inputs).upper.bl.log =
        w.upper.bl.log ++ Run.trace Bootloader.step w.upper.bl.state (blInputs w inputs) := by
  induction inputs generalizing w with
  | nil => exact ⟨rfl, (List.append_nil _).symm⟩
  | cons i rest ih =>
    obtain ⟨state, log⟩ := bl_after_run _ _ _ (step_bootloader w i inOrder)
    obtain ⟨last, events⟩ := ih (step w i).1 (step_in_order w i inOrder)
    simp only [Run.final, blInputs, Run.final_append, Run.trace_append]
    constructor
    · rw [last, state]
    · rw [events, log, state, List.append_assoc]

/-- The bootloader as the device is switched on. -/
theorem power_up_bl (faults : List Bool) (flash : NorFlash.Device) (start : Startup)
    (sram : Memory) : (powerUp faults flash start sram).upper.bl =
      ⟨Bootloader.powerUp flash false start.now start.ready, []⟩ := by
  obtain ⟨n, node⟩ : ∃ n : Node, n = ⟨{ state := { mode := .off, uds := { flash } } }, {}, sram⟩ :=
    ⟨_, rfl⟩
  have upper : (powerUp faults flash start sram).upper = Node.start n false start := by
    rw [node]
    rfl
  rw [upper, Node.start, jumped_bl, node]
  rfl

/-- At power-up the application is in its initial state or has not started. -/
theorem power_up_reached (faults : List Bool) (flash : NorFlash.Device) (start : Startup)
    (sram : Memory) : Reached (powerUp faults flash start sram).upper :=
  start_reached ⟨{ state := { mode := .off, uds := { flash } } }, {}, sram⟩ false start

/-- Every run of the device is a run of the bootloader on the requests its frames
complete, with the same events. While the application runs, it is in a state that its
own machine reaches from its initial one. -/
theorem device_runs_parts (faults : List Bool) (flash : NorFlash.Device) (start : Startup)
    (sram : Memory) (inputs : List Input) :
    (Run.final step (powerUp faults flash start sram) inputs).upper.bl =
      ⟨Run.final Bootloader.step (Bootloader.powerUp flash false start.now start.ready)
          (blInputs (powerUp faults flash start sram) inputs),
        Run.trace Bootloader.step (Bootloader.powerUp flash false start.now start.ready)
          (blInputs (powerUp faults flash start sram) inputs)⟩ ∧
    Reached (Run.final step (powerUp faults flash start sram) inputs).upper := by
  obtain ⟨state, log⟩ := run_bootloader (powerUp faults flash start sram) inputs
    (power_up_in_order faults flash start sram)
  rw [power_up_bl] at state log
  constructor
  · rw [← state, ← List.nil_append (Run.trace _ _ _), ← log]
  · exact Run.final_of_kept step (fun w => Reached w.upper) step_reached _ inputs
      (power_up_reached faults flash start sram)

/-! ## Where the application starts -/

/-- The gate jumps into a valid image. -/
theorem valid_gate (mem : Memory) (valid : blAppCrcOk mem = true) : bootGate false mem = .jump := by
  have present : blMetaAbsent mem = false := by
    cases absent : blMetaAbsent mem with
    | false => rfl
    | true =>
      rw [Bootloader.absent_not_valid mem absent] at valid
      cases valid
  simp [bootGate, present, valid]

/-- The check of the loop starts the application over a valid image only. -/
theorem check_starts (b : Bootloader.State) (now : Nat) (server : b.mode = .server)
    (running : (Bootloader.checkStep b now).mode = .app) :
    bootGate false b.uds.flash.mem = .jump := by
  apply valid_gate
  have flash : ∀ uds, uds = (if diagSessionGet b.uds.session ≠ b.prevSession ∧
      diagSessionGet b.uds.session = .default then BlUds.resetTransfer b.uds else b.uds) →
      uds.flash.mem = b.uds.flash.mem := by
    rintro _ rfl
    split
    · rfl
    · rfl
  unfold Bootloader.checkStep at running
  simp only at running
  generalize (if diagSessionGet b.uds.session ≠ b.prevSession ∧
      diagSessionGet b.uds.session = .default then BlUds.resetTransfer b.uds else b.uds) = uds
    at running flash
  rw [← flash uds rfl]
  split at running
  · cases running
  · split at running
    · split at running
      · rename_i healthy
        exact healthy.2
      · exact absurd (server.symm.trans running) (by decide)
    · split at running
      · rename_i healthy
        exact healthy.2
      · exact absurd (server.symm.trans running) (by decide)

/-- The bootloader starts the application over flash its gate would jump into. -/
theorem app_entered (b : Bootloader.State) (j : Bootloader.Input)
    (running : (Bootloader.step b j).1.mode = .app) :
    (Bootloader.step b j).2 = [] ∧ (b.mode = .app ∨ bootGate false b.uds.flash.mem = .jump) := by
  cases j with
  | boot flag now ready =>
    refine ⟨rfl, Or.inr ?_⟩
    simp only [Bootloader.step, Bootloader.boot] at running
    cases flag with
    | true =>
      have stays : bootGate true b.uds.flash.mem = .stayProgramming := rfl
      rw [stays] at running
      cases running
    | false =>
      cases gate : bootGate false b.uds.flash.mem with
      | jump => rfl
      | stay =>
        rw [gate] at running
        cases running
      | stayProgramming =>
        rw [gate] at running
        cases running
  | request now r addr =>
    cases mode : b.mode with
    | server =>
      simp only [Bootloader.step, mode, Bootloader.serveStep] at running
      cases running
    | app => simp [Bootloader.step, mode]
    | off =>
      simp only [Bootloader.step, mode] at running
      cases running
  | cut now r addr primitives =>
    cases mode : b.mode with
    | server =>
      simp only [Bootloader.step, mode, Bootloader.cutStep] at running
      cases running
    | app =>
      simp only [Bootloader.step, mode] at running
      cases running
    | off =>
      simp only [Bootloader.step, mode] at running
      cases running
  | tick now stamp =>
    cases mode : b.mode with
    | server =>
      simp only [Bootloader.step, mode] at running
      cases running
    | app => simp [Bootloader.step, mode]
    | off =>
      simp only [Bootloader.step, mode] at running
      cases running
  | check now =>
    cases mode : b.mode with
    | server =>
      simp only [Bootloader.step, mode] at running ⊢
      refine ⟨trivial, Or.inr ?_⟩
      exact check_starts b now mode running
    | app => simp [Bootloader.step, mode]
    | off =>
      simp only [Bootloader.step, mode] at running
      cases running

/-- No download request of the run erases the record over a half-written slot with
plausible vectors. -/
def CleanRestart (_ : List IsoTp.Event) (w : IsoTp.World Node) (i : Input) : Prop :=
  ∀ j, blInput w i = some j →
    Bootloader.NoDirtyRestart w.upper.bl.log w.upper.bl.state j

instance (past : List IsoTp.Event) (w : IsoTp.World Node) (i : Input) :
    Decidable (CleanRestart past w i) :=
  inferInstanceAs (Decidable (∀ j ∈ blInput w i,
    Bootloader.NoDirtyRestart w.upper.bl.log w.upper.bl.state j))

/-- What every clean run keeps: while the application runs, the slot is whole. -/
structure Whole (mem : Memory) (w : IsoTp.World Node) : Prop where
  inOrder : InOrder w
  bl : Bootloader.Inv mem w.upper.bl.log w.upper.bl.state
  whole : w.upper.mode = .app → Bootloader.midUpdate w.upper.bl.log = false

/-- The gate jumps only outside an update, along every run of the bootloader. -/
theorem gate_whole (mem : Memory) (past : List Bootloader.Event) (b : Bootloader.State)
    (inv : Bootloader.Inv mem past b) (jumps : bootGate false b.uds.flash.mem = .jump) :
    Bootloader.midUpdate past = false := by
  have safe := Bootloader.guarded_safe _ inv.guarded
  rw [inv.account] at jumps
  cases mid : Bootloader.midUpdate past with
  | false => rfl
  | true => exact absurd ⟨jumps, mid⟩ safe

/-- A step with clean restarts keeps the application off a half-written slot. -/
theorem step_whole (mem : Memory) (past : List IsoTp.Event) (w : IsoTp.World Node) (i : Input)
    (before : Whole mem w) (clean : CleanRestart past w i) : Whole mem (step w i).1 := by
  obtain ⟨inOrder, inv, whole⟩ := before
  have next := step_in_order w i inOrder
  have after := step_bootloader w i inOrder
  cases input : blInput w i with
  | none =>
    rw [input] at after
    have same : (step w i).1.upper.bl = w.upper.bl := after
    refine ⟨next, by rw [same]; exact inv, ?_⟩
    intro running
    rw [same]
    exact whole (by rw [Node.mode, ← same]; exact running)
  | some j =>
    rw [input] at after
    have stepped : (step w i).1.upper.bl = ⟨_, _⟩ := after
    refine ⟨next, by rw [stepped]; exact Bootloader.step_inv mem _ _ j inv (clean j input), ?_⟩
    intro running
    rw [Node.mode, stepped] at running
    obtain ⟨silent, entered⟩ := app_entered _ j running
    rw [stepped, silent, List.append_nil]
    rcases entered with already | jumps
    · exact whole already
    · exact gate_whole mem _ _ inv jumps

/-- The first start is judged by the gate too. -/
theorem power_up_whole (faults : List Bool) (mem : Memory) (start : Startup) (sram : Memory) :
    Whole mem (powerUp faults (NorFlash.Device.standard stmFlash mem []) start sram) := by
  refine ⟨power_up_in_order _ _ _ _, ?_, ?_⟩
  · rw [power_up_bl]
    exact Bootloader.power_up_inv mem false start.now start.ready
  · intro _
    rw [power_up_bl]
    rfl

/-- Over any flash and any run of frames, loop calls, resets and power failures in
which no download request erases the record over a half-written slot with plausible
vectors, the application runs only while no primitive has changed its slot since an
image was last accepted.

Proof: the application is entered by the boot gate or by the check of the loop, and
both let in only what the gate lets in; while it runs, no flash primitive is made. -/
theorem application_over_whole_slot (faults : List Bool) (mem : Memory) (start : Startup)
    (sram : Memory) (inputs : List Input)
    (clean : Run.Along step CleanRestart []
      (powerUp faults (NorFlash.Device.standard stmFlash mem []) start sram) inputs)
    (running : (Run.final step
      (powerUp faults (NorFlash.Device.standard stmFlash mem []) start sram) inputs).upper.mode =
        .app) :
    Bootloader.midUpdate (Run.final step
      (powerUp faults (NorFlash.Device.standard stmFlash mem []) start sram)
        inputs).upper.bl.log = false :=
  (Run.invariant_final step CleanRestart (fun _ w => Whole mem w) (step_whole mem) [] _ inputs
    (power_up_whole faults mem start sram) clean).whole running

/-- A board with an application from the debugger and no metadata, for the witnesses. -/
def developmentBoard : IsoTp.World Node :=
  powerUp [] (NorFlash.Device.standard stmFlash Bootloader.developmentFlash []) ⟨0, 0, 0, 0⟩
    fun _ => 0

/-- A request in a Single Frame. -/
def asks (request : List UInt8) : Input :=
  .frame (BlMain.singleFrameRequest request).1 (BlMain.singleFrameRequest request).2

/-- The first eight bytes of an image. -/
def firstBlock : List UInt8 := [0x36, 0x01, 1, 2, 3, 4, 5, 6, 7, 8]

/-- The application hands over; power fails in the middle of the first block. -/
def interruptedVisit : List Input :=
  [asks [0x10, 0x02], .reset ⟨0, 0, 0, 0⟩] ++
    (BlMain.unlockRequests ++ [BlMain.announceRequest]).map asks ++
    [.cut 2000 (BlMain.singleFrameRequest firstBlock).2 1]

/-- The download is made again, and the loop starts the new application. -/
def completedVisit : List Input :=
  [.powerCycle ⟨0, 0, 0, 0⟩ fun _ => 0] ++
    ([[0x10, 0x02]] ++ BlMain.unlockRequests ++ [BlMain.announceRequest, firstBlock, [0x37],
      [0x31, 0x01, 0x02, 0x03, 0, 0, 0, 1, 0x3F, 0xCA, 0x88, 0xC5], [0x10, 0x01]]).map asks ++
    [.work 2000 (.loader .check ⟨0, 0, 0, 0⟩)]

/-- The slot is in the middle of an update after the first visit, and whole after the
second one. -/
theorem visit_over_whole_slot :
    Bootloader.midUpdate
        (Run.final step developmentBoard interruptedVisit).upper.bl.log = true ∧
      (Run.final step developmentBoard (interruptedVisit ++ completedVisit)).upper.mode = .app ∧
      Bootloader.midUpdate (Run.final step developmentBoard
        (interruptedVisit ++ completedVisit)).upper.bl.log = false := by
  have interrupted : Bootloader.midUpdate
      (Run.final step developmentBoard interruptedVisit).upper.bl.log = true := by decide +kernel
  have clean : Run.Along step CleanRestart [] developmentBoard
      (interruptedVisit ++ completedVisit) := by decide +kernel
  have running : (Run.final step developmentBoard
      (interruptedVisit ++ completedVisit)).upper.mode = .app := by decide +kernel
  refine ⟨interrupted, running, ?_⟩
  unfold developmentBoard at clean running ⊢
  exact application_over_whole_slot [] Bootloader.developmentFlash ⟨0, 0, 0, 0⟩ (fun _ => 0)
    (interruptedVisit ++ completedVisit) clean running

/-! ## The hand-off -/

/-- A request for the programming session that the application serves. -/
def asksProgramming (req : List UInt8) (reqLen : Nat) (addr : AddrType) : Bool :=
  UdsService.admitted req reqLen addr && byte req 0 == udsSidDiagSessionCtrl &&
    decide (2 ≤ reqLen) && subFunction (byte req 1) == 0x02

/-- Only 10 02 asks for the hand-off, and nothing takes the request back. -/
theorem dispatch_handoff (mem : Memory) (s : App) (now : Nat) (req : List UInt8) (reqLen : Nat)
    (addr : AddrType) :
    (UdsService.udsDispatchRequest mem s now req reqLen addr).1.handoff =
      (s.handoff || asksProgramming req reqLen addr) := by
  cases reaches : UdsService.admitted req reqLen addr with
  | false =>
    rw [UdsService.dispatch_ignored mem s now req reqLen addr reaches]
    simp [asksProgramming, reaches]
  | true =>
    rw [UdsService.dispatch_served mem s now req reqLen addr reaches]
    by_cases service : byte req 0 = udsSidDiagSessionCtrl
    · rw [UdsService.serve_session_control mem _ now req reqLen service]
      have before : (UdsService.stamped s now).handoff = s.handoff := rfl
      unfold UdsService.handleSessionControl
      simp only
      split
      · rename_i short
        have long : ¬ 2 ≤ reqLen := by omega
        simp [asksProgramming, long, before]
      · rename_i long
        have enough : 2 ≤ reqLen := by omega
        simp only [asksProgramming, reaches, service, enough, beq_self_eq_true, decide_true,
          Bool.true_and]
        generalize subFunction (byte req 1) = sub
        split
        · rename_i other
          simp [other.2.1, before]
        · unfold SessionType.ofByte
          by_cases first : sub = 0x01
          · subst first
            exact before.trans (Bool.or_false _).symm
          · by_cases second : sub = 0x02
            · subst second
              exact (Bool.or_true _).symm
            · have other : (sub == 0x02) = false := beq_false_of_ne second
              rw [if_neg first, if_neg second, other, Bool.or_false]
              by_cases third : sub = 0x03
              · rw [if_pos third]
                exact before
              · rw [if_neg third]
                exact before
    · have kept := (UdsService.serve_frame mem (UdsService.stamped s now) now req reqLen).handoff
        service
      rw [kept]
      simp [asksProgramming, service, UdsService.stamped]

/-- The frame completes such a request while the application runs. -/
def handsOver (w : IsoTp.World Node) : Input → Bool
  | .frame hal f =>
    match w.upper.mode, IsoTp.completing w.quiet.link hal f with
    | .app, some c => asksProgramming c.rxBuffer c.rxTotalSize c.rxAddrType
    | _, _ => false
  | _ => false

/-- The inputs behind which the device starts. -/
def starts : Input → Bool
  | .reset _ | .powerCycle _ _ => true
  | _ => false

/-- An application that was just started has asked for nothing. -/
theorem jumped_unflagged (n : Node) (start : Startup) : (n.jumped start).flagged = false := by
  rw [Node.flagged, jumped_mode, jumped_app]
  by_cases app : n.mode = .app
  · simp [app, appInit]
  · simp [app]

/-- A start clears the request, whichever way the gate decides. -/
theorem start_unflagged (n : Node) (flag : Bool) (start : Startup) :
    (n.start flag start).flagged = false :=
  jumped_unflagged _ start

/-- The contents of the RAM are not part of it. -/
theorem stored_flagged (n : Node) (sram : Memory) :
    ({ n with sram } : Node).flagged = n.flagged := rfl

/-- A stopped application asks for nothing. -/
theorem stopped_unflagged (n : Node) (stopped : n.mode ≠ .app) : n.flagged = false := by
  simp [Node.flagged, stopped]

/-- A request sets the flag exactly if the application runs and is asked for
programming. -/
theorem dispatch_flagged (n : Node) (hal : Nat) (buffer : List UInt8) (len : Nat)
    (addr : AddrType) : (ecuUpper.dispatch n hal buffer len addr).state.flagged =
      (n.flagged || (n.mode == .app && asksProgramming buffer len addr)) := by
  cases mode : n.mode with
  | server =>
    have stays := (dispatch_mode n hal buffer len addr).trans mode
    rw [stopped_unflagged _ (by rw [stays]; decide), stopped_unflagged n (by rw [mode]; decide)]
    rfl
  | app =>
    have running : n.bl.state.mode = .app := mode
    simp only [ecuUpper, mode, Node.flagged]
    simp only [Node.mode, running, dispatch_handoff, beq_self_eq_true, Bool.true_and]
  | off =>
    simp only [ecuUpper, mode]
    exact (Bool.or_false _).symm

/-- A tick asks for nothing. -/
theorem periodic_tick_handoff (mem : Memory) (s : App) :
    (UdsService.udsPeriodicTick mem s).1.handoff = s.handoff := rfl

/-- No other task of the loop asks for anything. -/
theorem work_flagged (n : Node) (now : Nat) (k : Work) :
    (n.work now k).1.flagged = n.flagged := by
  cases k with
  | loader k start =>
    cases mode : n.mode with
    | server =>
      simp only [Node.work, mode]
      rw [jumped_unflagged, stopped_unflagged n (by rw [mode]; decide)]
    | app => simp only [Node.work, mode]
    | off => simp only [Node.work, mode]
  | main k =>
    cases mode : n.mode with
    | app =>
      have kept : (k.run n.mem n.app now).1.handoff = n.app.handoff := by
        cases k with
        | simulate => rfl
        | periodicTick => exact periodic_tick_handoff n.mem n.app
        | sessionTick stamp =>
          simp only [AppMain.Work.run, AppMain.expireSession]
          split
          · rfl
          · rfl
      have running : n.bl.state.mode = .app := mode
      simp only [Node.work, mode, Node.flagged, kept]
      simp only [Node.mode, running]
    | server => simp only [Node.work, mode]
    | off => simp only [Node.work, mode]
  | store sram => rfl

/-- The record asks for the bootloader after the step: it did before and the device
was not started, or the step asked for it. -/
theorem step_flagged (w : IsoTp.World Node) (i : Input) :
    (step w i).1.upper.flagged = (w.upper.flagged && !starts i || handsOver w i) := by
  cases i with
  | frame hal f =>
    change (call w (.frame hal f)).1.upper.flagged = _
    simp only [starts, handsOver, Bool.not_false, Bool.and_true]
    by_cases off : w.upper.mode = .off
    · rw [call_off w _ off, off]
      exact (Bool.or_false _).symm
    · rw [call_upper w _ off]
      simp only
      cases IsoTp.completing w.quiet.link hal f with
      | none =>
        cases w.upper.mode with
        | app => exact (Bool.or_false _).symm
        | _ => exact (Bool.or_false _).symm
      | some c =>
        rw [dispatch_flagged]
        cases w.upper.mode with
        | app => rfl
        | _ => rfl
  | cut hal f primitives =>
    simp only [step, starts, handsOver, Bool.not_false, Bool.and_true, Bool.or_false]
    cases asked : request w hal f with
    | none => rfl
    | some c =>
      have server : w.upper.mode = .server := by
        by_contra other
        rw [request, if_neg other] at asked
        cases asked
      rw [stopped_unflagged w.upper (by rw [server]; decide)]
      refine stopped_unflagged _ ?_
      intro running
      cases running
  | tick now hal =>
    change (call w (.tick now hal)).1.upper.flagged = _
    simp only [starts, handsOver, Bool.not_false, Bool.and_true, Bool.or_false]
    by_cases off : w.upper.mode = .off
    · rw [call_off w _ off]
    · rw [call_upper w _ off]
  | work hal k =>
    rw [step_work_upper]
    simp only [starts, handsOver, Bool.not_false, Bool.and_true, Bool.or_false]
    by_cases off : w.upper.mode = .off
    · rw [call_off w _ off]
    · rw [call_upper w _ off]
      exact work_flagged w.upper hal k
  | reset start =>
    simp only [starts, handsOver, Bool.not_true, Bool.and_false, Bool.or_false]
    exact start_unflagged w.upper _ start
  | powerCycle start sram =>
    simp only [starts, handsOver, Bool.not_true, Bool.and_false, Bool.or_false]
    rw [power_cycle_upper, stored_flagged]
    exact start_unflagged w.upper false start

/-- The application was asked for the programming session, and the device not started
since. -/
def AskedSince (w : IsoTp.World Node) (inputs : List Input) : Prop :=
  ∃ before i after, inputs = before ++ i :: after ∧
    handsOver (Run.final step w before) i = true ∧ ∀ j ∈ after, starts j = false

/-- Having asked since the last start, by the first input of a run. -/
theorem asked_since_cons (w : IsoTp.World Node) (i : Input) (rest : List Input) :
    AskedSince w (i :: rest) ↔
      (handsOver w i = true ∧ ∀ j ∈ rest, starts j = false) ∨ AskedSince (step w i).1 rest := by
  constructor
  · rintro ⟨before, j, after, whole, asked, quiet⟩
    cases before with
    | nil =>
      obtain ⟨rfl, rfl⟩ := List.cons.inj whole
      exact Or.inl ⟨asked, quiet⟩
    | cons k before =>
      obtain ⟨rfl, rfl⟩ := List.cons.inj whole
      exact Or.inr ⟨before, j, after, rfl, asked, quiet⟩
  · rintro (⟨asked, quiet⟩ | ⟨before, j, after, rfl, asked, quiet⟩)
    · exact ⟨[], i, rest, rfl, asked, quiet⟩
    · exact ⟨i :: before, j, after, rfl, asked, quiet⟩

/-- The flag is set exactly if the application has been asked since the last start. -/
theorem run_flagged (w : IsoTp.World Node) (inputs : List Input) :
    (Run.final step w inputs).upper.flagged = true ↔
      (w.upper.flagged = true ∧ ∀ j ∈ inputs, starts j = false) ∨ AskedSince w inputs := by
  induction inputs generalizing w with
  | nil =>
    have none_asked : ¬ AskedSince w [] := by
      rintro ⟨before, i, after, whole, _⟩
      exact List.append_ne_nil_of_right_ne_nil before (List.cons_ne_nil i after) whole.symm
    simp [Run.final, none_asked]
  | cons i rest ih =>
    rw [Run.final, ih, asked_since_cons, step_flagged, List.forall_mem_cons]
    simp only [Bool.or_eq_true, Bool.and_eq_true, Bool.not_eq_true']
    tauto

/-- The server is up in the programming session. -/
def Node.Programming (n : Node) : Prop :=
  n.mode = .server ∧ n.bl.state.uds.session.sessionType = .programming

/-- A start enters the programming session with the flag and not without it. -/
theorem start_programming (n : Node) (flag : Bool) (start : Startup) :
    (n.start flag start).Programming ↔ flag = true := by
  have state : (n.start flag start).bl.state =
      Bootloader.boot n.bl.state.uds.flash flag start.now start.ready := by
    rw [Node.start, jumped_bl]
  rw [Node.Programming, Node.mode, state, Bootloader.boot]
  cases flag with
  | true => exact ⟨fun _ => rfl, fun _ => ⟨rfl, rfl⟩⟩
  | false =>
    have gate : bootGate false n.bl.state.uds.flash.mem ≠ .stayProgramming := by
      simp only [bootGate, Bool.false_eq_true, if_false]
      split
      · split
        · decide
        · decide
      · split
        · decide
        · decide
    constructor
    · rintro ⟨mode, session⟩
      cases decision : bootGate false n.bl.state.uds.flash.mem with
      | jump =>
        rw [decision] at mode
        cases mode
      | stay =>
        rw [decision] at session
        cases session
      | stayProgramming => exact absurd decision gate
    · intro flagged
      cases flagged

/-- A reset enters the programming session exactly if the flag is set. -/
theorem reset_programming (w : IsoTp.World Node) (start : Startup) :
    (step w (.reset start)).1.upper.Programming ↔ w.upper.flagged = true :=
  start_programming w.upper w.upper.flagged start

/-- The contents of the RAM do not decide the session. -/
theorem programming_sram (n : Node) (sram : Memory) :
    ({ n with sram } : Node).Programming ↔ n.Programming := Iff.rfl

/-- A power cycle never does: the magic in the RAM is gone. -/
theorem power_cycle_programming (w : IsoTp.World Node) (start : Startup) (sram : Memory) :
    ¬ (step w (.powerCycle start sram)).1.upper.Programming := by
  rw [power_cycle_upper, programming_sram, start_programming]
  decide

/-- Nothing is asked for before the first start. -/
theorem power_up_unflagged (faults : List Bool) (flash : NorFlash.Device) (start : Startup)
    (sram : Memory) : (powerUp faults flash start sram).upper.flagged = false :=
  start_unflagged ⟨{ state := { mode := .off, uds := { flash } } }, {}, sram⟩ false start

/-- After any run of the device, a reset enters the programming session of the
bootloader exactly when the application served a request for it and the device was not
started since. So a request is handed over once, an interrupted one too, and no power
cycle enters the session.

Proof: the record is set while the application runs by such a request and by nothing
else, and every start consumes it. -/
theorem reset_hands_over_once (faults : List Bool) (flash : NorFlash.Device) (start : Startup)
    (sram : Memory) (inputs : List Input) (again : Startup) :
    ((step (Run.final step (powerUp faults flash start sram) inputs)
        (.reset again)).1.upper.Programming ↔
      AskedSince (powerUp faults flash start sram) inputs) ∧
    ∀ sram', ¬ (step (Run.final step (powerUp faults flash start sram) inputs)
      (.powerCycle again sram')).1.upper.Programming := by
  have flagged := run_flagged (powerUp faults flash start sram) inputs
  rw [power_up_unflagged] at flagged
  refine ⟨(reset_programming _ again).trans (flagged.trans ?_),
    power_cycle_programming _ again⟩
  constructor
  · rintro (⟨was, _⟩ | asked)
    · cases was
    · exact asked
  · exact Or.inr

end ObdSimulator.Ecu
