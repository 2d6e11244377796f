import ObdSimulator.AppTasks
import ObdSimulator.Bootloader

/-!
# Locking and unlocking

Entering the Default session locks; nothing else but a reset does. SecurityAccess
is in no rule of the access table, so a key is accepted in every session, Default
included. In every reachable state of the application and of the bootloader the
level is therefore unlocked exactly when a key was accepted since the session last
entered Default, whatever the session is now.
-/

namespace ObdSimulator.SessionManager

/-- A key was accepted after the last reset and since the session last entered
Default. -/
def Accepted (past : List Event) : Prop :=
  ∃ before key after, past = before ++ .compared key true :: after ∧
    ∀ e ∈ after, e ≠ .defaulted ∧ e ≠ .booted

/-- A matching key is an acceptance. -/
theorem accepted_matched (past : List Event) (key : UInt16) :
    Accepted (past ++ [.compared key true]) :=
  ⟨past, key, [], rfl, by simp⟩

/-- Nothing has been accepted at the start. -/
theorem not_accepted_nil : ¬ Accepted [] := by
  rintro ⟨before, key, after, whole, _⟩
  cases before <;> cases whole

/-- The last event decides, unless it neither unlocks nor locks. -/
theorem accepted_snoc (past : List Event) (e : Event) (failed : e.isSuccess = false) :
    Accepted (past ++ [e]) ↔ Accepted past ∧ e ≠ .defaulted ∧ e ≠ .booted := by
  constructor
  · rintro ⟨before, key, after, whole, kept⟩
    rcases List.eq_nil_or_concat after with rfl | ⟨init, last, rfl⟩
    · have same := (List.append_inj' whole rfl).2
      rw [List.singleton_inj.mp same] at failed
      cases failed
    · have whole' : past ++ [e] = (before ++ .compared key true :: init) ++ [last] := by
        simpa using whole
      obtain ⟨rfl, same⟩ := List.append_inj' whole' rfl
      rw [List.singleton_inj.mp same]
      refine ⟨⟨before, key, init, rfl, ?_⟩, kept last (by simp)⟩
      intro e' member
      exact kept e' (by simp [member])
  · rintro ⟨⟨before, key, after, rfl, kept⟩, stays⟩
    refine ⟨before, key, after ++ [e], by simp, ?_⟩
    intro e' member
    rcases List.mem_append.mp member with earlier | last
    · exact kept e' earlier
    · rw [List.mem_singleton.mp last]
      exact stays

/-- The level is unlocked exactly when the history says a key was accepted. -/
def Explained (past : List Event) (s : DiagSession) : Prop :=
  s.securityLevel ≠ .locked ↔ Accepted past

/-- Every call of the session manager locks or unlocks for the reason the history gives.
-/
theorem call_explained (past : List Event) (s : DiagSession) (i : Nat × Call)
    (explained : Explained past s) :
    Explained (past ++ (callStep s i).2) (callStep s i).1 := by
  obtain ⟨now, c⟩ := i
  have does := call_does s now c
  simp only [callStep]
  generalize c.run s now = ran at does ⊢
  obtain ⟨s', events⟩ := ran
  unfold Explained at *
  cases does with
  | entered other differs =>
    have same : (if other = .default then SecurityLevel.locked else s.securityLevel) =
        s.securityLevel := if_neg differs
    rw [List.append_nil, ← explained]
    simp only [same]
  | defaulted => simp [accepted_snoc past .defaulted rfl]
  | seedRefused => simpa using explained
  | seeded => simpa [accepted_snoc past (.seeded _) rfl] using explained
  | keyRefused => simpa using explained
  | keyStale => simpa using explained
  | keyMatched => exact iff_of_true (by simp) (accepted_matched past _)
  | keyMissed key => simpa [accepted_snoc past (.compared key false) rfl] using explained
  | stamped => simpa using explained
  | ticked => simpa using explained
  | expired => simp [accepted_snoc past .defaulted rfl]
  | booted =>
    simp [accepted_snoc past .booted rfl, diagSessionInit]

/-- Any list of calls leaves the lock explained by the history. -/
theorem calls_explained (past : List Event) (s : DiagSession) (made : List (Nat × Call))
    (explained : Explained past s) :
    Explained (past ++ Run.trace callStep s made) (Run.final callStep s made) :=
  Run.invariant_final callStep (fun _ _ _ => True) Explained
    (fun past s i before _ => call_explained past s i before) past s made explained
    (Run.along_of_forall _ _ (fun _ _ _ => trivial) _ _ _)

end ObdSimulator.SessionManager

/-! ## The application -/

namespace ObdSimulator.AppMain

open UdsService SessionManager

/-- The calls to the session manager, at the ticks they see. -/
def calls : Input → List (Nat × Call)
  | .request now req reqLen addr =>
    if admitted req reqLen addr then
      (.resetS3Timeout :: serviceCalls req reqLen).map (now, ·)
    else []
  | .work now (.sessionTick stamp) => [(stamp, .tick now)]
  | .work _ _ => []
  | .boot now ready => [(ready, .boot now)]

/-- What a call of the application does to the session, it does through the session
manager. -/
theorem step_calls (mem : NorFlash.Memory) (s : App) (i : Input) :
    (step mem s i).1.session = Run.final callStep s.session (calls i) := by
  cases i with
  | request now req reqLen addr =>
    simp only [step, calls, udsDispatchRequest]
    cases reaches : admitted req reqLen addr with
    | false => rfl
    | true => exact AppTasks.serve_calls mem (stamped s now) now req reqLen
  | work now k =>
    cases k with
    | sessionTick stamp =>
      simp only [step, Work.run, expireSession, calls, Run.final, callStep, Call.run,
        diagSessionTick]
      split <;> rfl
    | _ => rfl
  | boot now ready => rfl

/-- A call of the application over any memory, with its security events. -/
def securityStep (s : App) (i : NorFlash.Memory × Input) : App × List SessionManager.Event :=
  ((step i.1 s i.2).1, Run.trace callStep s.session (calls i.2))

/-- A step of the application leaves its lock explained by the history. -/
theorem security_step_explained (past : List SessionManager.Event) (s : App)
    (i : NorFlash.Memory × Input) (explained : Explained past s.session) :
    Explained (past ++ (securityStep s i).2) (securityStep s i).1.session := by
  have made := calls_explained past s.session (calls i.2) explained
  rw [← step_calls i.1 s i.2] at made
  exact made

end ObdSimulator.AppMain

/-! ## The bootloader -/

namespace ObdSimulator.BlUds

open SessionManager Bytes

/-- A sub-function that the bootloader refuses names no session. -/
theorem no_session_outside (sub : UInt8) (outside : sub < 0x01 ∨ 0x03 < sub) :
    SessionType.ofByte sub = none := by
  unfold SessionType.ofByte
  split
  · subst sub
    exact absurd outside (by decide)
  · split
    · subst sub
      exact absurd outside (by decide)
    · split
      · subst sub
        exact absurd outside (by decide)
      · rfl

/-- 0x10 of the bootloader makes one call of the session manager or none. -/
theorem session_control_calls (s : Server) (now : Nat) (request : List UInt8)
    (service : byte request 0 = udsSidDiagSessionCtrl) :
    (handleSessionControl s now request).1.session =
      Run.final callStep s.session ((serviceCalls request request.length).map (now, ·)) := by
  unfold handleSessionControl serviceCalls
  simp only [service]
  by_cases short : request.length < 2
  · simp [short, Run.final]
  · simp only [if_neg short, if_true]
    by_cases outside : subFunction (byte request 1) < 0x01 ∨ 0x03 < subFunction (byte request 1)
    · have no_session := no_session_outside _ outside
      simp only [if_pos outside, no_session]
      rfl
    · simp only [if_neg outside, diagSessionSetSession]
      cases SessionType.ofByte (subFunction (byte request 1)) <;> rfl

/-- 0x27 makes those of its level. -/
theorem security_access_calls (s : Server) (now : Nat) (request : List UInt8)
    (service : byte request 0 = udsSidSecurityAccess) :
    (handleSecurityAccess s now request).1.session =
      Run.final callStep s.session ((serviceCalls request request.length).map (now, ·)) := by
  have other : udsSidSecurityAccess ≠ udsSidDiagSessionCtrl := by decide
  unfold handleSecurityAccess serviceCalls
  simp only [service, if_neg other, if_true]
  by_cases short : request.length < 2
  · simp [short, Run.final]
  · simp only [if_neg short]
    by_cases odd : subFunction (byte request 1) &&& 0x01 ≠ 0
    · simp only [if_pos odd, List.map_cons, List.map_nil, Run.final, callStep, Call.run]
      cases diagSessionCheckSecurityGate s.session now with
      | mk session gate => cases gate <;> rfl
    · by_cases keyless : request.length < 4
      · simp [odd, keyless, Nat.not_le.mpr keyless, Run.final]
      · simp only [if_neg odd, if_neg keyless, if_pos (Nat.le_of_not_lt keyless), List.map_cons,
          List.map_nil, Run.final, callStep, Call.run]
        generalize diagSessionVerifyKey s.session now _ = outcome
        obtain ⟨session, result⟩ := outcome
        cases result <;> rfl

/-- A reset is only noted. -/
theorem ecu_reset_session_kept (s : Server) (request : List UInt8) :
    (handleEcuReset s request).1.session = s.session := by
  unfold handleEcuReset
  simp only
  split
  · rfl
  · split <;> rfl

/-- The gate looks at the session and does not touch it. -/
theorem gated_session_kept (s : Server) (sid : UInt8) (handler : Server × Reply)
    (kept : handler.1.session = s.session) : (gated s sid handler).1.session = s.session := by
  unfold gated
  split
  · rfl
  · exact kept

/-- A flash command leaves the session alone. -/
theorem command_session_kept (s : Server) (c : Command) : (c.run s).1.session = s.session := by
  cases c with
  | requestDownload size =>
    simp only [Command.run, requestDownload]
    split
    · rfl
    · split <;> rfl
  | transferData seq data =>
    simp only [Command.run, transferData]
    split <;> rfl
  | checkMemory sub version crc =>
    simp only [Command.run, checkMemory]
    split <;> rfl

/-- Only SessionControl and SecurityAccess call the session manager for the service. -/
theorem serve_session_kept (s : Server) (now : Nat) (request : List UInt8)
    (control : byte request 0 ≠ udsSidDiagSessionCtrl)
    (access : byte request 0 ≠ udsSidSecurityAccess) :
    (serve s now request).1.session = s.session := by
  unfold serve
  simp only [if_neg control, if_neg access]
  split
  · exact ecu_reset_session_kept s request
  split
  · unfold handleTesterPresent
    simp only
    split
    · rfl
    · split <;> rfl
  split
  · unfold handleNoopControl
    split <;> rfl
  split
  · apply gated_session_kept
    unfold handleRequestDownload
    split
    · rfl
    · exact command_session_kept s (.requestDownload _)
  split
  · apply gated_session_kept
    unfold handleTransferData
    split
    · rfl
    · exact command_session_kept s (.transferData _ _)
  split
  · apply gated_session_kept
    unfold handleRequestTransferExit
    split <;> rfl
  split
  · apply gated_session_kept
    unfold handleRoutineControl
    split
    · rfl
    · exact command_session_kept s (.checkMemory _ _ _)
  rfl

/-- A dispatched request is these calls to the session manager. -/
theorem serve_calls (s : Server) (now : Nat) (request : List UInt8) :
    (serve s now request).1.session =
      Run.final callStep s.session ((serviceCalls request request.length).map (now, ·)) := by
  by_cases control : byte request 0 = udsSidDiagSessionCtrl
  · have served : serve s now request = handleSessionControl s now request := by
      simp only [serve, control]
      rfl
    rw [served]
    exact session_control_calls s now request control
  · by_cases access : byte request 0 = udsSidSecurityAccess
    · have served : serve s now request = handleSecurityAccess s now request := by
        simp only [serve, access]
        rfl
      rw [served]
      exact security_access_calls s now request access
    · rw [service_calls_other request request.length control access]
      exact serve_session_kept s now request control access

end ObdSimulator.BlUds

namespace ObdSimulator.Bootloader

open SessionManager BlUds

/-- A start of the server. Without the server RAM means nothing, and its control
block is as after a reset at tick zero. -/
def bootCalls (now ready : Nat) : BootDecision → List (Nat × Call)
  | .jump => [(0, .boot 0)]
  | .stay => [(ready, .boot now)]
  | .stayProgramming => [(ready, .boot now), (ready, .setSession .programming)]

/-- The calls to the session manager, at the ticks they see. -/
def calls (b : State) : Input → List (Nat × Call)
  | .boot flag now ready => bootCalls now ready (bootGate flag b.uds.flash.mem)
  | .request now r addr =>
    match b.mode with
    | .server =>
      if admitted r.1 addr then
        (.resetS3Timeout :: serviceCalls r.1 r.1.length).map (now, ·)
      else []
    | _ => []
  | .cut _ _ _ _ =>
    match b.mode with
    | .server => [(0, .boot 0)]
    | _ => []
  | .tick now stamp =>
    match b.mode with
    | .server => [(stamp, .tick now)]
    | _ => []
  | .check _ => []

/-- A start initialises the session manager and, for a hand-off, enters the programming
session. -/
theorem boot_calls (b : State) (flag : Bool) (now ready : Nat) :
    (boot b.uds.flash flag now ready).uds.session =
      Run.final callStep b.uds.session
        (bootCalls now ready (bootGate flag b.uds.flash.mem)) := by
  unfold boot
  cases bootGate flag b.uds.flash.mem <;> rfl

/-- The check of the loop leaves the session alone. -/
theorem check_step_session (b : State) (now : Nat) :
    (checkStep b now).uds.session = b.uds.session := by
  unfold checkStep
  simp only
  by_cases dropped : diagSessionGet b.uds.session ≠ b.prevSession ∧
      diagSessionGet b.uds.session = .default
  · simp only [if_pos dropped]
    split
    · rfl
    · split <;> split <;> rfl
  · simp only [if_neg dropped]
    split
    · rfl
    · split <;> split <;> rfl

/-- What a step of the bootloader does to the session, it does through the session
manager. -/
theorem step_calls (b : State) (i : Input) :
    (step b i).1.uds.session = Run.final callStep b.uds.session (calls b i) := by
  cases i with
  | boot flag now ready => exact boot_calls b flag now ready
  | request now r addr =>
    cases mode : b.mode with
    | server =>
      simp only [step, calls, mode, serveStep, serveRequest]
      cases reaches : admitted r.1 addr with
      | false => rfl
      | true => exact serve_calls (stamped (fresh b.uds) now) now r.1
    | app => simp [step, calls, mode, Run.final]
    | off => simp [step, calls, mode, Run.final]
  | cut now r addr primitives =>
    cases mode : b.mode with
    | server =>
      simp only [step, calls, mode]
      rfl
    | app => simp [step, calls, mode, Run.final]
    | off => simp [step, calls, mode, Run.final]
  | tick now stamp =>
    cases mode : b.mode with
    | server =>
      simp only [step, calls, mode]
      rfl
    | app => simp [step, calls, mode, Run.final]
    | off => simp [step, calls, mode, Run.final]
  | check now =>
    cases mode : b.mode with
    | server =>
      simp only [step, calls, mode]
      exact check_step_session b now
    | app => simp [step, calls, mode, Run.final]
    | off => simp [step, calls, mode, Run.final]

/-- A step of the bootloader with its security events. -/
def securityStep (b : State) (i : Input) : State × List SessionManager.Event :=
  ((step b i).1, Run.trace callStep b.uds.session (calls b i))

/-- A step of the bootloader leaves its lock explained by the history. -/
theorem security_step_explained (past : List SessionManager.Event) (b : State) (i : Input)
    (explained : Explained past b.uds.session) :
    Explained (past ++ (securityStep b i).2) (securityStep b i).1.uds.session := by
  have made := calls_explained past b.uds.session (calls b i) explained
  rw [← step_calls b i] at made
  exact made

/-- Power comes up locked. -/
theorem power_up_locked (flash : NorFlash.Device) (flag : Bool) (now ready : Nat) :
    (powerUp flash flag now ready).uds.session.securityLevel = .locked := by
  unfold powerUp boot
  cases bootGate flag flash.mem <;> rfl

end ObdSimulator.Bootloader

/-! ## Default means locked, until a key -/

namespace ObdSimulator.SessionManager

/-- In every reachable state of the application and of the bootloader the level is
unlocked exactly when a key was accepted since the last entry into Default. -/
theorem unlocked_iff_accepted :
    (∀ now ready inputs,
      (Run.final AppMain.securityStep (UdsService.appInit now ready) inputs).session.securityLevel ≠
          .locked ↔
        Accepted (Run.trace AppMain.securityStep (UdsService.appInit now ready) inputs)) ∧
    ∀ flash flag now ready inputs,
      (Run.final Bootloader.securityStep (Bootloader.powerUp flash flag now ready)
          inputs).uds.session.securityLevel ≠ .locked ↔
        Accepted (Run.trace Bootloader.securityStep (Bootloader.powerUp flash flag now ready)
          inputs) := by
  constructor
  · intro now ready inputs
    have initial : Explained [] (UdsService.appInit now ready).session :=
      iff_of_false (fun unlocked => unlocked rfl) not_accepted_nil
    simpa [Explained] using Run.invariant_final AppMain.securityStep (fun _ _ _ => True)
      (fun past s => Explained past s.session)
      (fun past s i before _ => AppMain.security_step_explained past s i before) [] _ inputs initial
      (Run.along_of_forall _ _ (fun _ _ _ => trivial) _ _ _)
  · intro flash flag now ready inputs
    have initial : Explained [] (Bootloader.powerUp flash flag now ready).uds.session :=
      iff_of_false (fun unlocked => unlocked (Bootloader.power_up_locked flash flag now ready))
        not_accepted_nil
    simpa [Explained] using Run.invariant_final Bootloader.securityStep (fun _ _ _ => True)
      (fun past b => Explained past b.uds.session)
      (fun past b i before _ => Bootloader.security_step_explained past b i before) [] _ inputs
      initial (Run.along_of_forall _ _ (fun _ _ _ => trivial) _ _ _)

/-- A seed and its key, sent in the Default session two seconds after the start-up. -/
def keyInDefault : List (NorFlash.Memory × AppMain.Input) :=
  [(fun _ => 0, .request 2000 [0x27, 0x01] 2 .physical),
   (fun _ => 0, .request 2000 [0x27, 0x02, 0xEF, 0x62] 4 .physical)]

/-- The Default session is unlocked then, and the Extended session starts so. -/
theorem key_in_default_unlocks :
    (Run.final AppMain.securityStep (UdsService.appInit 0 100) keyInDefault).session.sessionType =
        .default ∧
      (Run.final AppMain.securityStep (UdsService.appInit 0 100)
        keyInDefault).session.securityLevel ≠ .locked ∧
      (Run.final AppMain.securityStep (UdsService.appInit 0 100)
        (keyInDefault ++
          [(fun _ => 0, .request 2000 [0x10, 0x03] 2 .physical)])).session.sessionType =
        .extended ∧
      (Run.final AppMain.securityStep (UdsService.appInit 0 100)
        (keyInDefault ++
          [(fun _ => 0, .request 2000 [0x10, 0x03] 2 .physical)])).session.securityLevel ≠
        .locked := by
  decide +kernel

end ObdSimulator.SessionManager
