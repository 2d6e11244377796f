import ObdSimulator.AppMain
import ObdSimulator.SessionManager

/-!
# The two tasks of the application over time

The receive task has the higher priority and may run between any two operations
of the main task, so every order of requests and of the main task's calls is a
run. For the S3 tick the main task first samples `HAL_GetTick` and then calls
`DiagSession_Tick` with the sample. Time is in milliseconds since start-up;
`HAL_GetTick` shows its low 32 bits.

To the session manager a run is a list of its own calls.
-/

namespace ObdSimulator.AppTasks

open UdsService NorFlash Bytes

/-- The application and the unbounded time its tasks see through the tick. -/
structure Tasks where
  app : App
  time : Nat
  /-- When the main task took the sample it holds for `DiagSession_Tick`. -/
  sampled : Option Nat := none

/-- What `HAL_GetTick` returns. -/
def Tasks.tick (t : Tasks) : Nat := t.time % tickModulus

/-- What the tasks do, one at a time. -/
inductive Step where
  | elapse (ms : Nat)
  /-- The receive task has a request dispatched. -/
  | request (mem : Memory) (req : List UInt8) (reqLen : Nat) (addr : AddrType)
  /-- `OBD2_UpdateSimValues`, then `OBD2_DtcUpdate`. -/
  | simulate
  /-- `UDS_PeriodicTick`. -/
  | periodicTick (mem : Memory)
  /-- The main task samples `HAL_GetTick`. -/
  | sampleTick
  /-- `DiagSession_Tick` on the sample. -/
  | sessionTick

/-- What a step does at the present tick. -/
def act (t : Tasks) : Step → Tasks
  | .elapse ms => { t with time := t.time + ms }
  | .request mem req reqLen addr =>
    { t with app := (udsDispatchRequest mem t.app t.tick req reqLen addr).1 }
  | .simulate => { t with app := AppMain.updateSimulation t.app }
  | .periodicTick mem => { t with app := (udsPeriodicTick mem t.app).1 }
  | .sampleTick => { t with sampled := some t.time }
  | .sessionTick =>
    match t.sampled with
    | none => t
    | some time =>
      { t with app := AppMain.expireSession t.app (time % tickModulus) t.tick, sampled := none }

/-- The application at the end of `DiagSession_MarkBootReady`. -/
def started (initialised ready : Nat) : Tasks where
  app := appInit (initialised % tickModulus) (ready % tickModulus)
  time := ready

/-- Time does not go back. -/
theorem act_time (t : Tasks) (i : Step) : t.time ≤ (act t i).time := by
  cases i with
  | elapse ms => exact Nat.le_add_right _ _
  | sessionTick =>
    unfold act
    cases t.sampled <;> exact Nat.le_refl _
  | _ => exact Nat.le_refl _

/-! ## The calls of the session manager -/

/-- The calls of a step. -/
def calls (t : Tasks) : Step → List SessionManager.Call
  | .request _ req reqLen addr =>
    if admitted req reqLen addr then .resetS3Timeout :: SessionManager.serviceCalls req reqLen
    else []
  | .sessionTick => t.sampled.toList.map fun time => .tick (time % tickModulus)
  | _ => []

/-- A step with the security events it adds to the history. -/
def securityStep (t : Tasks) (i : Step) : Tasks × List (Nat × SessionManager.Event) :=
  (act t i, Run.trace SessionManager.step t.app.session ((calls t i).map (t.time, ·)))

/-- Only SessionControl and SecurityAccess call the session manager for the service. -/
theorem serve_session_kept (mem : Memory) (s : App) (now : Nat) (req : List UInt8) (reqLen : Nat)
    (control : byte req 0 ≠ udsSidDiagSessionCtrl) (access : byte req 0 ≠ udsSidSecurityAccess) :
    (serve mem s now req reqLen).1.session = s.session := by
  have change := serve_change mem s now req reqLen
  generalize (serve mem s now req reqLen).1 = after at change
  cases change with
  | session t service => exact absurd service control
  | programming service => exact absurd service control
  | security session service => exact absurd service access
  | _ => rfl

/-- 0x10 of the application makes one call of the session manager or none. -/
theorem session_control_calls (s : App) (now : Nat) (req : List UInt8) (reqLen : Nat)
    (service : byte req 0 = udsSidDiagSessionCtrl) :
    (handleSessionControl s now req reqLen).1.session =
      Run.final SessionManager.callStep s.session
        ((SessionManager.serviceCalls req reqLen).map (now, ·)) := by
  unfold handleSessionControl SessionManager.serviceCalls
  simp only [service]
  by_cases short : reqLen < 2
  · simp [short, Run.final]
  · simp only [if_neg short, if_true]
    by_cases unknown : subFunction (byte req 1) ≠ 0x01 ∧ subFunction (byte req 1) ≠ 0x02 ∧
        subFunction (byte req 1) ≠ 0x03
    · have no_session : SessionType.ofByte (subFunction (byte req 1)) = none := by
        simp [SessionType.ofByte, unknown]
      simp [unknown, no_session, Run.final]
    · simp only [if_neg unknown]
      cases SessionType.ofByte (subFunction (byte req 1)) with
      | none => rfl
      | some t => cases t <;> rfl

/-- 0x27 makes those of its level. -/
theorem security_access_calls (s : App) (now : Nat) (req : List UInt8) (reqLen : Nat)
    (service : byte req 0 = udsSidSecurityAccess) :
    (handleSecurityAccess s now req reqLen).1.session =
      Run.final SessionManager.callStep s.session
        ((SessionManager.serviceCalls req reqLen).map (now, ·)) := by
  have other : udsSidSecurityAccess ≠ udsSidDiagSessionCtrl := by decide
  unfold handleSecurityAccess SessionManager.serviceCalls
  simp only [service, if_neg other, if_true]
  by_cases short : reqLen < 2
  · simp [short, Run.final]
  · simp only [if_neg short]
    by_cases odd : subFunction (byte req 1) &&& 0x01 ≠ 0
    · simp only [if_pos odd, List.map_cons, List.map_nil, Run.final, SessionManager.callStep,
        SessionManager.Call.run]
      cases diagSessionCheckSecurityGate s.session now with
      | mk session gate => cases gate <;> rfl
    · simp only [if_neg odd, sentKey]
      by_cases keyed : 4 ≤ reqLen
      · have even : subFunction (byte req 1) &&& 0x01 = 0 := not_not.mp odd
        simp only [keyed, even, and_self, if_true, List.map_cons, List.map_nil, Run.final,
          SessionManager.callStep, SessionManager.Call.run, word]
        generalize diagSessionVerifyKey s.session now _ = outcome
        obtain ⟨session, result⟩ := outcome
        cases result <;> rfl
      · simp [keyed, Run.final]

/-- A dispatched request is these calls to the session manager. -/
theorem serve_calls (mem : Memory) (s : App) (now : Nat) (req : List UInt8) (reqLen : Nat) :
    (serve mem s now req reqLen).1.session =
      Run.final SessionManager.callStep s.session
        ((SessionManager.serviceCalls req reqLen).map (now, ·)) := by
  by_cases control : byte req 0 = udsSidDiagSessionCtrl
  · rw [serve_session_control mem s now req reqLen control]
    exact session_control_calls s now req reqLen control
  · by_cases access : byte req 0 = udsSidSecurityAccess
    · have served : serve mem s now req reqLen = handleSecurityAccess s now req reqLen := by
        simp only [serve, access]
        rfl
      rw [served]
      exact security_access_calls s now req reqLen access
    · rw [SessionManager.service_calls_other req reqLen control access]
      exact serve_session_kept mem s now req reqLen control access

/-- At one time the timed calls are the calls at its tick. -/
theorem final_at_tick (s : DiagSession) (time : Nat) (made : List SessionManager.Call) :
    Run.final SessionManager.step s (made.map (time, ·)) =
      Run.final SessionManager.callStep s (made.map (time % tickModulus, ·)) := by
  induction made generalizing s with
  | nil => rfl
  | cons c rest ih => exact ih _

/-- Every step of the tasks is its calls to the session manager. -/
theorem act_calls (t : Tasks) (i : Step) :
    (act t i).app.session =
      Run.final SessionManager.step t.app.session ((calls t i).map (t.time, ·)) := by
  cases i with
  | request mem req reqLen addr =>
    simp only [act, calls, udsDispatchRequest]
    cases reaches : admitted req reqLen addr with
    | false => rfl
    | true =>
      simp only [Bool.true_eq_false, if_false, if_true]
      rw [final_at_tick]
      exact serve_calls mem (stamped t.app t.tick) t.tick req reqLen
  | sessionTick =>
    cases held : t.sampled with
    | none => simp [act, calls, held, Run.final]
    | some time =>
      simp only [act, calls, held, AppMain.expireSession, Option.toList, List.map_cons,
        List.map_nil, Run.final, SessionManager.step, SessionManager.Call.run, diagSessionTick]
      split <;> rfl
  | _ => rfl

end ObdSimulator.AppTasks
