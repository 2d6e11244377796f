import ObdSimulator.Lib.Secrecy
import ObdSimulator.ServiceFrame

/-!
# Normal operation in the Default session

ControlDTCSetting and periodic transmission are granted in the Extended session
only, and every way into Default takes both back. The setting lives in the fault
manager and the subscriptions in the services, so the two are tied to the session
by an invariant over all calls of both tasks. A tick in Default then sends
nothing, and the fault manager is never frozen there.
-/

namespace ObdSimulator.AppMain

open UdsService NorFlash Bytes

/-- In Default the setting is on and no subscription is active. -/
def Normal (s : App) : Prop :=
  s.session.sessionType = .default → s.faults.settingOn = true ∧ ∀ p ∈ s.periodic, p.divider = 0

/-- A return to Default stops every subscription. -/
theorem stopped_dividers (subs : List PeriodicSub) :
    ∀ p ∈ udsPeriodicStopAll subs, p.divider = 0 := by
  intro p member
  obtain ⟨_, _, rfl⟩ := List.mem_map.mp member
  rfl

/-- Entering any session is normal: Default by its hooks, the others by the name. -/
theorem enter_session_normal (s : App) (now : Nat) (t : SessionType) :
    Normal (enterSession s now t) := by
  intro entered
  cases t with
  | default => exact ⟨rfl, stopped_dividers s.periodic⟩
  | programming => cases entered
  | extended => cases entered

/-- 0x10 leaves Default only with what Default requires behind it. -/
theorem session_control_normal (s : App) (now : Nat) (req : List UInt8) (reqLen : Nat)
    (before : Normal s) : Normal (handleSessionControl s now req reqLen).1 := by
  unfold handleSessionControl
  simp only
  split
  · exact before
  · split
    · exact before
    · cases SessionType.ofByte (subFunction (byte req 1)) with
      | none => exact before
      | some t =>
        have entered := enter_session_normal s now t
        cases t with
        | default => exact entered
        | programming => exact entered
        | extended => exact entered

/-- An Extended session is left by SessionControl only. -/
theorem normal_extended {s s' : App} (extended : s.session.sessionType = .extended)
    (kept : s'.session.sessionType = s.session.sessionType) : Normal s' := by
  intro inDefault
  rw [kept, extended] at inDefault
  cases inDefault

/-- Behind a gate that asks for the Extended session. -/
theorem gated_normal {s : App} (sid : UInt8) (security : Bool) (handled : App × List UInt8)
    (before : Normal s)
    (rule : kAccessRules.find? (fun rule => rule.1 == sid) = some (sid, true, security))
    (kept : (gated s sid handled).1.session.sessionType = s.session.sessionType) :
    Normal (gated s sid handled).1 := by
  cases gate : accessGate s sid with
  | some code =>
    have refused : gated s sid handled = (s, nrc sid code) := by simp [gated, gate]
    rw [refused]
    exact before
  | none => exact normal_extended ((access_gate_iff s sid security rule).mp gate).1 kept

/-- No service behind the gate runs in Default, so none upsets it. -/
theorem serve_normal (mem : Memory) (s : App) (now : Nat) (req : List UInt8) (reqLen : Nat)
    (before : Normal s) : Normal (serve mem s now req reqLen).1 := by
  have frame := serve_frame mem s now req reqLen
  by_cases session : byte req 0 = udsSidDiagSessionCtrl
  · rw [serve_session_control mem s now req reqLen session]
    exact session_control_normal s now req reqLen before
  · have kept := frame.sessionType session
    by_cases setting : byte req 0 = udsSidControlDtcSetting
    · have served : serve mem s now req reqLen =
          gated s udsSidControlDtcSetting (handleControlDtcSetting s req reqLen) := by
        simp only [serve, setting]
        rfl
      rw [served] at kept ⊢
      exact gated_normal _ false _ before rfl kept
    · by_cases subscriptions : byte req 0 = udsSidReadDataPeriodic
      · have served : serve mem s now req reqLen =
            gated s udsSidReadDataPeriodic (handleReadDataPeriodic s req reqLen) := by
          simp only [serve, subscriptions]
          rfl
        rw [served] at kept ⊢
        exact gated_normal _ false _ before rfl kept
      · intro inDefault
        rw [frame.setting session setting, frame.periodic session subscriptions]
        exact before (kept.symm.trans inDefault)

/-- A request as a whole leaves Default normal. -/
theorem dispatch_normal (mem : Memory) (s : App) (now : Nat) (req : List UInt8) (reqLen : Nat)
    (addr : AddrType) (before : Normal s) :
    Normal (udsDispatchRequest mem s now req reqLen addr).1 := by
  unfold udsDispatchRequest
  split
  · exact before
  · exact serve_normal mem (stamped s now) now req reqLen before

/-- An update does not touch the fault setting. -/
@[simp] theorem update_setting (m : FaultManager) (st : SimState) :
    (obd2DtcUpdate m st).settingOn = m.settingOn := by
  unfold obd2DtcUpdate
  split <;> rfl

/-- Stopped subscriptions stay stopped and send nothing. -/
theorem stopped_tick (mem : Memory) (s : App) (stopped : ∀ p ∈ s.periodic, p.divider = 0) :
    udsPeriodicTick mem s = (s, []) := by
  have quiet : ∀ p ∈ s.periodic, periodicTickSub mem s p = (p, []) := by
    intro p member
    unfold periodicTickSub
    rw [if_pos (stopped p member)]
  have ticked : s.periodic.map (periodicTickSub mem s) = s.periodic.map fun p => (p, []) :=
    List.map_congr_left quiet
  simp [udsPeriodicTick, ticked, Function.comp_def]

/-- Every call keeps Default normal. -/
theorem step_normal (mem : Memory) (s : App) (i : Input) (before : Normal s) :
    Normal (step mem s i).1 := by
  cases i with
  | request now req reqLen addr => exact dispatch_normal mem s now req reqLen addr before
  | boot now ready =>
    intro _
    refine ⟨rfl, ?_⟩
    intro p member
    rw [List.eq_of_mem_replicate member]
  | work now k =>
    cases k with
    | simulate =>
      intro inDefault
      obtain ⟨setting, stopped⟩ := before inDefault
      exact ⟨by simpa [step, Work.run, updateSimulation] using setting, stopped⟩
    | periodicTick =>
      intro inDefault
      obtain ⟨setting, stopped⟩ := before inDefault
      simp only [step, Work.run, stopped_tick mem s stopped]
      exact ⟨setting, stopped⟩
    | sessionTick stamp =>
      simp only [step, Work.run, expireSession]
      split
      · exact enter_session_normal s stamp .default
      · exact before

/-- Every reachable state is normal in its Default session. -/
theorem run_normal (now ready : Nat) (calls : List (Memory × Input)) :
    Normal (Run.final (Run.opened step) (appInit now ready) calls) :=
  Run.invariant_final (Run.opened step) (fun _ _ _ => True) (fun _ => Normal)
    (fun _ s call before _ => step_normal call.1 s call.2 before) [] (appInit now ready) calls
    (step_normal (fun _ => 0) {} (.boot now ready) (fun _ => ⟨rfl, by decide⟩))
    (Run.along_of_forall _ _ (fun _ _ _ => trivial) _ _ _)

/-- In every state that requests, ticks and resets reach, the Default session has
DTC setting on and no subscription active. No call then sends a periodic message,
and the fault manager runs its table loop. -/
theorem default_session_normal (now ready : Nat) (calls : List (Memory × Input)) :
    let s := Run.final (Run.opened step) (appInit now ready) calls
    s.session.sessionType = .default →
      s.faults.settingOn = true ∧ (∀ p ∈ s.periodic, p.divider = 0) ∧
      (∀ mem i message, .periodic message ∉ (step mem s i).2) ∧
      ∀ st, obd2DtcUpdate s.faults st =
        { s.faults with
          table := (dtcUpdateTable st s.faults.failSeqCounter s.faults.table).2,
          failSeqCounter := (dtcUpdateTable st s.faults.failSeqCounter s.faults.table).1 } := by
  intro s inDefault
  obtain ⟨setting, stopped⟩ := run_normal now ready calls inDefault
  refine ⟨setting, stopped, ?_, ?_⟩
  · intro mem i message
    cases i with
    | request => simp [step]
    | boot => simp [step]
    | work now k =>
      cases k with
      | periodicTick => simp [step, Work.run, stopped_tick mem s stopped]
      | simulate => simp [step, Work.run]
      | sessionTick => simp [step, Work.run]
  · intro st
    have on : ¬s.faults.settingOn = false := ne_false_of_eq_true setting
    simp only [obd2DtcUpdate, if_neg on]

/-- The Extended session turns the setting off, and its timeout turns it on. -/
theorem default_session_normal_restored :
    (Run.final (Run.opened step) (appInit 0 100)
      [(fun _ => 0, .request 200 [0x10, 0x03] 2 .physical),
       (fun _ => 0, .request 300 [0x85, 0x02] 2 .physical),
       (fun _ => 0, .work 6000 (.sessionTick 6000))]).faults.settingOn = true :=
  (default_session_normal 0 100
    [(fun _ => 0, .request 200 [0x10, 0x03] 2 .physical),
     (fun _ => 0, .request 300 [0x85, 0x02] 2 .physical),
     (fun _ => 0, .work 6000 (.sessionTick 6000))] (by decide +kernel)).1

end ObdSimulator.AppMain
