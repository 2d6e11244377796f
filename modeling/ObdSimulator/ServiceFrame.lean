import ObdSimulator.AppMain

/-!
# What a service leaves alone

Each part of the application belongs to the services that write it. A request
changes a part only if its service identifier owns it, whatever the handler
answers. The statement is one frame for the whole service switch, assembled from
the one part that each handler writes.
-/

namespace ObdSimulator.UdsService

open Bytes NorFlash

/-- The parts of the application that a service does not own are as before. -/
structure ServiceFrame (sid : UInt8) (s s' : App) : Prop where
  sessionType : sid ≠ udsSidDiagSessionCtrl → s'.session.sessionType = s.session.sessionType
  session : sid ≠ udsSidDiagSessionCtrl → sid ≠ udsSidSecurityAccess → s'.session = s.session
  reset : sid ≠ udsSidDiagSessionCtrl → sid ≠ udsSidEcuReset →
    s'.softResetRequested = s.softResetRequested
  handoff : sid ≠ udsSidDiagSessionCtrl → s'.handoff = s.handoff
  vin : sid ≠ udsSidWriteDataById → s'.vin = s.vin
  ioPort : sid ≠ udsSidIoControlById → s'.ioPort = s.ioPort
  dyn : sid ≠ udsSidDynamicDefineDid → s'.dyn = s.dyn
  periodic : sid ≠ udsSidDiagSessionCtrl → sid ≠ udsSidReadDataPeriodic → s'.periodic = s.periodic
  setting : sid ≠ udsSidDiagSessionCtrl → sid ≠ udsSidControlDtcSetting →
    s'.faults.settingOn = s.faults.settingOn

/-- Changing nothing is inside every frame. -/
theorem ServiceFrame.refl (sid : UInt8) (s : App) : ServiceFrame sid s s where
  sessionType := fun _ => rfl
  session := fun _ _ => rfl
  reset := fun _ _ => rfl
  handoff := fun _ => rfl
  vin := fun _ => rfl
  ioPort := fun _ => rfl
  dyn := fun _ => rfl
  periodic := fun _ _ => rfl
  setting := fun _ _ => rfl

section Handlers

variable (mem : Memory) (s : App) (now : Nat) (req : List UInt8) (reqLen : Nat)

/-- 0x10 writes the session and what hangs on it: subscriptions, the pending reset with
its hand-off, and the fault setting. -/
theorem session_control_writes : ∃ session periodic softResetRequested handoff faults,
    (handleSessionControl s now req reqLen).1 =
      { s with session, periodic, softResetRequested, handoff, faults } := by
  unfold handleSessionControl
  simp only
  split
  · exact ⟨_, _, _, _, _, rfl⟩
  · split
    · exact ⟨_, _, _, _, _, rfl⟩
    · cases SessionType.ofByte (subFunction (byte req 1)) with
      | none => exact ⟨_, _, _, _, _, rfl⟩
      | some t => cases t <;> exact ⟨_, _, _, _, _, rfl⟩

/-- 0x11 writes the pending reset. -/
theorem ecu_reset_writes : ∃ softResetRequested,
    (handleEcuReset s req reqLen).1 = { s with softResetRequested } := by
  unfold handleEcuReset
  simp only
  split
  · exact ⟨_, rfl⟩
  · split
    · exact ⟨_, rfl⟩
    · split <;> exact ⟨_, rfl⟩

/-- SecurityAccess keeps the session. -/
theorem security_access_writes : ∃ session,
    (handleSecurityAccess s now req reqLen).1 = { s with session } ∧
      session.sessionType = s.session.sessionType := by
  have checked := check_gate_session s.session now
  unfold handleSecurityAccess
  simp only
  split
  · exact ⟨_, rfl, rfl⟩
  · split
    · generalize diagSessionCheckSecurityGate s.session now = outcome at checked
      obtain ⟨session, gate⟩ := outcome
      cases gate <;> exact ⟨_, rfl, checked⟩
    · cases sentKey req reqLen with
      | none => exact ⟨_, rfl, rfl⟩
      | some key =>
        have verified := verify_key_session s.session now key
        simp only
        generalize diagSessionVerifyKey s.session now key = outcome at verified
        obtain ⟨session, result⟩ := outcome
        cases result <;> exact ⟨_, rfl, verified⟩

/-- Clearing and the routines keep the setting. -/
theorem clear_dtc_writes : ∃ faults, (handleClearDtc s req reqLen).1 = { s with faults } ∧
    faults.settingOn = s.faults.settingOn := by
  unfold handleClearDtc
  simp only
  split
  · exact ⟨_, rfl, rfl⟩
  · split <;> exact ⟨_, rfl, rfl⟩

/-- 0x31 writes the faults, but not their setting. -/
theorem routine_control_writes : ∃ faults,
    (handleRoutineControl s req reqLen).1 = { s with faults } ∧
      faults.settingOn = s.faults.settingOn := by
  unfold handleRoutineControl
  simp only
  split
  · exact ⟨_, rfl, rfl⟩
  · split
    · exact ⟨_, rfl, rfl⟩
    · split
      · exact ⟨_, rfl, rfl⟩
      · refine ⟨_, rfl, ?_⟩
        split
        · rfl
        · split <;> rfl

/-- 0x28 writes the two communication flags. -/
theorem communication_control_writes : ∃ commRxEnabled commTxEnabled,
    (handleCommunicationControl s req reqLen).1 = { s with commRxEnabled, commTxEnabled } := by
  unfold handleCommunicationControl
  simp only
  split
  · exact ⟨_, _, rfl⟩
  · split <;> exact ⟨_, _, rfl⟩

/-- 0x85 writes the faults, through their setting. -/
theorem control_dtc_setting_writes : ∃ faults,
    (handleControlDtcSetting s req reqLen).1 = { s with faults } := by
  unfold handleControlDtcSetting
  simp only
  split
  · exact ⟨_, rfl⟩
  · split <;> exact ⟨_, rfl⟩

/-- 0x2E writes the VIN. -/
theorem write_data_writes : ∃ vin, (handleWriteDataById s req reqLen).1 = { s with vin } := by
  unfold handleWriteDataById
  simp only
  split
  · exact ⟨_, rfl⟩
  · split
    · exact ⟨_, rfl⟩
    · split <;> exact ⟨_, rfl⟩

/-- 0x2F writes the port. -/
theorem input_output_writes : ∃ ioPort,
    (handleInputOutputControl s req reqLen).1 = { s with ioPort } := by
  unfold handleInputOutputControl
  simp only
  split
  · exact ⟨_, rfl⟩
  · split
    · exact ⟨_, rfl⟩
    · split
      · exact ⟨_, rfl⟩
      · split
        · split <;> exact ⟨_, rfl⟩
        · exact ⟨_, rfl⟩

/-- A definition writes the slots. -/
theorem commit_dynamic_writes (sub : UInt8) (did : UInt16) (recs : Except UInt8 (List DynRec)) :
    ∃ dyn, (commitDynamic s sub did recs).1 = { s with dyn } := by
  cases recs with
  | error code => exact ⟨_, rfl⟩
  | ok accepted =>
    simp only [commitDynamic]
    cases dynSlotFor s.dyn did <;> exact ⟨_, rfl⟩

/-- 0x2C writes the slots, in every branch. -/
theorem dynamic_define_writes : ∃ dyn,
    (handleDynamicDefineDid s req reqLen).1 = { s with dyn } := by
  unfold handleDynamicDefineDid
  simp only
  split
  · exact ⟨_, rfl⟩
  · split
    · exact ⟨_, rfl⟩
    · split
      · exact commit_dynamic_writes s _ _ _
      · split
        · exact commit_dynamic_writes s _ _ _
        · split
          · split <;> exact ⟨_, rfl⟩
          · exact ⟨_, rfl⟩

/-- 0x2A writes the subscriptions. -/
theorem read_periodic_writes : ∃ periodic,
    (handleReadDataPeriodic s req reqLen).1 = { s with periodic } := by
  unfold handleReadDataPeriodic
  simp only
  split
  · exact ⟨_, rfl⟩
  · split
    · split
      · exact ⟨_, rfl⟩
      · split <;> exact ⟨_, rfl⟩
    · split
      · exact ⟨_, rfl⟩
      · split
        · exact ⟨_, rfl⟩
        · split <;> exact ⟨_, rfl⟩

/-- Every service keeps what it does not own. -/
theorem serve_frame : ServiceFrame (byte req 0) s (serve mem s now req reqLen).1 := by
  have serves := serve_serves mem s now req reqLen
  generalize serve mem s now req reqLen = served at serves
  cases serves with
  | clearDtc =>
    exact { ServiceFrame.refl (byte req 0) s with setting := fun _ _ => rfl }
  | sessionCtrl service =>
    obtain ⟨_, _, _, _, _, same⟩ := session_control_writes s now req reqLen
    rw [same]
    exact { ServiceFrame.refl (byte req 0) s with
      sessionType := fun other => absurd service other
      session := fun other => absurd service other
      reset := fun other => absurd service other
      handoff := fun other => absurd service other
      periodic := fun other => absurd service other
      setting := fun other => absurd service other }
  | ecuReset service =>
    obtain ⟨_, same⟩ := ecu_reset_writes s req reqLen
    rw [same]
    exact { ServiceFrame.refl (byte req 0) s with reset := fun _ other => absurd service other }
  | clearDiagInfo =>
    obtain ⟨_, same, setting⟩ := clear_dtc_writes s req reqLen
    rw [same]
    exact { ServiceFrame.refl (byte req 0) s with setting := fun _ _ => setting }
  | readDataPeriodic service =>
    obtain ⟨_, same⟩ := read_periodic_writes s req reqLen
    rw [same]
    exact { ServiceFrame.refl (byte req 0) s with periodic := fun _ other => absurd service other }
  | dynamicDefineDid service =>
    obtain ⟨_, same⟩ := dynamic_define_writes s req reqLen
    rw [same]
    exact { ServiceFrame.refl (byte req 0) s with dyn := fun other => absurd service other }
  | securityAccess service =>
    obtain ⟨_, same, sessionType⟩ := security_access_writes s now req reqLen
    rw [same]
    exact { ServiceFrame.refl (byte req 0) s with
      sessionType := fun _ => sessionType
      session := fun _ other => absurd service other }
  | routineControl =>
    obtain ⟨_, same, setting⟩ := routine_control_writes s req reqLen
    rw [same]
    exact { ServiceFrame.refl (byte req 0) s with setting := fun _ _ => setting }
  | communicationControl =>
    obtain ⟨_, _, same⟩ := communication_control_writes s req reqLen
    rw [same]
    exact { ServiceFrame.refl (byte req 0) s with }
  | controlDtcSetting service =>
    obtain ⟨_, same⟩ := control_dtc_setting_writes s req reqLen
    rw [same]
    exact { ServiceFrame.refl (byte req 0) s with setting := fun _ other => absurd service other }
  | writeDataById service =>
    obtain ⟨_, same⟩ := write_data_writes s req reqLen
    rw [same]
    exact { ServiceFrame.refl (byte req 0) s with vin := fun other => absurd service other }
  | ioControlById service =>
    obtain ⟨_, same⟩ := input_output_writes s req reqLen
    rw [same]
    exact { ServiceFrame.refl (byte req 0) s with ioPort := fun other => absurd service other }
  | _ => exact .refl _ s

end Handlers

end ObdSimulator.UdsService

namespace ObdSimulator.AppMain

/-- The main task keeps the table of identifiers and the VIN. -/
theorem work_keeps (mem : NorFlash.Memory) (s : UdsService.App) (now : Nat) (k : Work) :
    (k.run mem s now).1.dyn = s.dyn ∧ (k.run mem s now).1.vin = s.vin := by
  cases k with
  | simulate => exact ⟨rfl, rfl⟩
  | periodicTick => exact ⟨rfl, rfl⟩
  | sessionTick stamp =>
    simp only [Work.run, expireSession]
    split
    · exact ⟨rfl, rfl⟩
    · exact ⟨rfl, rfl⟩

end ObdSimulator.AppMain
