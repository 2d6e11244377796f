import ObdSimulator.AppMain
import ObdSimulator.PeriodicTable

/-!
# What a negative response leaves behind

A service checks its request before it changes anything, and a dynamic definition
is collected in a scratch slot first. The exception is
ReadDataByPeriodicIdentifier: it stops or starts one identifier after the other and
refuses at the first that it cannot serve, with those before it already stopped or
started.
-/

namespace ObdSimulator.UdsService

open Bytes NorFlash

/-- Nothing but the activity stamp changed, and for SecurityAccess the seed, the
failure counter and the lock-out. -/
structure Untouched (req : List UInt8) (s s' : App) : Prop where
  rest : s' = { s with session := s'.session }
  session : s'.session.sessionType = s.session.sessionType
  level : s'.session.securityLevel = s.session.securityLevel
  boot : s'.session.bootTick = s.session.bootTick
  stamp : byte req 0 ≠ udsSidSecurityAccess →
    s'.session = { s.session with lastActivityTick := s'.session.lastActivityTick }

/-- A ReadDataByPeriodicIdentifier request that is refused after it acted. -/
def PartlyApplied (s : App) (req : List UInt8) (reqLen : Nat) : Prop :=
  let mode := subFunction (byte req 1)
  let pdids := (req.take reqLen).drop 2
  3 ≤ reqLen ∧
    (mode = 0x04 ∧ stopActs s.periodic pdids = true ∧ ¬ StopsAll s.periodic pdids ∨
      ∃ divider ∈ periodicDivider mode, startActs s divider s.periodic pdids = true ∧
        ¬ StartsAll s s.periodic pdids)

/-- A refusal is with an unchanged state. -/
def RefusesUnchanged (s : App) (served : App × List UInt8) : Prop :=
  byte served.2 0 = 0x7F → served.1 = s

section Handlers

variable (mem : Memory) (s : App) (now : Nat) (req : List UInt8) (reqLen : Nat)

/-- A handler that changes nothing may answer what it likes. -/
theorem RefusesUnchanged.same (response : List UInt8) : RefusesUnchanged s (s, response) :=
  fun _ => rfl

/-- A response that begins otherwise is no refusal. -/
theorem RefusesUnchanged.answered (s' : App) (first : UInt8) (rest : List UInt8)
    (positive : first ≠ 0x7F) : RefusesUnchanged s (s', first :: rest) :=
  fun negative => absurd negative positive

/-- 0x10 checks before it acts, so a refusal leaves the state unchanged. -/
theorem session_control_refuses : RefusesUnchanged s (handleSessionControl s now req reqLen) := by
  unfold handleSessionControl
  simp only
  split
  · exact .same s _
  · split
    · exact .same s _
    · split
      · exact .same s _
      · exact .answered s _ _ _ (by decide)

/-- 0x11 checks before it acts, so a refusal leaves the state unchanged. -/
theorem ecu_reset_refuses : RefusesUnchanged s (handleEcuReset s req reqLen) := by
  unfold handleEcuReset
  simp only
  split
  · exact .same s _
  · split
    · exact .answered s _ _ _ (by decide)
    · split
      · exact .answered s _ _ _ (by decide)
      · exact .same s _

/-- 0x14 checks before it acts, so a refusal leaves the state unchanged. -/
theorem clear_dtc_refuses : RefusesUnchanged s (handleClearDtc s req reqLen) := by
  unfold handleClearDtc
  simp only
  split
  · exact .same s _
  · split
    · exact .same s _
    · exact .answered s _ _ _ (by decide)

/-- 0x31 checks before it acts, so a refusal leaves the state unchanged. -/
theorem routine_control_refuses : RefusesUnchanged s (handleRoutineControl s req reqLen) := by
  unfold handleRoutineControl
  simp only
  split
  · exact .same s _
  · split
    · exact .same s _
    · split
      · exact .same s _
      · exact .answered s _ _ _ (by decide)

/-- 0x28 checks before it acts, so a refusal leaves the state unchanged. -/
theorem communication_control_refuses :
    RefusesUnchanged s (handleCommunicationControl s req reqLen) := by
  unfold handleCommunicationControl
  simp only
  split
  · exact .same s _
  · split
    · exact .same s _
    · exact .answered s _ _ _ (by decide)

/-- 0x85 checks before it acts, so a refusal leaves the state unchanged. -/
theorem control_dtc_setting_refuses :
    RefusesUnchanged s (handleControlDtcSetting s req reqLen) := by
  unfold handleControlDtcSetting
  simp only
  split
  · exact .same s _
  · split
    · exact .same s _
    · exact .answered s _ _ _ (by decide)

/-- 0x2E checks before it acts, so a refusal leaves the state unchanged. -/
theorem write_data_refuses : RefusesUnchanged s (handleWriteDataById s req reqLen) := by
  unfold handleWriteDataById
  simp only
  split
  · exact .same s _
  · split
    · exact .same s _
    · split
      · exact .same s _
      · exact .answered s _ _ _ (by decide)

/-- 0x2F checks before it acts, so a refusal leaves the state unchanged. -/
theorem input_output_refuses : RefusesUnchanged s (handleInputOutputControl s req reqLen) := by
  unfold handleInputOutputControl
  simp only
  split
  · exact .same s _
  · split
    · exact .same s _
    · split
      · exact .answered s _ _ _ (by decide)
      · split
        · split
          · exact .same s _
          · exact .answered s _ _ _ (by decide)
        · exact .same s _

/-- A definition that is rejected or finds no slot leaves the state unchanged. -/
theorem commit_dynamic_refuses (sub : UInt8) (did : UInt16) (recs : Except UInt8 (List DynRec)) :
    RefusesUnchanged s (commitDynamic s sub did recs) := by
  unfold commitDynamic
  split
  · exact .same s _
  · split
    · exact .same s _
    · exact .answered s _ _ _ (by decide)

/-- 0x2C refuses with an unchanged state in every branch. -/
theorem dynamic_define_refuses : RefusesUnchanged s (handleDynamicDefineDid s req reqLen) := by
  unfold handleDynamicDefineDid
  simp only
  split
  · exact .same s _
  · split
    · exact .same s _
    · split
      · exact commit_dynamic_refuses s _ _ _
      · split
        · exact commit_dynamic_refuses s _ _ _
        · split
          · split
            · exact .same s _
            · exact .answered s _ _ _ (by decide)
          · exact .same s _

/-- A refused ReadDataByPeriodicIdentifier leaves the table unchanged exactly when it
is not refused part way. -/
theorem read_periodic_refuses :
    RefusesUnchanged s (handleReadDataPeriodic s req reqLen) ↔ ¬ PartlyApplied s req reqLen := by
  have loop (ran : List PeriodicSub × Bool) (acts : Bool) (accepts : Prop)
      (changes : ran.1 ≠ s.periodic ↔ acts = true) (done : ran.2 = true ↔ accepts) (mode : UInt8) :
      RefusesUnchanged s
          (if ran.2 then ({ s with periodic := ran.1 },
              [udsSidReadDataPeriodic + udsResponseSidOffset, mode])
            else ({ s with periodic := ran.1 }, nrc udsSidReadDataPeriodic nrcRequestOutOfRange)) ↔
        ¬ (acts = true ∧ ¬ accepts) := by
    rw [← changes, ← done]
    obtain ⟨periodic, accepted⟩ := ran
    cases accepted with
    | true => simpa using RefusesUnchanged.answered s _ _ _ (by decide)
    | false =>
      constructor
      · intro refuses changed
        have same := refuses rfl
        exact changed.1 (congrArg App.periodic same)
      · intro unchanged _
        have same : periodic = s.periodic := by
          by_contra differs
          exact unchanged ⟨differs, by simp⟩
        simp [same]
  unfold handleReadDataPeriodic PartlyApplied
  simp only
  by_cases short : reqLen < 2
  · have few : ¬ 3 ≤ reqLen := by omega
    simpa [short, few] using RefusesUnchanged.same s _
  rw [if_neg short]
  by_cases stop : subFunction (byte req 1) = 0x04
  · have no_start : ¬ ∃ divider ∈ periodicDivider (subFunction (byte req 1)),
        startActs s divider s.periodic ((req.take reqLen).drop 2) = true ∧
          ¬ StartsAll s s.periodic ((req.take reqLen).drop 2) := by
      rintro ⟨divider, known, _⟩
      exact (periodic_divider_active _ divider known).2 stop
    rw [if_pos stop, or_iff_left no_start]
    by_cases whole : reqLen = 2
    · have few : ¬ 3 ≤ reqLen := by omega
      simpa [whole, few] using RefusesUnchanged.answered s _ _ _ (by decide)
    · have some_named : 3 ≤ reqLen := by omega
      rw [if_neg whole]
      have served := loop (stopSending s.periodic ((req.take reqLen).drop 2)) _ _
        (stop_sending_changes _ _) (stop_sending_done _ _) (subFunction (byte req 1))
      simpa [some_named, stop] using served
  · rw [if_neg stop]
    cases known : periodicDivider (subFunction (byte req 1)) with
    | none => simpa [stop, known] using RefusesUnchanged.same s _
    | some divider =>
      by_cases few : reqLen < 3
      · have few' : ¬ 3 ≤ reqLen := by omega
        simpa [few, few'] using RefusesUnchanged.same s _
      · have some_named : 3 ≤ reqLen := by omega
        obtain ⟨active, _⟩ := periodic_divider_active _ _ known
        have served := loop (startSending s divider s.periodic ((req.take reqLen).drop 2)) _ _
          (start_sending_changes _ s divider active _) (start_sending_done _ s divider active _)
          (subFunction (byte req 1))
        simpa [few, some_named, stop] using served

/-- Every service but SecurityAccess and ReadDataByPeriodicIdentifier refuses with an
unchanged state. -/
theorem serve_refuses (access : byte req 0 ≠ udsSidSecurityAccess)
    (periodic : byte req 0 ≠ udsSidReadDataPeriodic ∨
      accessGate s udsSidReadDataPeriodic ≠ none) :
    RefusesUnchanged s (serve mem s now req reqLen) := by
  have serves := serve_serves mem s now req reqLen
  generalize serve mem s now req reqLen = served at serves
  cases serves with
  | clearDtc => exact .answered s _ _ _ (by decide)
  | sessionCtrl => exact session_control_refuses s now req reqLen
  | ecuReset => exact ecu_reset_refuses s req reqLen
  | clearDiagInfo => exact clear_dtc_refuses s req reqLen
  | readDataPeriodic service opened =>
    rcases periodic with other | closed
    · exact absurd service other
    · exact absurd opened closed
  | dynamicDefineDid => exact dynamic_define_refuses s req reqLen
  | securityAccess service => exact absurd service access
  | routineControl => exact routine_control_refuses s req reqLen
  | communicationControl => exact communication_control_refuses s req reqLen
  | controlDtcSetting => exact control_dtc_setting_refuses s req reqLen
  | writeDataById => exact write_data_refuses s req reqLen
  | ioControlById => exact input_output_refuses s req reqLen
  | _ => exact .same s _

/-- A refused SecurityAccess keeps the session and the level. -/
theorem security_access_refuses (service : byte req 0 = udsSidSecurityAccess)
    (refused : byte (handleSecurityAccess (stamped s now) now req reqLen).2 0 = 0x7F) :
    Untouched req s (handleSecurityAccess (stamped s now) now req reqLen).1 := by
  have kept (d : DiagSession) (session : d.sessionType = s.session.sessionType)
      (level : d.securityLevel = s.session.securityLevel)
      (boot : d.bootTick = s.session.bootTick) :
      Untouched req s { stamped s now with session := d } :=
    ⟨rfl, session, level, boot, fun other => absurd service other⟩
  have answered : udsSidSecurityAccess + udsResponseSidOffset ≠ 0x7F := by decide
  unfold handleSecurityAccess at refused ⊢
  simp only at refused ⊢
  by_cases short : reqLen < 2
  · simp only [if_pos short]
    exact kept _ rfl rfl rfl
  simp only [if_neg short] at refused ⊢
  by_cases odd : subFunction (byte req 1) &&& 0x01 ≠ 0
  · simp only [if_pos odd] at refused ⊢
    obtain ⟨count, same⟩ := check_gate_frame (stamped s now).session now
    generalize diagSessionCheckSecurityGate (stamped s now).session now = outcome
      at refused same ⊢
    obtain ⟨session, gate⟩ := outcome
    subst same
    cases gate with
    | delay => exact kept _ rfl rfl rfl
    | locked => exact kept _ rfl rfl rfl
    | ok => exact absurd refused answered
  · simp only [if_neg odd] at refused ⊢
    cases sent : sentKey req reqLen with
    | none => exact kept _ rfl rfl rfl
    | some key =>
      simp only [sent] at refused ⊢
      obtain ⟨session, level⟩ := verify_key_frame (stamped s now).session now key
      have boot := verify_key_boot (stamped s now).session now key
      generalize diagSessionVerifyKey (stamped s now).session now key = outcome
        at refused session level boot ⊢
      obtain ⟨after, result⟩ := outcome
      cases result with
      | ok => exact absurd refused answered
      | invalid => exact kept _ session (level (by simp)) boot
      | exceededAttempts => exact kept _ session (level (by simp)) boot
      | delayNotExpired => exact kept _ session (level (by simp)) boot

/-- The gate of ReadDataByPeriodicIdentifier asks for the Extended session. -/
theorem periodic_gate_open :
    accessGate s udsSidReadDataPeriodic = none ↔ s.session.sessionType = .extended := by
  rw [access_gate_iff s udsSidReadDataPeriodic false rfl]
  simp

/-- The activity stamp does not matter to a subscription. -/
theorem start_acts_stamped (divider : UInt8) (subs : List PeriodicSub) (pdids : List UInt8) :
    startActs (stamped s now) divider subs pdids = startActs s divider subs pdids := by
  induction pdids with
  | nil => rfl
  | cons pdid rest ih =>
    simp only [startActs, ih]
    rfl

/-- The activity stamp does not matter to whether a request is refused part way. -/
theorem partly_applied_stamped :
    PartlyApplied (stamped s now) req reqLen ↔ PartlyApplied s req reqLen := by
  simp only [PartlyApplied, start_acts_stamped]
  rfl

/-- With the session as it was stamped, nothing else may differ. -/
theorem untouched_stamped_iff (s' : App) (session : s'.session = (stamped s now).session) :
    Untouched req s s' ↔ s' = stamped s now := by
  constructor
  · intro untouched
    rw [untouched.rest, session]
    rfl
  · rintro rfl
    exact ⟨rfl, rfl, rfl, rfl, fun _ => rfl⟩

/-- A response of the dispatcher begins with 0x7F when that of the service does. -/
theorem dispatch_negative_iff (addr : AddrType) (reaches : admitted req reqLen addr = true) :
    byte (udsDispatchRequest mem s now req reqLen addr).2 0 = 0x7F ↔
      byte (serve mem (stamped s now) now req reqLen).2 0 = 0x7F := by
  simp only [udsDispatchRequest, reaches, Bool.true_eq_false, if_false]
  by_cases quiet : suppressed req reqLen (serve mem (stamped s now) now req reqLen).2 = true
  · have positive : byte (serve mem (stamped s now) now req reqLen).2 0 ≠ 0x7F := by
      simp only [suppressed, Bool.and_eq_true, bne_iff_ne] at quiet
      exact quiet.1.1.1.2
    rw [if_pos quiet]
    exact iff_of_false (by decide) positive
  · rw [if_neg quiet]

end Handlers

/-- A negative response leaves everything as it was, exactly when the request is no
ReadDataByPeriodicIdentifier that is refused after it acted. -/
theorem negative_untouched_iff (mem : Memory) (s : App) (now : Nat) (req : List UInt8)
    (reqLen : Nat) (addr : AddrType) :
    (byte (udsDispatchRequest mem s now req reqLen addr).2 0 = 0x7F →
        Untouched req s (udsDispatchRequest mem s now req reqLen addr).1) ↔
      ¬ (admitted req reqLen addr = true ∧ byte req 0 = udsSidReadDataPeriodic ∧
        s.session.sessionType = .extended ∧ PartlyApplied s req reqLen) := by
  cases reaches : admitted req reqLen addr with
  | false => simp [udsDispatchRequest, reaches, byte]
  | true =>
    rw [dispatch_negative_iff mem s now req reqLen addr reaches]
    simp only [udsDispatchRequest, reaches, Bool.true_eq_false, if_false, true_and]
    by_cases access : byte req 0 = udsSidSecurityAccess
    · have other : byte req 0 ≠ udsSidReadDataPeriodic := by
        rw [access]
        decide
      have served : serve mem (stamped s now) now req reqLen =
          handleSecurityAccess (stamped s now) now req reqLen := by
        simp only [serve, access]
        rfl
      rw [served]
      simp only [other, false_and, not_false_eq_true, iff_true]
      exact security_access_refuses s now req reqLen access
    by_cases periodic : byte req 0 = udsSidReadDataPeriodic ∧ s.session.sessionType = .extended
    · obtain ⟨service, extended⟩ := periodic
      have opened : accessGate (stamped s now) udsSidReadDataPeriodic = none :=
        (periodic_gate_open (stamped s now)).mpr extended
      have served : serve mem (stamped s now) now req reqLen =
          handleReadDataPeriodic (stamped s now) req reqLen := by
        simp only [serve, service, gated, opened]
        rfl
      have session : (handleReadDataPeriodic (stamped s now) req reqLen).1.session =
          (stamped s now).session := by
        have change := read_periodic_change (stamped s now) now req reqLen opened
        generalize (handleReadDataPeriodic (stamped s now) req reqLen).1 = after at change
        cases change with
        | session t control => exact absurd (service.symm.trans control) (by decide)
        | programming control => exact absurd (service.symm.trans control) (by decide)
        | security session access' => exact absurd access' access
        | _ => rfl
      rw [served, untouched_stamped_iff s now req _ session]
      simp only [service, extended, true_and]
      rw [← partly_applied_stamped s now req reqLen]
      exact read_periodic_refuses (stamped s now) req reqLen
    · have closed : byte req 0 ≠ udsSidReadDataPeriodic ∨
          accessGate (stamped s now) udsSidReadDataPeriodic ≠ none := by
        rw [ne_eq, ne_eq, periodic_gate_open]
        exact not_and_or.mp periodic
      have refuses := serve_refuses mem (stamped s now) now req reqLen access closed
      simp only [← and_assoc, periodic, false_and, not_false_eq_true, iff_true]
      intro refused
      have same := refuses refused
      exact (untouched_stamped_iff s now req _ (congrArg App.session same)).mpr same

/-- The Extended session, with 0xF201 defined as the first byte of the software
version. -/
def definedIdentifier : App :=
  Run.final (AppMain.step fun _ => 0) (appInit 0 0)
    [.request 1000 [0x10, 0x03] 2 .physical,
     .request 1000 [0x2C, 0x01, 0xF2, 0x01, 0xF1, 0x95, 0x01, 0x01] 8 .physical]

/-- Periodic sending of 0x01 and of the undefined 0x02. -/
def startTwo : List UInt8 := [0x2A, 0x01, 0x01, 0x02]

/-- The request is refused, and 0x01 is sent every second from then on. -/
theorem refused_start_subscribes :
    (udsDispatchRequest (fun _ => 0) definedIdentifier 1000 startTwo 4 .physical).2 =
        [0x7F, 0x2A, 0x31] ∧
      definedIdentifier.periodic = List.replicate 4 {} ∧
      (udsDispatchRequest (fun _ => 0) definedIdentifier 1000 startTwo 4 .physical).1.periodic =
        ⟨0x01, 100, 0⟩ :: List.replicate 3 {} ∧
      ¬ (byte (udsDispatchRequest (fun _ => 0) definedIdentifier 1000 startTwo 4 .physical).2 0 =
          0x7F →
        Untouched startTwo definedIdentifier
          (udsDispatchRequest (fun _ => 0) definedIdentifier 1000 startTwo 4 .physical).1) := by
  have before : definedIdentifier.periodic = List.replicate 4 {} := by decide +kernel
  have after : (udsDispatchRequest (fun _ => 0) definedIdentifier 1000 startTwo 4
      .physical).1.periodic = ⟨0x01, 100, 0⟩ :: List.replicate 3 {} := by decide +kernel
  have refused : (udsDispatchRequest (fun _ => 0) definedIdentifier 1000 startTwo 4 .physical).2 =
      [0x7F, 0x2A, 0x31] := by decide +kernel
  refine ⟨refused, before, after, ?_⟩
  intro untouched
  have negative : byte (udsDispatchRequest (fun _ => 0) definedIdentifier 1000 startTwo 4
      .physical).2 0 = 0x7F := by
    rw [refused]
    rfl
  have same := congrArg App.periodic (untouched negative).rest
  rw [after] at same
  exact absurd (same.trans before) (by decide)

end ObdSimulator.UdsService
