import ObdSimulator.AppMain
import ObdSimulator.NegativeResponses

/-!
# Functional requests

A request to the functional address is dropped unless its service is one that may
answer there. That filter looks at the service alone. Behind it the access table
and the handlers still refuse: a wrong session, a request too short, a sub-function
that is not known. Their negative responses go out as those of a physical request
do.
-/

namespace ObdSimulator.UdsService

open Bytes NorFlash

/-- The functional requests a service refuses. -/
def FunctionalRefused (s : App) (req : List UInt8) (reqLen : Nat) : Prop :=
  let sub := subFunction (byte req 1)
  reqLen ≠ 0 ∧
    (byte req 0 = udsSidObd2CurrentData ∧ reqLen < 2 ∨
      byte req 0 = udsSidTesterPresent ∧ (reqLen < 2 ∨ sub ≠ 0x00) ∨
      byte req 0 = udsSidCommunicationControl ∧
        (s.session.sessionType ≠ .extended ∨ reqLen < 2 ∨ 0x03 < sub) ∨
      byte req 0 = udsSidControlDtcSetting ∧
        (s.session.sessionType ≠ .extended ∨ reqLen < 2 ∨ sub ≠ 0x01 ∧ sub ≠ 0x02))

section Handlers

variable (mem : Memory) (s : App) (now : Nat) (req : List UInt8) (reqLen : Nat)

/-- No other service refuses a functional request. -/
theorem not_refused_elsewhere {sid : UInt8} (service : byte req 0 = sid)
    (elsewhere : sid ∉ [udsSidObd2CurrentData, udsSidTesterPresent, udsSidCommunicationControl,
      udsSidControlDtcSetting]) :
    ¬ FunctionalRefused s req reqLen := by
  simp only [List.mem_cons, List.not_mem_nil, or_false, not_or] at elsewhere
  obtain ⟨not_data, not_tester, not_control, not_setting⟩ := elsewhere
  rintro ⟨_, ⟨data, _⟩ | ⟨tester, _⟩ | ⟨control, _⟩ | ⟨setting, _⟩⟩
  · exact not_data (service.symm.trans data)
  · exact not_tester (service.symm.trans tester)
  · exact not_control (service.symm.trans control)
  · exact not_setting (service.symm.trans setting)

/-- A supported PID is answered with 0x41. -/
theorem service_01_frame (sim : SimState) (pid : UInt8) :
    (obd2HandleService01 sim pid).2 = 0 ∨
      byte (((obd2HandleService01 sim pid).1.drop 1).take (obd2HandleService01 sim pid).2) 0 =
        0x41 := by
  unfold obd2HandleService01
  split
  · exact Or.inr rfl
  · split
    · exact Or.inr rfl
    · split
      · exact Or.inr rfl
      · split
        · exact Or.inr rfl
        · exact Or.inl rfl

/-- Mode 01 refuses a request without a parameter only. -/
theorem service_01_negative_iff :
    byte (handleObd2Service01 s req reqLen) 0 = 0x7F ↔ reqLen < 2 := by
  unfold handleObd2Service01
  by_cases short : reqLen < 2
  · rw [if_pos short]
    exact iff_of_true rfl short
  · rw [if_neg short]
    have frame := service_01_frame s.sim (byte req 1)
    generalize obd2HandleService01 s.sim (byte req 1) = outcome at frame
    obtain ⟨buffer, len⟩ := outcome
    refine iff_of_false ?_ short
    rcases frame with none | answered
    · have none' : len = 0 := none
      simp [none', byte]
    · simp only
      split
      · decide
      · rw [answered]
        decide

/-- Service 0x09 never answers negatively. -/
theorem service_09_positive : byte (handleObd2Service09 s req reqLen) 0 ≠ 0x7F := by
  have positive : udsSidObd2VehicleInfo + udsResponseSidOffset ≠ 0x7F := by decide
  unfold handleObd2Service09
  simp only
  split
  · decide
  · split
    · exact positive
    · split
      · exact positive
      · decide

/-- 0x3E refuses a request that is too short or has a sub-function. -/
theorem tester_present_negative_iff :
    byte (handleTesterPresent req reqLen) 0 = 0x7F ↔
      reqLen < 2 ∨ subFunction (byte req 1) ≠ 0x00 := by
  have positive : udsSidTesterPresent + udsResponseSidOffset ≠ 0x7F := by decide
  unfold handleTesterPresent
  simp only
  by_cases short : reqLen < 2
  · rw [if_pos short]
    exact iff_of_true rfl (Or.inl short)
  · rw [if_neg short]
    by_cases other : subFunction (byte req 1) ≠ 0x00
    · rw [if_pos other]
      exact iff_of_true rfl (Or.inr other)
    · rw [if_neg other]
      refine iff_of_false ?_ (not_or.mpr ⟨short, other⟩)
      split
      · decide
      · exact positive

/-- 0x28 refuses a request that is too short or has an unknown control type. -/
theorem communication_control_negative_iff :
    byte (handleCommunicationControl s req reqLen).2 0 = 0x7F ↔
      reqLen < 2 ∨ 0x03 < subFunction (byte req 1) := by
  have positive : udsSidCommunicationControl + udsResponseSidOffset ≠ 0x7F := by decide
  unfold handleCommunicationControl
  simp only
  by_cases short : reqLen < 2
  · rw [if_pos short]
    exact iff_of_true rfl (Or.inl short)
  · rw [if_neg short]
    by_cases high : 0x03 < subFunction (byte req 1)
    · rw [if_pos high]
      exact iff_of_true rfl (Or.inr high)
    · rw [if_neg high]
      exact iff_of_false positive (not_or.mpr ⟨short, high⟩)

/-- 0x85 refuses a request that is too short or names neither setting. -/
theorem control_dtc_setting_negative_iff :
    byte (handleControlDtcSetting s req reqLen).2 0 = 0x7F ↔
      reqLen < 2 ∨ subFunction (byte req 1) ≠ 0x01 ∧ subFunction (byte req 1) ≠ 0x02 := by
  have positive : udsSidControlDtcSetting + udsResponseSidOffset ≠ 0x7F := by decide
  unfold handleControlDtcSetting
  simp only
  by_cases short : reqLen < 2
  · rw [if_pos short]
    exact iff_of_true rfl (Or.inl short)
  · rw [if_neg short]
    by_cases other : subFunction (byte req 1) ≠ 0x01 ∧ subFunction (byte req 1) ≠ 0x02
    · rw [if_pos other]
      exact iff_of_true rfl (Or.inr other)
    · rw [if_neg other]
      exact iff_of_false positive (not_or.mpr ⟨short, other⟩)

/-- A service behind a gate that asks for the Extended session refuses outside it. -/
theorem gated_negative_iff (sid : UInt8) (handled : App × List UInt8) (refused : Prop)
    (rule : kAccessRules.find? (fun rule => rule.1 == sid) = some (sid, true, false))
    (refuses : byte handled.2 0 = 0x7F ↔ refused) :
    byte (gated s sid handled).2 0 = 0x7F ↔ s.session.sessionType ≠ .extended ∨ refused := by
  have gate := access_gate_iff s sid false rule
  simp only [Bool.false_eq_true, false_implies, and_true] at gate
  unfold gated
  cases closed : accessGate s sid with
  | some code =>
    have outside : s.session.sessionType ≠ .extended := by
      intro extended
      rw [gate.mpr extended] at closed
      cases closed
    exact iff_of_true rfl (Or.inl outside)
  | none =>
    have extended := gate.mp closed
    simpa [extended] using refuses

/-- The services that may answer a functional request, and when they refuse it. -/
theorem serve_functional_iff (some_bytes : reqLen ≠ 0) (listed : byte req 0 ∈ functionalSids) :
    byte (serve mem s now req reqLen).2 0 = 0x7F ↔ FunctionalRefused s req reqLen := by
  simp only [functionalSids, List.mem_cons, List.not_mem_nil, or_false] at listed
  rcases listed with service | service | service | service | service | service | service | service
  · have served : serve mem s now req reqLen = (s, handleObd2Service01 s req reqLen) := by
      simp only [serve, service]
      rfl
    rw [served, service_01_negative_iff]
    simp [FunctionalRefused, service, some_bytes, udsSidObd2CurrentData, udsSidTesterPresent,
      udsSidCommunicationControl, udsSidControlDtcSetting]
  · have served : serve mem s now req reqLen = (s, handleObd2Service03 s) := by
      simp only [serve, service]
      rfl
    have positive : udsSidObd2StoredDtc + udsResponseSidOffset ≠ 0x7F := by decide
    rw [served]
    exact iff_of_false positive (not_refused_elsewhere s req reqLen service (by decide))
  · have served : serve mem s now req reqLen = handleObd2Service04 s := by
      simp only [serve, service]
      rfl
    have positive : udsSidObd2ClearDtc + udsResponseSidOffset ≠ 0x7F := by decide
    rw [served]
    exact iff_of_false positive (not_refused_elsewhere s req reqLen service (by decide))
  · have served : serve mem s now req reqLen = (s, handleObd2Service07 s) := by
      simp only [serve, service]
      rfl
    have positive : udsSidObd2PendingDtc + udsResponseSidOffset ≠ 0x7F := by decide
    rw [served]
    exact iff_of_false positive (not_refused_elsewhere s req reqLen service (by decide))
  · have served : serve mem s now req reqLen = (s, handleObd2Service09 s req reqLen) := by
      simp only [serve, service]
      rfl
    rw [served]
    exact iff_of_false (service_09_positive s req reqLen)
      (not_refused_elsewhere s req reqLen service (by decide))
  · have served : serve mem s now req reqLen = (s, handleTesterPresent req reqLen) := by
      simp only [serve, service]
      rfl
    rw [served, tester_present_negative_iff]
    simp [FunctionalRefused, service, some_bytes, udsSidObd2CurrentData, udsSidTesterPresent,
      udsSidCommunicationControl, udsSidControlDtcSetting]
  · have served : serve mem s now req reqLen =
        gated s udsSidCommunicationControl (handleCommunicationControl s req reqLen) := by
      simp only [serve, service]
      rfl
    rw [served, gated_negative_iff s _ _ _ rfl (communication_control_negative_iff s req reqLen)]
    simp [FunctionalRefused, service, some_bytes, udsSidObd2CurrentData, udsSidTesterPresent,
      udsSidCommunicationControl, udsSidControlDtcSetting]
  · have served : serve mem s now req reqLen =
        gated s udsSidControlDtcSetting (handleControlDtcSetting s req reqLen) := by
      simp only [serve, service]
      rfl
    rw [served, gated_negative_iff s _ _ _ rfl (control_dtc_setting_negative_iff s req reqLen)]
    simp [FunctionalRefused, service, some_bytes, udsSidObd2CurrentData, udsSidTesterPresent,
      udsSidCommunicationControl, udsSidControlDtcSetting]

end Handlers

/-- A functional request is not answered negatively, exactly when it is not one of
those that a service refuses. -/
theorem functional_not_negative_iff (mem : Memory) (s : App) (now : Nat) (req : List UInt8)
    (reqLen : Nat) :
    byte (udsDispatchRequest mem s now req reqLen .functional).2 0 ≠ 0x7F ↔
      ¬ FunctionalRefused s req reqLen := by
  have refused_listed (refused : FunctionalRefused s req reqLen) :
      admitted req reqLen .functional = true := by
    obtain ⟨some_bytes, ⟨service, _⟩ | ⟨service, _⟩ | ⟨service, _⟩ | ⟨service, _⟩⟩ := refused
    · simp [admitted, some_bytes, service, functionalSids]
    · simp [admitted, some_bytes, service, functionalSids]
    · simp [admitted, some_bytes, service, functionalSids]
    · simp [admitted, some_bytes, service, functionalSids]
  rw [ne_eq, not_iff_not]
  cases reaches : admitted req reqLen .functional with
  | false =>
    have silent : (udsDispatchRequest mem s now req reqLen .functional).2 = [] := by
      simp [udsDispatchRequest, reaches]
    rw [silent]
    refine iff_of_false (by decide) ?_
    intro refused
    rw [refused_listed refused] at reaches
    cases reaches
  | true =>
    rw [dispatch_negative_iff mem s now req reqLen .functional reaches]
    have some_bytes : reqLen ≠ 0 := by
      intro none
      simp [admitted, none] at reaches
    have listed : byte req 0 ∈ functionalSids := by
      simpa [admitted, some_bytes] using reaches
    exact serve_functional_iff mem (stamped s now) now req reqLen some_bytes listed

/-- CommunicationControl in the Default session is refused, also when it was sent to
every ECU at once. -/
theorem functional_control_refused :
    (udsDispatchRequest (fun _ => 0) (appInit 0 0) 1000 [0x28, 0x00] 2 .functional).2 =
        [0x7F, 0x28, 0x7F] ∧
      ¬ byte (udsDispatchRequest (fun _ => 0) (appInit 0 0) 1000 [0x28, 0x00] 2
        .functional).2 0 ≠ 0x7F := by
  have refused : (udsDispatchRequest (fun _ => 0) (appInit 0 0) 1000 [0x28, 0x00] 2
      .functional).2 = [0x7F, 0x28, 0x7F] := by
    decide +kernel
  refine ⟨refused, ?_⟩
  rw [refused]
  decide

end ObdSimulator.UdsService
