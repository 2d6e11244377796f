import ObdSimulator.ServiceFrame

/-!
# Broadcast frames

A frame on the functional address can be a whole request, can complete a
reception that began physically, or can be neither. In each case the request is
dispatched as functional, so only the listed services see it, and those own
neither the session nor anything a tester controls through it.
-/

namespace ObdSimulator.AppMain

open UdsService NorFlash Bytes

/-- What a tester takes control of the application through. -/
structure SameControl (s s' : App) : Prop where
  sessionType : s'.session.sessionType = s.session.sessionType
  securityLevel : s'.session.securityLevel = s.session.securityLevel
  seed : s'.session.seed = s.session.seed
  seedIsFresh : s'.session.seedIsFresh = s.session.seedIsFresh
  failCount : s'.session.failCount = s.session.failCount
  lockoutStart : s'.session.lockoutStart = s.session.lockoutStart
  softResetRequested : s'.softResetRequested = s.softResetRequested
  handoff : s'.handoff = s.handoff
  vin : s'.vin = s.vin
  ioPort : s'.ioPort = s.ioPort
  dyn : s'.dyn = s.dyn
  periodic : s'.periodic = s.periodic

/-- Changing nothing takes no control. -/
theorem SameControl.refl (s : App) : SameControl s s := by
  constructor <;> rfl

/-- The listed services own none of it, and the activity stamp is no part of it. -/
theorem frame_same_control {s s' : App} {sid : UInt8} (now : Nat)
    (frame : ServiceFrame sid (stamped s now) s') (listed : sid ∈ functionalSids) :
    SameControl s s' := by
  have others : ∀ sid ∈ functionalSids, sid ≠ udsSidDiagSessionCtrl ∧ sid ≠ udsSidEcuReset ∧
      sid ≠ udsSidSecurityAccess ∧ sid ≠ udsSidWriteDataById ∧ sid ≠ udsSidIoControlById ∧
      sid ≠ udsSidDynamicDefineDid ∧ sid ≠ udsSidReadDataPeriodic := by decide +kernel
  obtain ⟨session, reset, security, write, port, define, read⟩ := others sid listed
  have kept := frame.session session security
  exact {
    sessionType := by rw [kept]; rfl
    securityLevel := by rw [kept]; rfl
    seed := by rw [kept]; rfl
    seedIsFresh := by rw [kept]; rfl
    failCount := by rw [kept]; rfl
    lockoutStart := by rw [kept]; rfl
    softResetRequested := frame.reset session reset
    handoff := frame.handoff session
    vin := frame.vin write
    ioPort := frame.ioPort port
    dyn := frame.dyn define
    periodic := frame.periodic session read }

/-- A functional request reaches no service that takes control. -/
theorem functional_same_control (mem : Memory) (s : App) (now : Nat) (req : List UInt8)
    (reqLen : Nat) :
    SameControl s (udsDispatchRequest mem s now req reqLen .functional).1 := by
  unfold udsDispatchRequest
  split
  · exact .refl s
  · rename_i reaches
    have listed : byte req 0 ∈ functionalSids := by
      simp only [admitted, Bool.and_eq_false_iff, not_or, bne_self_eq_false, Bool.false_or,
        Bool.not_eq_false, List.contains_iff_mem] at reaches
      exact reaches.2
    exact frame_same_control now (serve_frame mem (stamped s now) now req reqLen) listed

/-- A request that a broadcast frame completes is functional. -/
theorem completing_functional (l : IsoTp.Link) (hal : Nat) (f : CanFrame) (c : IsoTp.RxContext)
    (broadcast : f.canId = canIdFunctionalReq) (completes : IsoTp.completing l hal f = some c) :
    c.rxAddrType = .functional := by
  have classified : canAddrClassify f.canId = .functional := by
    rw [broadcast]
    rfl
  have received := IsoTp.receive_functional (l.addressed .functional) hal f rfl
  simp only [IsoTp.completing, classified] at completes
  split at completes
  · rw [← Option.some.inj completes]
    exact received
  · cases completes

/-- Whatever the transport and the application are in the middle of, a frame on
the functional address takes control of nothing. -/
theorem broadcast_takes_no_control (w : IsoTp.World Node) (hal : Nat) (f : CanFrame)
    (broadcast : f.canId = canIdFunctionalReq) :
    SameControl w.upper.app (IsoTp.isoTpProcessFrame appUpper w hal f).upper.app := by
  rw [IsoTp.process_frame_upper]
  cases completes : IsoTp.completing w.link hal f with
  | none => exact .refl _
  | some c =>
    have functional := completing_functional w.link hal f c broadcast completes
    simp only [appUpper, functional]
    exact functional_same_control w.upper.mem w.upper.app hal c.rxBuffer c.rxTotalSize

/-- A broadcast TesterPresent on a node just started. -/
theorem broadcast_takes_no_control_keep_alive :
    let w : IsoTp.World Node := IsoTp.isoTpInit true [] ⟨appInit 0 100, fun _ => 0⟩
    SameControl w.upper.app (IsoTp.isoTpProcessFrame appUpper w 200
      (rxFifo0Message 0x7DF 8 [0x02, 0x3E, 0x00])).upper.app :=
  broadcast_takes_no_control _ 200 (rxFifo0Message 0x7DF 8 [0x02, 0x3E, 0x00]) rfl

end ObdSimulator.AppMain
