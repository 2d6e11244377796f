import ObdSimulator.Bootloader
import ObdSimulator.Download

/-!
# Rejected requests of the bootloader

A flash service checks its request before it acts, and once it acts only a flash
primitive can fail it. A negative answer without a failing primitive therefore
leaves the server as the request found it, up to the activity stamp; a rejected
SecurityAccess also leaves its counters behind. The transfer never looks at
either, so rejected requests may be put anywhere into a download without changing
what comes of it.
-/

namespace ObdSimulator.BlUds

open NorFlash Bytes

/-- The flash, the transfer, the pending reset, and what the gate looks at. -/
structure SameCore (s t : Server) : Prop where
  flash : t.flash = s.flash
  xfer : t.xfer = s.xfer
  savedRollback : t.savedRollback = s.savedRollback
  resetPending : t.resetPending = s.resetPending
  sessionType : t.session.sessionType = s.session.sessionType
  securityLevel : t.session.securityLevel = s.session.securityLevel

/-- Servers that agree on the core. Where it is asked for, they agree on the whole
session but for its activity stamp. -/
structure Alike (strict : Prop) (s t : Server) : Prop where
  core : SameCore s t
  stamp : strict → t.session = { s.session with lastActivityTick := t.session.lastActivityTick }

/-- Every primitive given to the flash on the way from `s` to `s'` was done. -/
def PrimitivesDone (s s' : Server) : Prop :=
  ∀ e ∈ s'.flash.log.drop s.flash.log.length, e.done = true

instance (s s' : Server) : Decidable (PrimitivesDone s s') :=
  inferInstanceAs (Decidable (∀ e ∈ _, _))

/-- A refusal without a failing primitive is with an unchanged server. -/
def Refuses (s : Server) (out : Server × Reply) : Prop :=
  byte out.2.response 0 = 0x7F → PrimitivesDone s out.1 → out.1 = s

/-- A handler that changes nothing may answer what it likes. -/
theorem Refuses.same (s : Server) (reply : Reply) : Refuses s (s, reply) := fun _ _ => rfl

/-- A response that begins otherwise is no refusal. -/
theorem Refuses.answered (s s' : Server) (sent : List (List UInt8)) (first : UInt8)
    (rest : List UInt8) (positive : first ≠ 0x7F) : Refuses s (s', ⟨sent, first :: rest⟩) :=
  fun negative => absurd negative positive

/-- A device that reports a failure has a primitive to show for it. -/
theorem reported_ok {d d' : Device} {ok : Bool} (reports : d.Reports d' ok)
    (done : ∀ e ∈ d'.log.drop d.log.length, e.done = true) : ok = true := by
  obtain ⟨events, log, failing⟩ := reports
  cases ok with
  | true => rfl
  | false =>
    obtain ⟨e, member, missed⟩ := failing rfl
    rw [log, List.drop_left] at done
    rw [done e member] at missed
    cases missed

section Handlers

variable (s : Server) (now : Nat) (request : List UInt8)

/-- 0x10 enters a session only when it confirms it. -/
theorem session_control_refuses : Refuses s (handleSessionControl s now request) := by
  unfold handleSessionControl
  simp only
  split
  · exact .same s _
  · split
    · exact .same s _
    · split
      · exact .same s _
      · exact .answered s _ _ _ _ (by decide)

/-- 0x11 notes a reset only when it confirms it. -/
theorem ecu_reset_refuses : Refuses s (handleEcuReset s request) := by
  unfold handleEcuReset
  simp only
  split
  · exact .same s _
  · split
    · exact .same s _
    · exact .answered s _ _ _ _ (by decide)

/-- 0x3E changes nothing at all. -/
theorem tester_present_refuses : Refuses s (handleTesterPresent s request) := by
  unfold handleTesterPresent
  simp only
  split
  · exact .same s _
  · split <;> exact .same s _

/-- 0x28 and 0x85 change nothing at all. -/
theorem noop_control_refuses (sid : UInt8) : Refuses s (handleNoopControl s sid request) := by
  unfold handleNoopControl
  split <;> exact .same s _

/-- 0x37 closes the transfer only when it confirms it. -/
theorem transfer_exit_refuses : Refuses s (handleRequestTransferExit s request) := by
  unfold handleRequestTransferExit
  split
  · exact .same s _
  · exact .answered s _ _ _ _ (by decide)

/-- A download request whose primitives are all done is accepted. -/
theorem request_download_refuses : Refuses s (handleRequestDownload s request) := by
  unfold handleRequestDownload
  cases checked : checkRequestDownload request with
  | error code => exact .same s _
  | ok size =>
    obtain ⟨_, fits⟩ := check_download_size request size checked
    have marked := meta_write_reports s.flash (updatingMeta (blMetaRollbackCounter s.flash.mem))
    simp only [requestDownload]
    generalize blMetaWrite s.flash (updatingMeta (blMetaRollbackCounter s.flash.mem)) = outcome
      at marked
    obtain ⟨after, written⟩ := outcome
    cases written with
    | false =>
      intro _ done
      cases reported_ok marked done
    | true =>
      have erased := erase_loop_reports after slotPage (imagePages size)
      simp only [slot_erase_loop after size fits]
      generalize otaFlashEraseLoop after slotPage (imagePages size) = second at erased
      obtain ⟨last, finished⟩ := second
      cases finished with
      | false =>
        intro _ done
        cases reported_ok (marked.trans erased) done
      | true => exact .answered s _ _ _ _ (by decide)

/-- A block outside the range of the driver is refused before any primitive. -/
theorem transfer_data_refuses : Refuses s (handleTransferData s request) := by
  unfold handleTransferData
  cases checkTransferData s.xfer request with
  | error code => exact .same s _
  | ok block =>
    obtain ⟨seq, data⟩ := block
    simp only [transferData, otaFlashWrite]
    by_cases ranged : inRange (u32 (appBase + s.xfer.written)) data.length = true
    · have stored := write_loop_reports s.flash (u32 (appBase + s.xfer.written)) data
        (doublewords data.length)
      rw [if_pos ranged]
      generalize otaFlashWriteLoop s.flash (u32 (appBase + s.xfer.written)) data
        (doublewords data.length) = outcome at stored
      obtain ⟨after, written⟩ := outcome
      cases written with
      | false =>
        intro _ done
        cases reported_ok stored done
      | true => exact .answered s _ _ _ _ (by decide)
    · rw [if_neg ranged]
      exact .same s _

/-- An accepted CheckMemory whose primitives are all done is answered. -/
theorem routine_control_refuses : Refuses s (handleRoutineControl s request) := by
  unfold handleRoutineControl
  cases checkRoutineControl s request with
  | error code => exact .same s _
  | ok checked =>
    obtain ⟨version, crc⟩ := checked
    have marked := meta_write_reports s.flash (validMeta version crc s.xfer.written)
    simp only [checkMemory]
    generalize blMetaWrite s.flash (validMeta version crc s.xfer.written) = outcome at marked
    obtain ⟨after, written⟩ := outcome
    cases written with
    | false =>
      intro _ done
      cases reported_ok marked done
    | true => exact .answered s _ _ _ _ (by decide)

/-- A refusal by the gate changes nothing. -/
theorem gated_refuses (sid : UInt8) (handler : Server × Reply) (behind : Refuses s handler) :
    Refuses s (gated s sid handler) := by
  unfold gated
  cases gateFlashServices s.session with
  | some code => exact .same s _
  | none => exact behind

/-- Every service but SecurityAccess refuses with an unchanged server. -/
theorem serve_refuses (other : byte request 0 ≠ udsSidSecurityAccess) :
    Refuses s (serve s now request) := by
  unfold serve
  simp only [if_neg other]
  apply iteInduction (fun _ => session_control_refuses s now request)
  intro _
  apply iteInduction (fun _ => ecu_reset_refuses s request)
  intro _
  apply iteInduction (fun _ => tester_present_refuses s request)
  intro _
  apply iteInduction (fun _ => noop_control_refuses s request _)
  intro _
  apply iteInduction (fun _ => gated_refuses s _ _ (request_download_refuses s request))
  intro _
  apply iteInduction (fun _ => gated_refuses s _ _ (transfer_data_refuses s request))
  intro _
  apply iteInduction (fun _ => gated_refuses s _ _ (transfer_exit_refuses s request))
  intro _
  apply iteInduction (fun _ => gated_refuses s _ _ (routine_control_refuses s request))
  intro _
  exact .same s _

/-- SecurityAccess leaves at most its own counters behind. -/
theorem security_access_refuses
    (negative : byte (handleSecurityAccess s now request).2.response 0 = 0x7F) :
    SameCore s (handleSecurityAccess s now request).1 := by
  have checkedType := check_gate_session s.session now
  have checkedLevel := check_gate_security s.session now
  have positive : udsSidSecurityAccess + udsResponseSidOffset ≠ 0x7F := by decide
  unfold handleSecurityAccess at negative ⊢
  simp only at negative ⊢
  split
  · exact ⟨rfl, rfl, rfl, rfl, rfl, rfl⟩
  · rename_i long
    rw [if_neg long] at negative
    split
    · rename_i odd
      rw [if_pos odd] at negative
      generalize diagSessionCheckSecurityGate s.session now = outcome
        at checkedType checkedLevel negative
      obtain ⟨session, gate⟩ := outcome
      cases gate with
      | delay => exact ⟨rfl, rfl, rfl, rfl, checkedType, checkedLevel⟩
      | locked => exact ⟨rfl, rfl, rfl, rfl, checkedType, checkedLevel⟩
      | ok => exact absurd negative positive
    · rename_i even
      rw [if_neg even] at negative
      split
      · exact ⟨rfl, rfl, rfl, rfl, rfl, rfl⟩
      · rename_i keyed
        rw [if_neg keyed] at negative
        obtain ⟨kept, level⟩ := verify_key_frame s.session now
          ((byte request 2).toUInt16 <<< 8 ||| (byte request 3).toUInt16)
        generalize diagSessionVerifyKey s.session now
          ((byte request 2).toUInt16 <<< 8 ||| (byte request 3).toUInt16) = outcome
          at kept level negative
        obtain ⟨session, result⟩ := outcome
        cases result with
        | ok => exact absurd negative positive
        | invalid => exact ⟨rfl, rfl, rfl, rfl, kept, level (by simp)⟩
        | exceededAttempts => exact ⟨rfl, rfl, rfl, rfl, kept, level (by simp)⟩
        | delayNotExpired => exact ⟨rfl, rfl, rfl, rfl, kept, level (by simp)⟩

end Handlers

/-! ## Requests do not see the difference -/

/-- A server agrees with itself on everything but the session. -/
theorem SameCore.refl (s : Server) : SameCore s s := ⟨rfl, rfl, rfl, rfl, rfl, rfl⟩

/-- The agreement as an equation. -/
theorem SameCore.eq {s t : Server} (same : SameCore s t) : t = { s with session := t.session } := by
  obtain ⟨flash, xfer, saved, pending, _, _⟩ := same
  cases t
  cases s
  cases flash
  cases xfer
  cases saved
  cases pending
  rfl

/-- The gate looks only at what the two agree on. -/
theorem SameCore.gate {s t : Server} (same : SameCore s t) :
    gateFlashServices t.session = gateFlashServices s.session := by
  unfold gateFlashServices diagSessionGet diagSessionSecurityUnlocked
  rw [same.sessionType, same.securityLevel]

/-- Equal replies, and servers still alike. -/
structure Agree (strict : Prop) (out out' : Server × Reply) : Prop where
  reply : out.2 = out'.2
  alike : Alike strict out.1 out'.1

/-- A handler that neither looks at the session nor touches it. -/
def Blind (handler : Server → Server × Reply) : Prop :=
  ∀ s session, handler { s with session } = ({ (handler s).1 with session }, (handler s).2)

/-- A blind handler does not touch the session. -/
theorem Blind.session {handler : Server → Server × Reply} (blind : Blind handler) (s : Server) :
    (handler s).1.session = s.session := by
  have same := congrArg (·.1.session) (blind s s.session)
  exact same

/-- A blind handler answers alike on servers that differ in the session. -/
theorem Blind.agree {handler : Server → Server × Reply} (blind : Blind handler) {strict : Prop}
    {s t : Server} (alike : Alike strict s t) : Agree strict (handler s) (handler t) := by
  have kept := blind.session s
  have other := blind s t.session
  rw [← alike.core.eq] at other
  rw [other]
  refine ⟨rfl, ⟨rfl, rfl, rfl, rfl, ?_, ?_⟩, ?_⟩
  · rw [kept]
    exact alike.core.sessionType
  · rw [kept]
    exact alike.core.securityLevel
  · intro asked
    rw [kept]
    exact alike.stamp asked

/-- 0x11 does not look at the session. -/
theorem ecu_reset_blind (request : List UInt8) : Blind (handleEcuReset · request) := by
  intro s session
  unfold handleEcuReset
  simp only
  split
  · rfl
  · split <;> rfl

/-- 0x3E does not look at the session. -/
theorem tester_present_blind (request : List UInt8) : Blind (handleTesterPresent · request) := by
  intro s session
  unfold handleTesterPresent
  simp only
  split
  · rfl
  · split <;> rfl

/-- 0x28 and 0x85 do not look at the session. -/
theorem noop_control_blind (sid : UInt8) (request : List UInt8) :
    Blind (handleNoopControl · sid request) := by
  intro s session
  unfold handleNoopControl
  split <;> rfl

/-- Behind the gate 0x34 does not look at the session. -/
theorem request_download_blind (request : List UInt8) :
    Blind (handleRequestDownload · request) := by
  intro s session
  unfold handleRequestDownload
  cases checkRequestDownload request with
  | error code => rfl
  | ok size =>
    simp only [requestDownload]
    generalize blMetaWrite s.flash (updatingMeta (blMetaRollbackCounter s.flash.mem)) = outcome
    obtain ⟨after, written⟩ := outcome
    cases written with
    | false => rfl
    | true =>
      simp only
      generalize otaFlashErase after appBase size = second
      obtain ⟨last, finished⟩ := second
      cases finished <;> rfl

/-- Behind the gate 0x36 does not look at the session. -/
theorem transfer_data_blind (request : List UInt8) : Blind (handleTransferData · request) := by
  intro s session
  unfold handleTransferData
  simp only
  cases checkTransferData s.xfer request with
  | error code => rfl
  | ok block =>
    simp only [transferData]
    generalize otaFlashWrite s.flash (u32 (appBase + s.xfer.written)) block.2 = outcome
    obtain ⟨after, written⟩ := outcome
    cases written <;> rfl

/-- Behind the gate 0x37 does not look at the session. -/
theorem transfer_exit_blind (request : List UInt8) :
    Blind (handleRequestTransferExit · request) := by
  intro s session
  unfold handleRequestTransferExit
  simp only
  split <;> rfl

/-- Behind the gate 0x31 does not look at the session. -/
theorem routine_control_blind (request : List UInt8) : Blind (handleRoutineControl · request) := by
  intro s session
  have same : checkRoutineControl { s with session } request = checkRoutineControl s request := rfl
  unfold handleRoutineControl
  simp only [same]
  cases checkRoutineControl s request with
  | error code => rfl
  | ok checked =>
    simp only [checkMemory]
    generalize blMetaWrite s.flash (validMeta checked.1 checked.2 s.xfer.written) = outcome
    obtain ⟨after, written⟩ := outcome
    cases written <;> rfl

/-- The gate of SecurityAccess does not look at the activity stamp. -/
theorem check_gate_stamp (d : DiagSession) (stamp now : Nat) :
    diagSessionCheckSecurityGate { d with lastActivityTick := stamp } now =
      ({ (diagSessionCheckSecurityGate d now).1 with lastActivityTick := stamp },
        (diagSessionCheckSecurityGate d now).2) := by
  unfold diagSessionCheckSecurityGate
  simp only
  split
  · rfl
  · split
    · split <;> rfl
    · rfl

/-- A key is judged without the stamp. -/
theorem verify_key_stamp (d : DiagSession) (stamp now : Nat) (key : UInt16) :
    ∃ stamp', diagSessionVerifyKey { d with lastActivityTick := stamp } now key =
      ({ (diagSessionVerifyKey d now key).1 with lastActivityTick := stamp' },
        (diagSessionVerifyKey d now key).2) := by
  unfold diagSessionVerifyKey
  rw [check_gate_stamp]
  generalize diagSessionCheckSecurityGate d now = outcome
  obtain ⟨session, gate⟩ := outcome
  cases gate with
  | delay => exact ⟨stamp, rfl⟩
  | locked => exact ⟨stamp, rfl⟩
  | ok =>
    simp only
    split
    · exact ⟨stamp, rfl⟩
    · split
      · exact ⟨now, rfl⟩
      · split <;> exact ⟨stamp, rfl⟩

/-- SecurityAccess answers the same under any stamp, and leaves the same but for it. -/
theorem security_access_stamp (s : Server) (stamp now : Nat) (request : List UInt8) :
    ∃ stamp', handleSecurityAccess { s with session.lastActivityTick := stamp } now request =
      ({ (handleSecurityAccess s now request).1 with session.lastActivityTick := stamp' },
        (handleSecurityAccess s now request).2) := by
  unfold handleSecurityAccess
  simp only
  split
  · exact ⟨stamp, rfl⟩
  · split
    · rw [check_gate_stamp]
      generalize diagSessionCheckSecurityGate s.session now = outcome
      obtain ⟨session, gate⟩ := outcome
      cases gate with
      | delay => exact ⟨stamp, rfl⟩
      | locked => exact ⟨stamp, rfl⟩
      | ok => exact ⟨now, rfl⟩
    · split
      · exact ⟨stamp, rfl⟩
      · obtain ⟨stamp', same⟩ := verify_key_stamp s.session stamp now
          ((byte request 2).toUInt16 <<< 8 ||| (byte request 3).toUInt16)
        rw [same]
        generalize diagSessionVerifyKey s.session now
          ((byte request 2).toUInt16 <<< 8 ||| (byte request 3).toUInt16) = outcome
        obtain ⟨session, result⟩ := outcome
        cases result <;> exact ⟨stamp', rfl⟩

/-- A branch both take. -/
theorem Agree.ite {strict : Prop} {c : Prop} [Decidable c] {x x' y y' : Server × Reply}
    (first : c → Agree strict x x') (second : ¬c → Agree strict y y') :
    Agree strict (if c then x else y) (if c then x' else y') := by
  split
  · rename_i holds
    exact first holds
  · rename_i fails
    exact second fails

section Pairs

variable {strict : Prop} {s t : Server} (alike : Alike strict s t) (now : Nat)
  (request : List UInt8)

include alike

/-- A blind handler behind the gate answers alike. -/
theorem gated_agree (sid : UInt8) (handler : Server → Server × Reply) (blind : Blind handler) :
    Agree strict (gated s sid (handler s)) (gated t sid (handler t)) := by
  unfold gated
  rw [alike.core.gate]
  cases gateFlashServices s.session with
  | some code => exact ⟨rfl, alike⟩
  | none => exact blind.agree alike

/-- Entering a session sets the stamp of both. -/
theorem session_control_agree :
    Agree strict (handleSessionControl s now request) (handleSessionControl t now request) := by
  unfold handleSessionControl
  simp only
  split
  · exact ⟨rfl, alike⟩
  · split
    · exact ⟨rfl, alike⟩
    · unfold diagSessionSetSession
      cases SessionType.ofByte (subFunction (byte request 1)) with
      | none => exact ⟨rfl, alike⟩
      | some entered =>
        obtain ⟨flash, xfer, saved, pending, _, level⟩ := alike.core
        have same_level : (diagSessionEnter t.session now entered).securityLevel =
            (diagSessionEnter s.session now entered).securityLevel := by
          simp only [diagSessionEnter, level]
        refine ⟨rfl, ⟨flash, xfer, saved, pending, rfl, same_level⟩, ?_⟩
        intro asked
        have same := congrArg (diagSessionEnter · now entered) (alike.stamp asked)
        exact same

/-- 0x27 answers alike when the two sessions differ in the activity stamp at most. -/
theorem security_access_agree (asked : strict) :
    Agree strict (handleSecurityAccess s now request) (handleSecurityAccess t now request) := by
  have same := alike.core.eq
  rw [alike.stamp asked] at same
  obtain ⟨stamp', answer⟩ := security_access_stamp s t.session.lastActivityTick now request
  rw [same, answer]
  exact ⟨rfl, ⟨rfl, rfl, rfl, rfl, rfl, rfl⟩, fun _ => rfl⟩

/-- Alike servers answer a request the same and stay alike. Only SecurityAccess looks at
more than the core. -/
theorem serve_agree (asked : byte request 0 = udsSidSecurityAccess → strict) :
    Agree strict (serve s now request) (serve t now request) := by
  unfold serve
  simp only
  apply Agree.ite (fun _ => session_control_agree alike now request)
  intro _
  apply Agree.ite (fun _ => (ecu_reset_blind request).agree alike)
  intro _
  apply Agree.ite (fun keyed => security_access_agree alike now request (asked keyed))
  intro _
  apply Agree.ite (fun _ => (tester_present_blind request).agree alike)
  intro _
  apply Agree.ite (fun _ => (noop_control_blind _ request).agree alike)
  intro _
  apply Agree.ite (fun _ => gated_agree alike _ _ (request_download_blind request))
  intro _
  apply Agree.ite (fun _ => gated_agree alike _ _ (transfer_data_blind request))
  intro _
  apply Agree.ite (fun _ => gated_agree alike _ _ (transfer_exit_blind request))
  intro _
  apply Agree.ite (fun _ => gated_agree alike _ _ (routine_control_blind request))
  intro _
  exact ⟨rfl, alike⟩

/-- A request restarts the session timer of both. -/
theorem stamped_alike : Alike strict (stamped s now) (stamped t now) := by
  obtain ⟨flash, xfer, saved, pending, type, level⟩ := alike.core
  refine ⟨⟨flash, xfer, saved, pending, type, level⟩, ?_⟩
  intro asked
  have same := congrArg (diagSessionResetS3Timeout · now) (alike.stamp asked)
  exact same

/-- The dispatcher answers alike servers the same. -/
theorem dispatch_agree (addr : AddrType)
    (asked : byte request 0 = udsSidSecurityAccess → strict) :
    Agree strict (udsDispatchRequest s now request addr)
      (udsDispatchRequest t now request addr) := by
  have served : Agree strict (serveRequest s now request addr)
      (serveRequest t now request addr) := by
    unfold serveRequest
    split
    · exact serve_agree (stamped_alike alike now) now request asked
    · exact ⟨rfl, alike⟩
  unfold udsDispatchRequest
  simp only
  rw [served.reply]
  exact ⟨rfl, served.alike⟩

end Pairs

/-! ## Rejected requests may be left out -/

/-- Agreement passes along a chain of servers. -/
theorem SameCore.trans {s t u : Server} (first : SameCore s t) (second : SameCore t u) :
    SameCore s u :=
  ⟨second.flash.trans first.flash, second.xfer.trans first.xfer,
    second.savedRollback.trans first.savedRollback, second.resetPending.trans first.resetPending,
    second.sessionType.trans first.sessionType, second.securityLevel.trans first.securityLevel⟩

/-- Agreement goes both ways. -/
theorem SameCore.symm {s t : Server} (same : SameCore s t) : SameCore t s :=
  ⟨same.flash.symm, same.xfer.symm, same.savedRollback.symm, same.resetPending.symm,
    same.sessionType.symm, same.securityLevel.symm⟩

/-- Restarting the timer changes the session only. -/
theorem stamped_same (s : Server) (now : Nat) : SameCore s (stamped s now) :=
  ⟨rfl, rfl, rfl, rfl, rfl, rfl⟩

/-- A refused request is with the core as it was; only SecurityAccess leaves more than a
stamp behind. -/
theorem dispatch_refuses (s : Server) (now : Nat) (request : List UInt8) (addr : AddrType)
    (negative : byte (udsDispatchRequest s now request addr).2.response 0 = 0x7F)
    (done : PrimitivesDone s (udsDispatchRequest s now request addr).1) :
    Alike (byte request 0 ≠ udsSidSecurityAccess) s
      (udsDispatchRequest s now request addr).1 := by
  have unsuppressed : byte (serveRequest s now request addr).2.response 0 = 0x7F := by
    unfold udsDispatchRequest at negative
    simp only at negative
    split at negative
    · cases negative
    · exact negative
  have final_state : (udsDispatchRequest s now request addr).1 =
    (serveRequest s now request addr).1 := rfl
  rw [final_state] at done ⊢
  unfold serveRequest at unsuppressed done ⊢
  split
  · rename_i reaches
    rw [if_pos reaches] at unsuppressed done
    by_cases keyed : byte request 0 = udsSidSecurityAccess
    · have access : serve (stamped s now) now request =
          handleSecurityAccess (stamped s now) now request := by
        simp only [serve, keyed]
        rfl
      change byte (serve (stamped s now) now request).2.response 0 = 0x7F at unsuppressed
      change Alike _ s (serve (stamped s now) now request).1
      rw [access] at unsuppressed ⊢
      refine ⟨(stamped_same s now).trans ?_, fun other => absurd keyed other⟩
      exact security_access_refuses (stamped s now) now request unsuppressed
    · have same : (serve (stamped s now) now request).1 = stamped s now :=
        serve_refuses (stamped s now) now request keyed unsuppressed done
      change Alike _ s (serve (stamped s now) now request).1
      rw [same]
      exact ⟨stamped_same s now, fun _ => rfl⟩
  · exact ⟨SameCore.refl s, fun _ => rfl⟩

/-- A request of a tester. The ones that are not kept are inserted. -/
structure Request where
  kept : Bool
  now : Nat
  bytes : List UInt8
  addr : AddrType

/-- The server's answer to a kept request is what the tester sees of it. -/
def seenAnswer (s : Server) (r : Request) : Server × List Reply :=
  let (s, reply) := udsDispatchRequest s r.now r.bytes r.addr
  (s, if r.kept then [reply] else [])

/-- Inserted requests are answered negatively, without a failing primitive. -/
def InsertedRejected (_ : List Reply) (s : Server) (r : Request) : Prop :=
  r.kept = false →
    byte (udsDispatchRequest s r.now r.bytes r.addr).2.response 0 = 0x7F ∧
      PrimitivesDone s (udsDispatchRequest s r.now r.bytes r.addr).1

instance (past : List Reply) (s : Server) (r : Request) :
    Decidable (InsertedRejected past s r) :=
  inferInstanceAs (Decidable (_ → _))

/-- No request of one kind is a SecurityAccess. -/
def NoAccess (kept : Bool) (requests : List Request) : Prop :=
  ∀ r ∈ requests, r.kept = kept → byte r.bytes 0 ≠ udsSidSecurityAccess

/-- Leaving out the inserted requests changes none of the answers to the others, and
nothing but the session at the end. -/
theorem rejected_erased (s : Server) (requests : List Request)
    (apart : NoAccess true requests ∨ NoAccess false requests)
    (rejected : Run.Along seenAnswer InsertedRejected [] s requests) :
    Run.trace seenAnswer s requests = Run.trace seenAnswer s (requests.filter (·.kept)) ∧
      Alike (NoAccess false requests) (Run.final seenAnswer s requests)
        (Run.final seenAnswer s (requests.filter (·.kept))) := by
  have members := Run.along_of_mem seenAnswer (· ∈ requests) [] s requests fun _ member => member
  refine Run.erase_inputs seenAnswer (fun past s r => InsertedRejected past s r ∧ r ∈ requests)
    (·.kept) (Alike (NoAccess false requests)) ?_ ?_ [] s s requests
    ⟨SameCore.refl s, fun _ => rfl⟩ (Run.along_and _ _ _ _ _ _ rejected members)
  · rintro past s t r alike keeps ⟨_, member⟩
    have agree := dispatch_agree alike r.now r.bytes r.addr fun keyed =>
      apart.resolve_left fun free => free r member keeps keyed
    refine ⟨?_, agree.alike⟩
    simp only [seenAnswer, agree.reply]
  · rintro past s t r alike inserted ⟨refused, member⟩
    obtain ⟨negative, done⟩ := refused inserted
    have refusal := dispatch_refuses s r.now r.bytes r.addr negative done
    have silent : (seenAnswer s r).2 = [] := by simp [seenAnswer, inserted]
    refine ⟨silent, refusal.core.symm.trans alike.core, ?_⟩
    intro free
    have stamp := refusal.stamp (free r member inserted)
    change t.session = { (udsDispatchRequest s r.now r.bytes r.addr).1.session with
      lastActivityTick := t.session.lastActivityTick }
    rw [stamp]
    exact alike.stamp free

/-- A negative response without a failing primitive leaves the core as it was. Rejected
requests put into a download, or into any other sequence, change no answer of it and
nothing of the core it ends with. -/
theorem rejected_requests_change_nothing :
    (∀ (s : Server) (now : Nat) (request : List UInt8) (addr : AddrType),
      byte (udsDispatchRequest s now request addr).2.response 0 = 0x7F →
      PrimitivesDone s (udsDispatchRequest s now request addr).1 →
      SameCore s (udsDispatchRequest s now request addr).1) ∧
    (∀ (s : Server) (requests : List Request),
      NoAccess true requests ∨ NoAccess false requests →
      Run.Along seenAnswer InsertedRejected [] s requests →
      Run.trace seenAnswer s requests = Run.trace seenAnswer s (requests.filter (·.kept)) ∧
        SameCore (Run.final seenAnswer s requests)
          (Run.final seenAnswer s (requests.filter (·.kept)))) := by
  constructor
  · intro s now request addr negative done
    exact (dispatch_refuses s now request addr negative done).core
  · intro s requests apart rejected
    obtain ⟨same, alike⟩ := rejected_erased s requests apart rejected
    exact ⟨same, alike.core⟩

/-- A physical request of the tester's sequence, or one put into it. -/
def physical (kept : Bool) (bytes : List UInt8) : Request := ⟨kept, 0, bytes, .physical⟩

/-- A transfer of three bytes, with a block of a wrong counter, one too long and an early
CheckMemory put into it. -/
def disturbedTransfer : List Request :=
  [physical false [0x36, 0x02, 0xAA], physical false [0x36, 0x01, 1, 2, 3, 4],
    physical true [0x36, 0x01, 1, 2, 3],
    physical false (checkMemoryRequest 0 0), physical true [0x37]]

/-- A server with an open transfer, for the witness. -/
def openedServer : Server :=
  { unlockedServer with xfer := ⟨true, false, 3, 0, 1⟩ }

/-- A rejected block in the middle of a transfer. -/
theorem rejected_requests_change_nothing_transfer :
    SameCore openedServer
        (udsDispatchRequest openedServer 0 [0x36, 0x02, 0xAA] .physical).1 ∧
      Run.trace seenAnswer openedServer disturbedTransfer =
        Run.trace seenAnswer openedServer (disturbedTransfer.filter (·.kept)) ∧
      SameCore (Run.final seenAnswer openedServer disturbedTransfer)
        (Run.final seenAnswer openedServer (disturbedTransfer.filter (·.kept))) := by
  refine ⟨rejected_requests_change_nothing.1 openedServer 0 [0x36, 0x02, 0xAA] .physical
    (by decide) (by decide), ?_⟩
  refine rejected_requests_change_nothing.2 openedServer disturbedTransfer (Or.inl ?_) ?_
  · unfold NoAccess
    decide
  · decide +kernel

end ObdSimulator.BlUds
