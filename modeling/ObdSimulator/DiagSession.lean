import ObdSimulator.Lib.Clock
import ObdSimulator.Uds

/-!
# The diagnostic session manager

`diag_session.c` as state passing. The control block and the static counters
are one record; the tick of `HAL_GetTick` a call reads is an argument. Entering
the Default session also restores DTC setting and stops periodic transmission
in the application; those hooks belong to the caller, because the bootloader
links empty ones.
-/

namespace ObdSimulator

/-- Session types of the control block; no other value is ever stored. -/
inductive SessionType where
  | default
  | programming
  | extended
deriving DecidableEq, Repr

/-- Session selected by a `uint8_t` argument, if it names one. -/
def SessionType.ofByte (b : UInt8) : Option SessionType :=
  if b = 0x01 then some .default
  else if b = 0x02 then some .programming
  else if b = 0x03 then some .extended
  else none

/-- `DIAG_SEC_LOCKED` and `DIAG_SEC_LEVEL1`. -/
inductive SecurityLevel where
  | locked
  | level1
deriving DecidableEq, Repr

/-- `DIAG_S3_TIMEOUT_MS`. -/
def diagS3TimeoutMs : Nat := 5000

/-- `DIAG_SEED_XOR_MASK`. -/
def diagSeedXorMask : UInt16 := 0x5A3C

/-- The delay after start-up in which no seed is handed out. -/
def diagBootDelayMs : Nat := 1000

/-- Wrong keys up to the lock-out. -/
def diagMaxFailAttempts : Nat := 3

/-- How long the lock-out lasts. -/
def diagLockoutTimeMs : Nat := 10000

/-- `HAL_GetTick` is a 32-bit counter. -/
def tickModulus : Nat := 2 ^ 32

/-- Unsigned tick difference `now - since`. -/
def tickSub (now since : Nat) : Nat := Clock.sub tickModulus now since

/-- `s_session` and the static counters next to it. -/
structure DiagSession where
  sessionType : SessionType := .default
  securityLevel : SecurityLevel := .locked
  seed : UInt16 := 0
  seedIsFresh : Bool := false
  lastActivityTick : Nat := 0
  failCount : Nat := 0
  lockoutStart : Nat := 0
  bootTick : Nat := 0
deriving DecidableEq, Repr

/-- The outcomes of `DiagSession_VerifyKey`. -/
inductive DiagKeyResult where
  | ok
  | invalid
  | exceededAttempts
  | delayNotExpired
deriving DecidableEq, Repr

/-- The outcomes of `DiagSession_CheckSecurityGate`. -/
inductive DiagSecGate where
  | ok
  | delay
  | locked
deriving DecidableEq, Repr

/-- `DiagSession_Init`; the start of the lock-out and the boot tick are statics it
leaves alone. -/
def diagSessionInit (s : DiagSession) (now : Nat) : DiagSession :=
  { s with sessionType := .default, securityLevel := .locked, seed := 0, seedIsFresh := false,
           lastActivityTick := now, failCount := 0 }

/-- The boot delay counts from here. -/
def diagSessionMarkBootReady (s : DiagSession) (now : Nat) : DiagSession :=
  { s with bootTick := now }

/-- The validated part of `DiagSession_SetSession`: entering Default locks. -/
def diagSessionEnter (s : DiagSession) (now : Nat) (t : SessionType) : DiagSession :=
  { s with sessionType := t, lastActivityTick := now,
           securityLevel := if t = .default then .locked else s.securityLevel }

/-- `none` is the `-1` of an argument that names no session. -/
def diagSessionSetSession (s : DiagSession) (now : Nat) (sessionType : UInt8) :
    Option DiagSession :=
  (SessionType.ofByte sessionType).map (diagSessionEnter s now)

/-- The seed a tick value yields; zero would mean already unlocked. -/
def seedOfTick (now : Nat) : UInt16 :=
  let seed := UInt16.ofNat (now ^^^ (now >>> 16))
  if seed = 0 then 1 else seed

/-- A seed replaces the one before it and counts as activity. -/
def diagSessionGenerateSeed (s : DiagSession) (now : Nat) : DiagSession × UInt16 :=
  ({ s with seed := seedOfTick now, seedIsFresh := true, lastActivityTick := now },
    seedOfTick now)

/-- `compute_key`: exclusive or with the mask, then a rotation by three. -/
def computeKey (seed : UInt16) : UInt16 :=
  let xored := seed ^^^ diagSeedXorMask
  (xored <<< 3) ||| (xored >>> 13)

/-- An expired lock-out resets the failure counter as a side effect. -/
def diagSessionCheckSecurityGate (s : DiagSession) (now : Nat) : DiagSession × DiagSecGate :=
  if tickSub now s.bootTick < diagBootDelayMs then (s, .delay)
  else if diagMaxFailAttempts ≤ s.failCount then
    if tickSub now s.lockoutStart < diagLockoutTimeMs then (s, .locked)
    else ({ s with failCount := 0 }, .ok)
  else (s, .ok)

/-- A seed is good for one key, right or wrong; a key behind the gate counts as activity
only when it is right. -/
def diagSessionVerifyKey (s : DiagSession) (now : Nat) (key : UInt16) :
    DiagSession × DiagKeyResult :=
  match diagSessionCheckSecurityGate s now with
  | (s, .delay) => (s, .delayNotExpired)
  | (s, .locked) => (s, .exceededAttempts)
  | (s, .ok) =>
    if s.seedIsFresh = false then (s, .invalid)
    else
      let used := { s with seedIsFresh := false }
      if key = computeKey s.seed then
        ({ used with securityLevel := .level1, failCount := 0, lastActivityTick := now }, .ok)
      else
        let failed := { used with failCount := s.failCount + 1 }
        if diagMaxFailAttempts ≤ failed.failCount then
          ({ failed with lockoutStart := now }, .invalid)
        else (failed, .invalid)

/-- `DiagSession_ResetS3Timeout`. -/
def diagSessionResetS3Timeout (s : DiagSession) (now : Nat) : DiagSession :=
  { s with lastActivityTick := now }

/-- `DiagSession_Get`. -/
def diagSessionGet (s : DiagSession) : SessionType := s.sessionType

/-- `DiagSession_SecurityUnlocked`. -/
def diagSessionSecurityUnlocked (s : DiagSession) : Bool := s.securityLevel != .locked

/-- Whether `DiagSession_Tick` returns the session to Default. -/
def diagSessionExpired (s : DiagSession) (now : Nat) : Bool :=
  s.sessionType != .default && decide (diagS3TimeoutMs ≤ tickSub now s.lastActivityTick)

/-- The Default entry of an expired session stamps the current tick `stamp`,
which may be later than the sampled `now`. -/
def diagSessionTick (s : DiagSession) (now stamp : Nat) : DiagSession :=
  if diagSessionExpired s now then diagSessionEnter s stamp .default else s

/-- `k_access_rules`: service, Extended session required, unlock required. -/
def kAccessRules : List (UInt8 × Bool × Bool) :=
  [(udsSidRoutineControl, true, true),
   (udsSidClearDiagInfo, true, false),
   (udsSidWriteDataById, true, true),
   (udsSidIoControlById, true, true),
   (udsSidReadMemByAddr, true, true),
   (udsSidReadDataPeriodic, true, false),
   (udsSidDynamicDefineDid, true, false),
   (udsSidCommunicationControl, true, false),
   (udsSidControlDtcSetting, true, false)]

/-- The outcomes of `DiagSession_CheckAccess`. -/
inductive DiagAccess where
  | ok
  | wrongSession
  | locked
deriving DecidableEq, Repr

/-- The first rule of the service decides; no rule means allowed. -/
def diagSessionCheckAccess (s : DiagSession) (sid : UInt8) : DiagAccess :=
  match kAccessRules.find? (fun rule => rule.1 == sid) with
  | none => .ok
  | some (_, needExtended, needSecurity) =>
    if needExtended && s.sessionType != .extended then .wrongSession
    else if needSecurity && s.securityLevel == .locked then .locked
    else .ok

/-! ## What each call leaves alone -/

/-- Activity does not change the session. -/
@[simp] theorem reset_s3_session (s : DiagSession) (now : Nat) :
    (diagSessionResetS3Timeout s now).sessionType = s.sessionType := rfl

/-- Activity does not change the security level. -/
@[simp] theorem reset_s3_security (s : DiagSession) (now : Nat) :
    (diagSessionResetS3Timeout s now).securityLevel = s.securityLevel := rfl

/-- The session entered is the one asked for. -/
@[simp] theorem enter_session (s : DiagSession) (now : Nat) (t : SessionType) :
    (diagSessionEnter s now t).sessionType = t := rfl

/-- A seed does not change the session. -/
@[simp] theorem generate_seed_session (s : DiagSession) (now : Nat) :
    (diagSessionGenerateSeed s now).1.sessionType = s.sessionType := rfl

/-- A seed does not change the security level. -/
@[simp] theorem generate_seed_security (s : DiagSession) (now : Nat) :
    (diagSessionGenerateSeed s now).1.securityLevel = s.securityLevel := rfl

/-- The gate changes the failure counter only. -/
theorem check_gate_frame (s : DiagSession) (now : Nat) :
    ∃ count, (diagSessionCheckSecurityGate s now).1 = { s with failCount := count } := by
  unfold diagSessionCheckSecurityGate
  split
  · exact ⟨s.failCount, rfl⟩
  · split
    · split
      · exact ⟨s.failCount, rfl⟩
      · exact ⟨0, rfl⟩
    · exact ⟨s.failCount, rfl⟩

/-- The gate does not change the session. -/
@[simp] theorem check_gate_session (s : DiagSession) (now : Nat) :
    (diagSessionCheckSecurityGate s now).1.sessionType = s.sessionType := by
  obtain ⟨count, same⟩ := check_gate_frame s now
  rw [same]

/-- The gate does not change the security level. -/
@[simp] theorem check_gate_security (s : DiagSession) (now : Nat) :
    (diagSessionCheckSecurityGate s now).1.securityLevel = s.securityLevel := by
  obtain ⟨count, same⟩ := check_gate_frame s now
  rw [same]

/-- Verifying a key never changes the session, and unlocks only when it reports
success. -/
theorem verify_key_frame (s : DiagSession) (now : Nat) (key : UInt16) :
    (diagSessionVerifyKey s now key).1.sessionType = s.sessionType ∧
      ((diagSessionVerifyKey s now key).2 ≠ .ok →
        (diagSessionVerifyKey s now key).1.securityLevel = s.securityLevel) := by
  obtain ⟨count, same⟩ := check_gate_frame s now
  unfold diagSessionVerifyKey
  generalize gated : diagSessionCheckSecurityGate s now = outcome at same
  obtain ⟨after, gate⟩ := outcome
  subst same
  cases gate with
  | delay => simp
  | locked => simp
  | ok =>
    by_cases stale : s.seedIsFresh = false
    · simp [stale]
    · by_cases matching : key = computeKey s.seed
      · simp [stale, matching]
      · by_cases full : diagMaxFailAttempts ≤ count + 1 <;> simp [stale, matching, full]

/-- A key does not change the session. -/
@[simp] theorem verify_key_session (s : DiagSession) (now : Nat) (key : UInt16) :
    (diagSessionVerifyKey s now key).1.sessionType = s.sessionType :=
  (verify_key_frame s now key).1

/-- The boot delay is counted from the same tick before and after a key. -/
theorem verify_key_boot (s : DiagSession) (now : Nat) (key : UInt16) :
    (diagSessionVerifyKey s now key).1.bootTick = s.bootTick := by
  obtain ⟨count, same⟩ := check_gate_frame s now
  unfold diagSessionVerifyKey
  generalize diagSessionCheckSecurityGate s now = outcome at same
  obtain ⟨after, gate⟩ := outcome
  subst same
  cases gate with
  | delay => rfl
  | locked => rfl
  | ok =>
    simp only
    split
    · rfl
    · split
      · rfl
      · split <;> rfl

end ObdSimulator
