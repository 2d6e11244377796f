import ObdSimulator.AppMain
import ObdSimulator.Bootloader

/-!
# The bit that suppresses a positive response

Bit 7 of a sub-function byte asks for silence when the answer is positive, and for
nothing else. Every handler of a service with a sub-function takes the bit off
first, and the dispatcher drops a positive response of the services in its list.
Two services are off the pattern. RoutineControl of the application compares the
whole byte, so that with the bit no sub-function is known to it; and neither
dispatcher has CommunicationControl in its list, so that it always answers.

A request is compared with the bit clear and with the bit set.
-/

namespace ObdSimulator

open Bytes

/-- The services with a sub-function. -/
def subFunctionSids : List UInt8 :=
  [udsSidDiagSessionCtrl, udsSidEcuReset, udsSidReadDtcInformation, udsSidSecurityAccess,
    udsSidCommunicationControl, udsSidReadDataPeriodic, udsSidDynamicDefineDid,
    udsSidRoutineControl, udsSidTesterPresent, udsSidControlDtcSetting]

/-- A request with bit 7 of its sub-function byte clear, and with the bit set. -/
def plainRequest (sid sub : UInt8) (rest : List UInt8) : List UInt8 :=
  sid :: (sub &&& 0x7F) :: rest

/-- The same request with the suppress bit set. -/
def quietRequest (sid sub : UInt8) (rest : List UInt8) : List UInt8 :=
  sid :: (sub ||| 0x80) :: rest

/-- The bit changes neither the state nor a negative response, and silences a
positive one. -/
def Uniform {α : Type} (plain quiet : α × List UInt8) : Prop :=
  quiet.1 = plain.1 ∧ (Positive plain.2 → quiet.2 = []) ∧
    (byte plain.2 0 = 0x7F → quiet.2 = plain.2)

/-- Clearing the suppress bit keeps the sub-function. -/
theorem sub_function_plain (sub : UInt8) : subFunction (sub &&& 0x7F) = subFunction sub := by
  rw [subFunction, UInt8.and_assoc]
  rfl

/-- Setting the suppress bit keeps the sub-function. -/
theorem sub_function_quiet (sub : UInt8) : subFunction (sub ||| 0x80) = subFunction sub := by
  have disjoint : (0x80 : UInt8) &&& 0x7F = 0 := by decide
  rw [subFunction, or_and_distrib, disjoint, UInt8.or_zero]
  rfl

/-- Both requests name one sub-function. -/
theorem same_sub_function (sid sub : UInt8) (rest : List UInt8) :
    subFunction (byte (quietRequest sid sub rest) 1) =
      subFunction (byte (plainRequest sid sub rest) 1) :=
  (sub_function_quiet sub).trans (sub_function_plain sub).symm

/-- The plain request does not ask for suppression. -/
theorem plain_bit (sub : UInt8) : (sub &&& 0x7F) &&& 0x80 = 0 := by
  have disjoint : (0x7F : UInt8) &&& 0x80 = 0 := by decide
  rw [UInt8.and_assoc, disjoint, UInt8.and_zero]

/-- The quiet request asks for suppression. -/
theorem quiet_bit (sub : UInt8) : (sub ||| 0x80) &&& 0x80 ≠ 0 := by
  intro none
  rw [or_and_distrib] at none
  exact absurd (UInt8.or_eq_zero_iff.mp none).2 (by decide)

/-- With the bit set a byte is above every sub-function the code knows. -/
theorem quiet_above (sub : UInt8) : 0x03 < sub ||| 0x80 := by
  rw [UInt8.lt_iff_toNat_lt, UInt8.toNat_or]
  exact Nat.lt_of_lt_of_le (by decide : 3 < 128) Nat.right_le_or

end ObdSimulator

namespace ObdSimulator.UdsService

open Bytes NorFlash

section Handlers

variable (mem : Memory) (s : App) (now : Nat) (sid sub : UInt8) (rest : List UInt8) (reqLen : Nat)

/-- 0x10 masks the bit, so it does the same with either request. -/
theorem session_control_quiet :
    handleSessionControl s now (quietRequest sid sub rest) reqLen =
      handleSessionControl s now (plainRequest sid sub rest) reqLen := by
  unfold handleSessionControl
  rw [same_sub_function]

/-- 0x11 masks the bit, so it does the same with either request. -/
theorem ecu_reset_quiet :
    handleEcuReset s (quietRequest sid sub rest) reqLen =
      handleEcuReset s (plainRequest sid sub rest) reqLen := by
  unfold handleEcuReset
  rw [same_sub_function]

/-- 0x27 masks the bit, so it does the same with either request. -/
theorem security_access_quiet :
    handleSecurityAccess s now (quietRequest sid sub rest) reqLen =
      handleSecurityAccess s now (plainRequest sid sub rest) reqLen := by
  unfold handleSecurityAccess sentKey
  rw [same_sub_function]
  rfl

/-- 0x28 masks the bit, so it does the same with either request. -/
theorem communication_control_quiet :
    handleCommunicationControl s (quietRequest sid sub rest) reqLen =
      handleCommunicationControl s (plainRequest sid sub rest) reqLen := by
  unfold handleCommunicationControl
  rw [same_sub_function]

/-- 0x85 masks the bit, so it does the same with either request. -/
theorem control_dtc_setting_quiet :
    handleControlDtcSetting s (quietRequest sid sub rest) reqLen =
      handleControlDtcSetting s (plainRequest sid sub rest) reqLen := by
  unfold handleControlDtcSetting
  rw [same_sub_function]

/-- 0x2C masks the bit, so it does the same with either request. -/
theorem dynamic_define_quiet :
    handleDynamicDefineDid s (quietRequest sid sub rest) reqLen =
      handleDynamicDefineDid s (plainRequest sid sub rest) reqLen := by
  unfold handleDynamicDefineDid
  rw [same_sub_function]
  rfl

/-- 0x2A masks the bit, so it does the same with either request. -/
theorem read_periodic_quiet :
    handleReadDataPeriodic s (quietRequest sid sub rest) reqLen =
      handleReadDataPeriodic s (plainRequest sid sub rest) reqLen := by
  have same_pdids : ((quietRequest sid sub rest).take reqLen).drop 2 =
      ((plainRequest sid sub rest).take reqLen).drop 2 := by
    rw [List.drop_take, List.drop_take]
    rfl
  unfold handleReadDataPeriodic
  rw [same_sub_function, same_pdids]

/-- 0x19 masks the bit, so it does the same with either request. -/
theorem read_dtc_quiet (m : FaultManager) :
    handleReadDtcInformation m (quietRequest sid sub rest) reqLen =
      handleReadDtcInformation m (plainRequest sid sub rest) reqLen := by
  unfold handleReadDtcInformation
  rw [same_sub_function]
  rfl

/-- The service switch does not see the bit, RoutineControl and TesterPresent apart. -/
theorem serve_quiet (listed : sid ∈ subFunctionSids) (routine : sid ≠ udsSidRoutineControl)
    (present : sid ≠ udsSidTesterPresent) :
    serve mem s now (quietRequest sid sub rest) reqLen =
      serve mem s now (plainRequest sid sub rest) reqLen := by
  simp only [subFunctionSids, List.mem_cons, List.not_mem_nil, or_false] at listed
  rcases listed with rfl | rfl | rfl | rfl | rfl | rfl | rfl | rfl | rfl | rfl
  · exact session_control_quiet s now _ sub rest reqLen
  · exact ecu_reset_quiet s _ sub rest reqLen
  · exact congrArg (s, ·) (read_dtc_quiet _ sub rest reqLen s.faults)
  · exact security_access_quiet s now _ sub rest reqLen
  · exact congrArg (gated s _) (communication_control_quiet s _ sub rest reqLen)
  · exact congrArg (gated s _) (read_periodic_quiet s _ sub rest reqLen)
  · exact congrArg (gated s _) (dynamic_define_quiet s _ sub rest reqLen)
  · exact absurd rfl routine
  · exact absurd rfl present
  · exact congrArg (gated s _) (control_dtc_setting_quiet s _ sub rest reqLen)

/-- A refusal stays one behind the gate. -/
theorem gated_negative (handled : App × List UInt8) (negative : byte handled.2 0 = 0x7F) :
    byte (gated s sid handled).2 0 = 0x7F := by
  unfold gated
  split
  · rfl
  · exact negative

/-- A request without a sub-function byte is refused. -/
theorem short_refused (listed : sid ∈ subFunctionSids) (short : reqLen < 2) :
    byte (serve mem s now (plainRequest sid sub rest) reqLen).2 0 = 0x7F := by
  have shorter : reqLen < 4 := by omega
  simp only [subFunctionSids, List.mem_cons, List.not_mem_nil, or_false] at listed
  rcases listed with rfl | rfl | rfl | rfl | rfl | rfl | rfl | rfl | rfl | rfl
  · exact congrArg (fun r : App × List UInt8 => byte r.2 0) (if_pos short)
  · exact congrArg (fun r : App × List UInt8 => byte r.2 0) (if_pos short)
  · exact congrArg (fun r : List UInt8 => byte r 0) (if_pos short)
  · exact congrArg (fun r : App × List UInt8 => byte r.2 0) (if_pos short)
  · exact gated_negative s _ _ (congrArg (fun r : App × List UInt8 => byte r.2 0) (if_pos short))
  · exact gated_negative s _ _ (congrArg (fun r : App × List UInt8 => byte r.2 0) (if_pos short))
  · exact gated_negative s _ _ (congrArg (fun r : App × List UInt8 => byte r.2 0) (if_pos shorter))
  · exact gated_negative s _ _ (congrArg (fun r : App × List UInt8 => byte r.2 0) (if_pos shorter))
  · exact congrArg (fun r : List UInt8 => byte r 0) (if_pos short)
  · exact gated_negative s _ _ (congrArg (fun r : App × List UInt8 => byte r.2 0) (if_pos short))

/-- The dispatcher leaves the answer to a plain request as the service gave it. -/
theorem dispatch_plain (addr : AddrType)
    (reaches : admitted (plainRequest sid sub rest) reqLen addr = true) :
    udsDispatchRequest mem s now (plainRequest sid sub rest) reqLen addr =
      serve mem (stamped s now) now (plainRequest sid sub rest) reqLen := by
  have clear : byte (plainRequest sid sub rest) 1 &&& 0x80 = 0 := plain_bit sub
  simp [udsDispatchRequest, reaches, suppressed, clear]

/-- The dispatcher drops a positive answer to a quiet request of the services in its list. -/
theorem dispatch_quiet (addr : AddrType)
    (reaches : admitted (quietRequest sid sub rest) reqLen addr = true) :
    udsDispatchRequest mem s now (quietRequest sid sub rest) reqLen addr =
      ((serve mem (stamped s now) now (quietRequest sid sub rest) reqLen).1,
        if Positive (serve mem (stamped s now) now (quietRequest sid sub rest) reqLen).2 ∧
          2 ≤ reqLen ∧ sid ∈ suppressibleSids then []
        else (serve mem (stamped s now) now (quietRequest sid sub rest) reqLen).2) := by
  have set : byte (quietRequest sid sub rest) 1 &&& 0x80 ≠ 0 := quiet_bit sub
  have first : byte (quietRequest sid sub rest) 0 = sid := rfl
  simp only [udsDispatchRequest, reaches, Bool.true_eq_false, if_false]
  congr 1
  apply if_congr
  · simp only [suppressed, Positive, first, Bool.and_eq_true, decide_eq_true_eq, bne_iff_ne,
      List.length_pos_iff, List.contains_eq_mem, set, ne_eq, not_false_eq_true, and_true,
      and_assoc]
  · rfl
  · rfl

/-- A service that does not see the bit is uniform when it is in the list of the
dispatcher; otherwise only its refusals are. -/
theorem uniform_same_iff (addr : AddrType) (listed : sid ∈ subFunctionSids)
    (reaches : admitted (plainRequest sid sub rest) reqLen addr = true)
    (same : serve mem (stamped s now) now (quietRequest sid sub rest) reqLen =
      serve mem (stamped s now) now (plainRequest sid sub rest) reqLen) :
    Uniform (udsDispatchRequest mem s now (plainRequest sid sub rest) reqLen addr)
        (udsDispatchRequest mem s now (quietRequest sid sub rest) reqLen addr) ↔
      (Positive (serve mem (stamped s now) now (plainRequest sid sub rest) reqLen).2 →
        sid ∈ suppressibleSids) := by
  have long (positive : Positive
      (serve mem (stamped s now) now (plainRequest sid sub rest) reqLen).2) : 2 ≤ reqLen := by
    by_contra short
    exact positive.2 (short_refused mem _ now sid sub rest reqLen listed (Nat.lt_of_not_le short))
  rw [dispatch_plain mem s now sid sub rest reqLen addr reaches,
    dispatch_quiet mem s now sid sub rest reqLen addr reaches, same]
  generalize serve mem (stamped s now) now (plainRequest sid sub rest) reqLen = served at long
  unfold Uniform
  constructor
  · rintro ⟨_, silent, _⟩ positive
    by_contra unlisted
    have sent := silent positive
    rw [if_neg (fun drops => unlisted drops.2.2)] at sent
    exact positive.1 sent
  · intro drops
    refine ⟨rfl, ?_, ?_⟩
    · intro positive
      exact if_pos ⟨positive, long positive, drops positive⟩
    · intro negative
      exact if_neg (fun positive => positive.1.2 negative)

/-- TesterPresent looks at the bit itself. -/
theorem tester_present_uniform (addr : AddrType) (service : sid = udsSidTesterPresent)
    (reaches : admitted (plainRequest sid sub rest) reqLen addr = true) :
    Uniform (udsDispatchRequest mem s now (plainRequest sid sub rest) reqLen addr)
      (udsDispatchRequest mem s now (quietRequest sid sub rest) reqLen addr) := by
  subst service
  rw [dispatch_plain mem s now _ sub rest reqLen addr reaches,
    dispatch_quiet mem s now _ sub rest reqLen addr reaches]
  have plain : serve mem (stamped s now) now (plainRequest udsSidTesterPresent sub rest) reqLen =
      (stamped s now, handleTesterPresent (plainRequest udsSidTesterPresent sub rest) reqLen) := rfl
  have quiet : serve mem (stamped s now) now (quietRequest udsSidTesterPresent sub rest) reqLen =
      (stamped s now, handleTesterPresent (quietRequest udsSidTesterPresent sub rest) reqLen) := rfl
  rw [plain, quiet]
  have clear : byte (plainRequest udsSidTesterPresent sub rest) 1 &&& 0x80 = 0 := plain_bit sub
  have set : byte (quietRequest udsSidTesterPresent sub rest) 1 &&& 0x80 ≠ 0 := quiet_bit sub
  refine ⟨rfl, ?_⟩
  unfold handleTesterPresent
  simp only [same_sub_function]
  by_cases short : reqLen < 2
  · simp [short, nrc_not_positive]
  · by_cases other : subFunction (byte (plainRequest udsSidTesterPresent sub rest) 1) ≠ 0x00
    · simp [short, other, nrc_not_positive]
    · have positive : udsSidTesterPresent + udsResponseSidOffset ≠ 0x7F := by decide
      simp only [if_neg short, if_neg other, clear, if_pos set, ne_eq, not_true, if_false, ite_self]
      exact ⟨fun _ => trivial, fun negative => absurd negative positive⟩

/-- RoutineControl compares the whole byte: with the bit no sub-function is known. -/
theorem routine_control_quiet (long : 4 ≤ reqLen) :
    handleRoutineControl s (quietRequest sid sub rest) reqLen =
      (s, nrc udsSidRoutineControl nrcSubFuncNotSupported) := by
  have long' : ¬ reqLen < 4 := Nat.not_lt.mpr long
  have above : 0x03 < byte (quietRequest sid sub rest) 1 := quiet_above sub
  unfold handleRoutineControl
  simp only [if_neg long', if_pos (Or.inr above : byte (quietRequest sid sub rest) 1 < 0x01 ∨ _)]

/-- A sub-function it knows without the bit is answered otherwise. -/
theorem routine_control_plain (long : 4 ≤ reqLen)
    (known : 0x01 ≤ subFunction sub ∧ subFunction sub ≤ 0x03) :
    (handleRoutineControl s (plainRequest sid sub rest) reqLen).2 ≠ [] ∧
      (handleRoutineControl s (plainRequest sid sub rest) reqLen).2 ≠
        nrc udsSidRoutineControl nrcSubFuncNotSupported := by
  have long' : ¬ reqLen < 4 := Nat.not_lt.mpr long
  have inside : ¬ (byte (plainRequest sid sub rest) 1 < 0x01 ∨
      0x03 < byte (plainRequest sid sub rest) 1) := by
    rw [not_or, UInt8.not_lt, UInt8.not_lt]
    exact known
  unfold handleRoutineControl
  simp only [if_neg long', if_neg inside]
  split
  · simp [nrc, nrcRequestOutOfRange, nrcSubFuncNotSupported]
  · have positive : udsSidRoutineControl + udsResponseSidOffset ≠ 0x7F := by decide
    simp [nrc, positive]

/-- 0x31 compares the byte unmasked, which makes no difference to a request it refuses
anyway. -/
theorem routine_control_unknown
    (unknown : ¬ (4 ≤ reqLen ∧ 0x01 ≤ subFunction sub ∧ subFunction sub ≤ 0x03)) :
    handleRoutineControl s (quietRequest sid sub rest) reqLen =
      handleRoutineControl s (plainRequest sid sub rest) reqLen := by
  by_cases long : 4 ≤ reqLen
  · have long' : ¬ reqLen < 4 := Nat.not_lt.mpr long
    have outside : byte (plainRequest sid sub rest) 1 < 0x01 ∨
        0x03 < byte (plainRequest sid sub rest) 1 := by
      by_contra inside
      rw [not_or, UInt8.not_lt, UInt8.not_lt] at inside
      exact unknown ⟨long, inside⟩
    rw [routine_control_quiet s sid sub rest reqLen long]
    unfold handleRoutineControl
    simp only [if_neg long', if_pos outside]
  · unfold handleRoutineControl
    simp only [if_pos (Nat.lt_of_not_le long)]

/-- The requests whose answer the bit does not treat as it treats the others. -/
def MissesBit (s : App) (sid sub : UInt8) (reqLen : Nat) : Prop :=
  s.session.sessionType = .extended ∧
    (sid = udsSidRoutineControl ∧ s.session.securityLevel ≠ .locked ∧ 4 ≤ reqLen ∧
        0x01 ≤ subFunction sub ∧ subFunction sub ≤ 0x03 ∨
      sid = udsSidCommunicationControl ∧ 2 ≤ reqLen ∧ subFunction sub ≤ 0x03)

/-- 0x31 treats the bit as it should unless the request gets through the gate with a
sub-function it knows. -/
theorem routine_control_uniform_iff (addr : AddrType) (service : sid = udsSidRoutineControl)
    (reaches : admitted (plainRequest sid sub rest) reqLen addr = true) :
    Uniform (udsDispatchRequest mem s now (plainRequest sid sub rest) reqLen addr)
        (udsDispatchRequest mem s now (quietRequest sid sub rest) reqLen addr) ↔
      ¬ MissesBit s sid sub reqLen := by
  subst service
  have other : udsSidRoutineControl ≠ udsSidCommunicationControl := by decide
  have suppressible : udsSidRoutineControl ∈ suppressibleSids := by decide
  have uniform (same : serve mem (stamped s now) now (quietRequest udsSidRoutineControl sub rest)
      reqLen = serve mem (stamped s now) now (plainRequest udsSidRoutineControl sub rest) reqLen) :=
    (uniform_same_iff mem s now _ sub rest reqLen addr (by decide) reaches same).mpr
      fun _ => suppressible
  have gate := access_gate_iff (stamped s now) udsSidRoutineControl true rfl
  have plain : serve mem (stamped s now) now (plainRequest udsSidRoutineControl sub rest) reqLen =
      gated (stamped s now) udsSidRoutineControl
        (handleRoutineControl (stamped s now) (plainRequest udsSidRoutineControl sub rest)
          reqLen) := rfl
  have quiet : serve mem (stamped s now) now (quietRequest udsSidRoutineControl sub rest) reqLen =
      gated (stamped s now) udsSidRoutineControl
        (handleRoutineControl (stamped s now) (quietRequest udsSidRoutineControl sub rest)
          reqLen) := rfl
  cases closed : accessGate (stamped s now) udsSidRoutineControl with
  | some code =>
    rw [closed] at gate
    have outside : ¬ MissesBit s udsSidRoutineControl sub reqLen := by
      rintro ⟨extended, ⟨_, unlocked, _⟩ | ⟨wrong, _⟩⟩
      · exact absurd (gate.mpr ⟨extended, fun _ => unlocked⟩) (by simp)
      · exact other wrong
    refine iff_of_true (uniform ?_) outside
    rw [plain, quiet, gated, gated, closed]
  | none =>
    obtain ⟨extended, unlocked⟩ := gate.mp closed
    by_cases known : 4 ≤ reqLen ∧ 0x01 ≤ subFunction sub ∧ subFunction sub ≤ 0x03
    · have missed : MissesBit s udsSidRoutineControl sub reqLen :=
        ⟨extended, Or.inl ⟨rfl, unlocked rfl, known⟩⟩
      refine iff_of_false ?_ (not_not.mpr missed)
      rw [dispatch_plain mem s now _ sub rest reqLen addr reaches,
        dispatch_quiet mem s now _ sub rest reqLen addr reaches, plain, quiet, gated, gated, closed]
      simp only
      rw [routine_control_quiet _ _ sub rest reqLen known.1]
      obtain ⟨answered, otherwise⟩ :=
        routine_control_plain (stamped s now) udsSidRoutineControl sub rest reqLen known.1 known.2
      rintro ⟨_, silent, same⟩
      simp only [nrc_not_positive, false_and, if_false] at silent same
      by_cases negative : byte (handleRoutineControl (stamped s now)
          (plainRequest udsSidRoutineControl sub rest) reqLen).2 0 = 0x7F
      · exact otherwise (same negative).symm
      · have empty := silent ⟨answered, negative⟩
        cases empty
    · have heard : ¬ MissesBit s udsSidRoutineControl sub reqLen := by
        rintro ⟨_, ⟨_, _, inside⟩ | ⟨wrong, _⟩⟩
        · exact known inside
        · exact other wrong
      refine iff_of_true (uniform ?_) heard
      rw [plain, quiet, routine_control_unknown _ _ sub rest reqLen known]

/-- CommunicationControl hides the bit, and is not in the list of the dispatcher. -/
theorem communication_control_uniform_iff (addr : AddrType)
    (service : sid = udsSidCommunicationControl)
    (reaches : admitted (plainRequest sid sub rest) reqLen addr = true) :
    Uniform (udsDispatchRequest mem s now (plainRequest sid sub rest) reqLen addr)
        (udsDispatchRequest mem s now (quietRequest sid sub rest) reqLen addr) ↔
      ¬ MissesBit s sid sub reqLen := by
  subst service
  have other : udsSidCommunicationControl ≠ udsSidRoutineControl := by decide
  have unlisted : udsSidCommunicationControl ∉ suppressibleSids := by decide
  have same := serve_quiet mem (stamped s now) now udsSidCommunicationControl sub rest reqLen
    (by decide) other (by decide)
  rw [uniform_same_iff mem s now _ sub rest reqLen addr (by decide) reaches same]
  simp only [unlisted, imp_false, not_iff_not]
  have gate := access_gate_iff (stamped s now) udsSidCommunicationControl false rfl
  have plain : serve mem (stamped s now) now (plainRequest udsSidCommunicationControl sub rest)
      reqLen = gated (stamped s now) udsSidCommunicationControl
        (handleCommunicationControl (stamped s now)
          (plainRequest udsSidCommunicationControl sub rest) reqLen) := rfl
  rw [plain, gated]
  cases closed : accessGate (stamped s now) udsSidCommunicationControl with
  | some code =>
    rw [closed] at gate
    refine iff_of_false (nrc_not_positive _ _) ?_
    rintro ⟨extended, _⟩
    exact absurd (gate.mpr ⟨extended, by simp⟩) (by simp)
  | none =>
    obtain ⟨extended, _⟩ := gate.mp closed
    have masked : subFunction (byte (plainRequest udsSidCommunicationControl sub rest) 1) =
        subFunction sub := sub_function_plain sub
    have positive : udsSidCommunicationControl + udsResponseSidOffset ≠ 0x7F := by decide
    have extended' : s.session.sessionType = .extended := extended
    simp only [MissesBit, extended', other, false_and, false_or, true_and]
    unfold handleCommunicationControl
    simp only [masked]
    by_cases short : reqLen < 2
    · simp [short, nrc_not_positive, Nat.not_le.mpr short]
    · by_cases high : 0x03 < subFunction sub
      · simp [short, high, nrc_not_positive, UInt8.not_le.mpr high]
      · simp [short, high, Positive, byte, positive, UInt8.not_lt.mp high, Nat.le_of_not_lt short]

/-- The application treats the bit alike for every request but those. -/
theorem uniform_iff (addr : AddrType) (listed : sid ∈ subFunctionSids) :
    Uniform (udsDispatchRequest mem s now (plainRequest sid sub rest) reqLen addr)
        (udsDispatchRequest mem s now (quietRequest sid sub rest) reqLen addr) ↔
      ¬ (admitted (plainRequest sid sub rest) reqLen addr = true ∧ MissesBit s sid sub reqLen) := by
  cases reaches : admitted (plainRequest sid sub rest) reqLen addr with
  | false =>
    have reaches' : admitted (quietRequest sid sub rest) reqLen addr = false := reaches
    simp [udsDispatchRequest, reaches, reaches', Uniform]
  | true =>
    simp only [true_and]
    by_cases routine : sid = udsSidRoutineControl
    · exact routine_control_uniform_iff mem s now sid sub rest reqLen addr routine reaches
    by_cases communication : sid = udsSidCommunicationControl
    · exact communication_control_uniform_iff mem s now sid sub rest reqLen addr communication
        reaches
    have heard : ¬ MissesBit s sid sub reqLen := by
      rintro ⟨_, ⟨service, _⟩ | ⟨service, _⟩⟩
      · exact routine service
      · exact communication service
    refine iff_of_true ?_ heard
    by_cases present : sid = udsSidTesterPresent
    · exact tester_present_uniform mem s now sid sub rest reqLen addr present reaches
    have same := serve_quiet mem (stamped s now) now sid sub rest reqLen listed routine present
    apply (uniform_same_iff mem s now sid sub rest reqLen addr listed reaches same).mpr
    intro _
    simp only [subFunctionSids, List.mem_cons, List.not_mem_nil, or_false] at listed
    rcases listed with rfl | rfl | rfl | rfl | rfl | rfl | rfl | rfl | rfl | rfl
    · decide
    · decide
    · decide
    · decide
    · exact absurd rfl communication
    · decide
    · decide
    · exact absurd rfl routine
    · exact absurd rfl present
    · decide

end Handlers

end ObdSimulator.UdsService

namespace ObdSimulator.BlUds

open Bytes

section Handlers

variable (s : Server) (now : Nat) (sid sub : UInt8) (rest : List UInt8)

/-- 0x10 of the bootloader does the same with either request. -/
theorem session_control_quiet :
    handleSessionControl s now (quietRequest sid sub rest) =
      handleSessionControl s now (plainRequest sid sub rest) := by
  unfold handleSessionControl
  rw [same_sub_function]
  rfl

/-- 0x11 of the bootloader does the same with either request. -/
theorem ecu_reset_quiet :
    handleEcuReset s (quietRequest sid sub rest) =
      handleEcuReset s (plainRequest sid sub rest) := by
  unfold handleEcuReset
  rw [same_sub_function]
  rfl

/-- 0x27 of the bootloader does the same with either request. -/
theorem security_access_quiet :
    handleSecurityAccess s now (quietRequest sid sub rest) =
      handleSecurityAccess s now (plainRequest sid sub rest) := by
  unfold handleSecurityAccess
  rw [same_sub_function]
  rfl

/-- 0x3E of the bootloader does the same with either request. -/
theorem tester_present_quiet :
    handleTesterPresent s (quietRequest sid sub rest) =
      handleTesterPresent s (plainRequest sid sub rest) := by
  unfold handleTesterPresent
  rw [same_sub_function]
  rfl

/-- 0x28 and 0x85 of the bootloader do the same with either request. -/
theorem noop_control_quiet :
    handleNoopControl s sid (quietRequest sid sub rest) =
      handleNoopControl s sid (plainRequest sid sub rest) := by
  unfold handleNoopControl
  rw [same_sub_function]
  rfl

/-- 0x31 of the bootloader masks the bit, unlike that of the application. -/
theorem routine_control_quiet :
    handleRoutineControl s (quietRequest sid sub rest) =
      handleRoutineControl s (plainRequest sid sub rest) := by
  have same_check : checkRoutineControl s (quietRequest sid sub rest) =
      checkRoutineControl s (plainRequest sid sub rest) := by
    unfold checkRoutineControl
    rw [same_sub_function]
    rfl
  unfold handleRoutineControl
  rw [same_check, same_sub_function]

/-- Three services with a sub-function are the application's only. -/
theorem serve_unserved (request : List UInt8)
    (service : byte request 0 ∈
      [udsSidReadDtcInformation, udsSidReadDataPeriodic, udsSidDynamicDefineDid]) :
    serve s now request = (s, { response := nrc (byte request 0) nrcServiceNotSupported }) := by
  simp only [List.mem_cons, List.not_mem_nil, or_false] at service
  unfold serve
  rcases service with same | same | same
  · simp only [same]
    rfl
  · simp only [same]
    rfl
  · simp only [same]
    rfl

/-- The service switch does not see the bit. -/
theorem serve_quiet (listed : sid ∈ subFunctionSids) :
    serve s now (quietRequest sid sub rest) = serve s now (plainRequest sid sub rest) := by
  have unserved (service : sid ∈
      [udsSidReadDtcInformation, udsSidReadDataPeriodic, udsSidDynamicDefineDid]) :
      serve s now (quietRequest sid sub rest) = serve s now (plainRequest sid sub rest) :=
    (serve_unserved s now (quietRequest sid sub rest) service).trans
      (serve_unserved s now (plainRequest sid sub rest) service).symm
  simp only [subFunctionSids, List.mem_cons, List.not_mem_nil, or_false] at listed
  rcases listed with rfl | rfl | rfl | rfl | rfl | rfl | rfl | rfl | rfl | rfl
  · exact session_control_quiet s now _ sub rest
  · exact ecu_reset_quiet s _ sub rest
  · exact unserved (by decide)
  · exact security_access_quiet s now _ sub rest
  · exact noop_control_quiet s _ sub rest
  · exact unserved (by decide)
  · exact unserved (by decide)
  · exact congrArg (gated s _) (routine_control_quiet s _ sub rest)
  · exact tester_present_quiet s _ sub rest
  · exact noop_control_quiet s _ sub rest

/-- The state and the response of a request. -/
def answer (served : Server × Reply) : Server × List UInt8 := (served.1, served.2.response)

/-- A service with a sub-function is positive only when it is in the list of the
dispatcher, or CommunicationControl. -/
theorem serve_unlisted (listed : sid ∈ subFunctionSids)
    (positive : Positive (serve s now (plainRequest sid sub rest)).2.response) :
    sid ∈ suppressibleSids ∨ sid = udsSidCommunicationControl := by
  simp only [subFunctionSids, List.mem_cons, List.not_mem_nil, or_false] at listed
  rcases listed with rfl | rfl | rfl | rfl | rfl | rfl | rfl | rfl | rfl | rfl
  · exact Or.inl (by decide)
  · exact Or.inl (by decide)
  · exact absurd positive (nrc_not_positive _ _)
  · exact Or.inl (by decide)
  · exact Or.inr rfl
  · exact absurd positive (nrc_not_positive _ _)
  · exact absurd positive (nrc_not_positive _ _)
  · exact Or.inl (by decide)
  · exact Or.inl (by decide)
  · exact Or.inl (by decide)

/-- A plain request is answered as the service answers. -/
theorem dispatch_plain (addr : AddrType)
    (reaches : admitted (plainRequest sid sub rest) addr = true) :
    answer (udsDispatchRequest s now (plainRequest sid sub rest) addr) =
      answer (serve (stamped s now) now (plainRequest sid sub rest)) := by
  have clear : byte (plainRequest sid sub rest) 1 &&& 0x80 = 0 := plain_bit sub
  simp [udsDispatchRequest, serveRequest, reaches, suppressed, clear, answer, stamped]

/-- The dispatcher drops a positive answer to a quiet request of the services in its list. -/
theorem dispatch_quiet (addr : AddrType)
    (reaches : admitted (quietRequest sid sub rest) addr = true) :
    answer (udsDispatchRequest s now (quietRequest sid sub rest) addr) =
      ((serve (stamped s now) now (quietRequest sid sub rest)).1,
        if Positive (serve (stamped s now) now (quietRequest sid sub rest)).2.response ∧
          sid ∈ suppressibleSids then []
        else (serve (stamped s now) now (quietRequest sid sub rest)).2.response) := by
  have set : byte (quietRequest sid sub rest) 1 &&& 0x80 ≠ 0 := quiet_bit sub
  have first : byte (quietRequest sid sub rest) 0 = sid := rfl
  have long : 2 ≤ (quietRequest sid sub rest).length := Nat.le_add_left 2 rest.length
  have drops (response : List UInt8) : suppressed (quietRequest sid sub rest) response = true ↔
      Positive response ∧ sid ∈ suppressibleSids := by
    simp only [suppressed, Positive, first, Bool.and_eq_true, decide_eq_true_eq, bne_iff_ne,
      List.length_pos_iff, List.contains_eq_mem, set, ne_eq, not_false_eq_true, and_true,
      and_assoc, long]
  simp only [udsDispatchRequest, serveRequest, reaches, if_true, answer, drops]
  by_cases dropped : Positive (serve (stamped s now) now
      (quietRequest sid sub rest)).2.response ∧ sid ∈ suppressibleSids
  · rw [if_pos dropped]
    exact congrArg (fun reply : Reply => (_, reply.response)) (if_pos dropped)
  · rw [if_neg dropped]
    exact congrArg (fun reply : Reply => (_, reply.response)) (if_neg dropped)

/-- CommunicationControl with its sub-function byte is always answered positively. -/
theorem communication_control_positive :
    Positive (serve s now (plainRequest udsSidCommunicationControl sub rest)).2.response := by
  have short : ¬ (plainRequest udsSidCommunicationControl sub rest).length < 2 :=
    Nat.not_lt.mpr (Nat.le_add_left 2 rest.length)
  have served : serve s now (plainRequest udsSidCommunicationControl sub rest) =
      handleNoopControl s udsSidCommunicationControl
        (plainRequest udsSidCommunicationControl sub rest) := rfl
  have offset : udsSidCommunicationControl + udsResponseSidOffset ≠ 0x7F := by decide
  rw [served, handleNoopControl, if_neg short]
  exact ⟨by simp, offset⟩

/-- The bootloader treats the bit alike but for CommunicationControl, which it always
answers. -/
theorem uniform_iff (addr : AddrType) (listed : sid ∈ subFunctionSids) :
    Uniform (answer (udsDispatchRequest s now (plainRequest sid sub rest) addr))
        (answer (udsDispatchRequest s now (quietRequest sid sub rest) addr)) ↔
      ¬ (admitted (plainRequest sid sub rest) addr = true ∧ sid = udsSidCommunicationControl) := by
  cases reaches : admitted (plainRequest sid sub rest) addr with
  | false =>
    have reaches' : admitted (quietRequest sid sub rest) addr = false := reaches
    simp [udsDispatchRequest, serveRequest, reaches, reaches', Uniform, answer, suppressed]
  | true =>
    have unlisted := serve_unlisted (stamped s now) now sid sub rest listed
    rw [dispatch_plain s now sid sub rest addr reaches,
      dispatch_quiet s now sid sub rest addr reaches,
      serve_quiet (stamped s now) now sid sub rest listed]
    simp only [true_and]
    by_cases communication : sid = udsSidCommunicationControl
    · subst communication
      have not_listed : udsSidCommunicationControl ∉ suppressibleSids := by decide
      have positive := communication_control_positive (stamped s now) now sub rest
      refine iff_of_false ?_ (by simp)
      rintro ⟨_, silent, _⟩
      have sent := silent positive
      simp only [not_listed, and_false, if_false] at sent
      exact positive.1 sent
    · refine iff_of_true ⟨rfl, ?_, ?_⟩ communication
      · intro positive
        exact if_pos ⟨positive, (unlisted positive).resolve_right communication⟩
      · intro negative
        exact if_neg (fun positive => positive.1.2 negative)

end Handlers

end ObdSimulator.BlUds

/-! ## Both dispatchers -/

namespace ObdSimulator

/-- Which requests the two dispatchers treat alike whatever the bit. -/
theorem suppress_bit_uniform_iff (sid : UInt8) (listed : sid ∈ subFunctionSids) :
    (∀ mem s now sub rest reqLen addr,
      Uniform
          (UdsService.udsDispatchRequest mem s now (plainRequest sid sub rest) reqLen addr)
          (UdsService.udsDispatchRequest mem s now (quietRequest sid sub rest) reqLen addr) ↔
        ¬ (UdsService.admitted (plainRequest sid sub rest) reqLen addr = true ∧
          UdsService.MissesBit s sid sub reqLen)) ∧
    ∀ s now sub rest addr,
      Uniform
          (BlUds.answer (BlUds.udsDispatchRequest s now (plainRequest sid sub rest) addr))
          (BlUds.answer (BlUds.udsDispatchRequest s now (quietRequest sid sub rest) addr)) ↔
        ¬ (BlUds.admitted (plainRequest sid sub rest) addr = true ∧
          sid = udsSidCommunicationControl) :=
  ⟨fun mem s now sub rest reqLen addr =>
      UdsService.uniform_iff mem s now sid sub rest reqLen addr listed,
    fun s now sub rest addr => BlUds.uniform_iff s now sid sub rest addr listed⟩

/-- SessionControl to Extended, with the bit and without. -/
theorem suppress_bit_uniform_session :
    Uniform
      (UdsService.udsDispatchRequest (fun _ => 0) (UdsService.appInit 0 0) 1000
        (plainRequest udsSidDiagSessionCtrl 0x03 []) 2 .physical)
      (UdsService.udsDispatchRequest (fun _ => 0) (UdsService.appInit 0 0) 1000
        (quietRequest udsSidDiagSessionCtrl 0x03 []) 2 .physical) :=
  ((suppress_bit_uniform_iff udsSidDiagSessionCtrl (by decide)).1 (fun _ => 0)
    (UdsService.appInit 0 0) 1000 0x03 [] 2 .physical).mpr
      (fun missed => absurd missed.2.1 (by decide))

/-- The application in the Extended session. -/
def extendedSession : UdsService.App :=
  Run.final (AppMain.step fun _ => 0) (UdsService.appInit 0 0)
    [.request 1000 [0x10, 0x03] 2 .physical]

/-- CommunicationControl with the bit set is answered, in both dispatchers. -/
theorem communication_control_answers :
    ((UdsService.udsDispatchRequest (fun _ => 0) extendedSession 1000
          (quietRequest udsSidCommunicationControl 0x00 []) 2 .physical).2 = [0x68, 0x00] ∧
        ¬ Uniform
          (UdsService.udsDispatchRequest (fun _ => 0) extendedSession 1000
            (plainRequest udsSidCommunicationControl 0x00 []) 2 .physical)
          (UdsService.udsDispatchRequest (fun _ => 0) extendedSession 1000
            (quietRequest udsSidCommunicationControl 0x00 []) 2 .physical)) ∧
      (BlUds.udsDispatchRequest
          (Bootloader.serverUp (NorFlash.Device.standard stmFlash (fun _ => 0xFF) []) 0 0) 1000
          (quietRequest udsSidCommunicationControl 0x00 []) .physical).2.response =
        [0x68, 0x00] := by
  have answered : (UdsService.udsDispatchRequest (fun _ => 0) extendedSession 1000
      (quietRequest udsSidCommunicationControl 0x00 []) 2 .physical).2 = [0x68, 0x00] := by
    decide +kernel
  refine ⟨⟨answered, ?_⟩, rfl⟩
  rintro ⟨_, silent, _⟩
  rw [answered] at silent
  exact absurd (silent (by decide +kernel)) (by decide)

end ObdSimulator
