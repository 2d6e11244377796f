import ObdSimulator.AppTasks

/-!
# The S3 timeout

`DiagSession_Tick` compares a sample of the tick counter with the stamp of the
last dispatched request. Both tasks read the same counter, but the receive task
may dispatch a request after the sample was taken and before the call. The stamp is
then later than the sample, the unsigned difference wraps round to almost its
maximum, and the session ends in the millisecond its request arrived.

The history is the list of the times at which requests were dispatched.
-/

namespace ObdSimulator.AppTasks

open UdsService SessionManager

/-- A request that the dispatcher lets through renews the stamp. -/
def dispatches : Step → Bool
  | .request _ req reqLen addr => admitted req reqLen addr
  | _ => false

/-- A step, and the time of the request it dispatches. -/
def dispatchStep (t : Tasks) (i : Step) : Tasks × List Nat :=
  (act t i, if dispatches i then [t.time] else [])

/-- The session returns to Default on a tick only when its timeout has passed since
the last dispatched request. -/
def NotPremature (past : List Nat) (t : Tasks) : Step → Prop
  | .sessionTick =>
    t.app.session.sessionType ≠ .default →
      (act t .sessionTick).app.session.sessionType = .default →
        ∃ last ∈ past.getLast?, last + diagS3TimeoutMs ≤ t.time
  | _ => True

instance (past : List Nat) (t : Tasks) : ∀ i, Decidable (NotPremature past t i)
  | .sessionTick => inferInstanceAs (Decidable (_ → _ → _))
  | .elapse _ | .request _ _ _ _ | .simulate | .periodicTick _ | .sampleTick => isTrue trivial

/-- A request dispatched after a sample, but not so long after it that the wrapped
difference is short again. -/
def Overtakes (last sampled : Nat) : Prop :=
  sampled < last ∧ (last - sampled) % tickModulus ≠ 0 ∧
    (last - sampled) % tickModulus + diagS3TimeoutMs ≤ tickModulus

/-- The tick is on a Default session, or the last dispatched request does not overtake
its sample, or is old enough in any case. -/
def SampleCurrent (past : List Nat) (t : Tasks) : Step → Prop
  | .sessionTick => t.app.session.sessionType = .default ∨
      ∀ sampled ∈ t.sampled, ∀ last ∈ past.getLast?,
        ¬ Overtakes last sampled ∨ last + diagS3TimeoutMs ≤ t.time
  | _ => True

/-! ## Stamps -/

/-- A call renews the stamp or leaves it. -/
theorem call_stamp (s : DiagSession) (now : Nat) (c : Call) (running : c.isBoot = false) :
    (c.run s now).1.lastActivityTick = now ∨
      (c.run s now).1.lastActivityTick = s.lastActivityTick := by
  have does := call_does s now c
  generalize c.run s now = ran at does ⊢
  obtain ⟨s', events⟩ := ran
  cases does with
  | entered => exact Or.inl rfl
  | defaulted => exact Or.inl rfl
  | seeded => exact Or.inl rfl
  | keyMatched => exact Or.inl rfl
  | stamped => exact Or.inl rfl
  | expired => exact Or.inl rfl
  | booted => cases running
  | _ => exact Or.inr rfl

/-- Calls of one tick leave it as the stamp. -/
theorem calls_stamp (s : DiagSession) (now : Nat) (made : List Call)
    (running : ∀ c ∈ made, c.isBoot = false) (stamped : s.lastActivityTick = now) :
    (Run.final callStep s (made.map (now, ·))).lastActivityTick = now := by
  induction made generalizing s with
  | nil => exact stamped
  | cons c rest ih =>
    apply ih
    · exact fun d member => running d (List.mem_cons_of_mem c member)
    · rcases call_stamp s now c (running c List.mem_cons_self) with renewed | kept
      · exact renewed
      · exact kept.trans stamped

/-- A dispatched request leaves the tick of its dispatch as the stamp. -/
theorem dispatch_stamp (mem : NorFlash.Memory) (s : App) (now : Nat) (req : List UInt8)
    (reqLen : Nat) (addr : AddrType) (reaches : admitted req reqLen addr = true) :
    (udsDispatchRequest mem s now req reqLen addr).1.session.lastActivityTick = now := by
  simp only [udsDispatchRequest, reaches, Bool.true_eq_false, if_false]
  rw [serve_calls]
  exact calls_stamp _ now _ (service_calls_running req reqLen) rfl

/-! ## The stamp and the history -/

/-- Outside Default the stamp is the tick of the last dispatch. The held sample is
in the past. -/
structure Stamped (past : List Nat) (t : Tasks) : Prop where
  stamp : t.app.session.sessionType ≠ .default →
    ∃ last ∈ past.getLast?, t.app.session.lastActivityTick = last % tickModulus
  held : ∀ sampled ∈ t.sampled, sampled ≤ t.time

/-- A step that keeps the session and dispatches nothing. -/
theorem Stamped.kept {past : List Nat} {t t' : Tasks} (before : Stamped past t)
    (session : t'.app.session = t.app.session)
    (held : ∀ sampled ∈ t'.sampled, sampled ≤ t'.time) : Stamped past t' := by
  refine ⟨?_, held⟩
  rw [session]
  exact before.stamp

/-- A request leaves the stamp of the last dispatch, its own if it reaches a service. -/
theorem request_stamped (past : List Nat) (t : Tasks) (mem : NorFlash.Memory) (req : List UInt8)
    (reqLen : Nat) (addr : AddrType) (before : Stamped past t) :
    Stamped (past ++ (dispatchStep t (.request mem req reqLen addr)).2)
      (dispatchStep t (.request mem req reqLen addr)).1 := by
  cases reaches : admitted req reqLen addr with
  | false =>
    have same : act t (.request mem req reqLen addr) = t := by
      simp [act, udsDispatchRequest, reaches]
    simpa [dispatchStep, dispatches, reaches, same] using before
  | true =>
    simp only [dispatchStep, dispatches, reaches, if_true]
    constructor
    · intro _
      refine ⟨t.time, by simp, ?_⟩
      exact dispatch_stamp mem t.app t.tick req reqLen addr reaches
    · exact before.held

/-- Every step leaves the stamp of the last dispatch. -/
theorem step_stamped (past : List Nat) (t : Tasks) (i : Step) (before : Stamped past t) :
    Stamped (past ++ (dispatchStep t i).2) (dispatchStep t i).1 := by
  cases i with
  | request mem req reqLen addr => exact request_stamped past t mem req reqLen addr before
  | elapse ms =>
    have time : t.time ≤ (act t (.elapse ms)).time := act_time t (.elapse ms)
    simp only [dispatchStep, dispatches, Bool.false_eq_true, if_false, List.append_nil]
    exact before.kept rfl fun sampled member => (before.held sampled member).trans time
  | sampleTick =>
    simp only [dispatchStep, dispatches, Bool.false_eq_true, if_false, List.append_nil]
    refine before.kept rfl ?_
    intro sampled member
    exact Nat.le_of_eq (Option.some.inj member).symm
  | sessionTick =>
    simp only [dispatchStep, dispatches, Bool.false_eq_true, if_false, List.append_nil]
    cases holds : t.sampled with
    | none => simpa [act, holds] using before
    | some sampled =>
      have no_sample : (act t .sessionTick).sampled = none := by simp [act, holds]
      have held : ∀ sampled ∈ (act t .sessionTick).sampled, sampled ≤
          (act t .sessionTick).time := by simp [no_sample]
      cases timed_out : diagSessionExpired t.app.session (sampled % tickModulus) with
      | false =>
        have same : (act t .sessionTick).app.session = t.app.session := by
          simp [act, holds, AppMain.expireSession, timed_out]
        exact before.kept same held
      | true =>
        have gone : (act t .sessionTick).app.session.sessionType = .default := by
          simp [act, holds, AppMain.expireSession, timed_out, enterSession, diagSessionEnter]
        exact ⟨fun outside => absurd gone outside, held⟩
  | simulate =>
    simp only [dispatchStep, dispatches, Bool.false_eq_true, if_false, List.append_nil]
    exact before.kept rfl before.held
  | periodicTick mem =>
    simp only [dispatchStep, dispatches, Bool.false_eq_true, if_false, List.append_nil]
    exact before.kept rfl before.held

/-- Against the stamp of a request that does not overtake it, a sample shows no more
than the time since that request. -/
theorem overtakes_iff (last sampled now : Nat) (held : sampled ≤ now)
    (recent : now < last + diagS3TimeoutMs) :
    diagS3TimeoutMs ≤ tickSub (sampled % tickModulus) (last % tickModulus) ↔
      Overtakes last sampled := by
  unfold Overtakes tickSub
  rcases Nat.lt_or_ge sampled last with after | before
  · rw [Clock.sub_samples_back tickModulus sampled last (by decide) (Nat.le_of_lt after)]
    have timeout : diagS3TimeoutMs ≠ 0 := by decide
    have modulus : (last - sampled) % tickModulus < tickModulus := Nat.mod_lt _ (by decide)
    split
    · rename_i none_missing
      simp [none_missing, timeout]
    · rename_i missing
      constructor
      · intro long
        exact ⟨after, missing, by omega⟩
      · rintro ⟨_, _, short⟩
        omega
  · have measured := Clock.sub_samples_le tickModulus last sampled (by decide) before
    constructor
    · intro long
      omega
    · rintro ⟨after, _⟩
      omega

/-- With the stamp in agreement with the history, the two conditions agree. -/
theorem sample_current_iff (past : List Nat) (t : Tasks) (i : Step) (before : Stamped past t) :
    SampleCurrent past t i ↔ NotPremature past t i := by
  cases i with
  | sessionTick =>
    unfold SampleCurrent NotPremature
    by_cases idle : t.app.session.sessionType = .default
    · simp [idle]
    obtain ⟨last, latest, stamp⟩ := before.stamp idle
    have latest' : past.getLast? = some last := latest
    cases holds : t.sampled with
    | none => simp [act, holds, idle]
    | some sampled =>
      have held := before.held sampled holds
      have expires : (act t .sessionTick).app.session.sessionType = .default ↔
          diagS3TimeoutMs ≤ tickSub (sampled % tickModulus) (last % tickModulus) := by
        simp only [act, holds, AppMain.expireSession, diagSessionExpired, stamp]
        by_cases long : diagS3TimeoutMs ≤ tickSub (sampled % tickModulus) (last % tickModulus)
        · simp [idle, long, enterSession, diagSessionEnter]
        · simp [idle, long]
      rw [expires]
      simp only [idle, latest', Option.mem_some_iff, false_or, forall_eq', exists_eq_left', ne_eq,
        not_false_eq_true, forall_true_left]
      by_cases recent : t.time < last + diagS3TimeoutMs
      · rw [overtakes_iff last sampled t.time held recent]
        tauto
      · have old := Nat.le_of_not_lt recent
        simp [old]
  | _ => exact Iff.rfl

/-- The stamp is right at the start. -/
theorem started_stamped (initialised ready : Nat) : Stamped [] (started initialised ready) := by
  constructor
  · intro outside
    exact absurd rfl outside
  · intro sampled member
    cases member

/-- In every order of the steps no session times out early exactly when no request
overtakes a sample that a tick uses. -/
theorem no_premature_timeout_iff (initialised ready : Nat) (steps : List Step) :
    Run.Along dispatchStep SampleCurrent [] (started initialised ready) steps ↔
      Run.Along dispatchStep NotPremature [] (started initialised ready) steps :=
  Run.along_iff_of_invariant dispatchStep SampleCurrent NotPremature Stamped
    (fun past t i before _ => step_stamped past t i before) sample_current_iff [] _ steps
    (started_stamped initialised ready)

/-- The main task samples; a millisecond later, before its call, a request arrives. -/
def overtaken : List Step :=
  [.elapse 1000, .request (fun _ => 0) [0x10, 0x03] 2 .physical, .elapse 100, .sampleTick,
    .elapse 1, .request (fun _ => 0) [0x3E, 0x00] 2 .physical, .sessionTick]

/-- The session ends in the millisecond of its last request. -/
theorem overtaken_times_out :
    (Run.final dispatchStep (started 0 0) overtaken).app.session.sessionType = .default ∧
      Run.trace dispatchStep (started 0 0) overtaken = [1000, 1101] ∧
      (Run.final dispatchStep (started 0 0) overtaken).time = 1101 ∧
      ¬ Run.Along dispatchStep NotPremature [] (started 0 0) overtaken := by
  decide +kernel

end ObdSimulator.AppTasks
