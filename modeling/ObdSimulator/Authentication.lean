import ObdSimulator.AppTasks

/-!
# Authentication

What the history of the security events says. A tester is authenticated when the
last seed it was issued was answered by its key, with no comparison in between and
neither of them inside a delay, and the Default session was not entered since. The
control block unlocks only then; the access table asks for it before the services
that change the VIN or the IO port, run a routine or read memory.

SecurityAccess itself is in no session's table: a key is accepted in the Default
session too, and the level it leaves lasts until that session is entered again.
-/

namespace ObdSimulator.SessionManager

/-! ## Failures and delays, from the history -/

/-- Mismatches since the last success or the end of the last lock-out, and the
times of the failures that armed one. -/
structure Strikes where
  misses : Nat := 0
  armed : List Nat := []
deriving DecidableEq, Repr

/-- The mismatches that count at a time: none once the lock-outs are over. -/
def Strikes.current (g : Strikes) (t : Nat) : Nat :=
  if diagMaxFailAttempts ≤ g.misses ∧ ∀ a ∈ g.armed, a + diagLockoutTimeMs ≤ t then 0 else g.misses

/-- The third mismatch arms a lock-out. -/
def strike (g : Strikes) : Nat × Event → Strikes
  | (_, .compared _ true) => { g with misses := 0 }
  | (t, .compared _ false) =>
    let misses := g.current t + 1
    { misses, armed := if misses = diagMaxFailAttempts then t :: g.armed else g.armed }
  | _ => g

/-- The misses and lock-outs of a history. -/
def strikes (past : List (Nat × Event)) : Strikes := past.foldl strike {}

/-- Neither the boot delay nor a lock-out covers a time. -/
def Clear (ready : Nat) (past : List (Nat × Event)) (t : Nat) : Prop :=
  ready + diagBootDelayMs ≤ t ∧ ∀ a ∈ (strikes past).armed, a + diagLockoutTimeMs ≤ t

/-- Neither a seed nor a comparison. -/
def Event.isIdle : Event → Bool
  | .seeded _ => false
  | .compared _ _ => false
  | _ => true

/-- The last seed of the history, issued outside every delay and not compared. -/
def Issued (ready : Nat) (past : List (Nat × Event)) (seed : UInt16) : Prop :=
  ∃ before t between, past = before ++ (t, .seeded seed) :: between ∧
    (∀ e ∈ between, e.2.isIdle = true) ∧ Clear ready before t

/-- An issued seed was answered by its key outside every delay, and the Default
session was not entered since. -/
def Authenticated (ready : Nat) (past : List (Nat × Event)) : Prop :=
  ∃ asked t seed after, past = asked ++ (t, .compared (computeKey seed) true) :: after ∧
    Issued ready asked seed ∧ Clear ready asked t ∧ ∀ e ∈ after, e.2 ≠ .defaulted

/-- One more event. -/
theorem strikes_snoc (past : List (Nat × Event)) (e : Nat × Event) :
    strikes (past ++ [e]) = strike (strikes past) e := by
  simp [strikes, List.foldl_append]

/-- The control block agrees with the history. -/
structure Guarded (ready now : Nat) (past : List (Nat × Event)) (s : DiagSession) : Prop where
  started : ready ≤ now ∧ s.bootTick = ready % tickModulus
  counted : s.failCount = (strikes past).misses ∨
    s.failCount = 0 ∧ diagMaxFailAttempts ≤ (strikes past).misses ∧
      ∀ a ∈ (strikes past).armed, a + diagLockoutTimeMs ≤ now
  armed : ∀ a ∈ (strikes past).armed, a + diagLockoutTimeMs ≤ now ∨
    diagMaxFailAttempts ≤ s.failCount ∧ a ≤ now ∧ s.lockoutStart = a % tickModulus
  issued : s.seedIsFresh = true → Issued ready past s.seed
  unlocked : s.securityLevel ≠ .locked → Authenticated ready past

variable {ready now : Nat} {past : List (Nat × Event)} {s : DiagSession}

/-- Time alone does not spoil the agreement. -/
theorem Guarded.later {t : Nat} (guarded : Guarded ready now past s) (ordered : now ≤ t) :
    Guarded ready t past s := by
  obtain ⟨⟨started, boot⟩, counted, armed, issued, unlocked⟩ := guarded
  refine ⟨⟨started.trans ordered, boot⟩, counted.imp id ?_, ?_, issued, unlocked⟩
  · rintro ⟨none_left, full, elapsed⟩
    exact ⟨none_left, full, fun a member => (elapsed a member).trans ordered⟩
  · intro a member
    rcases armed a member with elapsed | ⟨full, before, start⟩
    · exact Or.inl (elapsed.trans ordered)
    · exact Or.inr ⟨full, before.trans ordered, start⟩

/-- An open gate is clear of every delay in the history. -/
theorem Guarded.clear {count : Nat} (guarded : Guarded ready now past s)
    (opened : Opened s (now % tickModulus) count) : Clear ready past now := by
  obtain ⟨boot, gate⟩ := opened
  obtain ⟨started, shown⟩ := guarded.started
  rw [shown] at boot
  refine ⟨elapsed_of_tick_sub started boot, ?_⟩
  intro a member
  rcases guarded.armed a member with elapsed | ⟨full, before, start⟩
  · exact elapsed
  · rcases gate with ⟨room, _⟩ | ⟨_, elapsed_over, _⟩
    · exact absurd room (Nat.not_lt.mpr full)
    · rw [start] at elapsed_over
      exact elapsed_of_tick_sub before elapsed_over

/-- The count an open gate leaves is the number of mismatches that count now. -/
theorem Guarded.current {count : Nat} (guarded : Guarded ready now past s)
    (opened : Opened s (now % tickModulus) count) : (strikes past).current now = count := by
  have clear := guarded.clear opened
  unfold Strikes.current
  rcases guarded.counted with same | ⟨none_left, full, elapsed⟩
  · obtain ⟨_, ⟨room, rfl⟩ | ⟨full, _, rfl⟩⟩ := opened
    · rw [same] at room ⊢
      rw [if_neg (fun elapsed_over => absurd elapsed_over.1 (Nat.not_le.mpr room))]
    · rw [same] at full
      rw [if_pos ⟨full, clear.2⟩]
  · rw [if_pos ⟨full, elapsed⟩]
    obtain ⟨_, ⟨_, rfl⟩ | ⟨_, _, rfl⟩⟩ := opened
    · exact none_left.symm
    · rfl

/-- What the agreement depends on. -/
theorem Guarded.same {s' : DiagSession} (guarded : Guarded ready now past s)
    (boot : s'.bootTick = s.bootTick) (count : s'.failCount = s.failCount)
    (start : s'.lockoutStart = s.lockoutStart) (seed : s'.seed = s.seed)
    (fresh : s'.seedIsFresh = s.seedIsFresh)
    (level : s'.securityLevel = .locked ∨ s'.securityLevel = s.securityLevel) :
    Guarded ready now past s' := by
  obtain ⟨started, counted, armed, issued, unlocked⟩ := guarded
  constructor
  · rw [boot]
    exact started
  · rw [count]
    exact counted
  · rw [count, start]
    exact armed
  · rw [seed, fresh]
    exact issued
  · intro opened
    rcases level with locked | same
    · exact absurd locked opened
    · rw [same] at opened
      exact unlocked opened

/-- The gate only lets an expired lock-out go. -/
theorem Guarded.opened {count : Nat} (guarded : Guarded ready now past s)
    (opened : Opened s (now % tickModulus) count) :
    Guarded ready now past { s with failCount := count } := by
  have clear := guarded.clear opened
  have current := guarded.current opened
  refine ⟨guarded.started, ?_, fun a member => Or.inl (clear.2 a member), guarded.issued,
    guarded.unlocked⟩
  unfold Strikes.current at current
  split at current
  · rename_i elapsed_over
    exact Or.inr ⟨current.symm, elapsed_over.1, clear.2⟩
  · exact Or.inl current.symm

/-- A seed stays issued while nothing uses it up. -/
theorem Issued.snoc {seed : UInt16} {e : Nat × Event} (issued : Issued ready past seed)
    (idle : e.2.isIdle = true) : Issued ready (past ++ [e]) seed := by
  obtain ⟨before, t, between, rfl, quiet, clear⟩ := issued
  refine ⟨before, t, between ++ [e], by simp, ?_, clear⟩
  intro e' member
  rcases List.mem_append.mp member with earlier | last
  · exact quiet e' earlier
  · rw [List.mem_singleton.mp last]
    exact idle

/-- An authentication stays one until Default is entered. -/
theorem Authenticated.snoc {e : Nat × Event} (authenticated : Authenticated ready past)
    (stays : e.2 ≠ .defaulted) : Authenticated ready (past ++ [e]) := by
  obtain ⟨asked, t, seed, after, rfl, issued, clear, outside⟩ := authenticated
  refine ⟨asked, t, seed, after ++ [e], by simp, issued, clear, ?_⟩
  intro e' member
  rcases List.mem_append.mp member with earlier | last
  · exact outside e' earlier
  · rw [List.mem_singleton.mp last]
    exact stays

/-- Entering Default locks, so the history may have any past. -/
theorem Guarded.defaulted (guarded : Guarded ready now past s) (stamp : Nat) :
    Guarded ready now (past ++ [(now, .defaulted)]) (diagSessionEnter s stamp .default) := by
  have counts : strikes (past ++ [(now, .defaulted)]) = strikes past := strikes_snoc past _
  refine ⟨guarded.started, ?_, ?_, fun fresh => (guarded.issued fresh).snoc rfl,
    fun unlocked => absurd rfl unlocked⟩
  · rw [counts]
    exact guarded.counted
  · rw [counts]
    exact guarded.armed

/-- A seed behind an open gate is issued outside every delay. -/
theorem Guarded.seeded {count : Nat} (guarded : Guarded ready now past s)
    (opened : Opened s (now % tickModulus) count) (seed : UInt16) (stamp : Nat) :
    Guarded ready now (past ++ [(now, .seeded seed)])
      { s with failCount := count, seed, seedIsFresh := true, lastActivityTick := stamp } := by
  have counts : strikes (past ++ [(now, .seeded seed)]) = strikes past := strikes_snoc past _
  have behind := guarded.opened opened
  constructor
  · exact behind.started
  · rw [counts]
    exact behind.counted
  · rw [counts]
    exact behind.armed
  · intro _
    exact ⟨past, now, [], rfl, by simp, guarded.clear opened⟩
  · intro unlocked
    exact (guarded.unlocked unlocked).snoc (by simp)

/-- A matching key authenticates and clears the misses. -/
theorem Guarded.matched {count : Nat} (guarded : Guarded ready now past s)
    (opened : Opened s (now % tickModulus) count) (fresh : s.seedIsFresh = true) (stamp : Nat) :
    Guarded ready now (past ++ [(now, .compared (computeKey s.seed) true)])
      { s with seedIsFresh := false, securityLevel := .level1, failCount := 0,
               lastActivityTick := stamp } := by
  have counts : strikes (past ++ [(now, .compared (computeKey s.seed) true)]) =
      { strikes past with misses := 0 } := strikes_snoc past _
  have clear := guarded.clear opened
  constructor
  · exact guarded.started
  · rw [counts]
    exact Or.inl rfl
  · rw [counts]
    exact fun a member => Or.inl (clear.2 a member)
  · exact fun stale => absurd stale (by simp)
  · intro _
    exact ⟨past, now, s.seed, [], rfl, guarded.issued fresh, clear, by simp⟩

/-- A wrong key is counted, and the third in a row arms the lock-out. -/
theorem Guarded.missed {count : Nat} (guarded : Guarded ready now past s)
    (opened : Opened s (now % tickModulus) count) (key : UInt16) :
    Guarded ready now (past ++ [(now, .compared key false)])
      { s with seedIsFresh := false, failCount := count + 1,
               lockoutStart :=
                 if diagMaxFailAttempts ≤ count + 1 then now % tickModulus
                 else s.lockoutStart } := by
  have clear := guarded.clear opened
  have few := opened.count_lt
  have counts : strikes (past ++ [(now, .compared key false)]) =
      { misses := count + 1
        armed := if count + 1 = diagMaxFailAttempts then now :: (strikes past).armed
          else (strikes past).armed } := by
    rw [strikes_snoc, strike, guarded.current opened]
  constructor
  · exact guarded.started
  · rw [counts]
    exact Or.inl rfl
  · rw [counts]
    intro a member
    by_cases third : count + 1 = diagMaxFailAttempts
    · simp only [if_pos third, List.mem_cons] at member
      rcases member with rfl | earlier
      · exact Or.inr ⟨third.ge, Nat.le_refl _, if_pos third.ge⟩
      · exact Or.inl (clear.2 a earlier)
    · simp only [if_neg third] at member
      exact Or.inl (clear.2 a member)
  · exact fun stale => absurd stale (by simp)
  · intro unlocked
    exact (guarded.unlocked unlocked).snoc (by simp)

/-- Every call but a reset keeps the control block and the history in agreement. -/
theorem step_guarded (s : DiagSession) (i : Nat × Call) (past : List (Nat × Event))
    (guarded : Guarded ready i.1 past s) (running : i.2.isBoot = false) :
    Guarded ready i.1 (past ++ (step s i).2) (step s i).1 := by
  obtain ⟨t, c⟩ := i
  have does := call_does s (t % tickModulus) c
  simp only [step] at *
  generalize c.run s (t % tickModulus) = ran at does ⊢
  obtain ⟨s', events⟩ := ran
  cases does with
  | entered other differs =>
    rw [List.map_nil, List.append_nil]
    exact guarded.same rfl rfl rfl rfl rfl (Or.inr (if_neg differs))
  | defaulted => exact guarded.defaulted _
  | seedRefused => simpa using guarded
  | seeded count opened => exact guarded.seeded opened _ _
  | keyRefused => simpa using guarded
  | keyStale key count opened stale => simpa using guarded.opened opened
  | keyMatched count opened fresh => exact guarded.matched opened fresh _
  | keyMissed key count opened => exact guarded.missed opened key
  | stamped =>
    rw [List.map_nil, List.append_nil]
    exact guarded.same rfl rfl rfl rfl rfl (Or.inr rfl)
  | ticked => simpa using guarded
  | expired => exact guarded.defaulted _
  | booted => cases running

/-- Calls made at one time, of which none is a reset. -/
theorem calls_guarded (s : DiagSession) (past : List (Nat × Event)) (made : List Call)
    (guarded : Guarded ready now past s) (running : ∀ c ∈ made, c.isBoot = false) :
    Guarded ready now (past ++ Run.trace step s (made.map (now, ·)))
      (Run.final step s (made.map (now, ·))) := by
  induction made generalizing s past with
  | nil => simpa [Run.trace, Run.final] using guarded
  | cons c rest ih =>
    have here := step_guarded s (now, c) past guarded (running c List.mem_cons_self)
    have later := ih _ _ here (fun d member => running d (List.mem_cons_of_mem c member))
    simpa [Run.trace, Run.final] using later

end ObdSimulator.SessionManager

/-! ## Authentication before privileged effects -/

namespace ObdSimulator.AppTasks

open UdsService NorFlash Bytes SessionManager

/-- A request that changes the VIN or the IO port, runs a routine, or is given
memory. A routine that runs is answered positively. -/
def Privileged (t : Tasks) : Step → Prop
  | .request mem req reqLen addr =>
    let served := udsDispatchRequest mem t.app t.tick req reqLen addr
    served.1.vin ≠ t.app.vin ∨ served.1.ioPort ≠ t.app.ioPort ∨
      byte req 0 = udsSidRoutineControl ∧
        (Positive served.2 ∨ served.1.faults ≠ t.app.faults) ∨
      byte req 0 = udsSidReadMemByAddr ∧ Positive served.2
  | _ => False

instance (t : Tasks) : ∀ i, Decidable (Privileged t i)
  | .request _ _ _ _ =>
    inferInstanceAs (Decidable (_ ∨ _ ∨ _ ∧ (_ ∨ _) ∨ _ ∧ _))
  | .elapse _ | .simulate | .periodicTick _ | .sampleTick | .sessionTick => isFalse id

/-- No task initialises the session manager. -/
theorem calls_running (t : Tasks) (i : Step) : ∀ c ∈ calls t i, c.isBoot = false := by
  intro c member
  unfold calls at member
  split at member
  · split at member
    · rcases List.mem_cons.mp member with rfl | later
      · rfl
      · exact service_calls_running _ _ c later
    · cases member
  · obtain ⟨_, _, rfl⟩ := List.mem_map.mp member
    rfl
  · cases member

/-- The agreement holds at the start. -/
theorem started_guarded (initialised ready : Nat) :
    Guarded ready ready [] (started initialised ready).app.session := by
  refine ⟨⟨Nat.le_refl _, rfl⟩, Or.inl rfl, ?_, ?_, ?_⟩
  · intro a member
    cases member
  · intro fresh
    cases fresh
  · intro unlocked
    exact absurd rfl unlocked

/-- The control block agrees with the history in every state of the tasks. -/
theorem tasks_guarded (initialised ready : Nat) (steps : List Step) :
    Guarded ready (Run.final securityStep (started initialised ready) steps).time
      (Run.trace securityStep (started initialised ready) steps)
      (Run.final securityStep (started initialised ready) steps).app.session := by
  have kept := Run.invariant_final securityStep (fun _ _ _ => True)
    (fun past t => Guarded ready t.time past t.app.session) ?_ [] (started initialised ready) steps
    (started_guarded initialised ready) (Run.along_of_forall _ _ (fun _ _ _ => trivial) _ _ _)
  · simpa using kept
  · intro past t i guarded _
    have made := calls_guarded t.app.session past (calls t i) guarded (calls_running t i)
    rw [← act_calls t i] at made
    exact made.later (act_time t i)

/-- Behind a closed gate a request is not answered positively, and changes no
faults. -/
theorem gate_refuses (mem : Memory) (s : App) (now : Nat) (req : List UInt8) (reqLen : Nat)
    (addr : AddrType) (handled : App × List UInt8) (code : UInt8)
    (behind : serve mem (stamped s now) now req reqLen =
      gated (stamped s now) (byte req 0) handled)
    (closed : accessGate s (byte req 0) = some code) :
    ¬ Positive (udsDispatchRequest mem s now req reqLen addr).2 ∧
      (udsDispatchRequest mem s now req reqLen addr).1.faults = s.faults := by
  have refused : serve mem (stamped s now) now req reqLen =
      (stamped s now, nrc (byte req 0) code) := by
    have still : accessGate (stamped s now) (byte req 0) = some code := closed
    rw [behind, gated, still]
  unfold udsDispatchRequest
  split
  · exact ⟨by simp [Positive], rfl⟩
  · simp only [refused]
    refine ⟨?_, rfl⟩
    split
    · simp [Positive]
    · exact nrc_not_positive _ _

/-- A privileged request finds a gate open that asks for both an Extended session
and an unlocked level. -/
theorem privileged_gate (t : Tasks) (i : Step) (privileged : Privileged t i) :
    t.app.session.sessionType = .extended ∧ t.app.session.securityLevel ≠ .locked := by
  cases i with
  | request mem req reqLen addr =>
    have change := dispatch_change mem t.app t.tick req reqLen addr
    have secured (sid : UInt8)
        (rule : kAccessRules.find? (fun rule => rule.1 == sid) = some (sid, true, true))
        (opened : accessGate (stamped t.app t.tick) sid = none) :
        t.app.session.sessionType = .extended ∧ t.app.session.securityLevel ≠ .locked :=
      gate_opened (stamped t.app t.tick) sid rule opened
    obtain vin | port | ⟨service, routine⟩ | ⟨service, read⟩ := privileged
    · rcases change with same | ⟨_, change⟩
      · exact absurd (congrArg App.vin same) vin
      · generalize (udsDispatchRequest mem t.app t.tick req reqLen addr).1 = after at change vin
        cases change with
        | vin value opened => exact secured udsSidWriteDataById rfl opened
        | session other => cases other <;> exact absurd rfl vin
        | _ => exact absurd rfl vin
    · rcases change with same | ⟨_, change⟩
      · exact absurd (congrArg App.ioPort same) port
      · generalize (udsDispatchRequest mem t.app t.tick req reqLen addr).1 = after at change port
        cases change with
        | ioPort value opened => exact secured udsSidIoControlById rfl opened
        | session other => cases other <;> exact absurd rfl port
        | _ => exact absurd rfl port
    · cases gate : accessGate t.app udsSidRoutineControl with
      | none => exact secured udsSidRoutineControl rfl gate
      | some code =>
        rw [← service] at gate
        obtain ⟨refused, same⟩ := gate_refuses mem t.app t.tick req reqLen addr _ code
          (by simp only [serve, service]; rfl) gate
        rcases routine with answered | changed
        · exact absurd answered refused
        · exact absurd same changed
    · cases gate : accessGate t.app udsSidReadMemByAddr with
      | none => exact secured udsSidReadMemByAddr rfl gate
      | some code =>
        rw [← service] at gate
        obtain ⟨refused, _⟩ := gate_refuses mem t.app t.tick req reqLen addr _ code
          (by simp only [serve, service]; rfl) gate
        exact absurd read refused
  | _ => exact absurd privileged id

/-- A privileged effect is in the Extended session, of an authenticated tester. -/
theorem privileged_authenticated (initialised ready : Nat) (steps : List Step) (i : Step)
    (privileged : Privileged (Run.final securityStep (started initialised ready) steps) i) :
    (Run.final securityStep (started initialised ready) steps).app.session.sessionType =
        .extended ∧
      Authenticated ready (Run.trace securityStep (started initialised ready) steps) := by
  obtain ⟨extended, unlocked⟩ := privileged_gate _ i privileged
  exact ⟨extended, (tasks_guarded initialised ready steps).unlocked unlocked⟩

/-- The Extended session, and the level unlocked 1500 ms after the start-up. -/
def unlocking : List Step :=
  [.request (fun _ => 0) [0x10, 0x03] 2 .physical,
   .elapse 1500,
   .request (fun _ => 0) [0x27, 0x01] 2 .physical,
   .request (fun _ => 0) [0x27, 0x02, 0xE3, 0xE2] 4 .physical]

/-- An unlocked application that drives its port. -/
theorem privileged_authenticated_port :
    Privileged (Run.final securityStep (started 0 100) unlocking)
        (.request (fun _ => 0) [0x2F, 0x02, 0x00, 0x03, 0x55] 5 .physical) ∧
      (Run.final securityStep (started 0 100) unlocking).app.session.sessionType = .extended ∧
      Authenticated 100 (Run.trace securityStep (started 0 100) unlocking) :=
  ⟨by decide +kernel, privileged_authenticated 0 100 unlocking
    (.request (fun _ => 0) [0x2F, 0x02, 0x00, 0x03, 0x55] 5 .physical) (by decide +kernel)⟩

end ObdSimulator.AppTasks
