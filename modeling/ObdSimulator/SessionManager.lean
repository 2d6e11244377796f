import ObdSimulator.DiagSession
import ObdSimulator.Lib.Rate
import ObdSimulator.Lib.Run

/-!
# The session manager over time

The calls that the dispatchers and the main loops make to `diag_session.c`, one
after the other. A call sees the tick of `HAL_GetTick`; over time that is the low
32 bits of the milliseconds since start-up. Every call leaves behind the events
that the security procedure turns on: a seed issued, a key compared with the
expected one, the Default session entered. The history of these events, and not
the counters of the code, says which failures armed a lock-out and when a tester
is authenticated.
-/

namespace ObdSimulator.SessionManager

open Bytes

/-- Calls that change the control block. A seed request checks the security gate
first, as SecurityAccess does. -/
inductive Call where
  | setSession (t : SessionType)
  | requestSeed
  | sendKey (key : UInt16)
  | resetS3Timeout
  /-- `DiagSession_Tick` on a sample the caller took before. -/
  | tick (sampled : Nat)
  /-- `DiagSession_Init` at an earlier tick, and `DiagSession_MarkBootReady`. -/
  | boot (initialised : Nat)
deriving DecidableEq, Repr

/-- What a call does that the history is about. -/
inductive Event where
  | booted
  | defaulted
  | seeded (seed : UInt16)
  /-- `DiagSession_VerifyKey` got as far as the comparison. -/
  | compared (key : UInt16) (matching : Bool)
deriving DecidableEq, Repr

/-- The call a start makes. -/
def Call.isBoot : Call → Bool
  | .boot _ => true
  | _ => false

/-- Whether `DiagSession_VerifyKey` compares the key with an expected one. -/
def compares (s : DiagSession) (now : Nat) : Bool :=
  (diagSessionCheckSecurityGate s now).2 == .ok && s.seedIsFresh

/-- A call, and what it tells the history. -/
def Call.run (s : DiagSession) (now : Nat) : Call → DiagSession × List Event
  | .setSession t => (diagSessionEnter s now t, if t = .default then [.defaulted] else [])
  | .requestSeed =>
    match diagSessionCheckSecurityGate s now with
    | (s, .ok) => ((diagSessionGenerateSeed s now).1, [.seeded (diagSessionGenerateSeed s now).2])
    | (s, _) => (s, [])
  | .sendKey key =>
    ((diagSessionVerifyKey s now key).1,
      if compares s now then [.compared key ((diagSessionVerifyKey s now key).2 == .ok)] else [])
  | .resetS3Timeout => (diagSessionResetS3Timeout s now, [])
  | .tick sampled =>
    (diagSessionTick s sampled now, if diagSessionExpired s sampled then [.defaulted] else [])
  | .boot initialised => (diagSessionMarkBootReady (diagSessionInit {} initialised) now, [.booted])

/-- The call a service makes: SessionControl to a session that exists, SecurityAccess
with an odd level, or with an even one and a key. -/
def serviceCalls (req : List UInt8) (reqLen : Nat) : List Call :=
  let sub := subFunction (byte req 1)
  if reqLen < 2 then []
  else if byte req 0 = udsSidDiagSessionCtrl then
    (SessionType.ofByte sub).toList.map .setSession
  else if byte req 0 = udsSidSecurityAccess then
    if sub &&& 0x01 ≠ 0 then [.requestSeed]
    else if 4 ≤ reqLen then
      [.sendKey ((byte req 2).toUInt16 <<< 8 ||| (byte req 3).toUInt16)]
    else []
  else []

/-- No other service reaches the session manager. -/
theorem service_calls_other (req : List UInt8) (reqLen : Nat)
    (control : byte req 0 ≠ udsSidDiagSessionCtrl) (access : byte req 0 ≠ udsSidSecurityAccess) :
    serviceCalls req reqLen = [] := by
  simp [serviceCalls, control, access]

/-- Calls at the ticks they see. -/
def callStep (s : DiagSession) (i : Nat × Call) : DiagSession × List Event := i.2.run s i.1

/-- Calls at their times. -/
def step (s : DiagSession) (i : Nat × Call) : DiagSession × List (Nat × Event) :=
  let (s, events) := i.2.run s (i.1 % tickModulus)
  (s, events.map (i.1, ·))

/-! ## What a call does -/

/-- The gate is open, and leaves this failure count: an expired lock-out clears it. -/
def Opened (s : DiagSession) (now count : Nat) : Prop :=
  diagBootDelayMs ≤ tickSub now s.bootTick ∧
    (s.failCount < diagMaxFailAttempts ∧ count = s.failCount ∨
      diagMaxFailAttempts ≤ s.failCount ∧ diagLockoutTimeMs ≤ tickSub now s.lockoutStart ∧
        count = 0)

/-- Behind an open gate an attempt is left. -/
theorem Opened.count_lt {s : DiagSession} {now count : Nat} (opened : Opened s now count) :
    count < diagMaxFailAttempts := by
  obtain ⟨_, ⟨few, rfl⟩ | ⟨_, _, rfl⟩⟩ := opened
  · exact few
  · decide

/-- Everything a call can do. -/
inductive Does (s : DiagSession) (now : Nat) : Call → DiagSession → List Event → Prop
  | entered (t : SessionType) (other : t ≠ .default) :
      Does s now (.setSession t) (diagSessionEnter s now t) []
  | defaulted : Does s now (.setSession .default) (diagSessionEnter s now .default) [.defaulted]
  | seedRefused : Does s now .requestSeed s []
  | seeded (count : Nat) (opened : Opened s now count) :
      Does s now .requestSeed
        { s with failCount := count, seed := seedOfTick now, seedIsFresh := true,
                 lastActivityTick := now } [.seeded (seedOfTick now)]
  | keyRefused (key : UInt16) : Does s now (.sendKey key) s []
  | keyStale (key : UInt16) (count : Nat) (opened : Opened s now count)
      (stale : s.seedIsFresh = false) : Does s now (.sendKey key) { s with failCount := count } []
  | keyMatched (count : Nat) (opened : Opened s now count) (fresh : s.seedIsFresh = true) :
      Does s now (.sendKey (computeKey s.seed))
        { s with seedIsFresh := false, securityLevel := .level1, failCount := 0,
                 lastActivityTick := now } [.compared (computeKey s.seed) true]
  | keyMissed (key : UInt16) (count : Nat) (opened : Opened s now count)
      (fresh : s.seedIsFresh = true) (wrong : key ≠ computeKey s.seed) :
      Does s now (.sendKey key)
        { s with seedIsFresh := false, failCount := count + 1,
                 lockoutStart := if diagMaxFailAttempts ≤ count + 1 then now else s.lockoutStart }
        [.compared key false]
  | stamped : Does s now .resetS3Timeout { s with lastActivityTick := now } []
  | ticked (sampled : Nat) (lasts : diagSessionExpired s sampled = false) :
      Does s now (.tick sampled) s []
  | expired (sampled : Nat) (timed_out : diagSessionExpired s sampled = true) :
      Does s now (.tick sampled) (diagSessionEnter s now .default) [.defaulted]
  | booted (initialised : Nat) :
      Does s now (.boot initialised) (diagSessionMarkBootReady (diagSessionInit {} initialised) now)
        [.booted]

/-- The gate is closed and changes nothing, or it is open. -/
theorem check_gate_cases (s : DiagSession) (now : Nat) :
    ((diagSessionCheckSecurityGate s now).1 = s ∧ (diagSessionCheckSecurityGate s now).2 ≠ .ok) ∨
      ∃ count, Opened s now count ∧
        diagSessionCheckSecurityGate s now = ({ s with failCount := count }, .ok) := by
  unfold diagSessionCheckSecurityGate
  by_cases early : tickSub now s.bootTick < diagBootDelayMs
  · simp [early]
  · by_cases full : diagMaxFailAttempts ≤ s.failCount
    · by_cases locked : tickSub now s.lockoutStart < diagLockoutTimeMs
      · simp [early, full, locked]
      · refine Or.inr ⟨0, ⟨Nat.le_of_not_lt early, Or.inr ⟨full, Nat.le_of_not_lt locked, rfl⟩⟩, ?_⟩
        simp [early, full, locked]
    · refine Or.inr ⟨s.failCount, ⟨Nat.le_of_not_lt early, Or.inl ⟨Nat.lt_of_not_le full, rfl⟩⟩, ?_⟩
      simp [early, full]

/-- A key is refused, stale, right or wrong. -/
theorem send_key_does (s : DiagSession) (now : Nat) (key : UInt16) :
    Does s now (.sendKey key) ((Call.sendKey key).run s now).1
      ((Call.sendKey key).run s now).2 := by
  simp only [Call.run, compares, diagSessionVerifyKey]
  rcases check_gate_cases s now with ⟨same, closed⟩ | ⟨count, opened, gate⟩
  · generalize diagSessionCheckSecurityGate s now = outcome at same closed
    obtain ⟨after, gate⟩ := outcome
    cases gate with
    | ok => exact absurd rfl closed
    | delay => simpa [← same] using Does.keyRefused key
    | locked => simpa [← same] using Does.keyRefused key
  · simp only [gate]
    cases fresh : s.seedIsFresh with
    | false => simpa [fresh] using Does.keyStale key count opened fresh
    | true =>
      by_cases matching : key = computeKey s.seed
      · subst matching
        simpa using Does.keyMatched count opened fresh
      · have refused : (DiagKeyResult.invalid == DiagKeyResult.ok) = false := rfl
        by_cases full : diagMaxFailAttempts ≤ count + 1
        · simpa [matching, full, refused] using Does.keyMissed key count opened fresh matching
        · simpa [matching, full, refused] using Does.keyMissed key count opened fresh matching

/-- Every call does one of these. -/
theorem call_does (s : DiagSession) (now : Nat) (c : Call) :
    Does s now c (c.run s now).1 (c.run s now).2 := by
  cases c with
  | setSession t =>
    cases t with
    | default => exact .defaulted
    | programming => exact .entered .programming (by decide)
    | extended => exact .entered .extended (by decide)
  | requestSeed =>
    simp only [Call.run]
    rcases check_gate_cases s now with ⟨same, closed⟩ | ⟨count, opened, gate⟩
    · generalize diagSessionCheckSecurityGate s now = outcome at same closed
      obtain ⟨after, gate⟩ := outcome
      cases gate with
      | ok => exact absurd rfl closed
      | delay => simpa [← same] using Does.seedRefused
      | locked => simpa [← same] using Does.seedRefused
    · rw [gate]
      exact .seeded count opened
  | sendKey key => exact send_key_does s now key
  | resetS3Timeout => exact .stamped
  | tick sampled =>
    simp only [Call.run, diagSessionTick]
    cases timed_out : diagSessionExpired s sampled with
    | false => exact .ticked sampled timed_out
    | true => exact .expired sampled timed_out
  | boot initialised => exact .booted initialised

/-- No service initialises the session manager. -/
theorem service_calls_running (req : List UInt8) (reqLen : Nat) :
    ∀ c ∈ serviceCalls req reqLen, c.isBoot = false := by
  intro c member
  unfold serviceCalls at member
  simp only at member
  split at member
  · cases member
  · split at member
    · obtain ⟨t, _, rfl⟩ := List.mem_map.mp member
      rfl
    · split at member
      · split at member
        · rw [List.mem_singleton.mp member]
          rfl
        · split at member
          · rw [List.mem_singleton.mp member]
            rfl
          · cases member
      · cases member

/-! ## Time -/

/-- Calls in the order of their times, from `now` on. -/
def Ordered (now : Nat) (calls : List (Nat × Call)) : Prop :=
  (now :: calls.map (·.1)).Pairwise (· ≤ ·)

/-- A tick difference that has reached a delay measures at least that delay. -/
theorem elapsed_of_tick_sub {earlier now delay : Nat} (ordered : earlier ≤ now)
    (reached : delay ≤ tickSub (now % tickModulus) (earlier % tickModulus)) :
    earlier + delay ≤ now := by
  have measured := Clock.sub_samples_le tickModulus earlier now (by decide) ordered
  rw [tickSub] at reached
  omega

/-- Times in order, by the first of them. -/
theorem ordered_cons {now : Nat} {i : Nat × Call} {rest : List (Nat × Call)}
    (ordered : Ordered now (i :: rest)) : now ≤ i.1 ∧ Ordered i.1 rest := by
  obtain ⟨later, rest_ordered⟩ := List.pairwise_cons.mp ordered
  exact ⟨later i.1 List.mem_cons_self, rest_ordered⟩

/-! ## Comparisons over time -/

/-- A key was compared with the expected one. -/
def Event.isComparison : Event → Bool
  | .compared _ _ => true
  | _ => false

/-- The compared key was the expected one. -/
def Event.isSuccess : Event → Bool
  | .compared _ matching => matching
  | _ => false

/-- The times of the comparisons, in order. -/
def comparisons (events : List (Nat × Event)) : List Nat :=
  (events.filter (·.2.isComparison)).map (·.1)

/-- The times of the comparisons, one part behind the other. -/
theorem comparisons_append (before after : List (Nat × Event)) :
    comparisons (before ++ after) = comparisons before ++ comparisons after := by
  simp [comparisons]

/-- The comparisons so far come in batches of three, and the failure counter
covers the current one: a full counter started its lock-out after all of it. -/
structure Batched (s : DiagSession) (now : Nat) (times : List Nat) : Prop where
  past : ∀ x ∈ times, x ≤ now
  paced : Rate.Paced diagMaxFailAttempts diagLockoutTimeMs times
  counted : ∃ old batch, times = old ++ batch ∧ (∀ x ∈ old, x + diagLockoutTimeMs ≤ now) ∧
    (s.failCount < diagMaxFailAttempts ∧ batch.length ≤ s.failCount ∨
      diagMaxFailAttempts ≤ s.failCount ∧
        ∀ x ∈ batch, ∃ last, x ≤ last ∧ last ≤ now ∧ s.lockoutStart = last % tickModulus)

/-- Time alone does not spoil the batches. -/
theorem Batched.later {s : DiagSession} {now later : Nat} {times : List Nat}
    (batched : Batched s now times) (ordered : now ≤ later) : Batched s later times := by
  obtain ⟨old, batch, whole, elapsed, covered⟩ := batched.counted
  refine ⟨fun x member => (batched.past x member).trans ordered, batched.paced, old, batch, whole,
    fun x member => (elapsed x member).trans ordered, covered.imp id ?_⟩
  rintro ⟨full, locked⟩
  refine ⟨full, ?_⟩
  intro x member
  obtain ⟨last, after, before, start⟩ := locked x member
  exact ⟨last, after, before.trans ordered, start⟩

/-- A call that keeps the counter and the lock-out keeps the batches. -/
theorem Batched.kept {s s' : DiagSession} {now : Nat} {times : List Nat}
    (batched : Batched s now times) (count : s'.failCount = s.failCount)
    (start : s'.lockoutStart = s.lockoutStart) : Batched s' now times := by
  obtain ⟨past, paced, counted⟩ := batched
  refine ⟨past, paced, ?_⟩
  rw [count, start]
  exact counted

/-- Behind an open gate the batches are those of the counter the gate leaves. -/
theorem Batched.opened {s s' : DiagSession} {now count : Nat} {times : List Nat}
    (batched : Batched s now times) (opened : Opened s (now % tickModulus) count)
    (after : s'.failCount = count) : Batched s' now times := by
  obtain ⟨past, paced, old, batch, whole, elapsed, covered⟩ := batched
  have few := opened.count_lt
  rw [← after] at few
  obtain ⟨_, ⟨room, same⟩ | ⟨full, elapsed_over, cleared⟩⟩ := opened
  · have counted : batch.length ≤ s.failCount := by
      rcases covered with ⟨_, counted⟩ | ⟨full, _⟩
      · exact counted
      · exact absurd room (Nat.not_lt.mpr full)
    refine ⟨past, paced, old, batch, whole, elapsed, Or.inl ⟨few, ?_⟩⟩
    rw [after, same]
    exact counted
  · have all_elapsed : ∀ x ∈ times, x + diagLockoutTimeMs ≤ now := by
      intro x member
      rw [whole] at member
      rcases List.mem_append.mp member with earlier | current
      · exact elapsed x earlier
      · rcases covered with ⟨room, _⟩ | ⟨_, locked⟩
        · exact absurd room (Nat.not_lt.mpr full)
        · obtain ⟨last, after, before, start⟩ := locked x current
          rw [start] at elapsed_over
          have waited := elapsed_of_tick_sub before elapsed_over
          omega
    refine ⟨past, paced, times, [], (List.append_nil _).symm, all_elapsed, Or.inl ⟨few, ?_⟩⟩
    exact Nat.zero_le _

/-- A comparison that fails joins the current batch. -/
theorem Batched.missed {s s' : DiagSession} {now : Nat} {times : List Nat}
    (batched : Batched s now times) (room : s.failCount < diagMaxFailAttempts)
    (counts : s'.failCount = s.failCount + 1)
    (starts : diagMaxFailAttempts ≤ s'.failCount → s'.lockoutStart = now % tickModulus) :
    Batched s' now (times ++ [now]) := by
  obtain ⟨past, paced, old, batch, rfl, elapsed, covered⟩ := batched
  have counted : batch.length ≤ s.failCount := by
    rcases covered with ⟨_, counted⟩ | ⟨full, _⟩
    · exact counted
    · exact absurd room (Nat.not_lt.mpr full)
  have now_last : ∀ x ∈ old ++ batch ++ [now], x ≤ now := by
    intro x member
    rcases List.mem_append.mp member with earlier | here
    · exact past x earlier
    · exact Nat.le_of_eq (List.mem_singleton.mp here)
  refine ⟨now_last, Rate.paced_snoc paced (counted.trans_lt room) elapsed, old, batch ++ [now],
    List.append_assoc _ _ _, elapsed, ?_⟩
  by_cases full : diagMaxFailAttempts ≤ s'.failCount
  · refine Or.inr ⟨full, ?_⟩
    intro x member
    refine ⟨now, now_last x ?_, Nat.le_refl _, starts full⟩
    rw [List.append_assoc]
    exact List.mem_append_right old member
  · refine Or.inl ⟨Nat.lt_of_not_le full, ?_⟩
    rw [List.length_append, List.length_singleton, counts]
    exact Nat.succ_le_succ counted

/-- Every call but a reset or a successful key keeps the comparisons in batches. -/
theorem step_batched (s : DiagSession) (i : Nat × Call) (past : List (Nat × Event))
    (batched : Batched s i.1 (comparisons past)) (running : i.2.isBoot = false)
    (unsuccessful : ∀ e ∈ (step s i).2, e.2.isSuccess = false) :
    Batched (step s i).1 i.1 (comparisons (past ++ (step s i).2)) := by
  obtain ⟨t, c⟩ := i
  have does := call_does s (t % tickModulus) c
  simp only [step, comparisons_append] at *
  generalize c.run s (t % tickModulus) = ran at does unsuccessful ⊢
  obtain ⟨s', events⟩ := ran
  cases does with
  | entered other =>
    simp only [comparisons, List.map_nil, List.filter_nil, List.append_nil]
    exact batched.kept rfl rfl
  | defaulted =>
    simp only [comparisons, Event.isComparison, List.map_cons, List.map_nil, List.filter_cons,
      Bool.false_eq_true, if_false, List.filter_nil, List.append_nil]
    exact batched.kept rfl rfl
  | seedRefused => simpa [comparisons] using batched
  | seeded count opened =>
    simp only [comparisons, Event.isComparison, List.map_cons, List.map_nil, List.filter_cons,
      Bool.false_eq_true, if_false, List.filter_nil, List.append_nil]
    exact batched.opened opened rfl
  | keyRefused => simpa [comparisons] using batched
  | keyStale key count opened stale =>
    simp only [comparisons, List.map_nil, List.filter_nil, List.append_nil]
    exact batched.opened opened rfl
  | keyMatched count opened fresh =>
    have failed := unsuccessful _ (List.mem_singleton.mpr rfl)
    cases failed
  | keyMissed key count opened fresh wrong =>
    have behind : Batched { s with failCount := count } t (comparisons past) :=
      batched.opened opened rfl
    refine behind.missed opened.count_lt rfl ?_
    intro full
    exact if_pos full
  | stamped =>
    simp only [comparisons, List.map_nil, List.filter_nil, List.append_nil]
    exact batched.kept rfl rfl
  | ticked => simpa [comparisons] using batched
  | expired =>
    simp only [comparisons, Event.isComparison, List.map_cons, List.map_nil, List.filter_cons,
      Bool.false_eq_true, if_false, List.filter_nil, List.append_nil]
    exact batched.kept rfl rfl
  | booted => cases running

/-- A run without a matching key compares keys in paced batches. -/
theorem run_batched (s : DiagSession) (now : Nat) (past : List (Nat × Event))
    (calls : List (Nat × Call)) (batched : Batched s now (comparisons past))
    (ordered : Ordered now calls) (running : ∀ i ∈ calls, i.2.isBoot = false)
    (unsuccessful : ∀ e ∈ Run.trace step s calls, e.2.isSuccess = false) :
    Rate.Paced diagMaxFailAttempts diagLockoutTimeMs
      (comparisons (past ++ Run.trace step s calls)) := by
  induction calls generalizing s now past with
  | nil => simpa [Run.trace] using batched.paced
  | cons i rest ih =>
    obtain ⟨waits, rest_ordered⟩ := ordered_cons ordered
    have next := step_batched s i past (batched.later waits) (running i List.mem_cons_self)
      (fun e member => unsuccessful e (List.mem_append_left _ member))
    have later := ih _ _ _ next rest_ordered
      (fun j member => running j (List.mem_cons_of_mem i member))
      (fun e member => unsuccessful e (List.mem_append_right _ member))
    simpa [Run.trace] using later

/-- Without a reset and without a success, any window of `T` milliseconds sees at
most three comparisons for each whole lock-out time in it, and three more. -/
theorem brute_force_bound (s : DiagSession) (calls : List (Nat × Call))
    (ordered : (calls.map (·.1)).Pairwise (· ≤ ·))
    (running : ∀ i ∈ calls, i.2.isBoot = false)
    (unsuccessful : ∀ e ∈ Run.trace step s calls, e.2.isSuccess = false)
    (start T : Nat) :
    (Run.trace step s calls).countP
      (fun e => e.2.isComparison && (start ≤ e.1 && e.1 ≤ start + T)) ≤ 3 * (T / 10000 + 1) := by
  have initial : Batched s 0 (comparisons []) := by
    refine ⟨by simp [comparisons], Rate.paced_nil, [], [], rfl, by simp, ?_⟩
    rcases Nat.lt_or_ge s.failCount diagMaxFailAttempts with room | full
    · exact Or.inl ⟨room, Nat.zero_le _⟩
    · exact Or.inr ⟨full, by simp⟩
  have from_zero : Ordered 0 calls :=
    List.pairwise_cons.mpr ⟨fun t _ => Nat.zero_le t, ordered⟩
  have paced := run_batched s 0 [] calls initial from_zero running unsuccessful
  have counted := paced.window_count (by decide) (by decide) start T
  rw [List.nil_append, comparisons, List.countP_map, List.countP_filter] at counted
  calc (Run.trace step s calls).countP
        (fun e => e.2.isComparison && (start ≤ e.1 && e.1 ≤ start + T))
      = (Run.trace step s calls).countP
          (fun e => ((fun t => decide (start ≤ t) && decide (t ≤ start + T)) ∘ Prod.fst) e &&
            e.2.isComparison) := by
        apply List.countP_congr
        intro e _
        simp [and_comm]
    _ ≤ 3 * (T / 10000 + 1) := counted

/-- Six wrong keys around a wrap of the tick counter, three on each side of it. -/
def guesses : List (Nat × Call) :=
  [4294962296, 4294972296].flatMap fun t =>
    [(t, .requestSeed), (t, .sendKey 0), (t, .requestSeed), (t, .sendKey 0), (t, .requestSeed),
      (t, .sendKey 0)]

/-- Guesses over the wrap of the tick: the window allows exactly as many as are made. -/
theorem brute_force_guesses :
    (Run.trace step {} guesses).countP
        (fun e => e.2.isComparison && (4294962296 ≤ e.1 && e.1 ≤ 4294962296 + 10000)) = 6 ∧
      (Run.trace step {} guesses).countP
        (fun e => e.2.isComparison && (4294962296 ≤ e.1 && e.1 ≤ 4294962296 + 10000)) ≤
          3 * (10000 / 10000 + 1) :=
  ⟨by decide, brute_force_bound {} guesses (by decide) (by decide) (by decide) 4294962296 10000⟩

end ObdSimulator.SessionManager
