import ObdSimulator.Lib.Bytes
import ObdSimulator.Lib.Divider
import ObdSimulator.Lib.RollCall
import ObdSimulator.Lib.Run

/-!
# The supervision of the tasks

Each of the three tasks of `main.c` sets its bit in `g_task_alive_flags`. Twice a second
the main task looks at them; where all are set it refreshes the watchdog and clears
them. The flags are one byte that the tasks update without a lock, with a load and a
store each, and the scheduler may switch between the two: to a task of higher priority
at any time, and to one of equal priority at a tick.

A task that stalls gets the device reset, as long as no update straddles a clear. One
that does stores the flags from before the clear again, and where that happens at every
clear a stalled task is never noticed.
-/

namespace ObdSimulator.TaskSupervision

open RollCall Run

/-! ## The tasks -/

/-- The three tasks that are supervised. -/
inductive Task where
  | main
  | canRx
  | rs485
deriving DecidableEq, Repr

/-- The bit of a task, `TASK_ALIVE_MAIN` and the like. -/
def Task.alive : Task → UInt8
  | .main => 0x01
  | .canRx => 0x02
  | .rs485 => 0x04

/-- `TASK_ALIVE_ALL`. -/
def taskAliveAll : UInt8 := Task.main.alive ||| Task.canRx.alive ||| Task.rs485.alive

/-- The priority each task is created with. -/
def Task.priority : Task → Nat
  | .main => 2
  | .canRx => 3
  | .rs485 => 2

/-- `LED_TOGGLE_PERIOD_MS`: the main task checks as often as it toggles the LED. -/
def ledTogglePeriodMs : Nat := 500

/-- `SIM_UPDATE_PERIOD_MS`, the period of the main task. -/
def simUpdatePeriodMs : Nat := 10

/-- `hiwdg.Init.Reload`; with its prescaler the watchdog counts milliseconds. -/
def iwdgReload : Nat := 2000

/-- How far the main task is with its check. -/
inductive Check where
  | idle
  /-- The flags are loaded, to be stored with the task's own bit. -/
  | update (loaded : UInt8)
  | test
  | refresh
  | clear
deriving DecidableEq, Repr

/-- The flags and what each task holds of them between a load and a store; the watchdog
has reset the device where it is down to zero. -/
structure State where
  taskAliveFlags : UInt8 := 0
  ledTickCounter : Nat := 0
  check : Check := .idle
  canRx : Option UInt8 := none
  rs485 : Option UInt8 := none
  iwdg : Nat := iwdgReload
deriving DecidableEq, Repr

/-- A task takes its next step, or the watchdog counts. -/
inductive Input where
  | run (t : Task)
  | countDown
deriving DecidableEq, Repr

/-- The task is between a load and the end of what it does with it. -/
def State.busy (s : State) : Task → Bool
  | .main => s.check != .idle
  | .canRx => s.canRx.isSome
  | .rs485 => s.rs485.isSome

/-- A task of higher priority runs on. -/
def State.preempted (s : State) (t : Task) : Bool :=
  [Task.main, .canRx, .rs485].any fun other =>
    decide (t.priority < other.priority) && s.busy other

/-- The check of an iteration of `vMainTask`, one access to the flags a step. -/
def State.runMain (s : State) : State × List (Event Task) :=
  match s.check with
  | .idle =>
    let ledTickCounter := Divider.next (ledTogglePeriodMs / simUpdatePeriodMs) s.ledTickCounter
    if Divider.fires (ledTogglePeriodMs / simUpdatePeriodMs) s.ledTickCounter then
      ({ s with ledTickCounter, check := .update s.taskAliveFlags }, [])
    else ({ s with ledTickCounter }, [])
  | .update loaded =>
    ({ s with taskAliveFlags := loaded ||| Task.main.alive, check := .test }, [.checkIn .main])
  | .test =>
    if s.taskAliveFlags &&& taskAliveAll = taskAliveAll then ({ s with check := .refresh }, [])
    else ({ s with check := .idle }, [])
  | .refresh => ({ s with iwdg := iwdgReload, check := .clear }, [.refresh])
  | .clear => ({ s with taskAliveFlags := 0, check := .idle }, [])

/-- The `|=` at the top of the loop of `vCanRxTask`. -/
def State.runCanRx (s : State) : State × List (Event Task) :=
  match s.canRx with
  | none => ({ s with canRx := some s.taskAliveFlags }, [])
  | some loaded =>
    ({ s with taskAliveFlags := loaded ||| Task.canRx.alive, canRx := none }, [.checkIn .canRx])

/-- The one of `vRS485Task`. -/
def State.runRs485 (s : State) : State × List (Event Task) :=
  match s.rs485 with
  | none => ({ s with rs485 := some s.taskAliveFlags }, [])
  | some loaded =>
    ({ s with taskAliveFlags := loaded ||| Task.rs485.alive, rs485 := none }, [.checkIn .rs485])

/-- Behind a reset nothing happens, and a task that is preempted does not run. -/
def step (s : State) (i : Input) : State × List (Event Task) :=
  if s.iwdg = 0 then (s, [])
  else match i with
    | .countDown => ({ s with iwdg := s.iwdg - 1 }, [.elapse])
    | .run t =>
      if s.preempted t then (s, [])
      else match t with
        | .main => s.runMain
        | .canRx => s.runCanRx
        | .rs485 => s.runRs485

/-! ## The flags -/

/-- The bit of a task is set. -/
def Has (flags : UInt8) (t : Task) : Prop := flags &&& t.alive ≠ 0

/-- Cleared flags have no bit. -/
theorem has_zero (t : Task) : ¬ Has 0 t := by
  intro some_bit
  exact some_bit UInt8.zero_and

/-- An update sets one bit. -/
theorem has_or (flags : UInt8) (t other : Task) (set : Has (flags ||| t.alive) other) :
    Has flags other ∨ t = other := by
  by_cases same : t = other
  · exact Or.inr same
  · refine Or.inl ?_
    have apart : t.alive &&& other.alive = 0 := by
      revert same
      cases t <;> cases other <;> decide
    rw [Has, Bytes.or_and_distrib, apart, UInt8.or_zero] at set
    exact set

/-- Full flags have the bit of every task. -/
theorem has_all (flags : UInt8) (all : flags &&& taskAliveAll = taskAliveAll) (t : Task) :
    Has flags t := by
  have own : taskAliveAll &&& t.alive = t.alive ∧ t.alive ≠ 0 := by cases t <;> decide
  intro none_set
  have kept : flags &&& taskAliveAll &&& t.alive = 0 := by
    rw [UInt8.and_assoc, own.1]
    exact none_set
  rw [all, own.1] at kept
  exact own.2 kept

/-! ## Updates that straddle no clear -/

/-- When the main task clears the flags, the RS485 task holds none of them. -/
def Whole (s : State) (i : Input) : Prop :=
  i = .run .main → s.check = .clear → s.rs485 = none

instance (s : State) (i : Input) : Decidable (Whole s i) :=
  inferInstanceAs (Decidable (_ → _ → _))

/-- Only tasks that are present have their bit in these flags. -/
def Known (past : List (Event Task)) (flags : UInt8) : Prop :=
  ∀ t, Has flags t → present t past = true

/-- Cleared flags tell nothing. -/
theorem Known.zero (past : List (Event Task)) : Known past 0 :=
  fun t set => absurd set (has_zero t)

/-- A check-in makes nobody absent. -/
theorem Known.check_in {past : List (Event Task)} {flags : UInt8} (known : Known past flags)
    (t : Task) : Known (past ++ [.checkIn t]) flags := by
  intro other set
  rw [present_check_in, known other set]
  rfl

/-- An update behind a check-in sets the bit of a task that is present. -/
theorem Known.update {past : List (Event Task)} {loaded : UInt8} (known : Known past loaded)
    (t : Task) : Known (past ++ [.checkIn t]) (loaded ||| t.alive) := by
  intro other set
  rcases has_or loaded t other set with before | rfl
  · exact known.check_in t other before
  · rw [present_check_in, decide_eq_true rfl, Bool.or_true]

/-- Time makes nobody absent. -/
theorem Known.elapse {past : List (Event Task)} {flags : UInt8} (known : Known past flags) :
    Known (past ++ [.elapse]) flags := by
  intro other set
  rw [present_elapse]
  exact known other set

/-- The flags, and what the tasks hold of them, tell of check-ins since the last refresh,
but for what the coming clear takes away. -/
structure Vouches (past : List (Event Task)) (s : State) : Prop where
  flags : s.check ≠ .clear → Known past s.taskAliveFlags
  canRx : s.check ≠ .clear → ∀ loaded, s.canRx = some loaded → Known past loaded
  rs485 : s.check ≠ .clear → ∀ loaded, s.rs485 = some loaded → Known past loaded
  update : ∀ loaded, s.check = .update loaded → Known past loaded
  all : s.check = .refresh → ∀ t, present t past = true
  vouched : Vouched past

/-! ## What a step keeps -/

section Steps

variable {past : List (Event Task)} {s : State}

/-- The check goes on without touching the flags, but does not refresh the watchdog
before all tasks have checked in. -/
theorem Vouches.moves (vouches : Vouches past s) (early : s.check ≠ .clear) (ledTickCounter : Nat)
    (check : Check) (held : ∀ loaded, check = .update loaded → loaded = s.taskAliveFlags)
    (full : check = .refresh → s.taskAliveFlags &&& taskAliveAll = taskAliveAll) :
    Vouches past { s with ledTickCounter, check } where
  flags _ := vouches.flags early
  canRx _ := vouches.canRx early
  rs485 _ := vouches.rs485 early
  update loaded same := held loaded same ▸ vouches.flags early
  all same t := vouches.flags early t (has_all s.taskAliveFlags (full same) t)
  vouched := vouches.vouched

/-- A step of the main task keeps the account, if a clear finds no update of the RS485
task under way. -/
theorem Vouches.main (vouches : Vouches past s) (whole : s.check = .clear → s.rs485 = none)
    (free : s.canRx = none) :
    Vouches (past ++ s.runMain.2) s.runMain.1 := by
  have moves := vouches.moves
  obtain ⟨flags, canRx, rs485, update, all, vouched⟩ := vouches
  unfold State.runMain
  cases check : s.check with
  | idle =>
    have early : s.check ≠ .clear := by rw [check]; decide
    simp only
    split
    · rw [List.append_nil]
      refine moves early _ _ ?_ ?_
      · intro loaded same
        exact (Check.update.inj same).symm
      · intro same
        cases same
    · rw [List.append_nil]
      refine moves early _ .idle ?_ ?_
      · intro loaded same
        cases same
      · intro same
        cases same
  | update loaded =>
    have early : s.check ≠ .clear := by rw [check]; exact fun same => by cases same
    have known := update loaded check
    refine ⟨fun _ => known.update .main, fun _ held own => (canRx early held own).check_in .main,
      fun _ held own => (rs485 early held own).check_in .main, ?_, ?_, ?_⟩
    · intro held same
      cases same
    · intro same
      cases same
    · exact vouched_snoc past _ vouched fun same => by cases same
  | test =>
    have early : s.check ≠ .clear := by rw [check]; decide
    simp only
    split
    · rename_i full
      rw [List.append_nil]
      refine moves early _ .refresh ?_ (fun _ => full)
      intro loaded same
      cases same
    · rw [List.append_nil]
      refine moves early _ .idle ?_ ?_
      · intro loaded same
        cases same
      · intro same
        cases same
  | refresh =>
    refine ⟨fun early => absurd rfl early, fun early => absurd rfl early,
      fun early => absurd rfl early, ?_, ?_, ?_⟩
    · intro loaded same
      cases same
    · intro same
      cases same
    · exact vouched_snoc past _ vouched fun _ => all check
  | clear =>
    simp only [List.append_nil]
    refine ⟨fun _ => .zero past, ?_, ?_, ?_, ?_, vouched⟩
    · intro _ loaded held
      rw [free] at held
      cases held
    · intro _ loaded held
      rw [whole check] at held
      cases held
    · intro loaded same
      cases same
    · intro same
      cases same

/-- A step of the CAN task keeps the account. -/
theorem Vouches.canRx_runs (vouches : Vouches past s) :
    Vouches (past ++ s.runCanRx.2) s.runCanRx.1 := by
  obtain ⟨flags, canRx, rs485, update, all, vouched⟩ := vouches
  unfold State.runCanRx
  cases held : s.canRx with
  | none =>
    rw [List.append_nil]
    refine ⟨flags, ?_, rs485, update, all, vouched⟩
    rintro early loaded same
    cases same
    exact flags early
  | some loaded =>
    refine ⟨fun early => (canRx early loaded held).update .canRx, ?_,
      fun early own same => (rs485 early own same).check_in .canRx,
      fun own same => (update own same).check_in .canRx, ?_, ?_⟩
    · intro _ own same
      cases same
    · intro checked t
      rw [present_check_in, all checked t]
      rfl
    · exact vouched_snoc past _ vouched fun same => by cases same

/-- A step of the RS485 task keeps the account. -/
theorem Vouches.rs485_runs (vouches : Vouches past s) :
    Vouches (past ++ s.runRs485.2) s.runRs485.1 := by
  obtain ⟨flags, canRx, rs485, update, all, vouched⟩ := vouches
  unfold State.runRs485
  cases held : s.rs485 with
  | none =>
    rw [List.append_nil]
    refine ⟨flags, canRx, ?_, update, all, vouched⟩
    rintro early loaded same
    cases same
    exact flags early
  | some loaded =>
    refine ⟨fun early => (rs485 early loaded held).update .rs485,
      fun early own same => (canRx early own same).check_in .rs485, ?_,
      fun own same => (update own same).check_in .rs485, ?_, ?_⟩
    · intro _ own same
      cases same
    · intro checked t
      rw [present_check_in, all checked t]
      rfl
    · exact vouched_snoc past _ vouched fun same => by cases same

/-- A count of the watchdog keeps the account. -/
theorem Vouches.counts (vouches : Vouches past s) (iwdg : Nat) :
    Vouches (past ++ [.elapse]) { s with iwdg } where
  flags early := (vouches.flags early).elapse
  canRx early loaded held := (vouches.canRx early loaded held).elapse
  rs485 early loaded held := (vouches.rs485 early loaded held).elapse
  update loaded held := (vouches.update loaded held).elapse
  all checked t := by
    rw [present_elapse]
    exact vouches.all checked t
  vouched := vouched_snoc past _ vouches.vouched fun same => by cases same

/-- A task that is not preempted finds no task of higher priority between its accesses. -/
theorem not_preempted (t other : Task) (free : s.preempted t = false)
    (higher : t.priority < other.priority) : s.busy other = false := by
  simp only [State.preempted, List.any_eq_false, Bool.and_eq_true, decide_eq_true_eq,
    not_and] at free
  have listed : other ∈ [Task.main, .canRx, .rs485] := by cases other <;> decide
  exact Bool.eq_false_iff.mpr (free other listed higher)

/-- Every whole step keeps the flags vouched for. -/
theorem step_vouches (i : Input) (vouches : Vouches past s) (whole : Whole s i) :
    Vouches (past ++ (step s i).2) (step s i).1 := by
  have same : Vouches (past ++ []) s := by
    rw [List.append_nil]
    exact vouches
  unfold step
  split
  · exact same
  · cases i with
    | countDown => exact vouches.counts _
    | run t =>
      simp only
      split
      · exact same
      · rename_i running
        have free := Bool.eq_false_iff.mpr running
        cases t with
        | main =>
          have canRx := not_preempted .main .canRx free (by decide)
          have none_held := Option.isNone_iff_eq_none.mp (Option.isSome_eq_false_iff.mp canRx)
          exact vouches.main (whole rfl) none_held
        | canRx => exact vouches.canRx_runs
        | rs485 => exact vouches.rs485_runs

end Steps

/-! ## The watchdog -/

/-- What a step says, and does to the watchdog. -/
inductive Happens (s : State) (i : Input) (events : List (Event Task)) (iwdg : Nat) : Prop
  | nothing (silent : events = []) (same : iwdg = s.iwdg) (timeless : i ≠ .countDown)
  | checkIn (t : Task) (own : i = .run t) (said : events = [.checkIn t]) (same : iwdg = s.iwdg)
  | refresh (own : i = .run .main) (said : events = [.refresh]) (full : iwdg = iwdgReload)
  | elapse (time : i = .countDown) (said : events = [.elapse]) (less : iwdg + 1 = s.iwdg)

/-- Every step of a running device is one of these. -/
theorem step_happens (s : State) (i : Input) (running : s.iwdg ≠ 0) :
    Happens s i (step s i).2 (step s i).1.iwdg := by
  unfold step
  rw [if_neg running]
  cases i with
  | countDown => exact .elapse rfl rfl (Nat.succ_pred running)
  | run t =>
    have timeless : Input.run t ≠ .countDown := by intro same; cases same
    simp only
    split
    · exact .nothing rfl rfl timeless
    · cases t with
      | main =>
        simp only [State.runMain]
        cases s.check with
        | idle =>
          simp only
          split
          · exact .nothing rfl rfl timeless
          · exact .nothing rfl rfl timeless
        | update loaded => exact .checkIn .main rfl rfl rfl
        | test =>
          simp only
          split
          · exact .nothing rfl rfl timeless
          · exact .nothing rfl rfl timeless
        | refresh => exact .refresh rfl rfl rfl
        | clear => exact .nothing rfl rfl timeless
      | canRx =>
        simp only [State.runCanRx]
        cases s.canRx with
        | none => exact .nothing rfl rfl timeless
        | some loaded => exact .checkIn .canRx rfl rfl rfl
      | rs485 =>
        simp only [State.runRs485]
        cases s.rs485 with
        | none => exact .nothing rfl rfl timeless
        | some loaded => exact .checkIn .rs485 rfl rfl rfl

/-- A device in reset takes no step. -/
theorem step_reset (s : State) (i : Input) (reset : s.iwdg = 0) : step s i = (s, []) :=
  if_pos reset

/-- A device in reset stays in it. -/
theorem run_reset (s : State) (inputs : List Input) (reset : s.iwdg = 0) :
    final step s inputs = s := by
  induction inputs with
  | nil => rfl
  | cons i rest ih =>
    rw [final, step_reset s i reset]
    exact ih

/-- The watchdog counts the time since the last refresh. -/
def Timed (past : List (Event Task)) (s : State) : Prop :=
  s.iwdg ≠ 0 → s.iwdg + since past = iwdgReload ∧ ¬ Expired iwdgReload past

/-- The watchdog counts what has passed since the last refresh. -/
theorem step_timed (past : List (Event Task)) (s : State) (i : Input) (timed : Timed past s) :
    Timed (past ++ (step s i).2) (step s i).1 := by
  intro still
  by_cases reset : s.iwdg = 0
  · rw [step_reset s i reset] at still
    exact absurd reset still
  obtain ⟨counts, lasts⟩ := timed reset
  cases step_happens s i reset with
  | nothing silent same _ =>
    rw [silent, same, List.append_nil]
    exact ⟨counts, lasts⟩
  | checkIn t _ said same =>
    rw [said, same, expired_snoc, since_check_in]
    exact ⟨counts, fun expired => expired.elim lasts (by omega)⟩
  | refresh _ said full =>
    rw [said, full, expired_snoc, since_refresh]
    exact ⟨Nat.add_zero _, fun expired => expired.elim lasts (by decide)⟩
  | elapse _ said less =>
    rw [said, expired_snoc, since_elapse]
    exact ⟨by omega, fun expired => expired.elim lasts (by omega)⟩

/-- A device that is not reset has counted all the time. -/
theorem run_counts (s : State) (inputs : List Input) (running : (final step s inputs).iwdg ≠ 0) :
    (trace step s inputs).count .elapse = inputs.count .countDown := by
  induction inputs generalizing s with
  | nil => rfl
  | cons i rest ih =>
    have before : s.iwdg ≠ 0 := by
      intro reset
      rw [run_reset s (i :: rest) reset] at running
      exact running reset
    rw [trace, List.count_append, List.count_cons, ih _ running]
    cases step_happens s i before with
    | nothing silent _ timeless =>
      rw [silent]
      simp [timeless]
    | checkIn t own said _ =>
      rw [said, own]
      simp
    | refresh own said _ =>
      rw [said, own]
      simp
    | elapse time said _ =>
      rw [said, time]
      simp [Nat.add_comm]

/-- Only a task that takes steps checks in. -/
theorem run_silent (t : Task) (s : State) (inputs : List Input) (stalled : .run t ∉ inputs) :
    .checkIn t ∉ trace step s inputs := by
  induction inputs generalizing s with
  | nil => exact List.not_mem_nil
  | cons i rest ih =>
    have later := ih (step s i).1 fun member => stalled (List.mem_cons_of_mem i member)
    have other : i ≠ .run t := by
      rintro rfl
      exact stalled List.mem_cons_self
    rw [trace, List.mem_append]
    rintro (here | there)
    · by_cases reset : s.iwdg = 0
      · rw [step_reset s i reset] at here
        cases here
      · cases step_happens s i reset with
        | nothing silent _ _ =>
          rw [silent] at here
          cases here
        | checkIn t' own said _ =>
          rw [said, List.mem_singleton] at here
          cases here
          exact other own
        | refresh _ said _ =>
          rw [said, List.mem_singleton] at here
          cases here
        | elapse _ said _ =>
          rw [said, List.mem_singleton] at here
          cases here
    · exact later there

/-! ## A stalled task -/

/-- With no flag set nothing is claimed. -/
theorem initial_vouches : Vouches [] {} where
  flags _ := .zero []
  canRx _ loaded held := by cases held
  rs485 _ loaded held := by cases held
  update loaded held := by cases held
  all held := by cases held
  vouched := vouched_nil

/-- The watchdog starts full. -/
theorem initial_timed : Timed [] {} :=
  fun _ => ⟨rfl, not_expired_nil iwdgReload (by decide)⟩

/-- However the tasks are scheduled: when one of them has not run for twice the time of
the watchdog, the device has been reset, as long as the RS485 task never holds the flags
over a clear.

Proof: the watchdog is refreshed only when all tasks checked in since it last was, so at
most once more, and it counts the time in between. -/
theorem stalled_task_resets (t : Task) (before quiet : List Input)
    (whole : Along step (fun _ s i => Whole s i) [] {} (before ++ quiet))
    (stalled : .run t ∉ quiet) (long : 2 * iwdgReload ≤ quiet.count .countDown) :
    (final step {} (before ++ quiet)).iwdg = 0 := by
  by_contra running
  have vouches := invariant_final step (fun _ s i => Whole s i) Vouches
    (fun past s i vouches whole => step_vouches i vouches whole) [] {} (before ++ quiet)
    initial_vouches whole
  have timed := invariant_final step (fun _ _ _ => True) Timed
    (fun past s i timed _ => step_timed past s i timed) [] {} (before ++ quiet) initial_timed
    (along_of_forall step _ (fun _ _ _ => trivial) [] {} _)
  rw [List.nil_append, trace_append] at vouches timed
  rw [final_append] at running
  have counted := run_counts (final step {} before) quiet running
  rw [← final_append] at running
  exact (timed running).2 (absent_expires iwdgReload t _ _ vouches.vouched
    (run_silent t _ quiet stalled) (by rw [counted]; exact long))

/-- All tasks have run up to the first check of the main task. -/
def firstCheck : List Input :=
  [.run .canRx, .run .canRx, .run .rs485, .run .rs485] ++ List.replicate 54 (.run .main)

/-- The other two tasks run and one unit of time passes. -/
def othersRun : List Input := [.run .canRx, .run .rs485, .countDown]

/-- The main task stops, and the others run on. -/
theorem stalled_main_task_resets :
    (final step {} (firstCheck ++ (List.replicate 4000 othersRun).flatten)).iwdg = 0 := by
  have listed : ∀ i ∈ (List.replicate 4000 othersRun).flatten, i ≠ .run .main := by
    intro i member
    obtain ⟨inputs, round, inside⟩ := List.mem_flatten.mp member
    rw [List.eq_of_mem_replicate round] at inside
    rintro rfl
    exact absurd inside (by decide)
  refine stalled_task_resets .main _ _ ?_ (fun member => listed _ member rfl) ?_
  · refine (along_append step _ [] {} firstCheck _).mpr ⟨by decide +kernel, ?_⟩
    exact along_mono step _ _ (fun _ _ i other own => absurd own other) _ _ _
      (along_of_mem step (· ≠ .run .main) _ _ _ listed)
  · have counted : othersRun.count .countDown = 1 := by decide
    rw [List.count_flatten, List.map_replicate, List.sum_replicate_nat, counted]
    decide

/-! ## Updates over a clear -/

/-- The main task checks while the RS485 task holds the flags. -/
def tornInputs : List Input :=
  List.replicate 49 (.run .main) ++ List.replicate 500 .countDown ++ [.run .rs485] ++
    List.replicate 5 (.run .main) ++ [.run .rs485]

/-- The CAN task and the RS485 task have checked in. -/
def checkedIn : State := { taskAliveFlags := 0x06 }

/-- One period of the torn schedule ends where it began. -/
theorem torn_inputs_return : final step checkedIn tornInputs = checkedIn := by decide +kernel

/-- Any number of periods of the torn schedule end where they began. -/
theorem torn_inputs_hide (n : Nat) :
    final step checkedIn (List.replicate n tornInputs).flatten = checkedIn := by
  induction n with
  | zero => rfl
  | succ n ih =>
    rw [List.replicate_succ, List.flatten_cons, final_append, torn_inputs_return, ih]

/-- Where an update straddles every clear, the watchdog is refreshed for as long as one
likes without the CAN task. -/
theorem torn_updates_hide_stall (n : Nat) : ∃ inputs, .run .canRx ∉ inputs ∧
    n ≤ inputs.count .countDown ∧
    (final step {} ([.run .canRx, .run .canRx] ++ inputs)).iwdg = iwdgReload := by
  refine ⟨[.run .rs485, .run .rs485] ++ (List.replicate n tornInputs).flatten, ?_, ?_, ?_⟩
  · have absent : Input.run .canRx ∉ tornInputs := by decide +kernel
    intro member
    rcases List.mem_append.mp member with first | round
    · exact absurd first (by decide)
    · obtain ⟨inputs, listed, inside⟩ := List.mem_flatten.mp round
      rw [List.eq_of_mem_replicate listed] at inside
      exact absent inside
  · have counted : tornInputs.count .countDown = 500 := by decide +kernel
    rw [List.count_append, List.count_flatten, List.map_replicate, List.sum_replicate_nat, counted]
    omega
  · rw [final_append, final_append]
    have start : final step (final step {} [.run .canRx, .run .canRx]) [.run .rs485, .run .rs485] =
        checkedIn := by decide
    rw [start, torn_inputs_hide]
    rfl

end ObdSimulator.TaskSupervision
