import ObdSimulator.Obd2Simulator
import ObdSimulator.Lib.Streak

/-!
# The fault table over whole histories

The fault manager keeps seven fields for each fault, written by four operations.
What one pass of the table loop does to an entry is stated once, as a list of
cases with their guards. From it follow the relations between the fields that
hold after any sequence of operations, and with them the shape of the status
byte and of the fault detection counter.

Without a demonstration fault an entry keeps no more than its fault history
since the last clear says: its state is the verdict of a monitor with two
thresholds, five detections to mature and fifty holds to confirm, of which the
first is the maturing pass itself.
-/

namespace ObdSimulator

open Streak

/-! ## Operations on the fault manager -/

/-- What the scheduler, ControlDTCSetting and ClearDiagnosticInformation do. -/
inductive DtcInput where
  | update (st : SimState)
  | setting (on : Bool)
  | clear
deriving DecidableEq, Repr

/-- The demonstration fault comes on top of the ordinary inputs. -/
inductive DtcOperation where
  | input (i : DtcInput)
  | injectDemo (st : SimState)
deriving DecidableEq, Repr

/-- The function of the simulator that each input calls. -/
def FaultManager.accept (m : FaultManager) : DtcInput → FaultManager
  | .update st => obd2DtcUpdate m st
  | .setting on => obd2DtcSettingControl m on
  | .clear => obd2DtcClear m

/-- An operation is an input or the injection. -/
def FaultManager.operate (m : FaultManager) : DtcOperation → FaultManager
  | .input i => m.accept i
  | .injectDemo st => obd2DtcInjectDemo m st

/-! ## One pass over one entry -/

/-- Saturating arithmetic stops at 255 and never wraps. -/
@[simp] theorem saturate_to_nat (n : UInt8) : (saturate n).toNat = min 255 (n.toNat + 1) := by
  have bounded := n.toNat_lt
  unfold saturate
  split
  · rename_i below
    have small : n.toNat < 255 := by simpa [UInt8.lt_iff_toNat_lt] using below
    rw [UInt8.toNat_add]
    simp
    omega
  · rename_i full
    have large : 255 ≤ n.toNat := by simpa [UInt8.lt_iff_toNat_lt] using full
    omega

/-- A count that has begun is never mistaken for none. -/
@[simp] theorem saturate_ne_zero (n : UInt8) : saturate n ≠ 0 := by
  intro zero
  have value := saturate_to_nat n
  rw [zero, UInt8.toNat_zero] at value
  omega

/-- The order counter does not fall; at its end it stays. -/
theorem next_fail_seq_ge (counter : UInt16) : counter ≤ nextFailSeq counter := by
  unfold nextFailSeq
  split
  · rename_i below
    rw [UInt16.le_iff_toNat_le, UInt16.toNat_add]
    have small : counter.toNat < 65535 := by simpa [UInt16.lt_iff_toNat_lt] using below
    simp
    omega
  · exact UInt16.le_refl _

/-- Zero stays free for an entry that was never promoted. -/
@[simp] theorem next_fail_seq_ne_zero (counter : UInt16) : nextFailSeq counter ≠ 0 := by
  unfold nextFailSeq
  split
  · rename_i below
    have small : counter.toNat < 65535 := by simpa [UInt16.lt_iff_toNat_lt] using below
    intro zero
    have value := congrArg UInt16.toNat zero
    rw [UInt16.toNat_add] at value
    simp at value
    omega
  · rename_i full
    rintro rfl
    exact full (by decide)

/-- What one pass of the table loop does to an entry and to the order counter. -/
inductive EntryStep (st : SimState) (counter : UInt16) (d : DtcEntry) :
    UInt16 × DtcEntry → Prop
  | passed (absent : dtcCondition st d.code = false) (settled : d.state ≠ .pending) :
      EntryStep st counter d (counter, { d with debounce := 0 })
  | reverted (absent : dtcCondition st d.code = false) (pending : d.state = .pending) :
      EntryStep st counter d (counter, { d with debounce := 0, state := .inactive, hold := 0 })
  | detected (present : dtcCondition st d.code = true) (inactive : d.state = .inactive)
      (early : saturate d.debounce < obd2DtcDebounceThresh) :
      EntryStep st counter d (counter, { d with debounce := saturate d.debounce })
  | matured (present : dtcCondition st d.code = true) (inactive : d.state = .inactive)
      (long : obd2DtcDebounceThresh ≤ saturate d.debounce) :
      EntryStep st counter d (nextFailSeq counter,
        { d with debounce := saturate d.debounce, state := .pending, hold := 1,
                 failSeq := nextFailSeq counter, occurrence := saturate d.occurrence,
                 snapshot := captureSnapshot st })
  | held (present : dtcCondition st d.code = true) (pending : d.state = .pending)
      (short : saturate d.hold < obd2DtcConfirmHold) :
      EntryStep st counter d
        (counter, { d with debounce := saturate d.debounce, hold := saturate d.hold })
  | confirmed (present : dtcCondition st d.code = true) (pending : d.state = .pending)
      (long : obd2DtcConfirmHold ≤ saturate d.hold) :
      EntryStep st counter d (counter,
        { d with debounce := saturate d.debounce, hold := saturate d.hold, state := .confirmed,
                 permanent := true })
  | kept (present : dtcCondition st d.code = true) (latched : d.state = .confirmed) :
      EntryStep st counter d (counter, { d with debounce := saturate d.debounce })

/-- The pass does one of these. -/
theorem dtc_update_entry_step (st : SimState) (counter : UInt16) (d : DtcEntry) :
    EntryStep st counter d (dtcUpdateEntry st counter d) := by
  unfold dtcUpdateEntry
  cases condition : dtcCondition st d.code with
  | false =>
    by_cases pending : d.state = .pending
    · simpa [pending] using EntryStep.reverted condition pending
    · simpa [pending] using EntryStep.passed condition pending
  | true =>
    cases state : d.state with
    | inactive =>
      by_cases long : obd2DtcDebounceThresh ≤ saturate d.debounce
      · have one : saturate 0 = 1 := by decide
        have first : ¬obd2DtcConfirmHold ≤ 1 := by decide
        simpa [promote, holdPending, state, long, one, first]
          using EntryStep.matured condition state long
      · simpa [promote, holdPending, state, long]
          using EntryStep.detected condition state (UInt8.not_le.mp long)
    | pending =>
      by_cases long : obd2DtcConfirmHold ≤ saturate d.hold
      · simpa [promote, holdPending, state, long] using EntryStep.confirmed condition state long
      · simpa [promote, holdPending, state, long]
          using EntryStep.held condition state (UInt8.not_le.mp long)
    | confirmed =>
      simpa [promote, holdPending, state] using EntryStep.kept condition state

/-- A pass over an entry does not lower the order counter. -/
theorem entry_step_counter_ge (st : SimState) (counter : UInt16) (d : DtcEntry)
    (after : UInt16 × DtcEntry) (step : EntryStep st counter d after) : counter ≤ after.1 := by
  cases step with
  | matured => exact next_fail_seq_ge counter
  | _ => exact UInt16.le_refl _

/-- An entry keeps its code. -/
theorem entry_step_code (st : SimState) (counter : UInt16) (d : DtcEntry)
    (after : UInt16 × DtcEntry) (step : EntryStep st counter d after) :
    after.2.code = d.code := by
  cases step <;> rfl

/-- Every entry after the table loop is one pass over an entry before it, with an
order counter between the values before and after the loop. -/
theorem dtc_update_table_mem (st : SimState) (counter : UInt16) (table : List DtcEntry) :
    counter ≤ (dtcUpdateTable st counter table).1 ∧
      ∀ after ∈ (dtcUpdateTable st counter table).2, ∃ d ∈ table, ∃ between reached,
        counter ≤ between ∧ EntryStep st between d (reached, after) ∧
        reached ≤ (dtcUpdateTable st counter table).1 := by
  induction table generalizing counter with
  | nil => exact ⟨UInt16.le_refl _, by simp [dtcUpdateTable]⟩
  | cons d rest ih =>
    have here := dtc_update_entry_step st counter d
    obtain ⟨grows, inside⟩ := ih (dtcUpdateEntry st counter d).1
    have first := entry_step_counter_ge st counter d _ here
    simp only [dtcUpdateTable]
    refine ⟨UInt16.le_trans first grows, ?_⟩
    intro after member
    rcases List.mem_cons.mp member with rfl | later
    · exact ⟨d, List.mem_cons_self, counter, _, UInt16.le_refl _, here, grows⟩
    · obtain ⟨e, within, between, reached, low, step, high⟩ := inside after later
      exact ⟨e, List.mem_cons_of_mem _ within, between, reached, UInt16.le_trans first low,
        step, high⟩

/-- The table loop keeps the monitored codes in their order. -/
theorem dtc_update_table_codes (st : SimState) (counter : UInt16) (table : List DtcEntry) :
    (dtcUpdateTable st counter table).2.map (·.code) = table.map (·.code) := by
  induction table generalizing counter with
  | nil => rfl
  | cons d rest ih =>
    have here := entry_step_code st counter d _ (dtc_update_entry_step st counter d)
    simp only [dtcUpdateTable, List.map_cons, ih, here]

/-- No operation changes which codes are monitored. -/
theorem operate_codes (m : FaultManager) (operation : DtcOperation) :
    (m.operate operation).table.map (·.code) = m.table.map (·.code) := by
  cases operation with
  | injectDemo st =>
    cases table : m.table with
    | nil => simp [FaultManager.operate, obd2DtcInjectDemo, table]
    | cons d rest => simp [FaultManager.operate, obd2DtcInjectDemo, table]
  | input i =>
    cases i with
    | setting on => rfl
    | clear => simp [FaultManager.operate, FaultManager.accept, obd2DtcClear, clearEntry]
    | update st =>
      simp only [FaultManager.operate, FaultManager.accept, obd2DtcUpdate]
      split
      · rfl
      · exact dtc_update_table_codes st m.failSeqCounter m.table

/-! ## The relations between the fields of an entry -/

/-- What the reports of ReadDTCInformation rely on. -/
structure DtcEntry.Consistent (counter : UInt16) (d : DtcEntry) : Prop where
  inactive : d.state = .inactive → d.debounce ≤ 4
  pending : d.state = .pending → 5 ≤ d.debounce ∧ 1 ≤ d.hold ∧ d.hold ≤ 49
  permanent : d.permanent = true ↔ d.state = .confirmed
  counted : d.failSeq ≠ 0 ↔ d.occurrence ≠ 0
  frozen : d.occurrence ≠ 0 ↔ d.snapshot.valid = true
  ordered : d.state ≠ .inactive → d.failSeq ≠ 0
  bounded : d.failSeq ≤ counter

/-- A consistent entry stays so while the order counter grows. -/
theorem DtcEntry.Consistent.mono {counter later : UInt16} {d : DtcEntry}
    (consistent : d.Consistent counter) (grows : counter ≤ later) : d.Consistent later :=
  { consistent with bounded := UInt16.le_trans consistent.bounded grows }

/-- One pass keeps the relations, case by case. -/
theorem DtcEntry.Consistent.step {st : SimState} {counter : UInt16} {d : DtcEntry}
    {after : UInt16 × DtcEntry} (consistent : d.Consistent counter)
    (step : EntryStep st counter d after) : after.2.Consistent after.1 := by
  cases step with
  | passed absent settled =>
    exact { consistent with
      inactive := fun _ => UInt8.zero_le
      pending := fun pending => absurd pending settled }
  | reverted absent pending =>
    have unlatched : d.permanent ≠ true := by simp [consistent.permanent, pending]
    exact { consistent with
      inactive := fun _ => UInt8.zero_le
      pending := by simp
      permanent := by simp [unlatched]
      ordered := by simp }
  | detected present inactive early =>
    exact { consistent with
      inactive := fun _ => by
        simp only [UInt8.lt_iff_toNat_lt, UInt8.le_iff_toNat_le] at early ⊢
        simp only [obd2DtcDebounceThresh, UInt8.reduceToNat] at early ⊢
        omega
      pending := fun pending => by simp [inactive] at pending }
  | matured present inactive long =>
    have unlatched : d.permanent ≠ true := by simp [consistent.permanent, inactive]
    exact {
      inactive := by simp
      pending := fun _ => ⟨long, (by decide : (1 : UInt8) ≤ 1), (by decide : (1 : UInt8) ≤ 49)⟩
      permanent := by simp [unlatched]
      counted := by simp
      frozen := by simp [captureSnapshot]
      ordered := by simp
      bounded := UInt16.le_refl _ }
  | held present pending short =>
    obtain ⟨long, positive, _⟩ := consistent.pending pending
    exact { consistent with
      inactive := fun inactive => by simp [pending] at inactive
      pending := fun _ => by
        simp only [UInt8.lt_iff_toNat_lt, UInt8.le_iff_toNat_le, saturate_to_nat] at *
        simp only [obd2DtcConfirmHold, UInt8.reduceToNat] at *
        omega }
  | confirmed present pending long =>
    exact { consistent with
      inactive := by simp
      pending := by simp
      permanent := by simp
      ordered := fun _ => consistent.ordered (by simp [pending]) }
  | kept present latched =>
    exact { consistent with
      inactive := fun inactive => by simp [latched] at inactive
      pending := fun pending => by simp [latched] at pending }

/-- The relations hold of every entry of the table. -/
def FaultManager.Consistent (m : FaultManager) : Prop :=
  ∀ d ∈ m.table, d.Consistent m.failSeqCounter

/-- A cleared entry is consistent whatever the order counter is. -/
theorem cleared_consistent (counter : UInt16) (d : DtcEntry) :
    (clearEntry d).Consistent counter where
  inactive := fun _ => UInt8.zero_le
  pending := by simp [clearEntry]
  permanent := by simp [clearEntry]
  counted := by simp [clearEntry]
  frozen := by simp [clearEntry]
  ordered := by simp [clearEntry]
  bounded := UInt16.zero_le

/-- The table starts cleared. -/
theorem consistent_initial : ({} : FaultManager).Consistent := by
  intro d member
  have reset : clearEntry d = d := by
    simp only [dtcTable, List.mem_cons, List.not_mem_nil, or_false] at member
    rcases member with rfl | rfl | rfl <;> rfl
  rw [← reset]
  exact cleared_consistent _ d

/-- An update keeps the relations between the fields. -/
theorem consistent_update (m : FaultManager) (st : SimState) (consistent : m.Consistent) :
    (obd2DtcUpdate m st).Consistent := by
  unfold obd2DtcUpdate
  split
  · exact consistent
  · intro after member
    obtain ⟨d, within, between, reached, low, step, high⟩ :=
      (dtc_update_table_mem st m.failSeqCounter m.table).2 after member
    have before := (consistent d within).mono low
    exact (before.step step).mono high

/-- Clearing the table restores the relations. -/
theorem consistent_clear (m : FaultManager) : (obd2DtcClear m).Consistent := by
  intro after member
  obtain ⟨d, _, rfl⟩ := List.mem_map.mp member
  exact cleared_consistent _ d

/-- The injected fault has a consistent entry. -/
theorem consistent_inject (m : FaultManager) (st : SimState) (consistent : m.Consistent) :
    (obd2DtcInjectDemo m st).Consistent := by
  intro after member
  cases table : m.table with
  | nil => simp [obd2DtcInjectDemo, table] at member
  | cons d rest =>
    simp only [obd2DtcInjectDemo, table, List.modify_zero_cons, List.mem_cons] at member
    rcases member with rfl | later
    · exact {
        inactive := by simp
        pending := by simp
        permanent := by simp
        counted := by simp
        frozen := by simp [captureSnapshot]
        ordered := by simp
        bounded := UInt16.le_refl _ }
    · have before := consistent after (table ▸ List.mem_cons_of_mem d later)
      exact before.mono (next_fail_seq_ge _)

/-- Every operation keeps the relations. -/
theorem consistent_operate (m : FaultManager) (operation : DtcOperation)
    (consistent : m.Consistent) : (m.operate operation).Consistent := by
  cases operation with
  | injectDemo st => exact consistent_inject m st consistent
  | input i =>
    cases i with
    | update st => exact consistent_update m st consistent
    | setting on => exact consistent
    | clear => exact consistent_clear m

/-- The relations survive every run. -/
theorem consistent_run (operations : List DtcOperation) (m : FaultManager)
    (consistent : m.Consistent) : (operations.foldl FaultManager.operate m).Consistent := by
  induction operations generalizing m with
  | nil => exact consistent
  | cons operation rest ih =>
    exact ih (m.operate operation) (consistent_operate m operation consistent)

/-- A bit of the status byte. -/
def DtcEntry.statusBit (d : DtcEntry) (bit : Nat) : Bool :=
  (obd2DtcStatusByte d).toNat.testBit bit

/-- The three flags of the status byte have bits of their own. -/
theorem status_flags : ∀ present failed confirmed : Bool, (confirmed = true → failed = true) →
    let sb : UInt8 := (if present then 0x01 else 0) ||| (if failed then 0x26 else 0) |||
      (if confirmed then 0x08 ||| 0x80 else 0)
    (sb.toNat.testBit 3 = sb.toNat.testBit 7) ∧
      (sb.toNat.testBit 3 = true →
        sb.toNat.testBit 1 = true ∧ sb.toNat.testBit 2 = true ∧ sb.toNat.testBit 5 = true) ∧
      sb.toNat.testBit 4 = false ∧ sb.toNat.testBit 6 = false := by
  decide

/-- What the relations say about the bits of the status byte. -/
theorem DtcEntry.Consistent.status {counter : UInt16} {d : DtcEntry}
    (consistent : d.Consistent counter) :
    d.statusBit 3 = d.statusBit 7 ∧
      (d.statusBit 3 = true →
        d.statusBit 1 = true ∧ d.statusBit 2 = true ∧ d.statusBit 5 = true) ∧
      d.statusBit 4 = false ∧ d.statusBit 6 = false := by
  have flags := status_flags (decide (0 < d.debounce)) (decide (d.failSeq ≠ 0))
    (decide (d.state = .confirmed)) (by
      intro confirmed
      have state := of_decide_eq_true confirmed
      exact decide_eq_true (consistent.ordered (by simp [state])))
  simpa only [DtcEntry.statusBit, obd2DtcStatusByte, decide_eq_true_eq] using flags

/-- A counter that has not matured is 25 for each detection. -/
theorem DtcEntry.Consistent.fdc {counter : UInt16} {d : DtcEntry}
    (consistent : d.Consistent counter) :
    (obd2DtcFdc d = 127 ↔ d.state = .pending ∨ d.state = .confirmed) ∧
      (¬(d.state = .pending ∨ d.state = .confirmed) →
        obd2DtcFdc d = 25 * d.debounce.toNat ∧ obd2DtcFdc d ≤ 100) := by
  by_cases matured : d.state = .pending ∨ d.state = .confirmed
  · simp [obd2DtcFdc, matured]
  · have inactive : d.state = .inactive := by
      cases state : d.state <;> simp [state] at matured ⊢
    have early : d.debounce.toNat ≤ 4 := UInt8.le_iff_toNat_le.mp (consistent.inactive inactive)
    have below : d.debounce < obd2DtcDebounceThresh := by
      rw [UInt8.lt_iff_toNat_lt]
      exact Nat.lt_succ_of_le early
    have value : obd2DtcFdc d = d.debounce.toNat * 25 := by
      simp only [obd2DtcFdc, if_neg matured, if_pos below]
    simp only [value, matured, iff_false]
    omega

/-- After any sequence of operations the fields of every entry agree with each
other, and the status byte and the fault detection counter have the shape that
follows from it. -/
theorem fault_table_consistent (operations : List DtcOperation) :
    let m := operations.foldl FaultManager.operate {}
    ∀ d ∈ m.table,
      ((d.state = .inactive → d.debounce ≤ 4) ∧
        (d.state = .pending → 5 ≤ d.debounce ∧ 1 ≤ d.hold ∧ d.hold ≤ 49) ∧
        (d.permanent = true ↔ d.state = .confirmed) ∧
        (d.failSeq ≠ 0 ↔ d.occurrence ≠ 0) ∧
        (d.occurrence ≠ 0 ↔ d.snapshot.valid = true) ∧
        (d.state ≠ .inactive → d.failSeq ≠ 0) ∧
        d.failSeq ≤ m.failSeqCounter) ∧
      (d.statusBit 3 = d.statusBit 7 ∧
        (d.statusBit 3 = true →
          d.statusBit 1 = true ∧ d.statusBit 2 = true ∧ d.statusBit 5 = true) ∧
        d.statusBit 4 = false ∧ d.statusBit 6 = false) ∧
      (obd2DtcFdc d = 127 ↔ d.state = .pending ∨ d.state = .confirmed) ∧
      (¬(d.state = .pending ∨ d.state = .confirmed) →
        obd2DtcFdc d = 25 * d.debounce.toNat ∧ obd2DtcFdc d ≤ 100) := by
  intro m d member
  have consistent : d.Consistent m.failSeqCounter :=
    consistent_run operations {} consistent_initial d member
  exact ⟨⟨consistent.inactive, consistent.pending, consistent.permanent, consistent.counted,
    consistent.frozen, consistent.ordered, consistent.bounded⟩, consistent.status, consistent.fdc⟩

/-- The demonstration fault lights the warning indicator. -/
theorem fault_table_consistent_demo :
    let d : DtcEntry :=
      { code := dtcEngineOvertemp, state := .confirmed, debounce := 1,
        severity := dtcSeverityOvertemp, failSeq := 1, occurrence := 1, permanent := true,
        snapshot := captureSnapshot {} }
    d.statusBit 3 = d.statusBit 7 ∧ obd2DtcFdc d = 127 :=
  have shape := fault_table_consistent [.injectDemo {}] _ (List.mem_cons_self)
  ⟨shape.2.1.1, shape.2.2.1.mpr (Or.inr rfl)⟩

/-! ## The state as a verdict on the fault history -/

/-- The detections of one code since the last clear, with the setting they were
made under. Updates with the setting off leave no trace. -/
def observe (code : UInt16) : Bool × List Bool → DtcInput → Bool × List Bool
  | (on, history), .update st =>
      (on, if on = true then history ++ [dtcCondition st code] else history)
  | (_, history), .setting on => (on, history)
  | (on, _), .clear => (on, [])

/-- Setting and detections after a run from reset. -/
def observed (code : UInt16) (inputs : List DtcInput) : Bool × List Bool :=
  inputs.foldl (observe code) (true, [])

/-- The fault history of a code after a run from reset. -/
def faultHistory (code : UInt16) (inputs : List DtcInput) : List Bool := (observed code inputs).2

/-- Observing one more input. -/
theorem observed_append (code : UInt16) (inputs : List DtcInput) (i : DtcInput) :
    observed code (inputs ++ [i]) = observe code (observed code inputs) i := by
  simp [observed]

/-- Five detections mature, and the maturing pass is the first of fifty holds. -/
def matureAfter : Nat := obd2DtcDebounceThresh.toNat

/-- Detections in a row up to the confirmation. -/
def confirmAfter : Nat := obd2DtcDebounceThresh.toNat + obd2DtcConfirmHold.toNat - 1

/-- The state that stands for a verdict on the detections. -/
def dtcStateOf : Verdict → DtcState
  | .quiet => .inactive
  | .standing => .pending
  | .latched => .confirmed

/-- The counters and the state of an entry are read off a fault history. -/
structure DtcEntry.Follows (d : DtcEntry) (history : List Bool) : Prop where
  debounce : d.debounce.toNat = min 255 (current true history)
  state : d.state = dtcStateOf (verdict true matureAfter confirmAfter history)
  hold : d.state = .pending → d.hold.toNat + 4 = current true history

/-- An inactive entry without a count follows the empty history. -/
theorem follows_initial (d : DtcEntry) (debounce : d.debounce = 0) (state : d.state = .inactive) :
    d.Follows [] where
  debounce := by simp [debounce]
  state := state
  hold := by simp [state]

/-- INACTIVE stands for the verdict that nothing has matured. -/
theorem dtc_state_of_inactive (v : Verdict) : dtcStateOf v = .inactive ↔ v = .quiet := by
  cases v <;> simp [dtcStateOf]

/-- PENDING stands for a fault that has matured and still stands. -/
theorem dtc_state_of_pending (v : Verdict) : dtcStateOf v = .pending ↔ v = .standing := by
  cases v <;> simp [dtcStateOf]

/-- CONFIRMED stands for a fault that has stood long enough at any time. -/
theorem dtc_state_of_confirmed (v : Verdict) : dtcStateOf v = .confirmed ↔ v = .latched := by
  cases v <;> simp [dtcStateOf]

/-- An absent condition ends the streak and drops what is only pending. -/
theorem verdict_absent (history : List Bool) :
    verdict true matureAfter confirmAfter (history ++ [false]) =
      if verdict true matureAfter confirmAfter history = .latched then .latched else .quiet := by
  rw [verdict_append, current_miss true history false (by decide)]
  have never : ¬confirmAfter ≤ 0 := by decide
  have early : ¬matureAfter ≤ 0 := by decide
  simp only [never, early, or_false, if_false]

/-- A present condition lengthens the streak. -/
theorem verdict_present (history : List Bool) :
    verdict true matureAfter confirmAfter (history ++ [true]) =
      if verdict true matureAfter confirmAfter history = .latched ∨
          confirmAfter ≤ current true history + 1 then .latched
      else if matureAfter ≤ current true history + 1 then .standing
      else .quiet := by
  rw [verdict_append, current_hit]

/-- An update without the fault ends the run of detections, whatever state is left. -/
theorem follows_absent (d : DtcEntry) (history : List Bool) (debounce : d.debounce = 0)
    (state : d.state = dtcStateOf (verdict true matureAfter confirmAfter (history ++ [false]))) :
    d.Follows (history ++ [false]) where
  debounce := by simp [debounce, current_miss true history false]
  state := state
  hold := by
    rw [state, verdict_absent]
    split <;> simp [dtcStateOf]

/-- An inactive entry has not seen enough detections in a row. -/
theorem DtcEntry.Follows.quiet_short {d : DtcEntry} {history : List Bool}
    (follows : d.Follows history) (inactive : d.state = .inactive) :
    current true history < matureAfter := by
  have quiet := (dtc_state_of_inactive _).mp (follows.state.symm.trans inactive)
  obtain ⟨_, short⟩ := (verdict_quiet_iff true _ _ history).mp quiet
  exact Nat.not_le.mp fun long => short ((replicate_suffix_iff true _ history).mpr long)

/-- A pending entry has seen enough detections in a row. -/
theorem DtcEntry.Follows.standing_long {d : DtcEntry} {history : List Bool}
    (follows : d.Follows history) (pending : d.state = .pending) :
    matureAfter ≤ current true history := by
  have standing := (dtc_state_of_pending _).mp (follows.state.symm.trans pending)
  obtain ⟨_, long⟩ := (verdict_standing_iff true _ _ history).mp standing
  exact (replicate_suffix_iff true _ history).mp long

/-- One pass follows the history with one more detection. -/
theorem DtcEntry.Follows.step {st : SimState} {counter : UInt16} {d : DtcEntry}
    {after : UInt16 × DtcEntry} {history : List Bool} (follows : d.Follows history)
    (step : EntryStep st counter d after) :
    after.2.Follows (history ++ [dtcCondition st d.code]) := by
  have counted := follows.debounce
  have state := follows.state
  have counts : (saturate d.debounce).toNat = min 255 (current true (history ++ [true])) := by
    rw [saturate_to_nat, counted, current_hit]
    omega
  cases step with
  | passed absent settled =>
    rw [absent]
    refine follows_absent _ history rfl ?_
    rw [verdict_absent]
    cases verdict : verdict true matureAfter confirmAfter history with
    | standing => exact absurd (by rw [state, verdict]; rfl) settled
    | quiet => simp [state, verdict, dtcStateOf]
    | latched => simp [state, verdict, dtcStateOf]
  | reverted absent pending =>
    rw [absent]
    refine follows_absent _ history rfl ?_
    have standing := (dtc_state_of_pending _).mp (state.symm.trans pending)
    simp [verdict_absent, standing, dtcStateOf]
  | detected present inactive early =>
    have quiet := (dtc_state_of_inactive _).mp (state.symm.trans inactive)
    have short : current true history + 1 < matureAfter := by
      simp only [UInt8.lt_iff_toNat_lt, saturate_to_nat, counted] at early
      simp only [matureAfter, obd2DtcDebounceThresh, UInt8.reduceToNat] at early ⊢
      omega
    have far : current true history + 1 < confirmAfter :=
      Nat.lt_trans short (by decide)
    rw [present]
    exact {
      debounce := counts
      state := by
        rw [verdict_present, if_neg (by simp [quiet, Nat.not_le.mpr far]),
          if_neg (Nat.not_le.mpr short)]
        exact inactive
      hold := fun pending => by simp [inactive] at pending }
  | matured present inactive long =>
    have quiet := (dtc_state_of_inactive _).mp (state.symm.trans inactive)
    have short := follows.quiet_short inactive
    have reached : current true history + 1 = matureAfter := by
      simp only [UInt8.le_iff_toNat_le, saturate_to_nat, counted] at long
      simp only [matureAfter, obd2DtcDebounceThresh, UInt8.reduceToNat] at long short ⊢
      omega
    rw [present]
    exact {
      debounce := counts
      state := by
        rw [verdict_present, reached, if_neg (by simp [quiet]; decide), if_pos (Nat.le_refl _)]
        rfl
      hold := fun _ => by rw [current_hit, reached]; rfl }
  | held present pending short =>
    have standing := (dtc_state_of_pending _).mp (state.symm.trans pending)
    have held := follows.hold pending
    have long := follows.standing_long pending
    have below : current true history + 1 < confirmAfter := by
      simp only [UInt8.lt_iff_toNat_lt, saturate_to_nat] at short
      simp only [confirmAfter, obd2DtcDebounceThresh, obd2DtcConfirmHold, UInt8.reduceToNat]
        at short ⊢
      omega
    have small : confirmAfter ≤ 255 := by decide
    rw [present]
    exact {
      debounce := counts
      state := by
        rw [verdict_present, if_neg (by simp [standing, Nat.not_le.mpr below]),
          if_pos (by omega)]
        exact pending
      hold := fun _ => by simp only [saturate_to_nat, current_hit]; omega }
  | confirmed present pending long =>
    have held := follows.hold pending
    have reached : confirmAfter ≤ current true history + 1 := by
      simp only [UInt8.le_iff_toNat_le, saturate_to_nat] at long
      simp only [confirmAfter, obd2DtcDebounceThresh, obd2DtcConfirmHold, UInt8.reduceToNat]
        at long ⊢
      omega
    rw [present]
    exact {
      debounce := counts
      state := by
        rw [verdict_present, if_pos (Or.inr reached)]
        rfl
      hold := by simp }
  | kept present latched =>
    have stays := (dtc_state_of_confirmed _).mp (state.symm.trans latched)
    rw [present]
    exact {
      debounce := counts
      state := by
        rw [verdict_present, if_pos (Or.inl stays)]
        exact latched
      hold := fun pending => by simp [latched] at pending }

/-- The fault manager keeps, for each code, what a run from reset has shown. -/
structure FaultManager.Tracks (m : FaultManager) (inputs : List DtcInput) : Prop where
  codes : m.table.map (·.code) = dtcTable.map (·.code)
  setting : ∀ code, (observed code inputs).1 = m.settingOn
  follows : ∀ d ∈ m.table, d.Follows (faultHistory d.code inputs)

/-- The table starts with histories of nothing. -/
theorem tracks_initial : ({} : FaultManager).Tracks [] where
  codes := rfl
  setting := fun _ => rfl
  follows := by
    intro d member
    simp only [dtcTable, List.mem_cons, List.not_mem_nil, or_false] at member
    rcases member with rfl | rfl | rfl <;> exact follows_initial _ rfl rfl

/-- Clearing begins every history anew. -/
theorem tracks_clear (m : FaultManager) (inputs : List DtcInput) (tracks : m.Tracks inputs) :
    (obd2DtcClear m).Tracks (inputs ++ [.clear]) where
  codes := by
    rw [← tracks.codes]
    simp [obd2DtcClear, clearEntry]
  setting := by
    intro code
    rw [observed_append]
    exact tracks.setting code
  follows := by
    intro d member
    obtain ⟨before, _, rfl⟩ := List.mem_map.mp member
    rw [faultHistory, observed_append]
    exact follows_initial _ rfl rfl

/-- With the setting off an update is not observed. -/
theorem tracks_update_off (m : FaultManager) (st : SimState) (inputs : List DtcInput)
    (off : m.settingOn = false) (tracks : m.Tracks inputs) :
    (obd2DtcUpdate m st).Tracks (inputs ++ [.update st]) := by
  have unseen : ∀ code, observed code (inputs ++ [.update st]) = observed code inputs := by
    intro code
    rw [observed_append]
    simp only [observe, tracks.setting, off, Bool.false_eq_true, if_false]
    rw [← off, ← tracks.setting code]
  have frozen : obd2DtcUpdate m st = m := by simp [obd2DtcUpdate, off]
  rw [frozen]
  exact {
    codes := tracks.codes
    setting := fun code => by rw [unseen, tracks.setting]
    follows := fun d member => by
      rw [faultHistory, unseen]
      exact tracks.follows d member }

/-- With the setting on every entry observes the update. -/
theorem tracks_update_on (m : FaultManager) (st : SimState) (inputs : List DtcInput)
    (on : m.settingOn = true) (tracks : m.Tracks inputs) :
    (obd2DtcUpdate m st).Tracks (inputs ++ [.update st]) := by
  have table : (obd2DtcUpdate m st).table = (dtcUpdateTable st m.failSeqCounter m.table).2 := by
    simp [obd2DtcUpdate, on]
  have kept : (obd2DtcUpdate m st).settingOn = m.settingOn := by simp [obd2DtcUpdate, on]
  have seen : ∀ code, observed code (inputs ++ [.update st]) =
      (true, faultHistory code inputs ++ [dtcCondition st code]) := by
    intro code
    rw [observed_append]
    simp only [observe, tracks.setting, on, if_true]
    rfl
  exact {
    codes := by rw [table, dtc_update_table_codes, tracks.codes]
    setting := fun code => by rw [seen, kept, on]
    follows := by
      intro after member
      rw [table] at member
      obtain ⟨d, within, between, reached, _, step, _⟩ :=
        (dtc_update_table_mem st m.failSeqCounter m.table).2 after member
      have code : after.code = d.code := entry_step_code st between d _ step
      rw [faultHistory, seen, code]
      exact (tracks.follows d within).step step }

/-- Every input keeps the table on the histories of its faults. -/
theorem tracks_accept (m : FaultManager) (inputs : List DtcInput) (i : DtcInput)
    (tracks : m.Tracks inputs) : (m.accept i).Tracks (inputs ++ [i]) := by
  cases i with
  | clear => exact tracks_clear m inputs tracks
  | setting on =>
    exact {
      codes := tracks.codes
      setting := fun code => by rw [observed_append]; rfl
      follows := fun d member => by
        rw [faultHistory, observed_append]
        exact tracks.follows d member }
  | update st =>
    cases setting : m.settingOn with
    | false => exact tracks_update_off m st inputs setting tracks
    | true => exact tracks_update_on m st inputs setting tracks

/-- A run from reset keeps what it has shown. -/
theorem tracks_run (inputs : List DtcInput) :
    (inputs.foldl FaultManager.accept {}).Tracks inputs := by
  induction inputs using List.reverseRecOn with
  | nil => exact tracks_initial
  | append_singleton inputs i ih =>
    rw [List.foldl_append]
    exact tracks_accept _ inputs i ih

/-- A monitored code has an entry, and the lookup finds it. -/
theorem find_monitored (m : FaultManager) (code : UInt16)
    (codes : m.table.map (·.code) = dtcTable.map (·.code))
    (monitored : code ∈ dtcTable.map (·.code)) :
    ∃ d, obd2DtcFindByCode m code = some d ∧ d ∈ m.table ∧ d.code = code := by
  rw [← codes] at monitored
  obtain ⟨e, within, same⟩ := List.mem_map.mp monitored
  have found : (m.table.find? (·.code == code)).isSome :=
    List.find?_isSome.mpr ⟨e, within, by simp [same]⟩
  obtain ⟨d, hit⟩ := Option.isSome_iff_exists.mp found
  exact ⟨d, hit, List.mem_of_find?_eq_some hit, by simpa using List.find?_some hit⟩

/-- After any run of updates, setting changes and clears from reset, the state of
a monitored fault is a function of its history since the last clear: confirmed
with 54 detections in a row somewhere, otherwise pending with five at the end,
otherwise inactive. -/
theorem dtc_state_of_history (inputs : List DtcInput) (code : UInt16)
    (monitored : code ∈ dtcTable.map (·.code)) :
    ∃ d, obd2DtcFindByCode (inputs.foldl FaultManager.accept {}) code = some d ∧
      (d.state = .confirmed ↔ List.replicate 54 true <:+: faultHistory code inputs) ∧
      (d.state = .pending ↔ ¬List.replicate 54 true <:+: faultHistory code inputs ∧
        List.replicate 5 true <:+ faultHistory code inputs) ∧
      (d.state = .inactive ↔ ¬List.replicate 54 true <:+: faultHistory code inputs ∧
        ¬List.replicate 5 true <:+ faultHistory code inputs) := by
  have tracks := tracks_run inputs
  obtain ⟨d, found, within, same⟩ := find_monitored _ code tracks.codes monitored
  have state := (tracks.follows d within).state
  rw [same] at state
  refine ⟨d, found, ?_, ?_, ?_⟩
  · rw [state, dtc_state_of_confirmed]
    exact verdict_latched_iff true matureAfter confirmAfter _
  · rw [state, dtc_state_of_pending]
    exact verdict_standing_iff true matureAfter confirmAfter _
  · rw [state, dtc_state_of_inactive]
    exact verdict_quiet_iff true matureAfter confirmAfter _

/-- Fifty-four hot updates confirm the fault. -/
theorem dtc_state_of_history_hot :
    let hot : DtcInput := .update { coolantTemp := coolantTempMax }
    ∃ d, obd2DtcFindByCode ((List.replicate 54 hot).foldl FaultManager.accept {})
        dtcEngineOvertemp = some d ∧ d.state = .confirmed := by
  obtain ⟨d, found, confirmed, _⟩ := dtc_state_of_history
    (List.replicate 54 (.update { coolantTemp := coolantTempMax })) dtcEngineOvertemp (by decide)
  exact ⟨d, found, confirmed.mpr (by decide)⟩

end ObdSimulator
