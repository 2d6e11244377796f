import ObdSimulator.AppMain
import ObdSimulator.FaultHistory
import ObdSimulator.Lib.Ramp

/-!
# The engine left alone

Without a tester the main loop only moves the three simulated values and runs the
fault table over them. Each value is a triangular ramp in unbounded arithmetic, so
no addition or subtraction wraps. A ramp turns at the tick it reaches an extreme,
and every monitored fault asks for an extreme: it is detected for one tick at a
time, which is four short of a promotion.
-/

namespace ObdSimulator

open Ramp UdsService AppMain

/-! ## The simulated values are ramps -/

/-- The ramp of the engine speed, from idle to its maximum. -/
def rpmShape : Shape := ⟨rpmIdle.toNat, rpmMax.toNat, rpmRampStep.toNat⟩

/-- The ramp of the coolant temperature. -/
def coolantShape : Shape := ⟨coolantTempMin.toNat, coolantTempMax.toNat, coolantTempStep.toNat⟩

/-- The ramp of the vehicle speed. -/
def speedShape : Shape := ⟨vehicleSpeedMin.toNat, vehicleSpeedMax.toNat, vehicleSpeedStep.toNat⟩

/-- A step of the engine speed fits between its extremes. -/
theorem rpm_proper : rpmShape.Proper := ⟨by decide, by decide⟩

/-- A step of the coolant temperature fits between its extremes. -/
theorem coolant_proper : coolantShape.Proper := ⟨by decide, by decide⟩

/-- A step of the vehicle speed fits between its extremes. -/
theorem speed_proper : speedShape.Proper := ⟨by decide, by decide⟩

/-- The engine speed as a point on its ramp, with the direction of its next step. -/
def SimState.rpm (s : SimState) : Point := ⟨s.engineRpm.toNat, s.rpmDirection != 0⟩

/-- The coolant temperature as a point on its ramp. -/
def SimState.coolant (s : SimState) : Point := ⟨s.coolantTemp.toNat, s.tempDirection != 0⟩

/-- The vehicle speed as a point on its ramp. -/
def SimState.speed (s : SimState) : Point := ⟨s.vehicleSpeed.toNat, s.speedDirection != 0⟩

/-- The three values are on their ramps. -/
structure SimState.Natural (s : SimState) : Prop where
  rpm : rpmShape.Holds s.rpm
  coolant : coolantShape.Holds s.coolant
  speed : speedShape.Holds s.speed

/-- The word arithmetic of the ramp is the unbounded one. -/
theorem ramp_rpm_next (s : SimState) (holds : rpmShape.Holds s.rpm) :
    (rampRpm s).rpm = rpmShape.next s.rpm := by
  have below : s.engineRpm.toNat ≤ 4000 := holds.below
  have above : 800 ≤ s.engineRpm.toNat := holds.above
  have sum : (s.engineRpm + rpmRampStep).toNat = s.engineRpm.toNat + 10 := by
    rw [UInt16.toNat_add]
    exact Nat.mod_eq_of_lt (by simp only [rpmRampStep, UInt16.reduceToNat]; omega)
  by_cases rises : s.rpmDirection = 0
  · have up : s.rpm.falls = false := by simp [SimState.rpm, rises]
    have same : rpmMax ≤ s.engineRpm + rpmRampStep ↔
        rpmShape.high ≤ s.rpm.value + rpmShape.step := by
      rw [UInt16.le_iff_toNat_le, sum]
      rfl
    rw [rampRpm, if_pos rises, Shape.next, if_pos up]
    by_cases top : rpmMax ≤ s.engineRpm + rpmRampStep
    · simp only [if_pos top, if_pos (same.mp top)]
      rfl
    · simp only [if_neg top, if_neg (same.not.mp top)]
      exact Point.ext sum up
  · have down : s.rpm.falls = true := by simp [SimState.rpm, rises]
    have level : ¬s.rpm.falls = false := by simp [down]
    have falls : rpmIdle < s.engineRpm := UInt16.lt_iff_toNat_lt.mpr (holds.falling down)
    have difference : (s.engineRpm - rpmRampStep).toNat = s.engineRpm.toNat - 10 :=
      UInt16.toNat_sub_of_le _ _ (UInt16.le_iff_toNat_le.mpr (Nat.le_trans (by decide) above))
    have same : s.engineRpm - rpmRampStep ≤ rpmIdle ↔
        s.rpm.value ≤ rpmShape.low + rpmShape.step := by
      rw [UInt16.le_iff_toNat_le, difference]
      exact Nat.sub_le_iff_le_add
    rw [rampRpm, if_neg rises, Shape.next, if_neg level]
    simp only [if_pos falls]
    by_cases close : s.engineRpm < rpmIdle + rpmRampStep
    · have near : s.rpm.value ≤ rpmShape.low + rpmShape.step :=
        Nat.le_of_lt (UInt16.lt_iff_toNat_lt.mp close)
      simp only [if_pos close, if_pos (UInt16.le_refl rpmIdle), if_pos near]
      rfl
    · by_cases bottom : s.engineRpm - rpmRampStep ≤ rpmIdle
      · simp only [if_neg close, if_pos bottom, if_pos (same.mp bottom)]
        rfl
      · simp only [if_neg close, if_neg bottom, if_neg (same.not.mp bottom)]
        exact Point.ext difference down

/-- On its ramp the eight-bit coolant temperature moves as the unbounded one does. -/
theorem ramp_coolant_next (s : SimState) (holds : coolantShape.Holds s.coolant) :
    (rampCoolant s).coolant = coolantShape.next s.coolant := by
  have below : s.coolantTemp.toNat ≤ 105 := holds.below
  have above : 80 ≤ s.coolantTemp.toNat := holds.above
  have sum : (s.coolantTemp + coolantTempStep).toNat = s.coolantTemp.toNat + 1 := by
    rw [UInt8.toNat_add]
    exact Nat.mod_eq_of_lt (by simp only [coolantTempStep, UInt8.reduceToNat]; omega)
  by_cases rises : s.tempDirection = 0
  · have up : s.coolant.falls = false := by simp [SimState.coolant, rises]
    have same : coolantTempMax ≤ s.coolantTemp + coolantTempStep ↔
        coolantShape.high ≤ s.coolant.value + coolantShape.step := by
      rw [UInt8.le_iff_toNat_le, sum]
      rfl
    rw [rampCoolant, if_pos rises, Shape.next, if_pos up]
    by_cases top : coolantTempMax ≤ s.coolantTemp + coolantTempStep
    · simp only [if_pos top, if_pos (same.mp top)]
      rfl
    · simp only [if_neg top, if_neg (same.not.mp top)]
      exact Point.ext sum up
  · have down : s.coolant.falls = true := by simp [SimState.coolant, rises]
    have level : ¬s.coolant.falls = false := by simp [down]
    have falls : coolantTempMin < s.coolantTemp := UInt8.lt_iff_toNat_lt.mpr (holds.falling down)
    have difference : (s.coolantTemp - coolantTempStep).toNat = s.coolantTemp.toNat - 1 :=
      UInt8.toNat_sub_of_le _ _ (UInt8.le_iff_toNat_le.mpr (Nat.le_trans (by decide) above))
    have same : s.coolantTemp - coolantTempStep ≤ coolantTempMin ↔
        s.coolant.value ≤ coolantShape.low + coolantShape.step := by
      rw [UInt8.le_iff_toNat_le, difference]
      exact Nat.sub_le_iff_le_add
    rw [rampCoolant, if_neg rises, Shape.next, if_neg level]
    simp only [if_pos falls]
    by_cases close : s.coolantTemp < coolantTempMin + coolantTempStep
    · have near : s.coolant.value ≤ coolantShape.low + coolantShape.step :=
        Nat.le_of_lt (UInt8.lt_iff_toNat_lt.mp close)
      simp only [if_pos close, if_pos (UInt8.le_refl coolantTempMin), if_pos near]
      rfl
    · by_cases bottom : s.coolantTemp - coolantTempStep ≤ coolantTempMin
      · simp only [if_neg close, if_pos bottom, if_pos (same.mp bottom)]
        rfl
      · simp only [if_neg close, if_neg bottom, if_neg (same.not.mp bottom)]
        exact Point.ext difference down

/-- On its ramp the vehicle speed moves as the unbounded one does. -/
theorem ramp_speed_next (s : SimState) (holds : speedShape.Holds s.speed) :
    (rampSpeed s).speed = speedShape.next s.speed := by
  have below : s.vehicleSpeed.toNat ≤ 120 := holds.below
  have sum : (s.vehicleSpeed + vehicleSpeedStep).toNat = s.vehicleSpeed.toNat + 1 := by
    rw [UInt8.toNat_add]
    exact Nat.mod_eq_of_lt (by simp only [vehicleSpeedStep, UInt8.reduceToNat]; omega)
  by_cases rises : s.speedDirection = 0
  · have up : s.speed.falls = false := by simp [SimState.speed, rises]
    have same : vehicleSpeedMax ≤ s.vehicleSpeed + vehicleSpeedStep ↔
        speedShape.high ≤ s.speed.value + speedShape.step := by
      rw [UInt8.le_iff_toNat_le, sum]
      rfl
    rw [rampSpeed, if_pos rises, Shape.next, if_pos up]
    by_cases top : vehicleSpeedMax ≤ s.vehicleSpeed + vehicleSpeedStep
    · simp only [if_pos top, if_pos (same.mp top)]
      rfl
    · simp only [if_neg top, if_neg (same.not.mp top)]
      exact Point.ext sum up
  · have down : s.speed.falls = true := by simp [SimState.speed, rises]
    have level : ¬s.speed.falls = false := by simp [down]
    have falls : vehicleSpeedMin < s.vehicleSpeed := UInt8.lt_iff_toNat_lt.mpr (holds.falling down)
    have difference : (s.vehicleSpeed - vehicleSpeedStep).toNat = s.vehicleSpeed.toNat - 1 :=
      UInt8.toNat_sub_of_le _ _ (UInt8.le_iff_toNat_le.mpr (Nat.succ_le_of_lt (holds.falling down)))
    have same : s.vehicleSpeed - vehicleSpeedStep ≤ vehicleSpeedMin ↔
        s.speed.value ≤ speedShape.low + speedShape.step := by
      rw [UInt8.le_iff_toNat_le, difference]
      exact Nat.sub_le_iff_le_add
    rw [rampSpeed, if_neg rises, Shape.next, if_neg level]
    simp only [if_pos falls]
    by_cases bottom : s.vehicleSpeed - vehicleSpeedStep ≤ vehicleSpeedMin
    · simp only [if_pos bottom, if_pos (same.mp bottom)]
      rfl
    · simp only [if_neg bottom, if_neg (same.not.mp bottom)]
      exact Point.ext difference down

/-- A ramp leaves the other two values alone. -/
theorem ramp_rpm_frame (s : SimState) :
    (rampRpm s).coolant = s.coolant ∧ (rampRpm s).speed = s.speed := by
  unfold rampRpm
  constructor <;> dsimp only <;> split_ifs <;> rfl

/-- The update of the coolant temperature moves neither of the other two values. -/
theorem ramp_coolant_frame (s : SimState) :
    (rampCoolant s).rpm = s.rpm ∧ (rampCoolant s).speed = s.speed := by
  unfold rampCoolant
  constructor <;> dsimp only <;> split_ifs <;> rfl

/-- The update of the vehicle speed moves neither of the other two values. -/
theorem ramp_speed_frame (s : SimState) :
    (rampSpeed s).rpm = s.rpm ∧ (rampSpeed s).coolant = s.coolant := by
  unfold rampSpeed
  constructor <;> dsimp only <;> split_ifs <;> rfl

/-- The three values move on, each along its own ramp. -/
theorem update_sim_values_next (s : SimState) (natural : s.Natural) :
    (obd2UpdateSimValues s).rpm = rpmShape.next s.rpm ∧
      (obd2UpdateSimValues s).coolant = coolantShape.next s.coolant ∧
      (obd2UpdateSimValues s).speed = speedShape.next s.speed := by
  obtain ⟨coolant, speed⟩ := ramp_rpm_frame s
  obtain ⟨rpm', speed'⟩ := ramp_coolant_frame (rampRpm s)
  obtain ⟨rpm'', coolant''⟩ := ramp_speed_frame (rampCoolant (rampRpm s))
  have warm : coolantShape.Holds (rampRpm s).coolant := coolant ▸ natural.coolant
  have moving : speedShape.Holds (rampCoolant (rampRpm s)).speed :=
    speed' ▸ speed ▸ natural.speed
  refine ⟨?_, ?_, ?_⟩
  · rw [obd2UpdateSimValues, rpm'', rpm', ramp_rpm_next s natural.rpm]
  · rw [obd2UpdateSimValues, coolant'', ramp_coolant_next _ warm, coolant]
  · rw [obd2UpdateSimValues, ramp_speed_next _ moving, speed', speed]

/-- An update keeps all three values on their ramps. -/
theorem natural_update (s : SimState) (natural : s.Natural) :
    (obd2UpdateSimValues s).Natural := by
  obtain ⟨rpm, coolant, speed⟩ := update_sim_values_next s natural
  constructor
  · exact rpm ▸ holds_next _ _ rpm_proper natural.rpm
  · exact coolant ▸ holds_next _ _ coolant_proper natural.coolant
  · exact speed ▸ holds_next _ _ speed_proper natural.speed

/-- The three values start on their ramps. -/
theorem natural_initial : ({} : SimState).Natural where
  rpm := holds_lowest _ rpm_proper
  coolant := holds_lowest _ coolant_proper
  speed := holds_lowest _ speed_proper

/-- The next pass adds and subtracts within the types of the values. -/
structure SimState.Exact (s : SimState) : Prop where
  rpmUp : s.rpmDirection = 0 → s.engineRpm.toNat + rpmRampStep.toNat < 2 ^ 16
  rpmDown : s.rpmDirection ≠ 0 → rpmRampStep ≤ s.engineRpm
  coolantUp : s.tempDirection = 0 → s.coolantTemp.toNat + coolantTempStep.toNat < 2 ^ 8
  coolantDown : s.tempDirection ≠ 0 → coolantTempStep ≤ s.coolantTemp
  speedUp : s.speedDirection = 0 → s.vehicleSpeed.toNat + vehicleSpeedStep.toNat < 2 ^ 8
  speedDown : s.speedDirection ≠ 0 → vehicleSpeedStep ≤ s.vehicleSpeed

/-- Each type has room for a step above the top of its ramp. -/
theorem SimState.Natural.exact {s : SimState} (natural : s.Natural) : s.Exact where
  rpmUp := fun _ => Nat.lt_of_le_of_lt (Nat.add_le_add_right natural.rpm.below _) (by decide)
  rpmDown := fun _ => UInt16.le_iff_toNat_le.mpr (Nat.le_trans (by decide) natural.rpm.above)
  coolantUp := fun _ =>
    Nat.lt_of_le_of_lt (Nat.add_le_add_right natural.coolant.below _) (by decide)
  coolantDown := fun _ =>
    UInt8.le_iff_toNat_le.mpr (Nat.le_trans (by decide) natural.coolant.above)
  speedUp := fun _ => Nat.lt_of_le_of_lt (Nat.add_le_add_right natural.speed.below _) (by decide)
  speedDown := fun falls =>
    UInt8.le_iff_toNat_le.mpr (natural.speed.falling (by simpa [SimState.speed] using falls))

/-! ## No fault is detected twice in a row -/

/-- Each monitored condition asks a ramp to stand at an extreme. -/
theorem condition_brief (s : SimState) (code : UInt16) (natural : s.Natural)
    (present : dtcCondition s code = true) : dtcCondition (obd2UpdateSimValues s) code = false := by
  obtain ⟨_, coolant, speed⟩ := update_sim_values_next s natural
  have warm : (obd2UpdateSimValues s).coolantTemp.toNat = (coolantShape.next s.coolant).value :=
    congrArg Point.value coolant
  have fast : (obd2UpdateSimValues s).vehicleSpeed.toNat = (speedShape.next s.speed).value :=
    congrArg Point.value speed
  unfold dtcCondition at present ⊢
  by_cases overtemp : code = dtcEngineOvertemp
  · rw [if_pos overtemp] at present ⊢
    have hot : coolantTempMax ≤ s.coolantTemp := of_decide_eq_true present
    have top : s.coolant.value = coolantShape.high :=
      Nat.le_antisymm natural.coolant.below (UInt8.le_iff_toNat_le.mp hot)
    have cooler := next_of_highest _ _ coolant_proper natural.coolant top
    rw [decide_eq_false_iff_not, UInt8.le_iff_toNat_le, warm]
    exact Nat.not_le.mpr cooler
  · rw [if_neg overtemp] at present ⊢
    by_cases vss : code = dtcVssMalfunction
    · rw [if_pos vss, Bool.and_eq_true, beq_iff_eq] at present
      have stopped : s.speed.value = speedShape.low := congrArg UInt8.toNat present.1
      have moving := next_of_lowest _ _ speed_proper natural.speed stopped
      have still : (obd2UpdateSimValues s).vehicleSpeed ≠ vehicleSpeedMin := by
        intro stops
        rw [← fast, stops] at moving
        exact absurd moving (by decide)
      rw [if_pos vss, beq_false_of_ne still, Bool.false_and]
    · rw [if_neg vss] at present ⊢
      by_cases thermostat : code = dtcCoolantThermostat
      · rw [if_pos thermostat] at present ⊢
        have cold : s.coolantTemp ≤ coolantTempMin := of_decide_eq_true present
        have bottom : s.coolant.value = coolantShape.low :=
          Nat.le_antisymm (UInt8.le_iff_toNat_le.mp cold) natural.coolant.above
        have warmer := next_of_lowest _ _ coolant_proper natural.coolant bottom
        rw [decide_eq_false_iff_not, UInt8.le_iff_toNat_le, warm]
        exact Nat.not_le.mpr warmer
      · rw [if_neg thermostat] at present
        exact absurd present Bool.false_ne_true

/-- An entry no fault has matured for, whose last detection was now or is over. -/
structure DtcEntry.Unfailed (s : SimState) (d : DtcEntry) : Prop where
  inactive : d.state = .inactive
  neverFailed : d.failSeq = 0
  debounce : d.debounce = 0 ∨ d.debounce = 1 ∧ dtcCondition s d.code = true

/-- A fault that is not failing is far from a promotion. -/
theorem DtcEntry.Unfailed.short {s : SimState} {d : DtcEntry} (unfailed : d.Unfailed s) :
    d.debounce ≤ 1 := by
  rcases unfailed.debounce with none | ⟨once, _⟩
  · exact none ▸ UInt8.zero_le
  · exact once ▸ UInt8.le_refl _

/-- One pass over the next values: a detection is the first in its row. -/
theorem DtcEntry.Unfailed.step {s : SimState} {counter : UInt16} {d : DtcEntry}
    {after : UInt16 × DtcEntry} (natural : s.Natural) (unfailed : d.Unfailed s)
    (step : EntryStep (obd2UpdateSimValues s) counter d after) :
    after.2.Unfailed (obd2UpdateSimValues s) := by
  have inactive := unfailed.inactive
  have clear : dtcCondition (obd2UpdateSimValues s) d.code = true → d.debounce = 0 := by
    intro present
    rcases unfailed.debounce with none | ⟨_, before⟩
    · exact none
    · have gone := condition_brief s d.code natural before
      exact absurd (gone.symm.trans present) Bool.false_ne_true
  cases step with
  | passed absent settled => exact ⟨inactive, unfailed.neverFailed, Or.inl rfl⟩
  | detected present _ early =>
    have first : saturate d.debounce = 1 := by rw [clear present]; rfl
    exact ⟨inactive, unfailed.neverFailed, Or.inr ⟨first, present⟩⟩
  | matured present _ long =>
    rw [clear present] at long
    exact absurd long (by decide)
  | reverted absent pending => simp [inactive] at pending
  | held present pending => simp [inactive] at pending
  | confirmed present pending => simp [inactive] at pending
  | kept present latched => simp [inactive] at latched

/-- What the main loop keeps of the simulation while no tester interferes. -/
structure Idle (s : App) : Prop where
  natural : s.sim.Natural
  running : s.faults.settingOn = true
  unfailed : ∀ d ∈ s.faults.table, d.Unfailed s.sim

/-- The application starts with no fault near a promotion. -/
theorem idle_initial (now ready : Nat) : Idle (appInit now ready) where
  natural := natural_initial
  running := rfl
  unfailed := by
    intro d member
    have listed : d ∈ dtcTable := member
    simp only [dtcTable, List.mem_cons, List.not_mem_nil, or_false] at listed
    rcases listed with rfl | rfl | rfl <;> exact ⟨rfl, rfl, Or.inl rfl⟩

/-- An update keeps every fault away from a promotion. -/
theorem idle_update (s : App) (idle : Idle s) : Idle (updateSimulation s) where
  natural := natural_update s.sim idle.natural
  running := by
    simp only [updateSimulation, obd2DtcUpdate, idle.running, Bool.true_eq_false, if_false]
  unfailed := by
    intro after member
    simp only [updateSimulation, obd2DtcUpdate, idle.running, Bool.true_eq_false, if_false]
      at member
    obtain ⟨d, within, _, _, _, step, _⟩ := (dtc_update_table_mem _ _ _).2 after member
    exact (idle.unfailed d within).step idle.natural step

/-- Any number of updates keep every fault away from a promotion. -/
theorem idle_iterate (now ready n : Nat) : Idle (updateSimulation^[n] (appInit now ready)) := by
  induction n with
  | zero => exact idle_initial now ready
  | succ n ih =>
    rw [Function.iterate_succ_apply']
    exact idle_update _ ih

/-- A state no entry is in is listed by no OBD mode. -/
theorem get_in_state_nil (m : FaultManager) (state : DtcState) (maxPairs : Nat)
    (none : ∀ d ∈ m.table, d.state ≠ state) : dtcGetInState m state maxPairs = [] := by
  have empty : m.table.filter (·.state == state) = [] :=
    List.filter_eq_nil_iff.mpr fun d member => by simpa using none d member
  simp [dtcGetInState, empty]

/-- The values are in range, the arithmetic has stayed within its types, no fault has
matured, and Mode 03 and Mode 07 answer with no DTC. -/
structure NeverMatured (s : App) : Prop where
  rpm : 800 ≤ s.sim.engineRpm.toNat ∧ s.sim.engineRpm.toNat ≤ 4000
  coolant : 80 ≤ s.sim.coolantTemp.toNat ∧ s.sim.coolantTemp.toNat ≤ 105
  speed : s.sim.vehicleSpeed.toNat ≤ 120
  exact : s.sim.Exact
  reported : s.sim.coolantTemp.toNat + 40 < 2 ^ 8 ∧ s.sim.engineRpm.toNat * 4 < 2 ^ 16
  entries : ∀ d ∈ s.faults.table, d.state = .inactive ∧ d.debounce ≤ 1 ∧ d.failSeq = 0
  stored : handleObd2Service03 s = [0x43, 0x00]
  pending : handleObd2Service07 s = [0x47]

/-- After any number of passes of the main loop alone no fault has ever matured. -/
theorem natural_ramp_never_matures (now ready n : Nat) :
    NeverMatured (updateSimulation^[n] (appInit now ready)) := by
  have idle : Idle (updateSimulation^[n] (appInit now ready)) := idle_iterate now ready n
  generalize updateSimulation^[n] (appInit now ready) = s at idle
  have slow : s.sim.engineRpm.toNat ≤ 4000 := idle.natural.rpm.below
  have warm : s.sim.coolantTemp.toNat ≤ 105 := idle.natural.coolant.below
  have confirmed : obd2DtcGetConfirmed s.faults obd2DtcCount = [] :=
    get_in_state_nil _ _ _ fun d member => by simp [(idle.unfailed d member).inactive]
  have pending : obd2DtcGetPending s.faults obd2DtcCount = [] :=
    get_in_state_nil _ _ _ fun d member => by simp [(idle.unfailed d member).inactive]
  constructor
  · exact ⟨idle.natural.rpm.above, slow⟩
  · exact ⟨idle.natural.coolant.above, warm⟩
  · exact idle.natural.speed.below
  · exact idle.natural.exact
  · omega
  · intro d member
    have unfailed := idle.unfailed d member
    exact ⟨unfailed.inactive, unfailed.short, unfailed.neverFailed⟩
  · rw [handleObd2Service03, confirmed]
    rfl
  · rw [handleObd2Service07, pending]
    rfl

end ObdSimulator
