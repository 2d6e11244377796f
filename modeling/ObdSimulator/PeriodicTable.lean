import ObdSimulator.Lib.SlotMap
import ObdSimulator.UdsService

/-!
# The subscription loops of ReadDataByPeriodicIdentifier

Both loops act on each identifier before they look at the next one, and end with a
refusal at the first they cannot serve. What they accept as a whole, and whether a
refused one has changed the table by then, is said here of the list of identifiers
and of the table before the loop.
-/

namespace ObdSimulator.UdsService

open SlotMap

variable (subs : List PeriodicSub) (pdid : UInt8)

/-- An active slot serves the identifier. -/
def subscribed : Bool := subs.any (·.serves pdid)

/-- The slots without a subscription. -/
def freeSlots : Nat := subs.countP (·.divider == 0)

/-- The slot of an identifier: its own, else the first free one. -/
def periodicSlot : Option Nat :=
  (subs.findIdx? (·.serves pdid)).or (subs.findIdx? (·.divider == 0))

/-- The slot an identifier goes to. -/
inductive SlotCase : Option Nat → Prop
  | own (front : List PeriodicSub) (x : PeriodicSub) (back : List PeriodicSub)
      (table : subs = front ++ x :: back) (serves : x.serves pdid = true)
      (first : ∀ y ∈ front, y.serves pdid = false) : SlotCase (some front.length)
  | free (front : List PeriodicSub) (x : PeriodicSub) (back : List PeriodicSub)
      (table : subs = front ++ x :: back) (unserved : subscribed subs pdid = false)
      (free : x.divider = 0) : SlotCase (some front.length)
  | full (unserved : subscribed subs pdid = false) (full : freeSlots subs = 0) : SlotCase none

/-- The slot the source picks is one of these. -/
theorem slot_case : SlotCase subs pdid (periodicSlot subs pdid) := by
  unfold periodicSlot
  cases own : subs.findIdx? (·.serves pdid) with
  | some i =>
    obtain ⟨front, x, back, table, rfl, serves, first⟩ := find_idx_split _ subs i own
    exact .own front x back table serves first
  | none =>
    have unserved : subscribed subs pdid = false := by
      simpa [subscribed] using List.findIdx?_eq_none_iff.mp own
    cases free : subs.findIdx? (·.divider == 0) with
    | some i =>
      obtain ⟨front, x, back, table, rfl, inactive, _⟩ := find_idx_split _ subs i free
      exact .free front x back table unserved (by simpa using inactive)
    | none =>
      have full : freeSlots subs = 0 := by
        simpa [freeSlots, List.countP_eq_zero] using List.findIdx?_eq_none_iff.mp free
      exact .full unserved full

/-- A slot serves an identifier if it is active and has it. -/
theorem PeriodicSub.serves_eq (x : PeriodicSub) (q : UInt8) :
    x.serves q = (x.divider != 0 && x.pdid == q) := rfl

/-- Taking its own slot again changes neither who is subscribed nor the free slots. -/
theorem own_slot_taken (front back : List PeriodicSub) (x : PeriodicSub) (pdid divider : UInt8)
    (active : divider ≠ 0) (serves : x.serves pdid = true) :
    (∀ q, subscribed (front ++ ⟨pdid, divider, 0⟩ :: back) q = subscribed (front ++ x :: back) q) ∧
      freeSlots (front ++ ⟨pdid, divider, 0⟩ :: back) = freeSlots (front ++ x :: back) := by
  simp only [PeriodicSub.serves_eq, Bool.and_eq_true, bne_iff_ne, ne_eq, beq_iff_eq] at serves
  obtain ⟨running, rfl⟩ := serves
  constructor
  · intro q
    have running' : (x.divider != 0) = true := by simpa using running
    have active' : (divider != 0) = true := by simpa using active
    simp only [subscribed, List.any_append, List.any_cons, PeriodicSub.serves_eq, active', running']
  · simp [freeSlots, active, running]

/-- Taking a free slot subscribes the identifier and leaves one slot less. -/
theorem free_slot_taken (front back : List PeriodicSub) (x : PeriodicSub) (pdid divider : UInt8)
    (active : divider ≠ 0) (free : x.divider = 0) :
    (∀ q, subscribed (front ++ ⟨pdid, divider, 0⟩ :: back) q =
        (pdid == q || subscribed (front ++ x :: back) q)) ∧
      freeSlots (front ++ ⟨pdid, divider, 0⟩ :: back) + 1 = freeSlots (front ++ x :: back) := by
  constructor
  · intro q
    have active' : (divider != 0) = true := by simpa using active
    simp only [subscribed, List.any_append, List.any_cons, PeriodicSub.serves_eq, active', free,
      bne_self_eq_false, Bool.true_and, Bool.false_and, Bool.false_or]
    cases front.any fun x => x.divider != 0 && x.pdid == q <;> cases pdid == q <;> rfl
  · simp [freeSlots, active, free]
    omega

/-- The divider of a mode is not the inactive one, and the stop mode has none. -/
theorem periodic_divider_active (mode divider : UInt8)
    (known : periodicDivider mode = some divider) : divider ≠ 0 ∧ mode ≠ 0x04 := by
  unfold periodicDivider at known
  split at known
  · rename_i slow
    cases known
    exact ⟨by decide, by rw [slow]; decide⟩
  · split at known
    · rename_i medium
      cases known
      exact ⟨by decide, by rw [medium]; decide⟩
    · split at known
      · rename_i fast
        cases known
        exact ⟨by decide, by rw [fast]; decide⟩
      · cases known

/-! ## What the loops accept -/

/-- Every identifier is subscribed, and none is named twice. -/
def StopsAll (pdids : List UInt8) : Prop :=
  pdids.Nodup ∧ ∀ pdid ∈ pdids, subscribed subs pdid = true

/-- Every identifier is defined, and those without a subscription find free slots. -/
def StartsAll (s : App) (subs : List PeriodicSub) (pdids : List UInt8) : Prop :=
  (∀ pdid ∈ pdids, (dynFind s (periodicDid pdid)).isSome = true) ∧
    (pdids.toFinset.filter (subscribed subs · = false)).card ≤ freeSlots subs

instance (pdids : List UInt8) : Decidable (StopsAll subs pdids) :=
  inferInstanceAs (Decidable (_ ∧ _))

instance (s : App) (pdids : List UInt8) : Decidable (StartsAll s subs pdids) :=
  inferInstanceAs (Decidable (_ ∧ _))

/-- A stop ends the subscriptions of its identifier and of no other. -/
theorem subscribed_stopped (q : UInt8) :
    subscribed (subs.map fun p => if p.serves pdid then { p with divider := 0 } else p) q =
      (subscribed subs q && pdid != q) := by
  induction subs with
  | nil => rfl
  | cons x rest ih =>
    have here : (if x.serves pdid then { x with divider := 0 } else x).serves q =
        (x.serves q && pdid != q) := by
      by_cases stopped : x.serves pdid = true
      · have same : x.pdid = pdid := by
          simp only [PeriodicSub.serves_eq, Bool.and_eq_true, beq_iff_eq] at stopped
          exact stopped.2
        rw [if_pos stopped]
        by_cases named : pdid = q <;> simp [PeriodicSub.serves_eq, same, named]
      · rw [if_neg stopped]
        by_cases named : pdid = q
        · subst named
          rw [Bool.eq_false_iff.mpr stopped, Bool.false_and]
        · simp [named]
    simp only [subscribed, List.map_cons, List.any_cons] at ih ⊢
    rw [here, ih, Bool.and_or_distrib_right]

/-- The stop loop gets to its end exactly if every identifier is subscribed. -/
theorem stop_sending_done (pdids : List UInt8) :
    (stopSending subs pdids).2 = true ↔ StopsAll subs pdids := by
  induction pdids generalizing subs with
  | nil => simp [stopSending, StopsAll]
  | cons pdid rest ih =>
    unfold stopSending
    by_cases running : subscribed subs pdid = true
    · have running' : subs.any (·.serves pdid) = true := running
      rw [if_pos running', ih]
      simp only [StopsAll, subscribed_stopped, Bool.and_eq_true, bne_iff_ne, List.nodup_cons,
        List.forall_mem_cons]
      constructor
      · rintro ⟨distinct, all⟩
        refine ⟨⟨?_, distinct⟩, running, fun q member => (all q member).1⟩
        intro again
        exact (all pdid again).2 rfl
      · rintro ⟨⟨once, distinct⟩, _, all⟩
        refine ⟨distinct, fun q member => ⟨all q member, ?_⟩⟩
        rintro rfl
        exact once member
    · have idle : ¬ subs.any (·.serves pdid) = true := running
      simp only [if_neg idle, Bool.false_eq_true, false_iff, StopsAll, List.forall_mem_cons]
      rintro ⟨_, here, _⟩
      exact running here

/-- One turn of the subscription loop. -/
theorem start_sending_cons (s : App) (divider : UInt8) (rest : List UInt8) :
    startSending s divider subs (pdid :: rest) =
      if (dynFind s (periodicDid pdid)).isNone then (subs, false)
      else
        match periodicSlot subs pdid with
        | none => (subs, false)
        | some i => startSending s divider (subs.set i ⟨pdid, divider, 0⟩) rest := rfl

/-- An identifier that is subscribed already takes no further slot. -/
theorem starts_all_own (s : App) (subs' : List PeriodicSub) (rest : List UInt8)
    (running : subscribed subs pdid = true)
    (same : ∀ q, subscribed subs' q = subscribed subs q)
    (slots : freeSlots subs' = freeSlots subs) :
    StartsAll s subs (pdid :: rest) ↔
      (dynFind s (periodicDid pdid)).isSome = true ∧ StartsAll s subs' rest := by
  simp only [StartsAll, same, slots, List.forall_mem_cons, List.toFinset_cons,
    Finset.filter_insert, running, Bool.true_eq_false, if_false, and_assoc]

/-- An identifier that is not subscribed takes a free slot. -/
theorem starts_all_free (s : App) (subs' : List PeriodicSub) (rest : List UInt8)
    (idle : subscribed subs pdid = false)
    (taken : ∀ q, subscribed subs' q = (pdid == q || subscribed subs q))
    (slots : freeSlots subs' + 1 = freeSlots subs) :
    StartsAll s subs (pdid :: rest) ↔
      (dynFind s (periodicDid pdid)).isSome = true ∧ StartsAll s subs' rest := by
  have needed : ((pdid :: rest).toFinset.filter (subscribed subs · = false)) =
      insert pdid (rest.toFinset.filter (subscribed subs' · = false)) := by
    ext q
    simp only [List.toFinset_cons, Finset.mem_filter, Finset.mem_insert, taken,
      Bool.or_eq_false_iff, beq_eq_false_iff_ne]
    by_cases here : q = pdid
    · simp [here, idle]
    · simp [here, Ne.symm here]
  have counted : ((pdid :: rest).toFinset.filter (subscribed subs · = false)).card =
      (rest.toFinset.filter (subscribed subs' · = false)).card + 1 := by
    rw [needed, Finset.card_insert_of_notMem]
    simp [taken]
  simp only [StartsAll, List.forall_mem_cons, counted, ← slots, Nat.add_le_add_iff_right,
    and_assoc]

/-- The start loop gets to its end exactly if the free slots suffice and every identifier is
defined. -/
theorem start_sending_done (s : App) (divider : UInt8) (active : divider ≠ 0)
    (pdids : List UInt8) :
    (startSending s divider subs pdids).2 = true ↔ StartsAll s subs pdids := by
  induction pdids generalizing subs with
  | nil => simp [startSending, StartsAll]
  | cons pdid rest ih =>
    rw [start_sending_cons]
    cases defined : dynFind s (periodicDid pdid) with
    | none => simp [StartsAll, defined]
    | some slot =>
      simp only [Option.isNone_some, Bool.false_eq_true, if_false]
      have place := slot_case subs pdid
      generalize periodicSlot subs pdid = chosen at place
      cases place with
      | own front x back table serves first =>
        subst table
        have running : subscribed (front ++ x :: back) pdid = true := by
          simp only [subscribed, List.any_append, List.any_cons, serves, Bool.true_or,
            Bool.or_true]
        obtain ⟨same, slots⟩ := own_slot_taken front back x pdid divider active serves
        simp only [set_slot]
        rw [ih, starts_all_own _ pdid s _ rest running same slots, defined]
        simp
      | free front x back table unserved free =>
        subst table
        obtain ⟨taken, slots⟩ := free_slot_taken front back x pdid divider active free
        simp only [set_slot]
        rw [ih, starts_all_free _ pdid s _ rest unserved taken slots, defined]
        simp
      | full unserved full =>
        simp only [Bool.false_eq_true, false_iff, StartsAll, full]
        rintro ⟨_, room⟩
        have none_needed := Finset.card_eq_zero.mp (Nat.le_zero.mp room)
        have needed : pdid ∈ (pdid :: rest).toFinset.filter (subscribed subs · = false) := by
          simp [unserved]
        rw [none_needed] at needed
        cases needed

/-! ## What a loop has changed -/

/-- A stop acts when its first identifier is subscribed. -/
def stopActs : List UInt8 → Bool
  | [] => false
  | pdid :: _ => subscribed subs pdid

/-- A subscription with this divider, at the start of its period. -/
def PeriodicSub.settled (divider : UInt8) (x : PeriodicSub) : Bool :=
  x.divider == divider && x.counter == 0

/-- To start sending this identifier again changes nothing. -/
def running (divider : UInt8) (subs : List PeriodicSub) (pdid : UInt8) : Bool :=
  (subs.find? (·.serves pdid)).any (·.settled divider)

/-- A start acts when an identifier that is not sent so yet comes before the first
that is refused. -/
def startActs (s : App) (divider : UInt8) (subs : List PeriodicSub) : List UInt8 → Bool
  | [] => false
  | pdid :: rest =>
    (dynFind s (periodicDid pdid)).isSome &&
      if running divider subs pdid then startActs s divider subs rest
      else subscribed subs pdid || freeSlots subs != 0

/-- Stopping frees the slots of the identifier and takes none. -/
theorem free_slots_stopped :
    freeSlots subs ≤
        freeSlots (subs.map fun p => if p.serves pdid then { p with divider := 0 } else p) ∧
      (subscribed subs pdid = true → freeSlots subs <
        freeSlots (subs.map fun p => if p.serves pdid then { p with divider := 0 } else p)) := by
  induction subs with
  | nil => simp [subscribed]
  | cons x rest ih =>
    obtain ⟨grows, frees⟩ := ih
    simp only [freeSlots, subscribed, List.map_cons, List.countP_cons, List.any_cons] at *
    by_cases stopped : x.serves pdid = true
    · have active : (x.divider == 0) = false := by
        simp only [PeriodicSub.serves_eq, Bool.and_eq_true, bne_iff_ne, ne_eq] at stopped
        simpa using stopped.1
      simp only [if_pos stopped, active, beq_self_eq_true, if_true, Bool.false_eq_true, if_false]
      omega
    · simp only [Bool.eq_false_iff.mpr stopped, Bool.false_or, Bool.false_eq_true, if_false]
      refine ⟨by omega, ?_⟩
      intro later
      have more := frees later
      omega

/-- Stopping takes no slot. -/
theorem free_slots_stop_sending (pdids : List UInt8) :
    freeSlots subs ≤ freeSlots (stopSending subs pdids).1 := by
  induction pdids generalizing subs with
  | nil => exact Nat.le_refl _
  | cons pdid rest ih =>
    unfold stopSending
    split
    · exact (free_slots_stopped subs pdid).1.trans (ih _)
    · exact Nat.le_refl _

/-- The stop loop changes the table exactly if it stops an identifier. -/
theorem stop_sending_changes (pdids : List UInt8) :
    (stopSending subs pdids).1 ≠ subs ↔ stopActs subs pdids = true := by
  cases pdids with
  | nil => simp [stopSending, stopActs]
  | cons pdid rest =>
    unfold stopSending stopActs
    by_cases first : subscribed subs pdid = true
    · have first' : subs.any (·.serves pdid) = true := first
      simp only [if_pos first', first, iff_true]
      intro same
      have freed := (free_slots_stopped subs pdid).2 first
      have kept := free_slots_stop_sending
        (subs.map fun p => if p.serves pdid then { p with divider := 0 } else p) rest
      rw [same] at kept
      omega
    · have idle : ¬ subs.any (·.serves pdid) = true := first
      simp only [if_neg idle, Bool.eq_false_iff.mpr first, ne_eq, not_true, Bool.false_eq_true]

/-- A slot set by the loop is settled. -/
theorem settled_set (front back : List PeriodicSub) (x : PeriodicSub) (pdid divider : UInt8) :
    (front ++ x :: back).countP (·.settled divider) + (if x.settled divider then 0 else 1) =
      (front ++ ⟨pdid, divider, 0⟩ :: back).countP (·.settled divider) := by
  have set : (⟨pdid, divider, 0⟩ : PeriodicSub).settled divider = true := by
    simp [PeriodicSub.settled]
  simp only [List.countP_append, List.countP_cons, set, if_true]
  split <;> omega

/-- The start loop leaves no fewer subscriptions settled. -/
theorem settled_grows (s : App) (divider : UInt8) (pdids : List UInt8) :
    subs.countP (·.settled divider) ≤
      (startSending s divider subs pdids).1.countP (·.settled divider) := by
  induction pdids generalizing subs with
  | nil => exact Nat.le_refl _
  | cons pdid rest ih =>
    rw [start_sending_cons]
    split
    · exact Nat.le_refl _
    · have place := slot_case subs pdid
      generalize periodicSlot subs pdid = chosen at place
      cases place with
      | own front x back table =>
        subst table
        have later := ih (front ++ ⟨pdid, divider, 0⟩ :: back)
        have here := settled_set front back x pdid divider
        simp only [set_slot]
        omega
      | free front x back table =>
        subst table
        have later := ih (front ++ ⟨pdid, divider, 0⟩ :: back)
        have here := settled_set front back x pdid divider
        simp only [set_slot]
        omega
      | full => exact Nat.le_refl _

/-- Once a slot that was not settled is set, the table stays changed. -/
theorem set_slot_stays (s : App) (divider : UInt8) (front back : List PeriodicSub)
    (x : PeriodicSub) (rest : List UInt8) (changes : x.settled divider = false) :
    (startSending s divider (front ++ ⟨pdid, divider, 0⟩ :: back) rest).1 ≠
      front ++ x :: back := by
  intro same
  have here := settled_set front back x pdid divider
  have later := settled_grows (front ++ ⟨pdid, divider, 0⟩ :: back) s divider rest
  rw [same] at later
  simp only [changes, Bool.false_eq_true, if_false] at here
  omega

/-- The start loop changes the table exactly if it starts an identifier or restarts one that is
not settled. -/
theorem start_sending_changes (s : App) (divider : UInt8) (active : divider ≠ 0)
    (pdids : List UInt8) :
    (startSending s divider subs pdids).1 ≠ subs ↔ startActs s divider subs pdids = true := by
  induction pdids with
  | nil => simp [startSending, startActs]
  | cons pdid rest ih =>
    rw [start_sending_cons]
    unfold startActs
    cases defined : dynFind s (periodicDid pdid) with
    | none => simp
    | some slot =>
      simp only [Option.isNone_some, Bool.false_eq_true, if_false, Option.isSome_some,
        Bool.true_and]
      have place := slot_case subs pdid
      generalize periodicSlot subs pdid = chosen at place
      cases place with
      | own front x back table serves first =>
        subst table
        have found : (front ++ x :: back).find? (·.serves pdid) = some x := by
          have none_before : front.find? (·.serves pdid) = none :=
            List.find?_eq_none.mpr (fun y member => by simp [first y member])
          rw [List.find?_append, none_before, Option.none_or]
          exact List.find?_cons_of_pos serves
        have named : subscribed (front ++ x :: back) pdid = true := by
          simp only [subscribed, List.any_append, List.any_cons, serves, Bool.true_or,
            Bool.or_true]
        simp only [set_slot, running, found, Option.any_some, named, Bool.true_or]
        cases again : x.settled divider with
        | true =>
          have same : x = ⟨pdid, divider, 0⟩ := by
            simp only [PeriodicSub.settled, PeriodicSub.serves_eq, Bool.and_eq_true, beq_iff_eq]
              at again serves
            cases x
            simp_all
          rw [← same]
          exact ih
        | false => simpa using set_slot_stays pdid s divider front back x rest again
      | free front x back table unserved free =>
        subst table
        have not_running : running divider (front ++ x :: back) pdid = false := by
          have none_found : (front ++ x :: back).find? (·.serves pdid) = none := by
            simpa [subscribed] using unserved
          simp [running, none_found]
        have some_free : (freeSlots (front ++ x :: back) != 0) = true := by
          simp [freeSlots, free]
        have changes : x.settled divider = false := by
          simp [PeriodicSub.settled, free, Ne.symm active]
        simp only [set_slot, not_running, Bool.false_eq_true, if_false, unserved, Bool.false_or,
          some_free, iff_true]
        exact set_slot_stays pdid s divider front back x rest changes
      | full unserved full =>
        have not_running : running divider subs pdid = false := by
          have none_found : subs.find? (·.serves pdid) = none := by
            simpa [subscribed] using unserved
          simp [running, none_found]
        simp [not_running, unserved, full]

end ObdSimulator.UdsService
