import ObdSimulator.AppMain
import ObdSimulator.Lib.Divider
import ObdSimulator.PeriodicTable
import ObdSimulator.ServiceFrame

/-!
# The subscriptions as a map

The four slots of the scheduler stand for a partial map from periodic identifiers to
their dividers and counters. The map of one identifier is changed by a request that
subscribes it, by one that stops it, by a return to Default and by the scheduler
itself; every other call leaves it alone. Which requests get as far as one identifier
is read off the loops that they run.
-/

namespace ObdSimulator.UdsService

open Bytes NorFlash SlotMap

/-- The identifier of an active slot. -/
def PeriodicSub.key (x : PeriodicSub) : Option UInt8 := if x.divider = 0 then none else some x.pdid

/-- The slot an identifier is sent from. -/
def subscription (subs : List PeriodicSub) (pdid : UInt8) : Option PeriodicSub :=
  lookup PeriodicSub.key none subs (some pdid)

/-- Four slots without a repeated identifier, whose counters stand inside their periods. -/
structure Subscribers (subs : List PeriodicSub) : Prop where
  slots : subs.length = udsPeriodicSlots
  distinct : Distinct PeriodicSub.key none subs
  inside : ∀ x ∈ subs, x.divider ≠ 0 → x.counter < x.divider

/-- The four slots are free at the start. -/
theorem subscribers_initial : Subscribers (List.replicate udsPeriodicSlots {}) where
  slots := rfl
  distinct := List.pairwise_replicate.mpr (Or.inr fun used => absurd rfl used)
  inside := by
    intro x member active
    rw [List.eq_of_mem_replicate member] at active
    exact absurd rfl active

/-- An active slot is keyed by its identifier. -/
theorem PeriodicSub.key_eq_some (x : PeriodicSub) (pdid : UInt8) :
    x.key = some pdid ↔ x.divider ≠ 0 ∧ x.pdid = pdid := by
  unfold PeriodicSub.key
  by_cases idle : x.divider = 0 <;> simp [idle]

/-- A free slot has no key. -/
theorem PeriodicSub.key_eq_none (x : PeriodicSub) : x.key = none ↔ x.divider = 0 := by
  unfold PeriodicSub.key
  by_cases idle : x.divider = 0 <;> simp [idle]

/-- The search of the source for an identifier looks for its key. -/
theorem PeriodicSub.serves_key (x : PeriodicSub) (pdid : UInt8) :
    x.serves pdid = decide (x.key = some pdid) := by
  rw [Bool.eq_iff_iff, decide_eq_true_eq, x.key_eq_some, x.serves_eq, Bool.and_eq_true, bne_iff_ne,
    beq_iff_eq]

/-- The search of the source for a free slot looks for the absence of a key. -/
theorem PeriodicSub.idle_key (x : PeriodicSub) : (x.divider == 0) = decide (x.key = none) := by
  rw [Bool.eq_iff_iff, beq_iff_eq, decide_eq_true_eq, x.key_eq_none]

variable (subs : List PeriodicSub) (pdid : UInt8)

/-- The slot the source picks is the one a slot map picks. -/
theorem periodic_slot_for :
    periodicSlot subs pdid = slotFor PeriodicSub.key none subs (some pdid) := by
  simp only [periodicSlot, PeriodicSub.serves_key, PeriodicSub.idle_key]
  rfl

/-- A subscription is an active slot of its identifier. -/
theorem subscription_slot (x : PeriodicSub) (found : subscription subs pdid = some x) :
    x ∈ subs ∧ x.divider ≠ 0 ∧ x.pdid = pdid := by
  obtain ⟨member, named, _⟩ := lookup_mem PeriodicSub.key none subs (some pdid) x found
  exact ⟨member, (x.key_eq_some pdid).mp named⟩

/-! ## What is done to the table -/

section Updates

variable {subs} (table : Subscribers subs)

include table

/-- Taking a slot subscribes its identifier and no other. -/
theorem Subscribers.start (i : Nat) (divider : UInt8) (active : divider ≠ 0)
    (place : periodicSlot subs pdid = some i) :
    Subscribers (subs.set i ⟨pdid, divider, 0⟩) ∧ ∀ q,
      subscription (subs.set i ⟨pdid, divider, 0⟩) q =
        if q = pdid then some ⟨pdid, divider, 0⟩ else subscription subs q := by
  have named : (⟨pdid, divider, 0⟩ : PeriodicSub).key = some pdid :=
    (PeriodicSub.key_eq_some _ pdid).mpr ⟨active, rfl⟩
  rw [periodic_slot_for] at place
  obtain ⟨distinct, updated⟩ := assign PeriodicSub.key none subs (some pdid) i ⟨pdid, divider, 0⟩
    table.distinct (by simp) place named
  refine ⟨⟨?_, distinct, ?_⟩, ?_⟩
  · rw [List.length_set]
    exact table.slots
  · intro x member used
    rcases List.mem_or_eq_of_mem_set member with old | rfl
    · exact table.inside x old used
    · exact UInt8.pos_iff_ne_zero.mpr active
  · intro q
    rw [subscription, updated, Function.update_apply]
    simp only [Option.some.injEq]
    rfl

/-- Freeing the slots that `stops` selects ends their subscriptions and no other. -/
theorem Subscribers.stop (stops : PeriodicSub → Bool) :
    Subscribers (subs.map fun x => if stops x then { x with divider := 0 } else x) ∧
      ∀ q, subscription (subs.map fun x => if stops x then { x with divider := 0 } else x) q =
        (subscription subs q).filter fun x => !stops x := by
  have named : ∀ x ∈ subs,
      (if stops x then { x with divider := 0 } else x : PeriodicSub).key = x.key ∨
        (if stops x then { x with divider := 0 } else x : PeriodicSub).key = none := by
    intro x _
    split
    · exact Or.inr ((PeriodicSub.key_eq_none _).mpr rfl)
    · exact Or.inl rfl
  refine ⟨⟨?_, distinct_map PeriodicSub.key none _ subs named table.distinct, ?_⟩, ?_⟩
  · rw [List.length_map]
    exact table.slots
  · intro y member used
    obtain ⟨x, inside, rfl⟩ := List.mem_map.mp member
    split at used
    · exact absurd rfl used
    · rename_i kept
      rw [if_neg kept]
      exact table.inside x inside used
  · intro q
    rw [subscription, lookup_map PeriodicSub.key none _ subs _ named table.distinct]
    cases found : subscription subs q with
    | none =>
      rw [subscription] at found
      rw [found]
      rfl
    | some x =>
      have kept : x.key = some q := (x.key_eq_some q).mpr (subscription_slot subs q x found).2
      rw [subscription] at found
      rw [found, Option.bind_some]
      cases stopped : stops x with
      | true => simp [Option.filter, stopped, PeriodicSub.key]
      | false => simp [Option.filter, stopped, kept]

/-- Stopping an identifier ends its subscription and no other. -/
theorem Subscribers.stop_one (pdid : UInt8) :
    Subscribers (subs.map fun x => if x.serves pdid then { x with divider := 0 } else x) ∧
      ∀ q, subscription (subs.map fun x => if x.serves pdid then { x with divider := 0 } else x) q =
        if q = pdid then none else subscription subs q := by
  obtain ⟨table', stopped⟩ := table.stop (·.serves pdid)
  refine ⟨table', fun q => ?_⟩
  rw [stopped]
  cases found : subscription subs q with
  | none => simp
  | some x =>
    obtain ⟨_, active, rfl⟩ := subscription_slot subs q x found
    have serves : x.serves pdid = decide (x.pdid = pdid) := by
      simp [x.serves_key, x.key_eq_some, active]
    by_cases own : x.pdid = pdid <;> simp [Option.filter, serves, own]

/-- Stopping all ends all. -/
theorem Subscribers.stop_all :
    Subscribers (udsPeriodicStopAll subs) ∧
      ∀ q, subscription (udsPeriodicStopAll subs) q = none := by
  obtain ⟨table', stopped⟩ := table.stop fun _ => true
  refine ⟨table', fun q => (stopped q).trans ?_⟩
  cases subscription subs q <;> rfl

end Updates

/-! ## How far the loops get -/

/-- The identifiers of a request, up to the first that is this one. -/
def upTo (pdids : List UInt8) : List UInt8 := pdids.takeWhile (· != pdid) ++ [pdid]

/-- The identifiers up to the first of a name, read off the first of them. -/
theorem up_to_cons (q : UInt8) (rest : List UInt8) :
    upTo pdid (q :: rest) = if q = pdid then [pdid] else q :: upTo pdid rest := by
  unfold upTo
  by_cases own : q = pdid <;> simp [own]

/-- The loop of stopSending stops the identifiers it gets to. -/
theorem Subscribers.stop_sending {subs : List PeriodicSub} (table : Subscribers subs)
    (pdids : List UInt8) :
    Subscribers (stopSending subs pdids).1 ∧ ∀ q, subscription (stopSending subs pdids).1 q =
      if q ∈ pdids ∧ (stopSending subs (upTo q pdids)).2 = true then none
      else subscription subs q := by
  induction pdids generalizing subs with
  | nil => exact ⟨table, fun q => (if_neg fun both => absurd both.1 List.not_mem_nil).symm⟩
  | cons pdid rest ih =>
    by_cases running : subs.any (·.serves pdid) = true
    · obtain ⟨table', stopped⟩ := table.stop_one pdid
      obtain ⟨whole, later⟩ := ih table'
      have turn (more : List UInt8) : stopSending subs (pdid :: more) = stopSending
          (subs.map fun p => if p.serves pdid then { p with divider := 0 } else p) more := by
        rw [stopSending, if_pos running]
      rw [turn]
      refine ⟨whole, fun q => ?_⟩
      rw [later, stopped, up_to_cons]
      by_cases own : q = pdid
      · subst own
        have done : (stopSending subs [q]).2 = true := by
          rw [turn]
          rfl
        simp [done]
      · have other : ¬ pdid = q := fun same => own same.symm
        simp [own, other, turn]
    · have turn (more : List UInt8) : stopSending subs (pdid :: more) = (subs, false) := by
        rw [stopSending, if_neg running]
      rw [turn]
      refine ⟨table, fun q => ?_⟩
      have failed : (stopSending subs (upTo q (pdid :: rest))).2 = false := by
        rw [up_to_cons]
        split
        · rename_i own
          rw [← own, turn]
        · rw [turn]
      simp [failed]

/-- The subscription loop starts the identifiers it gets to. -/
theorem Subscribers.start_sending {subs : List PeriodicSub} (table : Subscribers subs) (s : App)
    (divider : UInt8) (active : divider ≠ 0) (pdids : List UInt8) :
    Subscribers (startSending s divider subs pdids).1 ∧
      ∀ q, subscription (startSending s divider subs pdids).1 q =
        if q ∈ pdids ∧ (startSending s divider subs (upTo q pdids)).2 = true then
          some ⟨q, divider, 0⟩
        else subscription subs q := by
  induction pdids generalizing subs with
  | nil => exact ⟨table, fun q => (if_neg fun both => absurd both.1 List.not_mem_nil).symm⟩
  | cons pdid rest ih =>
    have refused (turn : ∀ more, startSending s divider subs (pdid :: more) = (subs, false)) :
        Subscribers (startSending s divider subs (pdid :: rest)).1 ∧
          ∀ q, subscription (startSending s divider subs (pdid :: rest)).1 q =
            if q ∈ pdid :: rest ∧
                (startSending s divider subs (upTo q (pdid :: rest))).2 = true then
              some ⟨q, divider, 0⟩
            else subscription subs q := by
      rw [turn]
      refine ⟨table, fun q => ?_⟩
      have failed : (startSending s divider subs (upTo q (pdid :: rest))).2 = false := by
        rw [up_to_cons]
        split
        · rename_i own
          rw [← own, turn]
        · rw [turn]
      simp [failed]
    by_cases undefined : (dynFind s (periodicDid pdid)).isNone = true
    · apply refused
      intro more
      rw [start_sending_cons, if_pos undefined]
    · cases place : periodicSlot subs pdid with
      | none =>
        apply refused
        intro more
        rw [start_sending_cons, if_neg undefined, place]
      | some i =>
        obtain ⟨table', started⟩ := table.start pdid i divider active place
        obtain ⟨whole, later⟩ := ih table'
        have turn (more : List UInt8) : startSending s divider subs (pdid :: more) =
            startSending s divider (subs.set i ⟨pdid, divider, 0⟩) more := by
          rw [start_sending_cons, if_neg undefined, place]
        rw [turn]
        refine ⟨whole, fun q => ?_⟩
        rw [later, started, up_to_cons]
        by_cases own : q = pdid
        · subst own
          have done : (startSending s divider subs [q]).2 = true := by
            rw [turn]
            rfl
          simp [done]
        · have other : ¬ pdid = q := fun same => own same.symm
          simp [own, other, turn]

/-- A loop that serves all identifiers gets to each of them. -/
theorem start_sending_reaches (s : App) (divider : UInt8) (pdids : List UInt8)
    (done : (startSending s divider subs pdids).2 = true) (named : pdid ∈ pdids) :
    (startSending s divider subs (upTo pdid pdids)).2 = true := by
  induction pdids generalizing subs with
  | nil => cases named
  | cons q rest ih =>
    rw [up_to_cons]
    rw [start_sending_cons] at done
    split at done
    · cases done
    · rename_i defined
      cases place : periodicSlot subs q with
      | none =>
        rw [place] at done
        cases done
      | some i =>
        rw [place] at done
        by_cases own : q = pdid
        · subst own
          rw [if_pos rfl, start_sending_cons, if_neg defined, place]
          rfl
        · have within : pdid ∈ rest := (List.mem_cons.mp named).resolve_left (Ne.symm own)
          rw [if_neg own, start_sending_cons, if_neg defined, place]
          exact ih _ done within

/-! ## What a request does to one subscription -/

/-- The identifiers of ReadDataByPeriodicIdentifier. -/
def namedPdids (req : List UInt8) (reqLen : Nat) : List UInt8 := (req.take reqLen).drop 2

/-- The request gets as far as starting the identifier, with its divider. -/
def startsSending (s : App) (pdid : UInt8) (req : List UInt8) (reqLen : Nat) : Option UInt8 :=
  (periodicDivider (subFunction (byte req 1))).filter fun divider =>
    (namedPdids req reqLen).contains pdid &&
      (startSending s divider s.periodic (upTo pdid (namedPdids req reqLen))).2

/-- The request stops all identifiers, or gets as far as stopping this one. -/
def stopsSending (s : App) (pdid : UInt8) (req : List UInt8) (reqLen : Nat) : Bool :=
  decide (2 ≤ reqLen) && subFunction (byte req 1) == 0x04 &&
    (reqLen == 2 || (namedPdids req reqLen).contains pdid &&
      (stopSending s.periodic (upTo pdid (namedPdids req reqLen))).2)

/-- The loop sees the dynamic identifiers only. -/
theorem start_sending_stamped (s : App) (now : Nat) (divider : UInt8) (subs : List PeriodicSub)
    (pdids : List UInt8) :
    startSending (stamped s now) divider subs pdids = startSending s divider subs pdids := by
  induction pdids generalizing subs with
  | nil => rfl
  | cons pdid rest ih =>
    have same : dynFind (stamped s now) (periodicDid pdid) = dynFind s (periodicDid pdid) := rfl
    simp only [start_sending_cons, same, ih]

/-- The activity stamp does not matter to a subscription. -/
theorem starts_sending_stamped (s : App) (now : Nat) (pdid : UInt8) (req : List UInt8)
    (reqLen : Nat) :
    startsSending (stamped s now) pdid req reqLen = startsSending s pdid req reqLen := by
  simp only [startsSending, start_sending_stamped]
  rfl

/-- DiagnosticSessionControl for the Default session. -/
def returnsDefault (req : List UInt8) (reqLen : Nat) : Bool :=
  decide (2 ≤ reqLen) && subFunction (byte req 1) == 0x01

section Handlers

variable (mem : Memory) (s : App) (now : Nat) (req : List UInt8) (reqLen : Nat)

/-- 0x10 ends the subscriptions exactly when it returns to Default. -/
theorem session_control_subscription (table : Subscribers s.periodic) :
    Subscribers (handleSessionControl s now req reqLen).1.periodic ∧ ∀ q,
      subscription (handleSessionControl s now req reqLen).1.periodic q =
        if returnsDefault req reqLen then none else subscription s.periodic q := by
  unfold handleSessionControl returnsDefault
  simp only
  by_cases brief : reqLen < 2
  · rw [if_pos brief, decide_eq_false (Nat.not_le.mpr brief), Bool.false_and]
    exact ⟨table, fun _ => rfl⟩
  · rw [if_neg brief, decide_eq_true (Nat.not_lt.mp brief), Bool.true_and]
    by_cases default : subFunction (byte req 1) = 0x01
    · have entered : SessionType.ofByte (subFunction (byte req 1)) = some .default := if_pos default
      obtain ⟨stopped, all⟩ := table.stop_all
      rw [if_neg fun misfit => misfit.1 default, entered, default]
      exact ⟨stopped, all⟩
    · have other : (subFunction (byte req 1) == 0x01) = false := by simpa using default
      rw [other]
      split
      · exact ⟨table, fun _ => rfl⟩
      · cases asked : SessionType.ofByte (subFunction (byte req 1)) with
        | none => exact ⟨table, fun _ => rfl⟩
        | some t =>
          cases t with
          | default =>
            rw [SessionType.ofByte, if_neg default] at asked
            split at asked
            · cases asked
            · split at asked <;> cases asked
          | programming => exact ⟨table, fun _ => rfl⟩
          | extended => exact ⟨table, fun _ => rfl⟩

/-- 0x2A starts, stops or leaves each subscription as its identifier bytes say. -/
theorem read_periodic_subscription (table : Subscribers s.periodic) :
    Subscribers (handleReadDataPeriodic s req reqLen).1.periodic ∧ ∀ q,
      subscription (handleReadDataPeriodic s req reqLen).1.periodic q =
        (startsSending s q req reqLen).elim
          (if stopsSending s q req reqLen then none else subscription s.periodic q)
          fun divider => some ⟨q, divider, 0⟩ := by
  have unnamed (brief : reqLen ≤ 2) : namedPdids req reqLen = [] := by
    rw [namedPdids, List.drop_eq_nil_iff]
    exact (List.length_take_le reqLen req).trans brief
  have pdids : (req.take reqLen).drop 2 = namedPdids req reqLen := rfl
  unfold handleReadDataPeriodic startsSending stopsSending
  simp only [pdids]
  generalize subFunction (byte req 1) = mode
  by_cases brief : reqLen < 2
  · have none_started : ∀ q, (periodicDivider mode).filter (fun divider =>
        (namedPdids req reqLen).contains q &&
          (startSending s divider s.periodic (upTo q (namedPdids req reqLen))).2) = none := by
      intro q
      cases periodicDivider mode <;> simp [Option.filter, unnamed (Nat.le_of_lt brief)]
    simp only [if_pos brief, none_started, Nat.not_le.mpr brief, decide_false, Bool.false_and,
      Bool.false_eq_true, if_false]
    exact ⟨table, fun _ => rfl⟩
  rw [if_neg brief]
  by_cases stop : mode = 0x04
  · subst stop
    have no_divider : periodicDivider 0x04 = none := rfl
    simp only [no_divider, Option.filter_none, decide_eq_true (Nat.not_lt.mp brief), if_true,
      beq_self_eq_true, Bool.true_and]
    by_cases all : reqLen = 2
    · simp only [all, if_true, beq_self_eq_true, Bool.true_or]
      exact table.stop_all
    · have some_named : (reqLen == 2) = false := by simpa using all
      obtain ⟨table', stopped⟩ := table.stop_sending (namedPdids req reqLen)
      simp only [if_neg all, some_named, Bool.false_or, Bool.and_eq_true, List.contains_iff_mem]
      cases (stopSending s.periodic (namedPdids req reqLen)).2 <;> exact ⟨table', stopped⟩
  · have no_stop : (mode == 0x04) = false := by simpa using stop
    simp only [if_neg stop, no_stop, Bool.and_false, Bool.false_and, Bool.false_eq_true, if_false]
    cases known : periodicDivider mode with
    | none => exact ⟨table, fun _ => rfl⟩
    | some divider =>
      obtain ⟨table', started⟩ := table.start_sending s divider
        (periodic_divider_active mode divider known).1 (namedPdids req reqLen)
      by_cases short : reqLen < 3
      · simp only [if_pos short, unnamed (Nat.le_of_lt_succ short), List.contains_nil,
          Bool.false_and, Option.filter, Bool.false_eq_true, if_false]
        exact ⟨table, fun _ => rfl⟩
      · have outcome : ∀ q, ((some divider).filter fun divider =>
              (namedPdids req reqLen).contains q && (startSending s divider s.periodic
                (upTo q (namedPdids req reqLen))).2).elim (subscription s.periodic q)
                  (fun divider => some ⟨q, divider, 0⟩) =
            subscription (startSending s divider s.periodic (namedPdids req reqLen)).1 q := by
          intro q
          rw [started]
          simp only [Option.filter, Bool.and_eq_true, List.contains_iff_mem]
          split <;> rfl
        simp only [if_neg short]
        cases (startSending s divider s.periodic (namedPdids req reqLen)).2 <;>
          exact ⟨table', fun q => (outcome q).symm⟩

/-- How the switch reaches 0x2A. -/
theorem serve_read_periodic (service : byte req 0 = udsSidReadDataPeriodic) :
    serve mem s now req reqLen =
      gated s udsSidReadDataPeriodic (handleReadDataPeriodic s req reqLen) := by
  unfold serve
  rw [service]
  rfl

end Handlers

/-! ## The scheduler -/

section Scheduler

variable (mem : Memory) (s : App)

/-- The messages that carry the data of an identifier. -/
def carries (pdid : UInt8) (message : List UInt8) : Bool := message.head? == some pdid

/-- What a tick makes of one slot, and what the slot sends. -/
inductive TickedSub (x : PeriodicSub) : PeriodicSub × List (List UInt8) → Prop
  | idle (idle : x.divider = 0) : TickedSub x (x, [])
  | counts (active : x.divider ≠ 0) (early : x.counter + 1 < x.divider) :
      TickedSub x ({ x with counter := x.counter + 1 }, [])
  | ends (active : x.divider ≠ 0) (due : ¬ x.counter + 1 < x.divider)
      (nothing : periodicData mem s x.pdid = []) :
      TickedSub x ({ x with counter := 0, divider := 0 }, [])
  | sends (active : x.divider ≠ 0) (due : ¬ x.counter + 1 < x.divider)
      (something : periodicData mem s x.pdid ≠ []) :
      TickedSub x ({ x with counter := 0 }, [x.pdid :: periodicData mem s x.pdid])

/-- A tick finds a subscription free, waiting, due with data, or due without. -/
theorem tick_sub_case (x : PeriodicSub) : TickedSub mem s x (periodicTickSub mem s x) := by
  unfold periodicTickSub
  split
  · exact .idle ‹_›
  · split
    · exact .counts ‹_› ‹_›
    · simp only
      split
      · exact .ends ‹_› ‹_› ‹_›
      · exact .sends ‹_› ‹_› ‹_›

/-- A tick keeps the key of a subscription or ends it. -/
theorem tick_sub_named (x : PeriodicSub) :
    (periodicTickSub mem s x).1.key = x.key ∨ (periodicTickSub mem s x).1.key = none := by
  have turn := tick_sub_case mem s x
  generalize periodicTickSub mem s x = out at *
  cases turn with
  | idle => exact Or.inl rfl
  | counts => exact Or.inl rfl
  | ends => exact Or.inr rfl
  | sends => exact Or.inl rfl

/-- A slot sends in the name of its own identifier only. -/
theorem tick_sub_silent (x : PeriodicSub) (pdid : UInt8) (other : x.key ≠ some pdid) :
    (periodicTickSub mem s x).2.filter (carries pdid) = [] := by
  rw [ne_eq, x.key_eq_some, not_and] at other
  have turn := tick_sub_case mem s x
  generalize periodicTickSub mem s x = out at *
  cases turn with
  | idle => rfl
  | counts => rfl
  | ends => rfl
  | sends active => simp [carries, other active]

/-- A tick keeps the counter of a subscription inside its period. -/
theorem tick_sub_inside (x : PeriodicSub) (inside : x.divider ≠ 0 → x.counter < x.divider)
    (active : (periodicTickSub mem s x).1.divider ≠ 0) :
    (periodicTickSub mem s x).1.counter < (periodicTickSub mem s x).1.divider := by
  have turn := tick_sub_case mem s x
  generalize periodicTickSub mem s x = out at *
  cases turn with
  | idle => exact inside active
  | counts _ early => exact early
  | ends => exact absurd rfl active
  | sends active => exact UInt8.pos_iff_ne_zero.mpr active

/-- A counter that stands inside its period counts without wrapping. -/
theorem counter_next (x : PeriodicSub) (inside : x.counter < x.divider) :
    (x.counter + 1).toNat = x.counter.toNat + 1 := by
  have below := UInt8.lt_iff_toNat_lt.mp inside
  have bound := x.divider.toNat_lt
  rw [UInt8.toNat_add, UInt8.toNat_one]
  exact Nat.mod_eq_of_lt (by omega)

/-- A subscription is due when its divider fires. -/
theorem due_fires (x : PeriodicSub) (inside : x.counter < x.divider) :
    x.counter + 1 < x.divider ↔ Divider.fires x.divider.toNat x.counter.toNat = false := by
  rw [Divider.fires_eq_false, UInt8.lt_iff_toNat_lt, counter_next x inside]

/-- A tick moves each subscription for itself: it counts, sends the data of its identifier or
finds none and ends. -/
theorem periodic_tick_subscription (table : Subscribers s.periodic) :
    Subscribers (udsPeriodicTick mem s).1.periodic ∧ ∀ q,
      subscription (udsPeriodicTick mem s).1.periodic q = (subscription s.periodic q).bind (fun x =>
        if x.counter + 1 < x.divider then some { x with counter := x.counter + 1 }
        else if periodicData mem s q = [] then none else some { x with counter := 0 }) ∧
      (udsPeriodicTick mem s).2.filter (carries q) =
        ((subscription s.periodic q).map fun x =>
          if x.counter + 1 < x.divider then [] else if periodicData mem s q = [] then []
          else [q :: periodicData mem s q]).getD [] := by
  have named : ∀ x ∈ s.periodic, (periodicTickSub mem s x).1.key = x.key ∨
      (periodicTickSub mem s x).1.key = none := fun x _ => tick_sub_named mem s x
  have ticked : (udsPeriodicTick mem s).1.periodic =
      s.periodic.map fun x => (periodicTickSub mem s x).1 := by
    simp [udsPeriodicTick, Function.comp_def]
  have sent (q : UInt8) : (udsPeriodicTick mem s).2.filter (carries q) =
      s.periodic.flatMap fun x => (periodicTickSub mem s x).2.filter (carries q) := by
    simp [udsPeriodicTick, List.flatMap_map, List.filter_flatMap]
  refine ⟨⟨?_, ?_, ?_⟩, fun q => ⟨?_, ?_⟩⟩
  · rw [ticked, List.length_map]
    exact table.slots
  · rw [ticked]
    exact distinct_map PeriodicSub.key none _ s.periodic named table.distinct
  · rw [ticked]
    intro y member
    obtain ⟨x, within, rfl⟩ := List.mem_map.mp member
    exact tick_sub_inside mem s x (table.inside x within)
  · rw [ticked, subscription, lookup_map PeriodicSub.key none _ s.periodic _ named table.distinct]
    refine Option.bind_congr fun x found => ?_
    obtain ⟨_, active, rfl⟩ := subscription_slot s.periodic q x found
    have turn := tick_sub_case mem s x
    generalize periodicTickSub mem s x = out at turn ⊢
    cases turn with
    | idle idle => exact absurd idle active
    | counts _ early => simp [PeriodicSub.key, active, early]
    | ends _ due nothing => simp [PeriodicSub.key, due, nothing]
    | sends _ due something => simp [PeriodicSub.key, active, due, something]
  · rw [sent, flat_map_lookup PeriodicSub.key none _ s.periodic (some q) (by simp)
      (fun x _ other => tick_sub_silent mem s x q other) table.distinct]
    congr 1
    refine Option.map_congr fun x found => ?_
    obtain ⟨_, active, rfl⟩ := subscription_slot s.periodic q x found
    have turn := tick_sub_case mem s x
    generalize periodicTickSub mem s x = out at turn ⊢
    cases turn with
    | idle idle => exact absurd idle active
    | counts _ early => simp [early]
    | ends _ due nothing => simp [due, nothing]
    | sends _ due something => simp [carries, due, something]

/-- In the terms of a divider: a subscription counts the tick, and sends when it fires. -/
theorem tick_counts (table : Subscribers s.periodic) (q : UInt8) (x : PeriodicSub)
    (found : subscription s.periodic q = some x)
    (assembled : Divider.fires x.divider.toNat x.counter.toNat = true → periodicData mem s q ≠ []) :
    ∃ c, subscription (udsPeriodicTick mem s).1.periodic q = some { x with counter := c } ∧
      c.toNat = Divider.next x.divider.toNat x.counter.toNat ∧
      (udsPeriodicTick mem s).2.filter (carries q) =
        if Divider.fires x.divider.toNat x.counter.toNat then [q :: periodicData mem s q]
        else [] := by
  obtain ⟨member, active, _⟩ := subscription_slot s.periodic q x found
  have inside := table.inside x member active
  obtain ⟨_, moved⟩ := periodic_tick_subscription mem s table
  obtain ⟨kept, sent⟩ := moved q
  rw [kept, sent, found, Option.bind_some, Option.map_some, Option.getD_some, Divider.next]
  cases fired : Divider.fires x.divider.toNat x.counter.toNat with
  | false =>
    have early := (due_fires x inside).mpr fired
    rw [if_pos early, if_pos early]
    exact ⟨_, rfl, counter_next x inside, rfl⟩
  | true =>
    have due : ¬ x.counter + 1 < x.divider := by
      rw [due_fires x inside, fired]
      exact Bool.true_eq_false.mp
    rw [if_neg due, if_neg due, if_neg (assembled fired), if_neg (assembled fired)]
    exact ⟨0, rfl, rfl, rfl⟩

/-- A subscription that fires on nothing ends. -/
theorem tick_ends (table : Subscribers s.periodic) (q : UInt8) (x : PeriodicSub)
    (found : subscription s.periodic q = some x)
    (fired : Divider.fires x.divider.toNat x.counter.toNat = true)
    (nothing : periodicData mem s q = []) :
    subscription (udsPeriodicTick mem s).1.periodic q = none ∧
      (udsPeriodicTick mem s).2.filter (carries q) = [] := by
  obtain ⟨member, active, _⟩ := subscription_slot s.periodic q x found
  have due : ¬ x.counter + 1 < x.divider := by
    rw [due_fires x (table.inside x member active), fired]
    exact Bool.true_eq_false.mp
  obtain ⟨_, moved⟩ := periodic_tick_subscription mem s table
  obtain ⟨kept, sent⟩ := moved q
  rw [kept, sent, found, Option.bind_some, Option.map_some, Option.getD_some, if_neg due,
    if_neg due, if_pos nothing, if_pos nothing]
  exact ⟨rfl, rfl⟩

end Scheduler

end ObdSimulator.UdsService

/-! ## What a call does to one subscription -/

namespace ObdSimulator.AppMain

open Bytes NorFlash UdsService

/-- The divider a call subscribes the identifier with, if it does. A refused request may have
got as far. -/
def subscribes (pdid : UInt8) (s : App) : Input → Option UInt8
  | .request _ req reqLen addr =>
    if admitted req reqLen addr && byte req 0 == udsSidReadDataPeriodic &&
        (accessGate s udsSidReadDataPeriodic).isNone then
      startsSending s pdid req reqLen
    else none
  | .work _ _ | .boot _ _ => none

/-- A call that stops the identifier: by its request, by a return to Default or by a reset. -/
def unsubscribes (pdid : UInt8) (s : App) : Input → Bool
  | .request _ req reqLen addr => admitted req reqLen addr &&
      (byte req 0 == udsSidDiagSessionCtrl && returnsDefault req reqLen ||
        byte req 0 == udsSidReadDataPeriodic &&
          (accessGate s udsSidReadDataPeriodic).isNone && stopsSending s pdid req reqLen)
  | .work now (.sessionTick _) => diagSessionExpired s.session now
  | .work _ _ => false
  | .boot _ _ => true

/-- A call of the scheduler. -/
def isTick : Input → Bool
  | .work _ .periodicTick => true
  | _ => false

/-- The inputs that are ticks. -/
theorem is_tick_iff (i : Input) : isTick i = true ↔ ∃ now, i = .work now .periodicTick := by
  cases i with
  | work now k => cases k <;> simp [isTick]
  | request now req reqLen addr => simp [isTick]
  | boot now ready => simp [isTick]

/-- The periodic messages of an identifier. -/
def framesOf (pdid : UInt8) (events : List Event) : List (List UInt8) :=
  events.filterMap fun
    | .periodic message => if carries pdid message then some message else none
    | .answered _ _ _ => none

/-- The frames of one identifier, one part behind the other. -/
theorem frames_append (pdid : UInt8) (first second : List Event) :
    framesOf pdid (first ++ second) = framesOf pdid first ++ framesOf pdid second :=
  List.filterMap_append

/-- The frames of an identifier are read off the messages of a tick. -/
theorem frames_of_messages (pdid : UInt8) (messages : List (List UInt8)) :
    framesOf pdid (messages.map .periodic) = messages.filter (carries pdid) := by
  rw [framesOf, List.filterMap_map, ← List.filterMap_eq_filter]
  rfl

/-- A request changes a subscription as the two predicates on it say. -/
theorem dispatch_subscription (mem : Memory) (s : App) (now : Nat) (req : List UInt8)
    (reqLen : Nat) (addr : AddrType) (table : Subscribers s.periodic) :
    Subscribers (udsDispatchRequest mem s now req reqLen addr).1.periodic ∧ ∀ q,
      subscription (udsDispatchRequest mem s now req reqLen addr).1.periodic q =
        (subscribes q s (.request now req reqLen addr)).elim
          (if unsubscribes q s (.request now req reqLen addr) then none
            else subscription s.periodic q)
          fun divider => some ⟨q, divider, 0⟩ := by
  by_cases reaches : admitted req reqLen addr = true
  swap
  · have refused : admitted req reqLen addr = false := by simpa using reaches
    have ignored := congrArg Prod.fst (dispatch_ignored mem s now req reqLen addr refused)
    simp only [ignored, subscribes, unsubscribes, refused, Bool.false_and, Bool.false_eq_true,
      if_false, Option.elim_none, implies_true, and_true]
    exact table
  have served := dispatch_served mem s now req reqLen addr reaches
  have table' : Subscribers (stamped s now).periodic := table
  simp only [served, subscribes, unsubscribes, reaches, Bool.true_and]
  by_cases session : byte req 0 = udsSidDiagSessionCtrl
  · have handled := serve_session_control mem (stamped s now) now req reqLen session
    have other : (udsSidDiagSessionCtrl == udsSidReadDataPeriodic) = false := by decide
    simp only [handled, session, beq_self_eq_true, other, Bool.true_and, Bool.false_and,
      Bool.or_false, Bool.false_eq_true, if_false, Option.elim_none]
    exact session_control_subscription (stamped s now) now req reqLen table'
  have no_session : (byte req 0 == udsSidDiagSessionCtrl) = false := by simpa using session
  by_cases periodic : byte req 0 = udsSidReadDataPeriodic
  · have handled := serve_read_periodic mem (stamped s now) now req reqLen periodic
    have other : (udsSidReadDataPeriodic == udsSidDiagSessionCtrl) = false := by decide
    have same : accessGate (stamped s now) udsSidReadDataPeriodic =
        accessGate s udsSidReadDataPeriodic := rfl
    rw [handled, gated, same, periodic, other, beq_self_eq_true]
    cases accessGate s udsSidReadDataPeriodic with
    | some code => exact ⟨table, fun _ => rfl⟩
    | none =>
      obtain ⟨read, moved⟩ := read_periodic_subscription (stamped s now) req reqLen table'
      refine ⟨read, fun q => (moved q).trans ?_⟩
      rw [starts_sending_stamped]
      rfl
  · have no_periodic : (byte req 0 == udsSidReadDataPeriodic) = false := by simpa using periodic
    have kept := (serve_frame mem (stamped s now) now req reqLen).periodic session periodic
    simp only [kept, no_session, no_periodic, Bool.false_and, Bool.or_false, Bool.false_eq_true,
      if_false, Option.elim_none]
    exact ⟨table, fun _ => rfl⟩

/-- A call other than the scheduler sends nothing, and moves each subscription for itself. -/
theorem step_subscription (mem : Memory) (s : App) (i : Input) (table : Subscribers s.periodic)
    (other : isTick i = false) :
    Subscribers (step mem s i).1.periodic ∧ ∀ q,
      subscription (step mem s i).1.periodic q =
        (subscribes q s i).elim
          (if unsubscribes q s i then none else subscription s.periodic q)
          (fun divider => some ⟨q, divider, 0⟩) ∧
      framesOf q (step mem s i).2 = [] := by
  cases i with
  | request now req reqLen addr =>
    obtain ⟨table', moved⟩ := dispatch_subscription mem s now req reqLen addr table
    exact ⟨table', fun q => ⟨moved q, rfl⟩⟩
  | work now k =>
    cases k with
    | simulate => exact ⟨table, fun _ => ⟨rfl, rfl⟩⟩
    | periodicTick => cases other
    | sessionTick stamp =>
      simp only [step, Work.run, expireSession, unsubscribes, subscribes, Option.elim_none]
      by_cases expired : diagSessionExpired s.session now = true
      · obtain ⟨table', all⟩ := table.stop_all
        simp only [expired, if_true]
        exact ⟨table', fun q => ⟨all q, rfl⟩⟩
      · simp only [expired, if_false, Bool.false_eq_true]
        exact ⟨table, fun _ => ⟨trivial, rfl⟩⟩
  | boot now ready =>
    refine ⟨subscribers_initial, fun q => ⟨?_, rfl⟩⟩
    refine SlotMap.lookup_free PeriodicSub.key none _ (fun x member => ?_) (some q)
    rw [List.eq_of_mem_replicate member]
    rfl

/-- Every call keeps the slots a map of the identifiers. -/
theorem step_subscribers (mem : Memory) (s : App) (i : Input) (table : Subscribers s.periodic) :
    Subscribers (step mem s i).1.periodic := by
  cases ticks : isTick i with
  | false => exact (step_subscription mem s i table ticks).1
  | true =>
    obtain ⟨now, rfl⟩ := (is_tick_iff i).mp ticks
    exact (periodic_tick_subscription mem s table).1

/-- The subscriptions of every reachable state. -/
theorem run_subscribers (boot ready : Nat) (calls : List (Memory × Input)) :
    Subscribers (Run.final (Run.opened step) (appInit boot ready) calls).periodic := by
  apply Run.final_of_kept (Run.opened step) fun s => Subscribers s.periodic
  · intro s call table
    exact step_subscribers call.1 s call.2 table
  · exact subscribers_initial

end ObdSimulator.AppMain
