import ObdSimulator.DynamicTable
import ObdSimulator.Subscriptions

/-!
# The rate of a subscription

A subscription is a divider of the scheduler's ticks, and every other call leaves it
alone unless it gets as far as stopping or starting its identifier. From a subscription
on, the identifier is therefore sent at every tick that its divider divides, with the
data it then stands for.
-/

namespace ObdSimulator.AppMain

open Bytes NorFlash UdsService

/-- The calls of the scheduler in a run. -/
def ticks (calls : List (Memory × Input)) : Nat := calls.countP fun call => isTick call.2

/-- The number of ticks among some calls, read off the first. -/
theorem ticks_cons (call : Memory × Input) (rest : List (Memory × Input)) :
    ticks (call :: rest) = ticks rest + if isTick call.2 then 1 else 0 := List.countP_cons

/-- A call that neither stops nor starts the identifier, and a tick that finds its data. -/
def Undisturbed (pdid : UInt8) (_ : List Event) (s : App) (call : Memory × Input) : Prop :=
  subscribes pdid s call.2 = none ∧ unsubscribes pdid s call.2 = false ∧
    (isTick call.2 = true → periodicData call.1 s pdid ≠ [])

instance (pdid : UInt8) (past : List Event) (s : App) (call : Memory × Input) :
    Decidable (Undisturbed pdid past s call) := inferInstanceAs (Decidable (_ ∧ _ ∧ _))

/-- One call moves an undisturbed subscription as its divider moves. -/
theorem step_counts (mem : Memory) (s : App) (i : Input) (table : Subscribers s.periodic)
    (pdid : UInt8) (x : PeriodicSub) (found : subscription s.periodic pdid = some x)
    (past : List Event) (undisturbed : Undisturbed pdid past s (mem, i)) :
    ∃ c, subscription (step mem s i).1.periodic pdid = some { x with counter := c } ∧
      c.toNat = (if isTick i then Divider.next x.divider.toNat x.counter.toNat
        else x.counter.toNat) ∧
      framesOf pdid (step mem s i).2 =
        if isTick i ∧ Divider.fires x.divider.toNat x.counter.toNat then
          [pdid :: periodicData mem s pdid]
        else [] := by
  obtain ⟨unstarted, unstopped, assembled⟩ := undisturbed
  cases ticking : isTick i with
  | false =>
    obtain ⟨_, moved⟩ := step_subscription mem s i table ticking
    obtain ⟨kept, silent⟩ := moved pdid
    rw [unstarted, unstopped, found] at kept
    exact ⟨x.counter, kept, rfl, by simpa using silent⟩
  | true =>
    obtain ⟨now, rfl⟩ := (is_tick_iff i).mp ticking
    obtain ⟨c, kept, count, sent⟩ := tick_counts mem s table pdid x found
      fun _ => assembled ticking
    refine ⟨c, kept, count, ?_⟩
    simp only [step, Work.run, frames_of_messages, sent, true_and]

/-- Along a run an undisturbed subscription is a divider of the ticks: its counter is what
their number leaves over, and it has been sent as often as its period went into it. -/
theorem run_counts (pdid : UInt8) (past : List Event) (calls : List (Memory × Input)) (s : App)
    (table : Subscribers s.periodic) (x : PeriodicSub)
    (found : subscription s.periodic pdid = some x)
    (undisturbed : Run.Along (Run.opened step) (Undisturbed pdid) past s calls)
    (n : Nat) (count : x.counter.toNat = n % x.divider.toNat) :
    ∃ c, subscription (Run.final (Run.opened step) s calls).periodic pdid =
        some { x with counter := c } ∧
      c.toNat = (n + ticks calls) % x.divider.toNat ∧
      n / x.divider.toNat + (framesOf pdid (Run.trace (Run.opened step) s calls)).length =
        (n + ticks calls) / x.divider.toNat := by
  have proper : 0 < x.divider.toNat := by
    obtain ⟨_, active, _⟩ := subscription_slot s.periodic pdid x found
    exact UInt8.lt_iff_toNat_lt.mp (UInt8.pos_iff_ne_zero.mpr active)
  induction calls generalizing past s x n with
  | nil => exact ⟨x.counter, found, count, rfl⟩
  | cons call rest ih =>
    obtain ⟨mem, i⟩ := call
    obtain ⟨c, kept, moved, sent⟩ := step_counts mem s i table pdid x found past undisturbed.1
    have table' := step_subscribers mem s i table
    simp only [Run.final, Run.trace, Run.opened, frames_append, List.length_append, sent,
      ticks_cons]
    cases ticking : isTick i with
    | false =>
      rw [ticking] at moved
      have later := ih _ _ table' { x with counter := c } kept undisturbed.2 n
        (moved.trans count) proper
      simpa using later
    | true =>
      have fired := Divider.fired_succ x.divider.toNat proper n
      rw [ticking, if_pos rfl, count, Divider.next_mod _ proper] at moved
      obtain ⟨c', kept', count', sent'⟩ := ih _ _ table' { x with counter := c } kept
        undisturbed.2 (n + 1) moved proper
      have total : n + (ticks rest + 1) = n + 1 + ticks rest := by omega
      simp only [fired] at sent'
      simp only [count, if_true, true_and, total]
      refine ⟨c', kept', count', ?_⟩
      rw [← sent']
      cases Divider.fires x.divider.toNat (n % x.divider.toNat) with
      | false => simp
      | true => simp [Nat.add_assoc]

/-! ## The subscription -/

/-- The identifiers of the active slots. -/
def activePdids (s : App) : List UInt8 := (s.periodic.filter (·.divider != 0)).map (·.pdid)

/-- At most four identifiers are subscribed, each once. -/
theorem active_distinct (s : App) (table : Subscribers s.periodic) :
    (activePdids s).Nodup ∧ (activePdids s).length ≤ udsPeriodicSlots := by
  constructor
  · rw [activePdids, List.Nodup, List.pairwise_map]
    refine (table.distinct.filter _).imp_of_mem ?_
    intro x y inside inside' apart same
    simp only [List.mem_filter, bne_iff_ne, ne_eq] at inside inside'
    have named := (x.key_eq_some x.pdid).mpr ⟨inside.2, rfl⟩
    have named' := (y.key_eq_some x.pdid).mpr ⟨inside'.2, same.symm⟩
    exact apart (by simp [named]) (named.trans named'.symm)
  · rw [activePdids, List.length_map, ← table.slots]
    exact List.length_filter_le _ _

/-- A positive ReadDataByPeriodicIdentifier with a rate subscribes what it names. -/
theorem positive_subscribes (mem : Memory) (s : App) (now : Nat) (req : List UInt8) (reqLen : Nat)
    (addr : AddrType) (pdid divider : UInt8) (service : byte req 0 = udsSidReadDataPeriodic)
    (rate : periodicDivider (subFunction (byte req 1)) = some divider)
    (named : pdid ∈ namedPdids req reqLen)
    (positive : accepted req reqLen addr (udsDispatchRequest mem s now req reqLen addr).2 = true) :
    subscribes pdid s (.request now req reqLen addr) = some divider := by
  rcases dispatch_gated mem s now req reqLen addr _ _
      (serve_read_periodic mem (stamped s now) now req reqLen service) with
    ⟨refused, _⟩ | ⟨reaches, gate, _, answer⟩
  · rw [refused] at positive
    cases positive
  rw [answer] at positive
  have stop := (periodic_divider_active _ divider rate).2
  have pdids : (req.take reqLen).drop 2 = namedPdids req reqLen := rfl
  simp only [handleReadDataPeriodic, if_neg stop, rate, pdids, start_sending_stamped] at positive
  have done : (startSending s divider s.periodic (namedPdids req reqLen)).2 = true := by
    split at positive
    · cases positive
    · split at positive
      · cases positive
      · split at positive
        · assumption
        · cases positive
  have reached := start_sending_reaches s.periodic pdid s divider _ done named
  have listed : (namedPdids req reqLen).contains pdid = true := List.contains_iff_mem.mpr named
  simp only [subscribes, startsSending, reaches, service, gate, rate, reached, listed,
    Option.isNone_none, beq_self_eq_true, Bool.and_self, if_true, Option.filter]

/-- The rate law. In every reachable state no two active slots hold the same identifier, so
that at most four are active. After a positive subscription, along any calls that neither
stop nor start the identifier and as long as its data can be assembled, the ticks send it
as often as the divider goes into their number: at every tick the divider divides, and
then its name and the data it stands for. -/
theorem periodic_rate_law (boot ready : Nat) (past : List (Memory × Input)) :
    let s := Run.final (Run.opened step) (appInit boot ready) past
    ((activePdids s).Nodup ∧ (activePdids s).length ≤ udsPeriodicSlots) ∧
    ∀ (mem : Memory) (now : Nat) (req : List UInt8) (reqLen : Nat) (addr : AddrType)
      (pdid divider : UInt8),
      byte req 0 = udsSidReadDataPeriodic →
      periodicDivider (subFunction (byte req 1)) = some divider →
      pdid ∈ namedPdids req reqLen →
      accepted req reqLen addr (udsDispatchRequest mem s now req reqLen addr).2 = true →
      ∀ later : List (Memory × Input),
        let started := (udsDispatchRequest mem s now req reqLen addr).1
        Run.Along (Run.opened step) (Undisturbed pdid) [] started later →
        (framesOf pdid (Run.trace (Run.opened step) started later)).length =
            ticks later / divider.toNat ∧
          ∀ (before after : List (Memory × Input)) (mem' : Memory) (now' : Nat),
            later = before ++ (mem', .work now' .periodicTick) :: after →
            let t := Run.final (Run.opened step) started before
            framesOf pdid (step mem' t (.work now' .periodicTick)).2 =
              if divider.toNat ∣ ticks before + 1 then [pdid :: periodicData mem' t pdid]
              else [] := by
  intro s
  have table := run_subscribers boot ready past
  refine ⟨active_distinct s table, ?_⟩
  intro mem now req reqLen addr pdid divider service rate named positive later started undisturbed
  have subscribed := positive_subscribes mem s now req reqLen addr pdid divider service rate named
    positive
  obtain ⟨table', moved⟩ := dispatch_subscription mem s now req reqLen addr table
  have found : subscription started.periodic pdid = some ⟨pdid, divider, 0⟩ := by
    rw [moved, subscribed, Option.elim_some]
  have counter : ((0 : UInt8)).toNat = 0 % divider.toNat := (Nat.zero_mod _).symm
  have proper : 0 < divider.toNat := by
    have active := (periodic_divider_active _ divider rate).1
    exact UInt8.lt_iff_toNat_lt.mp (UInt8.pos_iff_ne_zero.mpr active)
  constructor
  · obtain ⟨_, _, _, sent⟩ := run_counts pdid [] later started table' ⟨pdid, divider, 0⟩ found
      undisturbed 0 counter
    simpa using sent
  · rintro before after mem' now' rfl t
    obtain ⟨first, here, _⟩ := (Run.along_append _ _ _ _ _ _).mp undisturbed
    obtain ⟨c, kept, count, _⟩ := run_counts pdid [] before started table' ⟨pdid, divider, 0⟩ found
      first 0 counter
    have table'' : Subscribers t.periodic :=
      Run.final_of_kept (Run.opened step) (fun s => Subscribers s.periodic)
        (fun s call table => step_subscribers call.1 s call.2 table) started before table'
    obtain ⟨_, _, _, sent⟩ := step_counts mem' t (.work now' .periodicTick) table'' pdid
      ⟨pdid, divider, c⟩ kept _ here
    rw [Nat.zero_add] at count
    simp only [isTick, true_and, count] at sent
    rw [sent, if_congr (Divider.fires_mod _ proper _) rfl rfl]

/-- Five ticks with a keep-alive between them. -/
def fiveTicks : List (Memory × Input) :=
  List.replicate 3 (erasedMemory, .work 0 .periodicTick) ++
    (erasedMemory, .request 5 [0x3E, 0x80] 2 .functional) ::
      List.replicate 2 (erasedMemory, .work 10 .periodicTick)

/-- Five ticks of the fast rate. -/
theorem periodic_rate_law_fast :
    (framesOf 0x00 (Run.trace (Run.opened step)
      (udsDispatchRequest erasedMemory (Run.final (Run.opened step) (appInit 0 0) definingCalls) 0
        [0x2A, 0x03, 0x00] 3 .physical).1 fiveTicks)).length = ticks fiveTicks / 2 := by
  obtain ⟨_, law⟩ := periodic_rate_law 0 0 definingCalls
  exact (law erasedMemory 0 [0x2A, 0x03, 0x00] 3 .physical 0x00 2 rfl rfl (by decide)
    (by decide +kernel) fiveTicks (by decide +kernel)).1

end ObdSimulator.AppMain
