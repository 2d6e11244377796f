import ObdSimulator.IndirectReads
import ObdSimulator.PeriodicRate

/-!
# Subscriptions of a cleared identifier

Clearing a dynamic identifier leaves its subscription in the scheduler, to be found
without data when it next comes due. An identifier that is defined again before that
tick is sent on, although nobody has subscribed it since. Whether that happens is
decided at one tick of the run, which the counter at the time of the clearing gives.
-/

namespace ObdSimulator.UdsService

open Bytes NorFlash

/-- The identifier is defined, by slices that its sources have. -/
def assemblable (s : App) (did : UInt16) : Bool :=
  (dynFind s did).any fun slot => slot.recs.all (sliceFits s)

/-- Every periodic identifier stands for a dynamic one. -/
theorem periodic_did_dynamic (pdid : UInt8) : dynamicDid (periodicDid pdid) := by
  have below := pdid.toNat_lt
  have value : (periodicDid pdid).toNat = 0xF200 + pdid.toNat := by
    have whole : 0xF200 + pdid.toNat = 0xF200 ||| pdid.toNat :=
      Nat.two_pow_add_eq_or_of_lt (show pdid.toNat < 2 ^ 8 from below) 0xF2
    rw [whole, periodicDid, UInt16.toNat_or, UInt8.toNat_toUInt16]
    rfl
  constructor
  · rw [UInt16.le_iff_toNat_le, value]
    exact Nat.le_add_right _ _
  · rw [UInt16.le_iff_toNat_le, value]
    have last : udsDidDynamicEnd.toNat = 0xF3FF := rfl
    omega

/-- The scheduler finds no data exactly for an identifier that is not assemblable. -/
theorem periodic_data_empty_iff (mem : Memory) (s : App) (table : Table s.dyn) (pdid : UInt8) :
    periodicData mem s pdid = [] ↔ assemblable s (periodicDid pdid) = false := by
  unfold periodicData assemblable
  cases found : dynFind s (periodicDid pdid) with
  | none => simp
  | some slot =>
    obtain ⟨member, named⟩ := AppMain.dyn_find_mem s (periodicDid pdid) slot found
    have used : slot.did ≠ 0 := named ▸ dynamic_nonzero _ (periodic_did_dynamic pdid)
    have bounded := (table.formed slot member used).2
    simp only [assemble_slices mem s slot bounded, Option.any_some]
    cases fits : slot.recs.all (sliceFits s) with
    | false => simp
    | true =>
      have some_bytes := slices_length mem s slot.recs fits
      have positive := bounded.size.1
      simp only [if_true, Bool.true_eq_false, iff_false]
      intro empty
      rw [empty, List.length_nil] at some_bytes
      omega

/-- The ticks until a subscription is due. -/
def PeriodicSub.togo (x : PeriodicSub) : Nat := x.divider.toNat - x.counter.toNat

/-- A tick before that is one tick less. -/
theorem togo_early (x : PeriodicSub) (c : UInt8)
    (early : Divider.fires x.divider.toNat x.counter.toNat = false)
    (count : c.toNat = Divider.next x.divider.toNat x.counter.toNat) :
    ∃ left, x.togo = left + 2 ∧ ({ x with counter := c } : PeriodicSub).togo = left + 1 := by
  rw [Divider.next, early, if_neg Bool.false_ne_true] at count
  rw [Divider.fires_eq_false] at early
  refine ⟨x.divider.toNat - x.counter.toNat - 2, ?_, ?_⟩
  · simp only [PeriodicSub.togo]
    omega
  · simp only [PeriodicSub.togo, count]
    omega

/-- A subscription whose divider fires has one tick to go. -/
theorem togo_due (x : PeriodicSub) (inside : x.counter.toNat < x.divider.toNat)
    (fired : Divider.fires x.divider.toNat x.counter.toNat = true) : x.togo = 1 := by
  have last : ¬ x.counter.toNat + 1 < x.divider.toNat := by
    rw [← Divider.fires_eq_false, fired]
    exact Bool.true_eq_false.mp
  simp only [PeriodicSub.togo]
  omega

end ObdSimulator.UdsService

namespace ObdSimulator.AppMain

open Bytes NorFlash UdsService

/-- No call subscribes the identifier. -/
def Unsubscribed (pdid : UInt8) (_ : List Event) (s : App) (call : Memory × Input) : Prop :=
  subscribes pdid s call.2 = none

/-- No call stops the identifier. -/
def Unstopped (pdid : UInt8) (_ : List Event) (s : App) (call : Memory × Input) : Prop :=
  unsubscribes pdid s call.2 = false

instance (pdid : UInt8) (past : List Event) (s : App) (call : Memory × Input) :
    Decidable (Unsubscribed pdid past s call) := inferInstanceAs (Decidable (_ = _))

/-- A tick that is `togo` ticks away, if nothing stops the identifier before it, finds the
identifier not assemblable. -/
def DueEmpty (pdid : UInt8) (togo : Nat) (s : App) (calls : List (Memory × Input)) : Prop :=
  ∀ before call after, calls = before ++ call :: after → isTick call.2 = true →
    ticks before + 1 = togo → Run.Along (Run.opened step) (Unstopped pdid) [] s before →
    assemblable (Run.final (Run.opened step) s before) (periodicDid pdid) = false

/-- Without a subscription nothing is sent until the next one. -/
theorem unsubscribed_silent (pdid : UInt8) (past : List Event) (calls : List (Memory × Input))
    (s : App) (table : Subscribers s.periodic) (idle : subscription s.periodic pdid = none)
    (unsubscribed : Run.Along (Run.opened step) (Unsubscribed pdid) past s calls) :
    framesOf pdid (Run.trace (Run.opened step) s calls) = [] := by
  induction calls generalizing past s with
  | nil => rfl
  | cons call rest ih =>
    obtain ⟨mem, i⟩ := call
    have unstarted : subscribes pdid s i = none := unsubscribed.1
    have here : subscription (step mem s i).1.periodic pdid = none ∧
        framesOf pdid (step mem s i).2 = [] := by
      cases ticking : isTick i with
      | false =>
        obtain ⟨_, moved⟩ := step_subscription mem s i table ticking
        obtain ⟨kept, silent⟩ := moved pdid
        rw [unstarted, idle, Option.elim_none, ite_self] at kept
        exact ⟨kept, silent⟩
      | true =>
        obtain ⟨now, rfl⟩ := (is_tick_iff i).mp ticking
        obtain ⟨_, moved⟩ := periodic_tick_subscription mem s table
        obtain ⟨kept, sent⟩ := moved pdid
        rw [idle] at kept sent
        exact ⟨kept, (frames_of_messages pdid _).trans sent⟩
    rw [Run.trace, Run.opened, frames_append, here.2, List.nil_append]
    exact ih _ _ (step_subscribers mem s i table) here.1 unsubscribed.2

/-! ## The tick a leftover subscription is due at -/

section Due

variable (pdid : UInt8) (togo : Nat) (s : App) (call : Memory × Input)
  (rest : List (Memory × Input))

/-- The place of the tick is the first call, or one behind it. -/
theorem due_empty_cons :
    DueEmpty pdid togo s (call :: rest) ↔
      (isTick call.2 = true → 1 = togo → assemblable s (periodicDid pdid) = false) ∧
        (Unstopped pdid [] s call → ∀ before j after, rest = before ++ j :: after →
          isTick j.2 = true → ticks before + (if isTick call.2 then 1 else 0) + 1 = togo →
          Run.Along (Run.opened step) (Unstopped pdid) [] (step call.1 s call.2).1 before →
          assemblable (Run.final (Run.opened step) (step call.1 s call.2).1 before)
            (periodicDid pdid) = false) := by
  have blind : ∀ (past past' : List Event) (s : App) (call : Memory × Input),
      Unstopped pdid past s call → Unstopped pdid past' s call := fun _ _ _ _ => id
  unfold DueEmpty
  rw [Run.forall_places_cons (fun before j => isTick j.2 = true → ticks before + 1 = togo →
    Run.Along (Run.opened step) (Unstopped pdid) [] s before →
      assemblable (Run.final (Run.opened step) s before) (periodicDid pdid) = false)]
  simp only [ticks_cons, Run.Along, Run.final, Run.opened]
  constructor
  · rintro ⟨head, later⟩
    refine ⟨fun ticking due => head ticking due trivial, ?_⟩
    intro unstopped before j after whole ticking due unstopped'
    exact later before j after whole ticking due
      ⟨unstopped, Run.along_past _ _ blind _ _ _ _ unstopped'⟩
  · rintro ⟨head, later⟩
    refine ⟨fun ticking due _ => head ticking due, ?_⟩
    intro before j after whole ticking due unstopped
    exact later unstopped.1 before j after whole ticking due
      (Run.along_past _ _ blind _ _ _ _ unstopped.2)

/-- A call that stops the identifier leaves nothing to be due. -/
theorem due_empty_stopped (silent : isTick call.2 = false)
    (stopped : unsubscribes pdid s call.2 = true) : DueEmpty pdid togo s (call :: rest) := by
  rw [due_empty_cons]
  constructor
  · intro ticking
    rw [silent] at ticking
    cases ticking
  · intro unstopped
    rw [Unstopped, stopped] at unstopped
    cases unstopped

/-- A call that neither ticks nor ends the subscription does not bring the due tick closer. -/
theorem due_empty_kept (silent : isTick call.2 = false)
    (kept : unsubscribes pdid s call.2 = false) :
    DueEmpty pdid togo s (call :: rest) ↔ DueEmpty pdid togo (step call.1 s call.2).1 rest := by
  rw [due_empty_cons]
  simp [silent, Unstopped, kept, DueEmpty]

/-- A tick before the due one brings it one closer. -/
theorem due_empty_tick (now : Nat) (mem : Memory) :
    DueEmpty pdid (togo + 2) s ((mem, .work now .periodicTick) :: rest) ↔
      DueEmpty pdid (togo + 1) (step mem s (.work now .periodicTick)).1 rest := by
  rw [due_empty_cons]
  simp [isTick, Unstopped, unsubscribes, DueEmpty]

/-- At the due tick its identifier is looked up. -/
theorem due_empty_now (now : Nat) (mem : Memory) :
    DueEmpty pdid 1 s ((mem, .work now .periodicTick) :: rest) ↔
      assemblable s (periodicDid pdid) = false := by
  rw [due_empty_cons]
  simp [isTick]

end Due

/-- A subscription that is left to itself is silent exactly when the tick it is due at finds
its identifier not assemblable. Until then it only counts, and after that it has ended. -/
theorem silent_iff_due_empty (pdid : UInt8) (past : List Event) (calls : List (Memory × Input))
    (s : App) (table : Subscribers s.periodic) (dyn : Table s.dyn) (x : PeriodicSub)
    (found : subscription s.periodic pdid = some x)
    (unsubscribed : Run.Along (Run.opened step) (Unsubscribed pdid) past s calls) :
    framesOf pdid (Run.trace (Run.opened step) s calls) = [] ↔ DueEmpty pdid x.togo s calls := by
  induction calls generalizing past s x with
  | nil =>
    refine ⟨fun _ before call after whole => ?_, fun _ => rfl⟩
    cases before <;> cases whole
  | cons call rest ih =>
    obtain ⟨mem, i⟩ := call
    have unstarted : subscribes pdid s i = none := unsubscribed.1
    have table' := step_subscribers mem s i table
    have dyn' := step_table mem s i dyn
    rw [Run.trace, Run.opened, frames_append]
    cases ticking : isTick i with
    | false =>
      obtain ⟨_, moved⟩ := step_subscription mem s i table ticking
      obtain ⟨kept, silent⟩ := moved pdid
      rw [unstarted, Option.elim_none] at kept
      rw [silent, List.nil_append]
      cases stopped : unsubscribes pdid s i with
      | true =>
        rw [stopped, if_pos rfl] at kept
        have later := unsubscribed_silent pdid _ rest _ table' kept unsubscribed.2
        exact ⟨fun _ => due_empty_stopped pdid _ s (mem, i) rest ticking stopped, fun _ => later⟩
      | false =>
        rw [stopped, if_neg Bool.false_ne_true, found] at kept
        rw [due_empty_kept pdid _ s (mem, i) rest ticking stopped]
        exact ih _ _ table' dyn' x kept unsubscribed.2
    | true =>
      obtain ⟨now, rfl⟩ := (is_tick_iff i).mp ticking
      have sent : framesOf pdid (step mem s (.work now .periodicTick)).2 =
          (udsPeriodicTick mem s).2.filter (carries pdid) := frames_of_messages pdid _
      have empty := periodic_data_empty_iff mem s dyn pdid
      obtain ⟨member, active, _⟩ := subscription_slot s.periodic pdid x found
      have inside := UInt8.lt_iff_toNat_lt.mp (table.inside x member active)
      rw [sent]
      cases fired : Divider.fires x.divider.toNat x.counter.toNat with
      | false =>
        obtain ⟨c, kept, count, silent⟩ := tick_counts mem s table pdid x found
          fun due => absurd (fired.symm.trans due) Bool.false_ne_true
        rw [fired, if_neg Bool.false_ne_true] at silent
        obtain ⟨left, now_togo, next_togo⟩ := togo_early x c fired count
        rw [silent, List.nil_append, now_togo, due_empty_tick, ← next_togo]
        exact ih _ _ table' dyn' { x with counter := c } kept unsubscribed.2
      | true =>
        rw [togo_due x inside fired, due_empty_now, ← empty]
        by_cases nothing : periodicData mem s pdid = []
        · obtain ⟨ended, silent⟩ := tick_ends mem s table pdid x found fired nothing
          rw [silent, List.nil_append]
          exact ⟨fun _ => nothing,
            fun _ => unsubscribed_silent pdid _ rest _ table' ended unsubscribed.2⟩
        · obtain ⟨_, _, _, message⟩ := tick_counts mem s table pdid x found fun _ => nothing
          rw [fired, if_pos rfl] at message
          rw [message]
          exact ⟨fun never => absurd never (by simp), fun never => absurd never nothing⟩

/-! ## Clearing -/

section Clearing

variable (mem : Memory) (s : App) (now : Nat) (req : List UInt8) (reqLen : Nat) (addr : AddrType)
  (service : byte req 0 = udsSidDynamicDefineDid)

include service

/-- DynamicallyDefineDataIdentifier leaves the subscriptions alone. -/
theorem define_subscription (pdid : UInt8) (table : Subscribers s.periodic) :
    subscription (udsDispatchRequest mem s now req reqLen addr).1.periodic pdid =
      subscription s.periodic pdid := by
  have define : ∀ sid : UInt8, sid ≠ udsSidDynamicDefineDid → (byte req 0 == sid) = false := by
    intro sid other
    rw [service]
    exact beq_eq_false_iff_ne.mpr (Ne.symm other)
  rw [(dispatch_subscription mem s now req reqLen addr table).2]
  simp only [subscribes, unsubscribes, define udsSidReadDataPeriodic (by decide),
    define udsSidDiagSessionCtrl (by decide), Bool.and_false, Bool.false_and, Bool.or_false,
    Bool.false_eq_true, if_false, Option.elim_none]

/-- After it was cleared, an identifier is not defined. -/
theorem clear_undefines (table : Table s.dyn) (clears : subFunction (byte req 1) = 0x03)
    (positive : accepted req reqLen addr (udsDispatchRequest mem s now req reqLen addr).2 = true) :
    dynFind (udsDispatchRequest mem s now req reqLen addr).1 (requestedDid req) = none := by
  rcases dispatch_gated mem s now req reqLen addr _ _
      (serve_define mem (stamped s now) now req reqLen service) with
    ⟨refused, _⟩ | ⟨_, _, state, answer⟩
  · rw [refused] at positive
    cases positive
  rw [answer] at positive
  rw [state]
  have one : ¬ (0x03 : UInt8) = 0x01 := by decide
  have two : ¬ (0x03 : UInt8) = 0x02 := by decide
  have did : word (byte req 2) (byte req 3) = requestedDid req := rfl
  simp only [handleDynamicDefineDid, clears, if_neg one, if_neg two, if_true, did] at positive ⊢
  split at positive
  · cases positive
  · rename_i long
    split at positive
    · cases positive
    · rename_i inside
      have dynamic : dynamicDid (requestedDid req) := by
        rw [not_or, UInt16.not_lt, UInt16.not_lt] at inside
        exact inside
      rw [if_neg long, if_neg inside]
      cases place : (stamped s now).dyn.findIdx? (·.did == requestedDid req) with
      | none =>
        rw [place] at positive
        cases positive
      | some i =>
        have unbound := congrFun (table.unbind (requestedDid req) i dynamic place).2
          (requestedDid req)
        rw [Function.update_self, bindings, Option.map_eq_none_iff] at unbound
        rw [dyn_find_lookup _ _ dynamic]
        exact unbound

end Clearing

/-- When clearing an identifier silences it. After a positive clearing and until the next
subscription, no periodic message of the identifier is sent exactly when the leftover
subscription, if there is one, finds the identifier not assemblable at the tick it is due
at, unless it is stopped before. So it is if the identifier is not defined again. -/
theorem cleared_silent_iff (boot ready : Nat) (past : List (Memory × Input)) (mem : Memory)
    (now : Nat) (req : List UInt8) (reqLen : Nat) (addr : AddrType) (pdid : UInt8)
    (service : byte req 0 = udsSidDynamicDefineDid) (clears : subFunction (byte req 1) = 0x03)
    (named : requestedDid req = periodicDid pdid)
    (positive : accepted req reqLen addr (udsDispatchRequest mem
      (Run.final (Run.opened step) (appInit boot ready) past) now req reqLen addr).2 = true)
    (later : List (Memory × Input)) :
    let s := Run.final (Run.opened step) (appInit boot ready) past
    let cleared := (udsDispatchRequest mem s now req reqLen addr).1
    Run.Along (Run.opened step) (Unsubscribed pdid) [] cleared later →
    (framesOf pdid (Run.trace (Run.opened step) cleared later) = [] ↔
      ∀ x, subscription s.periodic pdid = some x → DueEmpty pdid x.togo cleared later) ∧
    ((∀ call ∈ later, ¬ Rebinds (periodicDid pdid) call.2) →
      framesOf pdid (Run.trace (Run.opened step) cleared later) = []) := by
  intro s cleared unsubscribed
  have table := run_subscribers boot ready past
  have dyn := run_table boot ready past
  have kept := define_subscription mem s now req reqLen addr service pdid table
  have table' := (dispatch_subscription mem s now req reqLen addr table).1
  have dyn' : Table cleared.dyn := step_table mem s (.request now req reqLen addr) dyn
  have undefined : dynFind cleared (periodicDid pdid) = none := by
    rw [← named]
    exact clear_undefines mem s now req reqLen addr service dyn clears positive
  have silent_iff : framesOf pdid (Run.trace (Run.opened step) cleared later) = [] ↔
      ∀ x, subscription s.periodic pdid = some x → DueEmpty pdid x.togo cleared later := by
    cases found : subscription s.periodic pdid with
    | none =>
      have silent := unsubscribed_silent pdid [] later cleared table' (kept.trans found)
        unsubscribed
      exact ⟨fun _ x never => absurd never (by simp), fun _ => silent⟩
    | some x =>
      rw [silent_iff_due_empty pdid [] later cleared table' dyn' x (kept.trans found) unsubscribed]
      constructor
      · rintro due y same
        cases same
        exact due
      · exact fun every => every x rfl
  refine ⟨silent_iff, fun undefining => silent_iff.mpr ?_⟩
  intro x _ before call after whole _ _ _
  have used := dynamic_nonzero _ (periodic_did_dynamic pdid)
  have still : dynFind (Run.final (Run.opened step) cleared before) (periodicDid pdid) = none := by
    rw [run_find_kept _ used before ?_ cleared]
    · exact undefined
    · intro call member
      exact undefining call (whole ▸ List.mem_append_left _ member)
  rw [assemblable, still]
  rfl

/-- In the Extended session, an identifier of the VIN sent at the fast rate. -/
def sendingCalls : List (Memory × Input) :=
  definingCalls ++ [(erasedMemory, .request 0 [0x2A, 0x03, 0x00] 3 .physical)]

/-- The request that clears the identifier. -/
def clearing : List UInt8 := [0x2C, 0x03, 0xF2, 0x00]

/-- Two ticks, the period of the fast rate. -/
def twoTicks : List (Memory × Input) := List.replicate 2 (erasedMemory, .work 0 .periodicTick)

/-- A subscription whose identifier stays cleared sends nothing more. -/
theorem cleared_silent_iff_undefined :
    framesOf 0x00 (Run.trace (Run.opened step) (udsDispatchRequest erasedMemory
      (Run.final (Run.opened step) (appInit 0 0) sendingCalls) 0 clearing 4 .physical).1
        twoTicks) = [] := by
  obtain ⟨_, silent⟩ := cleared_silent_iff 0 0 sendingCalls erasedMemory 0 clearing 4 .physical 0x00
    rfl (by decide) (by decide) (by decide +kernel) twoTicks (by decide +kernel)
  refine silent fun call member => ?_
  rw [List.eq_of_mem_replicate member]
  exact id

/-- Defined again before the second tick, the cleared identifier is sent although nobody has
subscribed it since. -/
theorem cleared_identifier_sent :
    let cleared := udsDispatchRequest erasedMemory
      (Run.final (Run.opened step) (appInit 0 0) sendingCalls) 0 clearing 4 .physical
    let later : List (Memory × Input) := (erasedMemory, .request 0
      [0x2C, 0x01, 0xF2, 0x00, 0xF1, 0x90, 0x01, 0x03] 8 .physical) :: twoTicks
    cleared.2 = [0x6C, 0x03, 0xF2, 0x00] ∧
      Run.Along (Run.opened step) (Unsubscribed 0x00) [] cleared.1 later ∧
      framesOf 0x00 (Run.trace (Run.opened step) cleared.1 later) = [[0x00, 0x57, 0x56, 0x57]] := by
  decide +kernel

end ObdSimulator.AppMain
