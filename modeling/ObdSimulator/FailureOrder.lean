import Mathlib.Data.List.MinMax
import Mathlib.Data.List.Nodup
import ObdSimulator.FaultHistory
import ObdSimulator.Lib.Stamps

/-!
# Which fault came first

An entry keeps one sequence number and one freeze frame, both written at every
promotion to pending. Beside the fault manager runs a watch that logs, since the
last clear, each promotion and each confirmation in the order they happen. The
sequence number of an entry is the stamp of its code in the log of promotions, so
it tells of the latest promotion, and so does the freeze frame. Once confirmed an
entry is not promoted again, and it is confirmed 49 effective updates after its
latest promotion: among confirmed entries the two orders agree.
-/

namespace ObdSimulator

open Stamps Streak

/-! ## The watch -/

/-- A fault entered a state: at which effective update since the last clear, and
under which values. -/
structure Entering where
  tick : Nat
  code : UInt16
  values : SimState
deriving DecidableEq, Repr

/-- The faults that one pass over the table takes into a state, in table order. -/
def entering (goal : DtcState) (tick : Nat) (st : SimState) :
    List DtcEntry → List DtcEntry → List Entering
  | d :: before, d' :: after =>
    if d.state ≠ goal ∧ d'.state = goal then
      ⟨tick, d.code, st⟩ :: entering goal tick st before after
    else entering goal tick st before after
  | _, _ => []

/-- The manager with the moments its entries became pending and confirmed. -/
structure Watched where
  manager : FaultManager := {}
  ticks : Nat := 0
  promoted : List Entering := []
  confirmed : List Entering := []
deriving DecidableEq, Repr

/-- An update notes who enters which state; clearing forgets all of it. -/
def Watched.accept (w : Watched) : DtcInput → Watched
  | .update st =>
    let manager := obd2DtcUpdate w.manager st
    let entered goal := entering goal w.ticks st w.manager.table manager.table
    { manager
      ticks := if w.manager.settingOn then w.ticks + 1 else w.ticks
      promoted := w.promoted ++ entered .pending
      confirmed := w.confirmed ++ entered .confirmed }
  | .setting on => { w with manager := obd2DtcSettingControl w.manager on }
  | .clear => { manager := obd2DtcClear w.manager }

/-- The watch over a run from reset. -/
def watch (inputs : List DtcInput) : Watched := inputs.foldl Watched.accept {}

/-- The promotions to pending since the last clear, oldest first. -/
def promotions (inputs : List DtcInput) : List Entering := (watch inputs).promoted

/-- The confirmations since the last clear, oldest first. -/
def confirmations (inputs : List DtcInput) : List Entering := (watch inputs).confirmed

/-- Watching changes nothing for the manager. -/
theorem watched_manager (w : Watched) (i : DtcInput) :
    (w.accept i).manager = w.manager.accept i := by
  cases i <;> rfl

/-- The watch does not disturb the run. -/
theorem watch_manager (inputs : List DtcInput) :
    (watch inputs).manager = inputs.foldl FaultManager.accept {} := by
  induction inputs using List.reverseRecOn with
  | nil => rfl
  | append_singleton inputs i ih =>
    rw [watch, List.foldl_append, List.foldl_append]
    exact (watched_manager (watch inputs) i).trans (congrArg (·.accept i) ih)

/-! ## What one pass adds to the logs -/

/-- An unchanged table enters nothing. -/
theorem entering_self (goal : DtcState) (tick : Nat) (st : SimState) (table : List DtcEntry) :
    entering goal tick st table table = [] := by
  induction table with
  | nil => rfl
  | cons d rest ih =>
    have stays : ¬(d.state ≠ goal ∧ d.state = goal) := fun ⟨left, same⟩ => left same
    rw [entering, if_neg stays, ih]

/-- The faults that enter at one tick do so in the order of the table. -/
theorem entering_codes (goal : DtcState) (tick : Nat) (st : SimState)
    (table after : List DtcEntry) :
    ((entering goal tick st table after).map (·.code)).Sublist (table.map (·.code)) := by
  induction table generalizing after with
  | nil => simp [entering]
  | cons d rest ih =>
    cases after with
    | nil => simp [entering]
    | cons d' after =>
      rw [entering]
      split
      · exact (ih after).cons_cons d.code
      · exact (ih after).cons d.code

/-- The faults that enter carry the tick and the values of the update. -/
theorem entering_made (goal : DtcState) (tick : Nat) (st : SimState)
    (table after : List DtcEntry) :
    ∀ e ∈ entering goal tick st table after, e.tick = tick ∧ e.values = st := by
  induction table generalizing after with
  | nil => simp [entering]
  | cons d rest ih =>
    cases after with
    | nil => simp [entering]
    | cons d' after =>
      rw [entering]
      split
      · intro e member
        rcases List.mem_cons.mp member with rfl | later
        · exact ⟨rfl, rfl⟩
        · exact ih after e later
      · exact ih after

/-- A code that no entry of the table has enters nothing. -/
theorem entering_absent (goal : DtcState) (tick : Nat) (st : SimState)
    (table after : List DtcEntry) (code : UInt16) (absent : code ∉ table.map (·.code)) :
    ∀ e ∈ entering goal tick st table after, e.code ≠ code := by
  rintro e member rfl
  exact absent ((entering_codes goal tick st table after).subset (List.mem_map_of_mem member))

/-- What a pass logs of one code: the entry that entered the state, if it did. -/
def entered (goal : DtcState) (tick : Nat) (st : SimState) (d after : DtcEntry) : List Entering :=
  if d.state ≠ goal ∧ after.state = goal then [⟨tick, d.code, st⟩] else []

/-- The first entry of the table, then the others. -/
theorem entering_cons (goal : DtcState) (tick : Nat) (st : SimState) (d d' : DtcEntry)
    (table after : List DtcEntry) :
    entering goal tick st (d :: table) (d' :: after) =
      entered goal tick st d d' ++ entering goal tick st table after := by
  rw [entering, entered]
  split <;> rfl

/-- What an entry enters, it enters under its code. -/
theorem entered_code (goal : DtcState) (tick : Nat) (st : SimState) (d after : DtcEntry) :
    ∀ e ∈ entered goal tick st d after, e.code = d.code := by
  unfold entered
  split <;> simp

/-- The table loop, entry by entry: what the pass does to an entry, and what it logs
of the entry's code. -/
theorem update_table_entering (tick : Nat) (st : SimState) (counter : UInt16)
    (table : List DtcEntry) (distinct : (table.map (·.code)).Nodup) :
    ∀ after ∈ (dtcUpdateTable st counter table).2, ∃ d ∈ table, ∃ between reached,
      EntryStep st between d (reached, after) ∧
      ∀ goal, (entering goal tick st table (dtcUpdateTable st counter table).2).filter
        (·.code == d.code) = entered goal tick st d after := by
  induction table generalizing counter with
  | nil => simp [dtcUpdateTable]
  | cons d rest ih =>
    have here := dtc_update_entry_step st counter d
    obtain ⟨fresh, others⟩ := List.nodup_cons.mp distinct
    intro after member
    simp only [dtcUpdateTable, entering_cons] at member ⊢
    rcases List.mem_cons.mp member with rfl | later
    · refine ⟨d, List.mem_cons_self, counter, _, here, fun goal => ?_⟩
      have whole : (entered goal tick st d (dtcUpdateEntry st counter d).2).filter
          (·.code == d.code) = entered goal tick st d (dtcUpdateEntry st counter d).2 :=
        List.filter_eq_self.mpr fun e inside =>
          beq_iff_eq.mpr (entered_code goal tick st d _ e inside)
      have none := entering_absent goal tick st rest
        (dtcUpdateTable st (dtcUpdateEntry st counter d).1 rest).2 d.code fresh
      rw [List.filter_append, whole, List.filter_eq_nil_iff.mpr (by simpa using none),
        List.append_nil]
    · obtain ⟨e, within, between, reached, step, logged⟩ :=
        ih (dtcUpdateEntry st counter d).1 others after later
      have apart : d.code ≠ e.code := by
        intro same
        exact fresh (List.mem_map.mpr ⟨e, within, same.symm⟩)
      refine ⟨e, List.mem_cons_of_mem d within, between, reached, step, fun goal => ?_⟩
      have none : (entered goal tick st d (dtcUpdateEntry st counter d).2).filter
          (·.code == e.code) = [] := by
        refine List.filter_eq_nil_iff.mpr fun x inside => ?_
        rw [entered_code goal tick st d _ x inside]
        simpa using apart
      rw [List.filter_append, none, List.nil_append, logged goal]

/-- A promotion is the one step that numbers an entry and takes its freeze frame. -/
theorem entry_step_promotes (st : SimState) (counter : UInt16) (d : DtcEntry)
    (after : UInt16 × DtcEntry) (step : EntryStep st counter d after) :
    (d.state ≠ .pending ∧ after.2.state = .pending ∧ after.1 = nextFailSeq counter ∧
        after.2.failSeq = nextFailSeq counter ∧ after.2.snapshot = captureSnapshot st) ∨
      (¬(d.state ≠ .pending ∧ after.2.state = .pending) ∧ after.1 = counter ∧
        after.2.failSeq = d.failSeq ∧ after.2.snapshot = d.snapshot) := by
  cases step with
  | matured present inactive long => exact Or.inl ⟨by simp [inactive], rfl, rfl, rfl, rfl⟩
  | passed absent settled => exact Or.inr ⟨fun ⟨_, pending⟩ => settled pending, rfl, rfl, rfl⟩
  | reverted absent pending => exact Or.inr ⟨by simp, rfl, rfl, rfl⟩
  | detected present inactive early => exact Or.inr ⟨by simp [inactive], rfl, rfl, rfl⟩
  | held present pending short => exact Or.inr ⟨by simp [pending], rfl, rfl, rfl⟩
  | confirmed present pending long => exact Or.inr ⟨by simp, rfl, rfl, rfl⟩
  | kept present latched => exact Or.inr ⟨by simp [latched], rfl, rfl, rfl⟩

/-! ## Sequence numbers are stamps -/

/-- Below its end the order counter counts. -/
theorem next_fail_seq_counts (counter : UInt16) (few : counter.toNat < 65535) :
    (nextFailSeq counter).toNat = counter.toNat + 1 := by
  have below : counter < 0xFFFF := UInt16.lt_iff_toNat_lt.mpr few
  rw [nextFailSeq, if_pos below, UInt16.toNat_add]
  exact Nat.mod_eq_of_lt (Nat.succ_lt_succ few)

/-- One pass of the loop and one of the log. -/
theorem update_entry_numbers (tick : Nat) (st : SimState) (counter : UInt16) (d : DtcEntry)
    (log : List Entering) (count : counter.toNat = log.length)
    (numbered : d.failSeq.toNat = stamp Entering.code log d.code)
    (few : (log ++ entered .pending tick st d (dtcUpdateEntry st counter d).2).length < 65535) :
    let after := dtcUpdateEntry st counter d
    let logged := log ++ entered .pending tick st d after.2
    after.1.toNat = logged.length ∧ after.2.code = d.code ∧
      after.2.failSeq.toNat = stamp Entering.code logged d.code := by
  intro after logged
  have step := dtc_update_entry_step st counter d
  have code : after.2.code = d.code := entry_step_code st counter d _ step
  rcases entry_step_promotes st counter d _ step with
    ⟨settled, pending, counted, sequence, _⟩ | ⟨other, counted, sequence, _⟩
  · have made : logged = log ++ [⟨tick, d.code, st⟩] :=
      congrArg (log ++ ·) (if_pos ⟨settled, pending⟩)
    have short : counter.toNat < 65535 := by
      rw [count]
      exact Nat.lt_of_le_of_lt (List.prefix_append _ _).length_le few
    have next := next_fail_seq_counts counter short
    have stamped := stamp_named Entering.code log ⟨tick, d.code, st⟩
    rw [made]
    refine ⟨?_, code, ?_⟩
    · rw [counted, next, count, List.length_append, List.length_singleton]
    · rw [sequence, next, count]
      exact stamped.symm
  · have made : logged = log :=
      (congrArg (log ++ ·) (if_neg other)).trans (List.append_nil log)
    rw [made]
    exact ⟨counted ▸ count, code, sequence ▸ numbered⟩

/-- The loop threads the counter through the table as the log grows. -/
theorem update_table_numbers (tick : Nat) (st : SimState) (counter : UInt16)
    (table : List DtcEntry) (distinct : (table.map (·.code)).Nodup) (log : List Entering)
    (count : counter.toNat = log.length)
    (numbered : ∀ d ∈ table, d.failSeq.toNat = stamp Entering.code log d.code)
    (few : (log ++ entering .pending tick st table
      (dtcUpdateTable st counter table).2).length < 65535) :
    let after := dtcUpdateTable st counter table
    let logged := log ++ entering .pending tick st table after.2
    after.1.toNat = logged.length ∧
      ∀ d ∈ after.2, d.failSeq.toNat = stamp Entering.code logged d.code := by
  induction table generalizing counter log with
  | nil =>
    simp only [dtcUpdateTable, entering, List.append_nil]
    exact ⟨count, fun d member => absurd member List.not_mem_nil⟩
  | cons d rest ih =>
    obtain ⟨fresh, others⟩ := List.nodup_cons.mp distinct
    simp only [dtcUpdateTable, entering_cons, ← List.append_assoc] at few ⊢
    obtain ⟨counted, code, first⟩ := update_entry_numbers tick st counter d log count
      (numbered d List.mem_cons_self)
      (Nat.lt_of_le_of_lt (List.prefix_append _ _).length_le few)
    have kept : ∀ e ∈ rest, e.failSeq.toNat =
        stamp Entering.code (log ++ entered .pending tick st d (dtcUpdateEntry st counter d).2)
          e.code := by
      intro e member
      rw [stamp_others Entering.code log _ e.code]
      · exact numbered e (List.mem_cons_of_mem d member)
      · intro x inside same
        have here := entered_code .pending tick st d _ x inside
        exact fresh (List.mem_map.mpr ⟨e, member, same.symm.trans here⟩)
    obtain ⟨total, later⟩ := ih (dtcUpdateEntry st counter d).1 others _ counted kept few
    refine ⟨total, ?_⟩
    intro e member
    rcases List.mem_cons.mp member with rfl | inside
    · rw [code, first]
      exact (stamp_others Entering.code _ _ d.code
        (entering_absent .pending tick st rest _ d.code fresh)).symm
    · exact later e inside

/-! ## What an entry shows of its events -/

/-- An entry against its latest promotion and its confirmations. While pending it
counts the effective updates since the promotion, and the confirmation is 49 of
them later. -/
structure DtcEntry.Witnessed (ticks : Nat) (last : Option Entering) (done : List Entering)
    (d : DtcEntry) : Prop where
  unseen : last = none → d.snapshot.valid = false
  frozen : ∀ e, last = some e → d.snapshot = captureSnapshot e.values
  held : d.state = .pending → d.hold.toNat < 50 ∧ ∃ e, last = some e ∧
    e.tick + d.hold.toNat = ticks
  latched : d.state = .confirmed → ∃ e c, last = some e ∧ done = [c] ∧ c.tick = e.tick + 49
  unlatched : d.state ≠ .confirmed → done = []

/-- A reset entry has witnessed nothing. -/
theorem witnessed_reset (ticks : Nat) (d : DtcEntry) (inactive : d.state = .inactive)
    (invalid : d.snapshot.valid = false) : d.Witnessed ticks none [] where
  unseen := fun _ => invalid
  frozen := fun e last => by cases last
  held := fun pending => by simp [inactive] at pending
  latched := fun confirmed => by simp [inactive] at confirmed
  unlatched := fun _ => rfl

/-- A pass that enters neither state leaves the events as they were. -/
theorem witnessed_unlogged {ticks now : Nat} {last : Option Entering} {done : List Entering}
    {st : SimState} {d after : DtcEntry} (witnessed : after.Witnessed now last done)
    (unpromoted : ¬(d.state ≠ .pending ∧ after.state = .pending))
    (unconfirmed : ¬(d.state ≠ .confirmed ∧ after.state = .confirmed)) :
    after.Witnessed now ((entered .pending ticks st d after).getLast?.or last)
      (done ++ entered .confirmed ticks st d after) := by
  rw [entered, entered, if_neg unpromoted, if_neg unconfirmed, List.append_nil]
  exact witnessed

/-- One pass, case by case. -/
theorem DtcEntry.Witnessed.step {ticks : Nat} {last : Option Entering} {done : List Entering}
    {st : SimState} {counter : UInt16} {d : DtcEntry} {after : UInt16 × DtcEntry}
    (witnessed : d.Witnessed ticks last done) (step : EntryStep st counter d after) :
    after.2.Witnessed (ticks + 1) ((entered .pending ticks st d after.2).getLast?.or last)
      (done ++ entered .confirmed ticks st d after.2) := by
  cases step with
  | passed absent settled =>
    refine witnessed_unlogged ?_ (fun ⟨_, pending⟩ => settled pending)
      (fun ⟨left, same⟩ => left same)
    exact { witnessed with held := fun pending => absurd pending settled }
  | reverted absent pending =>
    refine witnessed_unlogged ?_ (by simp) (by simp)
    exact { witnessed with
      held := fun impossible => by simp at impossible
      latched := fun impossible => by simp at impossible
      unlatched := fun _ => witnessed.unlatched (by simp [pending]) }
  | detected present inactive early =>
    refine witnessed_unlogged ?_ (by simp [inactive]) (by simp [inactive])
    exact { witnessed with held := fun pending => by simp [inactive] at pending }
  | matured present inactive long =>
    have none : done = [] := witnessed.unlatched (by simp [inactive])
    have promoted : d.state ≠ .pending := by simp [inactive]
    simp only [entered, promoted, ne_eq, not_false_eq_true, and_self, if_true, reduceCtorEq,
      and_false, if_false, List.getLast?_singleton, Option.some_or, List.append_nil]
    exact {
      unseen := fun unseen => by cases unseen
      frozen := fun e same => by
        obtain rfl := Option.some.inj same
        rfl
      held := fun _ => ⟨(by decide : (1 : UInt8).toNat < 50), _, rfl, rfl⟩
      latched := fun impossible => by simp at impossible
      unlatched := fun _ => none }
  | held present pending short =>
    refine witnessed_unlogged ?_ (by simp [pending]) (by simp [pending])
    obtain ⟨_, e, latest, since⟩ := witnessed.held pending
    have next : (saturate d.hold).toNat < 50 := UInt8.lt_iff_toNat_lt.mp short
    exact { witnessed with
      held := fun _ => ⟨next, e, latest, by
        rw [saturate_to_nat] at next ⊢
        omega⟩ }
  | confirmed present pending long =>
    obtain ⟨short, e, latest, since⟩ := witnessed.held pending
    have none : done = [] := witnessed.unlatched (by simp [pending])
    have reached : 50 ≤ (saturate d.hold).toNat := UInt8.le_iff_toNat_le.mp long
    rw [saturate_to_nat] at reached
    simp only [entered, pending, ne_eq, reduceCtorEq, not_false_eq_true, not_true_eq_false,
      and_self, if_true, if_false, List.getLast?_nil, Option.none_or, none, List.nil_append]
    exact {
      unseen := witnessed.unseen
      frozen := witnessed.frozen
      held := fun impossible => by simp at impossible
      latched := fun _ => ⟨e, _, latest, rfl, by
        change ticks = e.tick + 49
        omega⟩
      unlatched := fun impossible => absurd rfl impossible }
  | kept present latched =>
    refine witnessed_unlogged ?_ (by simp [latched]) (by simp [latched])
    exact { witnessed with held := fun pending => by simp [latched] at pending }

/-- The place of a code in the table. -/
def place (code : UInt16) : Nat := (dtcTable.map (·.code)).idxOf code

/-- The order of events: by tick, then by place in the table. -/
def Entering.Before (e e' : Entering) : Prop :=
  e.tick < e'.tick ∨ e.tick = e'.tick ∧ place e.code < place e'.code

/-- Of two moments at most one comes before the other. -/
theorem before_asymm (e e' : Entering) (before : e.Before e') : ¬e'.Before e := by
  rintro (later | ⟨together, above⟩)
  · rcases before with earlier | ⟨same, _⟩ <;> omega
  · rcases before with earlier | ⟨_, below⟩ <;> omega

/-- A log of monitored codes, in order and in the past. -/
structure Logged (ticks : Nat) (log : List Entering) : Prop where
  known : ∀ e ∈ log, e.code ∈ dtcTable.map (·.code)
  past : ∀ e ∈ log, e.tick < ticks
  sorted : log.Pairwise Entering.Before

/-- Nothing is logged at the start. -/
theorem logged_nil (ticks : Nat) : Logged ticks [] where
  known := fun _ member => absurd member List.not_mem_nil
  past := fun _ member => absurd member List.not_mem_nil
  sorted := List.Pairwise.nil

/-- The events of a pass come after all earlier ones and are in table order. -/
theorem logged_append (ticks : Nat) (log : List Entering) (goal : DtcState) (st : SimState)
    (table after : List DtcEntry) (codes : table.map (·.code) = dtcTable.map (·.code))
    (logged : Logged ticks log) :
    Logged (ticks + 1) (log ++ entering goal ticks st table after) := by
  have sub := entering_codes goal ticks st table after
  rw [codes] at sub
  have made := entering_made goal ticks st table after
  constructor
  · intro e member
    rcases List.mem_append.mp member with old | new
    · exact logged.known e old
    · exact sub.subset (List.mem_map_of_mem new)
  · intro e member
    rcases List.mem_append.mp member with old | new
    · exact Nat.lt_succ_of_lt (logged.past e old)
    · exact Nat.lt_succ_of_le (Nat.le_of_eq (made e new).1)
  · have places : (dtcTable.map (·.code)).Pairwise fun a b => place a < place b := by decide
    have inside := List.pairwise_map.mp (places.sublist sub)
    refine List.pairwise_append.mpr ⟨logged.sorted, ?_, ?_⟩
    · refine inside.imp_of_mem ?_
      intro e e' member member' smaller
      exact Or.inr ⟨(made e member).1.trans (made e' member').1.symm, smaller⟩
    · intro e old e' new
      exact Or.inl ((made e' new).1 ▸ logged.past e old)

/-- What the watch and the fault manager have to do with each other. -/
structure Watched.Traced (w : Watched) : Prop where
  codes : w.manager.table.map (·.code) = dtcTable.map (·.code)
  promoted : Logged w.ticks w.promoted
  confirmed : Logged w.ticks w.confirmed
  numbered : w.promoted.length < 65535 →
    w.manager.failSeqCounter.toNat = w.promoted.length ∧
      ∀ d ∈ w.manager.table, d.failSeq.toNat = stamp Entering.code w.promoted d.code
  entries : ∀ d ∈ w.manager.table,
    d.Witnessed w.ticks (latest Entering.code w.promoted d.code)
      (w.confirmed.filter (·.code == d.code))

/-- A reset manager is traced by an empty log. -/
theorem traced_reset (m : FaultManager) (codes : m.table.map (·.code) = dtcTable.map (·.code))
    (counter : m.failSeqCounter = 0)
    (reset : ∀ d ∈ m.table, d.state = .inactive ∧ d.failSeq = 0 ∧ d.snapshot.valid = false) :
    ({ manager := m } : Watched).Traced where
  codes := codes
  promoted := logged_nil 0
  confirmed := logged_nil 0
  numbered := by
    intro _
    refine ⟨congrArg UInt16.toNat counter, ?_⟩
    intro d member
    rw [(reset d member).2.1]
    simp
  entries := fun d member => witnessed_reset 0 d (reset d member).1 (reset d member).2.2

/-- The manager at the start is traced by an empty log. -/
theorem traced_initial : ({} : Watched).Traced := by
  refine traced_reset {} rfl rfl ?_
  intro d member
  simp only [dtcTable, List.mem_cons, List.not_mem_nil, or_false] at member
  rcases member with rfl | rfl | rfl <;> exact ⟨rfl, rfl, rfl⟩

/-- The codes of the table differ. -/
theorem codes_nodup (table : List DtcEntry) (codes : table.map (·.code) = dtcTable.map (·.code)) :
    (table.map (·.code)).Nodup := by
  rw [codes]
  decide

/-- What an update with the setting on leaves. -/
theorem accept_update_on (w : Watched) (st : SimState) (on : w.manager.settingOn = true) :
    let after := dtcUpdateTable st w.manager.failSeqCounter w.manager.table
    w.accept (.update st) =
      { manager := { w.manager with table := after.2, failSeqCounter := after.1 }
        ticks := w.ticks + 1
        promoted := w.promoted ++ entering .pending w.ticks st w.manager.table after.2
        confirmed := w.confirmed ++ entering .confirmed w.ticks st w.manager.table after.2 } := by
  simp [Watched.accept, obd2DtcUpdate, on]

/-- Every update keeps the log a trace of the entries. -/
theorem traced_update (w : Watched) (st : SimState) (traced : w.Traced) :
    (w.accept (.update st)).Traced := by
  cases on : w.manager.settingOn with
  | false =>
    have same : w.accept (.update st) = w := by
      simp [Watched.accept, obd2DtcUpdate, on, entering_self]
    rw [same]
    exact traced
  | true =>
    have codes := traced.codes
    have distinct := codes_nodup w.manager.table codes
    rw [accept_update_on w st on]
    exact {
      codes := (dtc_update_table_codes st _ w.manager.table).trans codes
      promoted := logged_append _ _ _ st _ _ codes traced.promoted
      confirmed := logged_append _ _ _ st _ _ codes traced.confirmed
      numbered := by
        intro few
        obtain ⟨count, numbered⟩ := traced.numbered
          (Nat.lt_of_le_of_lt (List.prefix_append _ _).length_le few)
        exact update_table_numbers w.ticks st _ w.manager.table distinct w.promoted count
          numbered few
      entries := by
        intro after member
        obtain ⟨d, within, between, reached, step, logs⟩ :=
          update_table_entering w.ticks st _ w.manager.table distinct after member
        have code : after.code = d.code := entry_step_code st between d _ step
        have next := (traced.entries d within).step step
        rw [code, latest, List.filter_append, List.filter_append, logs .pending,
          logs .confirmed, List.getLast?_append]
        exact next }

/-- Every input keeps the log a trace of the entries. -/
theorem traced_accept (w : Watched) (i : DtcInput) (traced : w.Traced) : (w.accept i).Traced := by
  cases i with
  | update st => exact traced_update w st traced
  | setting on => exact { traced with }
  | clear =>
    refine traced_reset _ ?_ rfl ?_
    · exact (operate_codes w.manager (.input .clear)).trans traced.codes
    · intro d member
      obtain ⟨before, _, rfl⟩ := List.mem_map.mp member
      exact ⟨rfl, rfl, rfl⟩

/-- Along every history the log is a trace of the entries. -/
theorem traced_watch (inputs : List DtcInput) : (watch inputs).Traced := by
  induction inputs using List.reverseRecOn with
  | nil => exact traced_initial
  | append_singleton inputs i ih =>
    rw [watch, List.foldl_append]
    exact traced_accept _ i ih

/-! ## Picking by sequence number -/

/-- What a pick maximises: the sequence number, or how far it is from the largest. -/
def DtcPick.rank (which : DtcPick) (d : DtcEntry) : Nat :=
  match which with
  | .firstFailed | .firstConfirmed => 65535 - d.failSeq.toNat
  | .recentFailed | .recentConfirmed => d.failSeq.toNat

/-- Sequence numbers in one order have their distances in the other. -/
theorem rank_first (d e : DtcEntry) :
    65535 - e.failSeq.toNat < 65535 - d.failSeq.toNat ↔ d.failSeq.toNat < e.failSeq.toNat := by
  have small := d.failSeq.toNat_lt
  have small' := e.failSeq.toNat_lt
  omega

/-- A pick prefers by its rank. -/
theorem better_rank (which : DtcPick) (d best : DtcEntry) :
    which.better d best = decide (which.rank best < which.rank d) := by
  cases which with
  | firstFailed | firstConfirmed =>
    exact decide_eq_decide.mpr (UInt16.lt_iff_toNat_lt.trans (rank_first d best).symm)
  | recentFailed | recentConfirmed => exact decide_eq_decide.mpr UInt16.lt_iff_toNat_lt

/-- The pick is the first candidate of the greatest rank. -/
theorem pick_argmax (m : FaultManager) (which : DtcPick) :
    obd2DtcPick m which = (m.table.filter which.candidate).argmax which.rank := by
  rw [List.argmax, List.foldl_filter, obd2DtcPick]
  congr 1
  funext best d
  cases candidate : which.candidate d with
  | false => simp
  | true =>
    cases best with
    | none => simp [List.argAux]
    | some b => simp [List.argAux, better_rank]

/-- A picked entry has no candidate above it. -/
theorem pick_highest (m : FaultManager) (which : DtcPick) (d e : DtcEntry)
    (picked : obd2DtcPick m which = some d) (within : e ∈ m.table)
    (candidate : which.candidate e = true) : which.rank e ≤ which.rank d := by
  rw [pick_argmax, List.argmax_eq_some_iff] at picked
  exact picked.2.1 e (List.mem_filter.mpr ⟨within, candidate⟩)

/-- A candidate above all others is picked. -/
theorem pick_some (m : FaultManager) (which : DtcPick) (d : DtcEntry) (within : d ∈ m.table)
    (candidate : which.candidate d = true)
    (highest : ∀ e ∈ m.table, which.candidate e = true → e ≠ d → which.rank e < which.rank d) :
    obd2DtcPick m which = some d := by
  rw [pick_argmax, List.argmax_eq_some_iff]
  refine ⟨List.mem_filter.mpr ⟨within, candidate⟩, ?_, ?_⟩
  · intro e member
    obtain ⟨inside, also⟩ := List.mem_filter.mp member
    by_cases same : e = d
    · exact same ▸ Nat.le_refl _
    · exact Nat.le_of_lt (highest e inside also same)
  · intro e member higher
    obtain ⟨inside, also⟩ := List.mem_filter.mp member
    by_cases same : e = d
    · exact same ▸ Nat.le_refl _
    · exact absurd higher (Nat.not_le.mpr (highest e inside also same))

/-- Without a candidate nothing is picked. -/
theorem pick_none (m : FaultManager) (which : DtcPick)
    (empty : ∀ d ∈ m.table, which.candidate d = false) : obd2DtcPick m which = none := by
  have nothing : m.table.filter which.candidate = [] :=
    List.filter_eq_nil_iff.mpr fun d member => Bool.eq_false_iff.mp (empty d member)
  rw [pick_argmax, nothing, List.argmax_nil]

/-- The lookup finds every entry of the table under its own code. -/
theorem find_entry (m : FaultManager) (codes : m.table.map (·.code) = dtcTable.map (·.code))
    (d : DtcEntry) (within : d ∈ m.table) : obd2DtcFindByCode m d.code = some d := by
  obtain ⟨e, found, inside, same⟩ :=
    find_monitored m d.code codes (codes ▸ List.mem_map_of_mem within)
  rw [found, List.inj_on_of_nodup_map (codes_nodup m.table codes) inside within same]

section Traced

variable {w : Watched} (traced : w.Traced)

include traced

/-- Every moment belongs to an entry of the table. -/
theorem entry_of_code (e : Entering) (known : e.code ∈ dtcTable.map (·.code)) :
    ∃ d ∈ w.manager.table, d.code = e.code := by
  rw [← traced.codes] at known
  exact List.mem_map.mp known

/-- No two entries of the table share a code. -/
theorem entry_unique (d d' : DtcEntry) (within : d ∈ w.manager.table)
    (within' : d' ∈ w.manager.table) (same : d.code = d'.code) : d = d' :=
  List.inj_on_of_nodup_map (codes_nodup w.manager.table traced.codes) within within' same

/-- Two entries share no sequence number but zero. -/
theorem sequence_unique (few : w.promoted.length < 65535) (d d' : DtcEntry)
    (within : d ∈ w.manager.table) (within' : d' ∈ w.manager.table)
    (same : d.failSeq.toNat = d'.failSeq.toNat) (numbered : d.failSeq ≠ 0) : d = d' := by
  have numbers := (traced.numbered few).2
  refine entry_unique traced d d' within within' ?_
  rw [numbers d within, numbers d' within'] at same
  refine stamp_injective Entering.code w.promoted d.code d'.code same ?_
  rw [← numbers d within]
  exact fun zero => numbered (UInt16.toNat_inj.mp zero)

/-- A confirmation belongs to a confirmed entry and comes 49 ticks after the latest
promotion of its code. -/
theorem confirmed_entry (c : Entering) (member : c ∈ w.confirmed) :
    ∃ d ∈ w.manager.table, d.code = c.code ∧ d.state = .confirmed ∧
      ∃ e, latest Entering.code w.promoted d.code = some e ∧ c.tick = e.tick + 49 := by
  obtain ⟨d, within, code⟩ := entry_of_code traced c (traced.confirmed.known c member)
  have witnessed := traced.entries d within
  have logged : c ∈ w.confirmed.filter (·.code == d.code) :=
    List.mem_filter.mpr ⟨member, by simp [code]⟩
  have state : d.state = .confirmed := by
    by_contra other
    rw [witnessed.unlatched other] at logged
    exact List.not_mem_nil logged
  obtain ⟨e, c', last, done, later⟩ := witnessed.latched state
  rw [done, List.mem_singleton] at logged
  exact ⟨d, within, code, state, e, last, logged ▸ later⟩

/-- A confirmed entry has its confirmation, and a sequence number. -/
theorem confirmation_of_entry (few : w.promoted.length < 65535) (d : DtcEntry)
    (within : d ∈ w.manager.table) (state : d.state = .confirmed) :
    d.failSeq ≠ 0 ∧ ∃ c ∈ w.confirmed, c.code = d.code := by
  obtain ⟨e, c, last, done, _⟩ := (traced.entries d within).latched state
  have inside : c ∈ w.confirmed.filter (·.code == d.code) := done ▸ List.mem_singleton_self c
  obtain ⟨member, code⟩ := List.mem_filter.mp inside
  refine ⟨?_, c, member, by simpa using code⟩
  intro zero
  have number := (traced.numbered few).2 d within
  rw [zero] at number
  obtain ⟨named, same⟩ := latest_mem Entering.code w.promoted d.code e last
  exact (stamp_eq_zero_iff Entering.code w.promoted d.code).mp number.symm e named same

/-- The entry with the smaller sequence number was confirmed first. -/
theorem confirmed_before (few : w.promoted.length < 65535) (d d' : DtcEntry)
    (within : d ∈ w.manager.table) (within' : d' ∈ w.manager.table) (c c' : Entering)
    (member : c ∈ w.confirmed) (member' : c' ∈ w.confirmed) (code : c.code = d.code)
    (code' : c'.code = d'.code) (smaller : d.failSeq.toNat < d'.failSeq.toNat) :
    c.Before c' := by
  obtain ⟨b, inside, same, _, e, last, later⟩ := confirmed_entry traced c member
  obtain ⟨b', inside', same', _, e', last', later'⟩ := confirmed_entry traced c' member'
  obtain rfl := entry_unique traced b d inside within (same.trans code)
  obtain rfl := entry_unique traced b' d' inside' within' (same'.trans code')
  have numbers := (traced.numbered few).2
  rw [numbers b within, numbers b' within'] at smaller
  have before := latest_ordered Entering.code Entering.Before w.promoted b.code b'.code e e'
    traced.promoted.sorted last last' smaller
  have named := (latest_mem Entering.code w.promoted b.code e last).2
  have named' := (latest_mem Entering.code w.promoted b'.code e' last').2
  rcases before with earlier | ⟨together, above⟩
  · exact Or.inl (by omega)
  · exact Or.inr ⟨by omega, by rw [code, code', ← named, ← named']; exact above⟩

/-- A confirmed entry whose confirmation no other one precedes is picked first. -/
theorem pick_first_confirmed (few : w.promoted.length < 65535) (c : Entering)
    (rest : List Entering) (log : w.confirmed = c :: rest) :
    obd2DtcPick w.manager .firstConfirmed = obd2DtcFindByCode w.manager c.code := by
  have member : c ∈ w.confirmed := log ▸ List.mem_cons_self
  obtain ⟨d, within, code, state, _⟩ := confirmed_entry traced c member
  have candidate : DtcPick.firstConfirmed.candidate d = true := by
    simp [DtcPick.candidate, state, (confirmation_of_entry traced few d within state).1]
  rw [← code, find_entry w.manager traced.codes d within]
  refine pick_some _ _ d within candidate ?_
  intro d' within' candidate' other
  refine (rank_first d d').mpr ?_
  obtain ⟨state', numbered⟩ : d'.state = .confirmed ∧ d'.failSeq ≠ 0 := by
    simpa [DtcPick.candidate] using candidate'
  obtain ⟨_, c', member', code'⟩ := confirmation_of_entry traced few d' within' state'
  by_contra notLess
  rcases Nat.eq_or_lt_of_le (Nat.le_of_not_lt notLess) with same | smaller
  · exact other (sequence_unique traced few d' d within' within same numbered)
  · have before := confirmed_before traced few d' d within' within c' c member' member code'
      code.symm smaller
    have sorted := traced.confirmed.sorted
    rw [log, List.pairwise_cons] at sorted
    rw [log] at member'
    rcases List.mem_cons.mp member' with rfl | later
    · exact other (entry_unique traced d' d within' within (code'.symm.trans code.symm))
    · exact before_asymm c' c before (sorted.1 c' later)

/-- A confirmed entry whose confirmation precedes no other one is the recent pick. -/
theorem pick_recent_confirmed (few : w.promoted.length < 65535) (c : Entering)
    (front : List Entering) (log : w.confirmed = front ++ [c]) :
    obd2DtcPick w.manager .recentConfirmed = obd2DtcFindByCode w.manager c.code := by
  have member : c ∈ w.confirmed := log ▸ List.mem_append_right front (List.mem_singleton_self c)
  obtain ⟨d, within, code, state, _⟩ := confirmed_entry traced c member
  have numbered := (confirmation_of_entry traced few d within state).1
  have candidate : DtcPick.recentConfirmed.candidate d = true := by
    simp [DtcPick.candidate, state, numbered]
  rw [← code, find_entry w.manager traced.codes d within]
  refine pick_some _ _ d within candidate ?_
  intro d' within' candidate' other
  change d'.failSeq.toNat < d.failSeq.toNat
  obtain ⟨state', _⟩ : d'.state = .confirmed ∧ d'.failSeq ≠ 0 := by
    simpa [DtcPick.candidate] using candidate'
  obtain ⟨_, c', member', code'⟩ := confirmation_of_entry traced few d' within' state'
  by_contra notLess
  rcases Nat.eq_or_lt_of_le (Nat.le_of_not_lt notLess) with same | larger
  · exact other (sequence_unique traced few d d' within within' same numbered).symm
  · have before := confirmed_before traced few d d' within within' c c' member member' code.symm
      code' larger
    have sorted := traced.confirmed.sorted
    rw [log, List.pairwise_append] at sorted
    rw [log] at member'
    rcases List.mem_append.mp member' with earlier | last
    · exact before_asymm c c' before
        (sorted.2.2 c' earlier c (List.mem_singleton_self c))
    · obtain rfl := List.mem_singleton.mp last
      exact other (entry_unique traced d' d within' within (code'.symm.trans code.symm))

/-- Nothing confirmed, nothing picked. -/
theorem pick_confirmed_none (few : w.promoted.length < 65535) (which : DtcPick)
    (confirmed : which = .firstConfirmed ∨ which = .recentConfirmed) (log : w.confirmed = []) :
    obd2DtcPick w.manager which = none := by
  refine pick_none _ _ fun d within => ?_
  have state : d.state ≠ .confirmed := by
    intro state
    obtain ⟨_, c, member, _⟩ := confirmation_of_entry traced few d within state
    rw [log] at member
    exact List.not_mem_nil member
  rcases confirmed with rfl | rfl <;> simp [DtcPick.candidate, state]

end Traced

/-- After any run of updates, setting changes and clears from reset, with fewer than
65535 promotions since the last clear, the confirmed picks are the entries whose
confirmations are the first and the last since then. -/
theorem pick_confirmed_in_order (inputs : List DtcInput)
    (few : (promotions inputs).length < 65535) :
    let m := inputs.foldl FaultManager.accept {}
    obd2DtcPick m .firstConfirmed =
        (confirmations inputs).head?.bind (fun c => obd2DtcFindByCode m c.code) ∧
      obd2DtcPick m .recentConfirmed =
        (confirmations inputs).getLast?.bind (fun c => obd2DtcFindByCode m c.code) := by
  intro m
  have traced := traced_watch inputs
  have manager : (watch inputs).manager = m := watch_manager inputs
  constructor
  · cases log : confirmations inputs with
    | nil => exact manager ▸ pick_confirmed_none traced few _ (Or.inl rfl) log
    | cons c rest => exact manager ▸ pick_first_confirmed traced few c rest log
  · rcases List.eq_nil_or_concat (confirmations inputs) with log | ⟨front, c, log⟩
    · rw [log]
      exact manager ▸ pick_confirmed_none traced few _ (Or.inr rfl) log
    · rw [List.concat_eq_append] at log
      rw [log, List.getLast?_concat]
      exact manager ▸ pick_recent_confirmed traced few c front log

/-- The overtemperature fault is confirmed, and is the first. -/
theorem pick_confirmed_in_order_hot :
    let hot : DtcInput := .update { coolantTemp := coolantTempMax }
    (obd2DtcPick ((List.replicate 54 hot).foldl FaultManager.accept {}) .firstConfirmed).map
      (·.code) = some dtcEngineOvertemp := by
  intro hot
  obtain ⟨first, _⟩ := pick_confirmed_in_order (List.replicate 54 hot) (by decide +kernel)
  rw [first]
  decide +kernel

/-! ## Promotions read off the fault conditions -/

/-- The state a monitor of the fault condition is in, without the fault manager. -/
def monitored (inputs : List DtcInput) (code : UInt16) : DtcState :=
  dtcStateOf (verdict true matureAfter confirmAfter (faultHistory code inputs))

/-- The codes an input takes to pending, with the values they were taken there by. -/
def maturing (past : List DtcInput) : DtcInput → List (UInt16 × SimState)
  | .update st =>
    ((dtcTable.map (·.code)).filter fun code =>
      monitored past code ≠ .pending ∧ monitored (past ++ [.update st]) code = .pending).map
        (·, st)
  | _ => []

/-- The inputs and the promotions since the last clear. -/
def observePromotions : List DtcInput × List (UInt16 × SimState) → DtcInput →
    List DtcInput × List (UInt16 × SimState)
  | (past, _), .clear => (past ++ [.clear], [])
  | (past, log), i => (past ++ [i], log ++ maturing past i)

/-- The promotions since the last clear, as the inputs alone give them. -/
def promotionsOf (inputs : List DtcInput) : List (UInt16 × SimState) :=
  (inputs.foldl observePromotions ([], [])).2

/-- A promotion without its tick. -/
def Entering.untimed (e : Entering) : UInt16 × SimState := (e.code, e.values)

/-- Entries in the states of two monitors enter a state where the monitors do. -/
theorem entering_of_states (goal : DtcState) (tick : Nat) (st : SimState)
    (before after : UInt16 → DtcState) (table table' : List DtcEntry)
    (codes : table'.map (·.code) = table.map (·.code))
    (states : ∀ d ∈ table, d.state = before d.code)
    (states' : ∀ d ∈ table', d.state = after d.code) :
    (entering goal tick st table table').map Entering.untimed =
      ((table.map (·.code)).filter fun code => before code ≠ goal ∧ after code = goal).map
        (·, st) := by
  induction table generalizing table' with
  | nil => rfl
  | cons d rest ih =>
    cases table' with
    | nil => simp at codes
    | cons d' rest' =>
      obtain ⟨code, others⟩ := List.cons.inj codes
      have later := ih rest' others (fun e member => states e (List.mem_cons_of_mem d member))
        (fun e member => states' e (List.mem_cons_of_mem d' member))
      have here : d.state = before d.code := states d List.mem_cons_self
      have here' : d'.state = after d.code :=
        (states' d' List.mem_cons_self).trans (congrArg after code)
      rw [entering, here, here', List.map_cons, List.filter_cons]
      by_cases enters : before d.code ≠ goal ∧ after d.code = goal
      · rw [if_pos enters, if_pos (decide_eq_true enters), List.map_cons, List.map_cons, later]
        rfl
      · rw [if_neg enters, if_neg (by simpa using enters), later]

/-- Observing the promotions leaves the inputs as they came. -/
theorem observe_promotions_past (inputs : List DtcInput) :
    (inputs.foldl observePromotions ([], [])).1 = inputs := by
  induction inputs using List.reverseRecOn with
  | nil => rfl
  | append_singleton inputs i ih =>
    rw [List.foldl_append, List.foldl_cons, List.foldl_nil]
    cases i <;> exact congrArg (· ++ [_]) ih

/-- The promotions behind one more input. -/
theorem promotions_append (inputs : List DtcInput) (i : DtcInput) :
    promotions (inputs ++ [i]) = ((watch inputs).accept i).promoted := by
  rw [promotions, watch, List.foldl_append]
  rfl

/-- The observer of the inputs alone comes to the same promotions. -/
theorem promotions_of_append (inputs : List DtcInput) (i : DtcInput) :
    promotionsOf (inputs ++ [i]) = (observePromotions (inputs, promotionsOf inputs) i).2 := by
  rw [promotionsOf, List.foldl_append, List.foldl_cons, List.foldl_nil]
  exact congrArg (fun past => (observePromotions (past, promotionsOf inputs) i).2)
    (observe_promotions_past inputs)

/-- The fault manager promotes what a monitor of the fault conditions promotes. -/
theorem promotions_untimed (inputs : List DtcInput) :
    (promotions inputs).map Entering.untimed = promotionsOf inputs := by
  induction inputs using List.reverseRecOn with
  | nil => rfl
  | append_singleton inputs i ih =>
    rw [promotions_append, promotions_of_append]
    cases i with
    | clear => rfl
    | setting on => exact ih.trans (List.append_nil _).symm
    | update st =>
      have before := tracks_run inputs
      have after := tracks_run (inputs ++ [.update st])
      rw [List.foldl_append] at after
      have same : (watch inputs).manager = inputs.foldl FaultManager.accept {} :=
        watch_manager inputs
      have logged := entering_of_states .pending (watch inputs).ticks st (monitored inputs)
        (monitored (inputs ++ [DtcInput.update st])) (watch inputs).manager.table
        (obd2DtcUpdate (watch inputs).manager st).table
        (by rw [same]; exact after.codes.trans before.codes.symm)
        (fun d within => (before.follows d (same ▸ within)).state)
        (fun d within => (after.follows d (same ▸ within)).state)
      have codes : (watch inputs).manager.table.map (·.code) = dtcTable.map (·.code) :=
        (traced_watch inputs).codes
      rw [codes] at logged
      simp only [Watched.accept, List.map_append, logged]
      exact congrArg (· ++ _) ih

/-! ## First failed -/

/-- The fault promoted first is promoted again after the last promotion of another. -/
def FirstOvertaken (log : List (UInt16 × SimState)) : Prop :=
  ∃ first, log.head? = some first ∧ ∃ e later, e :: later <:+ log ∧ e.1 = first.1 ∧
    ∃ other ∈ log, ∀ x ∈ e :: later, x.1 ≠ other.1

/-- In stamps: another fault has a smaller one than the first. -/
theorem first_overtaken_iff (log : List Entering) (first : Entering) (rest : List Entering)
    (split : log = first :: rest) :
    FirstOvertaken (log.map Entering.untimed) ↔
      ∃ other ∈ log, stamp Entering.code log other.code < stamp Entering.code log first.code := by
  have stamps : ∀ code, stamp Prod.fst (log.map Entering.untimed) code =
      stamp Entering.code log code := stamp_map Entering.untimed Prod.fst log
  have head : (log.map Entering.untimed).head? = some first.untimed := by rw [split]; rfl
  constructor
  · rintro ⟨front, leads, e, later, tail, named, other, member, others⟩
    obtain rfl : front = first.untimed := Option.some.inj (leads.symm.trans head)
    obtain ⟨o, inside, rfl⟩ := List.mem_map.mp member
    refine ⟨o, inside, ?_⟩
    rw [← stamps o.code, ← stamps first.code]
    exact (stamp_lt_iff Prod.fst _ o.code first.code).mpr ⟨e, later, tail, named, others⟩
  · rintro ⟨other, inside, smaller⟩
    rw [← stamps other.code, ← stamps first.code] at smaller
    obtain ⟨e, later, tail, named, others⟩ :=
      (stamp_lt_iff Prod.fst _ other.code first.code).mp smaller
    exact ⟨first.untimed, head, e, later, tail, named, other.untimed,
      List.mem_map_of_mem inside, others⟩

section Traced

variable {w : Watched} (traced : w.Traced)

include traced

/-- An entry with a sequence number is one that was promoted. -/
theorem promoted_iff (few : w.promoted.length < 65535) (d : DtcEntry)
    (within : d ∈ w.manager.table) :
    d.failSeq ≠ 0 ↔ ∃ e ∈ w.promoted, e.code = d.code := by
  have number := (traced.numbered few).2 d within
  have zero := stamp_eq_zero_iff Entering.code w.promoted d.code
  rw [← number] at zero
  rw [ne_eq, ← UInt16.toNat_inj, UInt16.toNat_zero, zero]
  simp only [ne_eq, not_forall, not_not, exists_prop]

/-- The first promotion decides the pick unless its fault was overtaken. -/
theorem pick_first_failed_cons (few : w.promoted.length < 65535) (first : Entering)
    (rest : List Entering) (log : w.promoted = first :: rest) :
    obd2DtcPick w.manager .firstFailed = obd2DtcFindByCode w.manager first.code ↔
      ¬FirstOvertaken (w.promoted.map Entering.untimed) := by
  have member : first ∈ w.promoted := log ▸ List.mem_cons_self
  obtain ⟨d, within, code⟩ := entry_of_code traced first (traced.promoted.known first member)
  have numbered : d.failSeq ≠ 0 :=
    (promoted_iff traced few d within).mpr ⟨first, member, code.symm⟩
  have numbers := (traced.numbered few).2
  rw [first_overtaken_iff w.promoted first rest log, ← code,
    find_entry w.manager traced.codes d within]
  constructor
  · rintro picked ⟨other, inside, smaller⟩
    obtain ⟨d', within', code'⟩ := entry_of_code traced other (traced.promoted.known other inside)
    have candidate' : DtcPick.firstFailed.candidate d' = true := by
      simpa [DtcPick.candidate] using
        (promoted_iff traced few d' within').mpr ⟨other, inside, code'.symm⟩
    have highest := pick_highest w.manager .firstFailed d d' picked within' candidate'
    have least : d.failSeq.toNat ≤ d'.failSeq.toNat :=
      Nat.le_of_not_lt fun smaller => Nat.not_lt.mpr highest ((rank_first d' d).mpr smaller)
    rw [numbers d within, numbers d' within', code'] at least
    omega
  · intro kept
    refine pick_some _ _ d within (by simpa [DtcPick.candidate]) ?_
    intro d' within' candidate' other
    refine (rank_first d d').mpr ?_
    have numbered' : d'.failSeq ≠ 0 := by simpa [DtcPick.candidate] using candidate'
    obtain ⟨e, inside, named⟩ := (promoted_iff traced few d' within').mp numbered'
    have apart : d'.failSeq.toNat ≠ d.failSeq.toNat := fun same =>
      other (sequence_unique traced few d' d within' within same numbered')
    have larger : ¬d'.failSeq.toNat < d.failSeq.toNat := by
      intro smaller
      rw [numbers d within, numbers d' within', ← named] at smaller
      exact kept ⟨e, inside, smaller⟩
    omega

/-- Nothing promoted, nothing picked. -/
theorem pick_first_failed_nil (few : w.promoted.length < 65535) (log : w.promoted = []) :
    obd2DtcPick w.manager .firstFailed = none := by
  refine pick_none _ _ fun d within => ?_
  by_contra candidate
  have numbered : d.failSeq ≠ 0 := by simpa [DtcPick.candidate] using candidate
  obtain ⟨e, inside, _⟩ := (promoted_iff traced few d within).mp numbered
  rw [log] at inside
  exact List.not_mem_nil inside

end Traced

/-- After any run of updates, setting changes and clears from reset, with fewer than
65535 promotions since the last clear, the first failed pick is the fault whose
first promotion came first exactly when that fault is not promoted again after the
last promotion of another. -/
theorem pick_first_failed_iff (inputs : List DtcInput)
    (few : (promotions inputs).length < 65535) :
    let m := inputs.foldl FaultManager.accept {}
    obd2DtcPick m .firstFailed =
        (promotions inputs).head?.bind (fun e => obd2DtcFindByCode m e.code) ↔
      ¬FirstOvertaken (promotionsOf inputs) := by
  intro m
  have traced := traced_watch inputs
  have manager : (watch inputs).manager = m := watch_manager inputs
  rw [← promotions_untimed]
  cases log : promotions inputs with
  | nil =>
    have unpicked := pick_first_failed_nil traced few log
    rw [manager] at unpicked
    refine iff_of_true unpicked ?_
    rintro ⟨first, leads, _⟩
    cases leads
  | cons first rest =>
    have law := pick_first_failed_cons traced few first rest log
    have whole : (watch inputs).promoted = first :: rest := log
    rw [manager, whole] at law
    exact law

/-- Overtemperature, a stall, and overtemperature again: each long enough to mature. -/
def intermittent : List DtcInput :=
  let hot : DtcInput := .update { coolantTemp := coolantTempMax }
  let stalled : DtcInput := .update { coolantTemp := 90, engineRpm := 3000 }
  List.replicate 5 hot ++ List.replicate 5 stalled ++ List.replicate 5 hot

/-- The stall is picked, which was promoted second. -/
theorem pick_first_failed_overtaken :
    (promotions intermittent).length < 65535 ∧
      ((promotions intermittent).head?.map (·.code) = some dtcEngineOvertemp) ∧
      (obd2DtcPick (intermittent.foldl FaultManager.accept {}) .firstFailed).map (·.code) =
        some dtcVssMalfunction := by
  decide +kernel

/-- A fault promoted once is picked. -/
theorem pick_first_failed_once :
    let hot : SimState := { coolantTemp := coolantTempMax }
    let inputs : List DtcInput := List.replicate 5 (.update hot)
    obd2DtcPick (inputs.foldl FaultManager.accept {}) .firstFailed =
      (promotions inputs).head?.bind
        (fun e => obd2DtcFindByCode (inputs.foldl FaultManager.accept {}) e.code) := by
  intro hot inputs
  have once : promotionsOf inputs = [(dtcEngineOvertemp, hot)] := by decide +kernel
  refine (pick_first_failed_iff inputs (by decide +kernel)).mpr ?_
  rw [once]
  rintro ⟨first, _, e, later, tail, _, other, member, others⟩
  have same : e = (dtcEngineOvertemp, hot) :=
    List.mem_singleton.mp (tail.subset List.mem_cons_self)
  exact others e List.mem_cons_self (same ▸ List.mem_singleton.mp member ▸ rfl)

/-! ## Freeze frames -/

/-- Each fault was promoted last under the values it was promoted first under. -/
def FramesAgree (log : List (UInt16 × SimState)) : Prop :=
  ∀ code e e', earliest Prod.fst log code = some e → latest Prod.fst log code = some e' →
    e.2.engineRpm = e'.2.engineRpm ∧ e.2.vehicleSpeed = e'.2.vehicleSpeed ∧
      e.2.coolantTemp = e'.2.coolantTemp

/-- A valid freeze frame holds the values of the first promotion since the last clear
exactly when every fault was promoted last under the values of its first promotion. -/
theorem freeze_frame_first_iff (inputs : List DtcInput) :
    (∀ d ∈ (inputs.foldl FaultManager.accept {}).table, d.snapshot.valid = true →
      ∃ e, earliest Entering.code (promotions inputs) d.code = some e ∧
        d.snapshot.rpm = e.values.engineRpm ∧ d.snapshot.speed = e.values.vehicleSpeed ∧
        d.snapshot.coolant = e.values.coolantTemp) ↔
      FramesAgree (promotionsOf inputs) := by
  have traced := traced_watch inputs
  have frames : ∀ code, latest Prod.fst (promotionsOf inputs) code =
      (latest Entering.code (promotions inputs) code).map Entering.untimed := by
    intro code
    rw [← promotions_untimed]
    exact latest_map Entering.untimed Prod.fst (promotions inputs) code
  have firsts : ∀ code, earliest Prod.fst (promotionsOf inputs) code =
      (earliest Entering.code (promotions inputs) code).map Entering.untimed := by
    intro code
    rw [← promotions_untimed]
    exact earliest_map Entering.untimed Prod.fst (promotions inputs) code
  rw [← watch_manager]
  constructor
  · intro law code e e' first last
    rw [frames, Option.map_eq_some_iff] at last
    obtain ⟨x', last, rfl⟩ := last
    rw [firsts, Option.map_eq_some_iff] at first
    obtain ⟨x, first, rfl⟩ := first
    obtain ⟨member, named⟩ := latest_mem Entering.code (promotions inputs) code x' last
    obtain ⟨d, within, same⟩ := entry_of_code traced x' (traced.promoted.known x' member)
    have own : d.code = code := same.trans named
    have frozen := (traced.entries d within).frozen x' (own ▸ last)
    obtain ⟨y, found, rpm, speed, coolant⟩ := law d within (by rw [frozen]; rfl)
    obtain rfl : x = y := Option.some.inj (first.symm.trans (own ▸ found))
    rw [frozen] at rpm speed coolant
    exact ⟨rpm.symm, speed.symm, coolant.symm⟩
  · intro agree d within valid
    have witnessed := traced.entries d within
    cases last : latest Entering.code (promotions inputs) d.code with
    | none =>
      rw [witnessed.unseen last] at valid
      exact absurd valid Bool.false_ne_true
    | some e' =>
      obtain ⟨e, first⟩ := earliest_of_latest Entering.code (promotions inputs) d.code e' last
      obtain ⟨rpm, speed, coolant⟩ := agree d.code e.untimed e'.untimed
        (by rw [firsts, first]; rfl) (by rw [frames, last]; rfl)
      rw [witnessed.frozen e' last]
      exact ⟨e, first, rpm.symm, speed.symm, coolant.symm⟩

/-- Overtemperature twice, at two engine speeds. -/
def heatedTwice : List DtcInput :=
  let hot (rpm : UInt16) : DtcInput := .update { coolantTemp := coolantTempMax, engineRpm := rpm }
  List.replicate 5 (hot 1000) ++ [.update { coolantTemp := 90 }] ++ List.replicate 5 (hot 2000)

/-- The freeze frame is that of the second promotion. -/
theorem freeze_frame_overwritten :
    ¬∀ d ∈ (heatedTwice.foldl FaultManager.accept {}).table, d.snapshot.valid = true →
      ∃ e, earliest Entering.code (promotions heatedTwice) d.code = some e ∧
        d.snapshot.rpm = e.values.engineRpm ∧ d.snapshot.speed = e.values.vehicleSpeed ∧
        d.snapshot.coolant = e.values.coolantTemp := by
  intro law
  obtain ⟨d, within, code, valid, second⟩ :
      ∃ d ∈ (heatedTwice.foldl FaultManager.accept {}).table, d.code = dtcEngineOvertemp ∧
        d.snapshot.valid = true ∧ d.snapshot.rpm = 2000 := by
    decide +kernel
  obtain ⟨e, first, rpm, _⟩ := law d within valid
  have values : (earliest Entering.code (promotions heatedTwice) dtcEngineOvertemp).map
      (·.values.engineRpm) = some 1000 := by
    decide +kernel
  rw [← code, first, Option.map_some, ← rpm, second] at values
  exact absurd values (by decide)

end ObdSimulator
