import Mathlib.Data.List.Infix

/-!
# A timer that is refreshed when everyone has checked in

Parties check in, and a supervisor refreshes a timer. It vouches for the parties if it
refreshes the timer only when each of them has checked in since it last did. A party
that is absent lets it refresh at most once more, so the timer expires before twice its
time is over.
-/

namespace ObdSimulator.RollCall

universe u
variable {P : Type u}

/-- A party checks in, the supervisor refreshes the timer, or one unit of time passes.
-/
inductive Event (P : Type u) where
  | checkIn (p : P)
  | refresh
  | elapse
deriving DecidableEq

/-! ## The timer -/

/-- The time since the last refresh. -/
def since (history : List (Event P)) : Nat :=
  history.foldl (fun time e =>
    match e with
    | .checkIn _ => time
    | .refresh => 0
    | .elapse => time + 1) 0

section Histories

variable (history : List (Event P))

/-- The timer starts from zero. -/
@[simp] theorem since_nil : since ([] : List (Event P)) = 0 := rfl

/-- A check-in alone does not help the timer. -/
@[simp] theorem since_check_in (p : P) : since (history ++ [.checkIn p]) = since history := by
  simp [since]

/-- A refresh starts it over. -/
@[simp] theorem since_refresh : since (history ++ [.refresh]) = 0 := by simp [since]

/-- Time adds up. -/
@[simp] theorem since_elapse : since (history ++ [.elapse]) = since history + 1 := by
  simp [since]

end Histories

/-- The timer has run out. -/
def Expired (limit : Nat) (history : List (Event P)) : Prop :=
  ∃ before, before <+: history ∧ limit ≤ since before

/-- A timer with a positive limit has not expired at the start. -/
theorem not_expired_nil (limit : Nat) (positive : 0 < limit) :
    ¬ Expired limit ([] : List (Event P)) := by
  rintro ⟨before, inside, late⟩
  rw [List.prefix_nil.mp inside, since_nil] at late
  omega

/-- An event expires the timer if it had expired before or the time is up with it. -/
theorem expired_snoc (limit : Nat) (history : List (Event P)) (e : Event P) :
    Expired limit (history ++ [e]) ↔ Expired limit history ∨ limit ≤ since (history ++ [e]) := by
  constructor
  · rintro ⟨before, inside, late⟩
    rcases List.prefix_concat_iff.mp inside with rfl | earlier
    · exact Or.inr late
    · exact Or.inl ⟨before, earlier, late⟩
  · rintro (⟨before, inside, late⟩ | late)
    · exact ⟨before, inside.trans (List.prefix_append history [e]), late⟩
    · exact ⟨_, List.prefix_rfl, late⟩

/-! ## The parties -/

variable [DecidableEq P]

/-- The party has checked in since the last refresh. -/
def present (p : P) (history : List (Event P)) : Bool :=
  history.foldl (fun here e =>
    match e with
    | .checkIn q => here || decide (q = p)
    | .refresh => false
    | .elapse => here) false

section Presence

variable (p : P) (history : List (Event P))

/-- A check-in makes its party present and changes nothing for the others. -/
@[simp] theorem present_check_in (q : P) :
    present p (history ++ [.checkIn q]) = (present p history || decide (q = p)) := by
  simp [present]

/-- A refresh calls the roll anew. -/
@[simp] theorem present_refresh : present p (history ++ [.refresh]) = false := by simp [present]

/-- Presence does not wear off with time. -/
@[simp] theorem present_elapse : present p (history ++ [.elapse]) = present p history := by
  simp [present]

end Presence

/-- The supervisor refreshes the timer only when everyone is present. -/
def Vouched (history : List (Event P)) : Prop :=
  ∀ before, before ++ [.refresh] <+: history → ∀ p, present p before = true

/-- Nothing has been vouched for yet. -/
theorem vouched_nil : Vouched ([] : List (Event P)) := by
  intro before inside
  exact absurd (List.prefix_nil.mp inside) (by simp)

/-- A history goes on being vouched for when its refreshes find everyone present. -/
theorem vouched_snoc (history : List (Event P)) (e : Event P) (vouched : Vouched history)
    (here : e = .refresh → ∀ p, present p history = true) : Vouched (history ++ [e]) := by
  intro before inside
  rcases List.prefix_concat_iff.mp inside with whole | earlier
  · obtain ⟨rfl, last⟩ := List.append_inj' whole rfl
    exact here (List.cons.inj last).1.symm
  · exact vouched before earlier

/-- Without a check-in nobody gets present. -/
theorem absent_stays (p : P) (before quiet : List (Event P)) (absent : present p before = false)
    (silent : .checkIn p ∉ quiet) : present p (before ++ quiet) = false := by
  induction quiet using List.reverseRecOn with
  | nil => rwa [List.append_nil]
  | append_singleton quiet e ih =>
    have earlier := ih fun member => silent (List.mem_append_left [e] member)
    rw [← List.append_assoc]
    cases e with
    | checkIn q =>
      have other : q ≠ p := by
        rintro rfl
        exact silent (List.mem_append_right quiet List.mem_cons_self)
      rw [present_check_in, earlier, decide_eq_false other]
      rfl
    | refresh => exact present_refresh p _
    | elapse =>
      rw [present_elapse]
      exact earlier

/-- Without a refresh the time adds up. -/
theorem since_append (before quiet : List (Event P)) (none_refreshed : .refresh ∉ quiet) :
    since (before ++ quiet) = since before + quiet.count .elapse := by
  induction quiet using List.reverseRecOn with
  | nil => simp
  | append_singleton quiet e ih =>
    have earlier := ih fun member => none_refreshed (List.mem_append_left [e] member)
    rw [← List.append_assoc, List.count_append]
    cases e with
    | checkIn q =>
      rw [since_check_in, earlier]
      simp
    | refresh => exact absurd (List.mem_append_right quiet List.mem_cons_self) none_refreshed
    | elapse =>
      rw [since_elapse, earlier]
      simp [Nat.add_assoc]

/-- While a party is absent the timer is refreshed at most once.

Proof: behind the first refresh of that time the party is not present, and does not
check in. -/
theorem absent_refreshed_once (p : P) (before quiet : List (Event P))
    (vouched : Vouched (before ++ quiet)) (silent : .checkIn p ∉ quiet)
    (first later : List (Event P)) (split : quiet = first ++ .refresh :: later) :
    .refresh ∉ later := by
  intro again
  obtain ⟨middle, rest, rfl⟩ := List.append_of_mem again
  have absent : present p (before ++ first ++ [.refresh] ++ middle) = false := by
    refine absent_stays p _ middle (present_refresh p _) fun member => silent ?_
    rw [split]
    simp [member]
  have inside : before ++ first ++ [.refresh] ++ middle ++ [.refresh] <+: before ++ quiet := by
    refine ⟨rest, ?_⟩
    rw [split]
    simp
  rw [vouched _ inside p] at absent
  cases absent

/-- A party that is absent for twice the time of the timer lets it expire. -/
theorem absent_expires (limit : Nat) (p : P) (before quiet : List (Event P))
    (vouched : Vouched (before ++ quiet)) (silent : .checkIn p ∉ quiet)
    (long : 2 * limit ≤ quiet.count .elapse) : Expired limit (before ++ quiet) := by
  by_cases refreshed : .refresh ∈ quiet
  · obtain ⟨first, later, split, unrefreshed⟩ := List.eq_append_cons_of_mem refreshed
    have last := absent_refreshed_once p before quiet vouched silent first later split
    have total : quiet.count .elapse = first.count .elapse + later.count .elapse := by
      rw [split, List.count_append, List.count_cons]
      simp
    have early := since_append before first unrefreshed
    have late := since_append (before ++ first ++ [.refresh]) later last
    rw [since_refresh, Nat.zero_add] at late
    by_cases already : limit ≤ first.count .elapse
    · refine ⟨before ++ first, ⟨.refresh :: later, ?_⟩, by omega⟩
      rw [split, List.append_assoc]
    · refine ⟨before ++ first ++ [.refresh] ++ later, ⟨[], ?_⟩, by omega⟩
      rw [split]
      simp
  · exact ⟨before ++ quiet, List.prefix_rfl, by rw [since_append before quiet refreshed]; omega⟩

end ObdSimulator.RollCall
