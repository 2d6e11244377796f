import Mathlib.Data.List.Infix

/-!
# Streaks in a history

A history is a list of observations, oldest first. The current streak of an
observation is how often it stands at the end without a gap. A monitor with two
thresholds stands while the current streak has reached the first of them, and
latches for good once some streak of the history has reached the second.

Each notion comes with what one more observation does to it, which is what a
machine that keeps counters instead of the history is compared with.
-/

namespace ObdSimulator.Streak

universe u
variable {α : Type u} [DecidableEq α] (a : α)

/-- How often `a` stands at the end of the history without a gap. -/
def current (history : List α) : Nat :=
  history.foldl (fun count b => if b = a then count + 1 else 0) 0

/-- No streak before the first event. -/
@[simp] theorem current_nil : current a [] = 0 := rfl

/-- One more hit makes the streak longer. -/
@[simp] theorem current_hit (history : List α) :
    current a (history ++ [a]) = current a history + 1 := by
  simp [current]

/-- A miss ends the streak. -/
theorem current_miss (history : List α) (b : α) (other : b ≠ a) :
    current a (history ++ [b]) = 0 := by
  simp [current, other]

/-- The history ends with `n` observations of `a` when the streak is that long. -/
theorem replicate_suffix_iff (n : Nat) (history : List α) :
    List.replicate n a <:+ history ↔ n ≤ current a history := by
  induction history using List.reverseRecOn generalizing n with
  | nil =>
    simp only [List.suffix_nil, List.replicate_eq_nil_iff, current_nil]
    omega
  | append_singleton history b ih =>
    cases n with
    | zero => simp
    | succ n =>
      rw [List.suffix_concat_iff, List.replicate_succ']
      by_cases same : b = a
      · subst same
        constructor
        · rintro (empty | ⟨front, whole, inside⟩)
          · simp at empty
          · obtain ⟨rfl, -⟩ := List.append_inj' whole rfl
            have shorter := (ih n).mp inside
            simpa using shorter
        · intro long
          rw [current_hit] at long
          exact Or.inr ⟨_, rfl, (ih n).mpr (by omega)⟩
      · rw [current_miss a history b same]
        constructor
        · rintro (empty | ⟨front, whole, -⟩)
          · simp at empty
          · obtain ⟨-, last⟩ := List.append_inj' whole rfl
            exact absurd (List.head_eq_of_cons_eq last).symm same
        · intro long
          omega

/-- All observations of `a` are in the current streak when none stands before it. -/
theorem current_all_iff (history : List α) :
    history.count a ≤ current a history ↔
      ∃ front, a ∉ front ∧ history = front ++ List.replicate (history.count a) a := by
  rw [← replicate_suffix_iff]
  constructor
  · rintro ⟨front, whole⟩
    refine ⟨front, ?_, whole.symm⟩
    have counted := congrArg (List.count a) whole
    rw [List.count_append, List.count_replicate_self] at counted
    exact List.count_eq_zero.mp (by omega)
  · rintro ⟨front, _, whole⟩
    exact ⟨front, whole.symm⟩

/-- A streak of the longer history lies in the old one or is the current one. -/
theorem replicate_infix_append (n : Nat) (history : List α) (b : α) :
    List.replicate n a <:+: history ++ [b] ↔
      List.replicate n a <:+: history ∨ n ≤ current a (history ++ [b]) := by
  rw [List.infix_concat_iff, replicate_suffix_iff]
  exact Or.comm

/-- What a monitor says about a history. -/
inductive Verdict where
  | quiet
  | standing
  | latched
deriving DecidableEq, Repr

/-- The verdict of a monitor with the two thresholds. -/
def verdict (standing latching : Nat) (history : List α) : Verdict :=
  if List.replicate latching a <:+: history then .latched
  else if standing ≤ current a history then .standing
  else .quiet

variable (standing latching : Nat)

/-- Latched: a long enough streak at any time. -/
theorem verdict_latched_iff (history : List α) :
    verdict a standing latching history = .latched ↔ List.replicate latching a <:+: history := by
  unfold verdict
  split_ifs with latched <;> simp [latched]

/-- Standing: none so long yet, but one up to now. -/
theorem verdict_standing_iff (history : List α) :
    verdict a standing latching history = .standing ↔
      ¬List.replicate latching a <:+: history ∧ List.replicate standing a <:+ history := by
  rw [replicate_suffix_iff]
  unfold verdict
  split_ifs with latched long
  · simp [latched]
  · simp [latched, long]
  · simp [latched, long]

/-- Quiet: neither. -/
theorem verdict_quiet_iff (history : List α) :
    verdict a standing latching history = .quiet ↔
      ¬List.replicate latching a <:+: history ∧ ¬List.replicate standing a <:+ history := by
  rw [replicate_suffix_iff]
  unfold verdict
  split_ifs with latched long
  · simp [latched]
  · simp [latched, long]
  · simp [latched, long]

/-- An observation keeps a latch, and latches where the streak is long enough. -/
theorem verdict_append (history : List α) (b : α) :
    verdict a standing latching (history ++ [b]) =
      if verdict a standing latching history = .latched ∨
          latching ≤ current a (history ++ [b]) then .latched
      else if standing ≤ current a (history ++ [b]) then .standing
      else .quiet := by
  have before := verdict_latched_iff a standing latching history
  conv_lhs => unfold verdict
  simp only [before, replicate_infix_append]

end ObdSimulator.Streak
