import Mathlib.Data.List.Sublists
import Mathlib.Tactic.Ring

/-!
# Rate limits over time windows

Times at which something was let through, in order. A limiter that works in
batches lets at most `k` through between two pauses of at least `d`, so of any
`k + 1` in a row the last comes at least `d` after the first. That property of
the list passes to its sublists and bounds how many times fall into a window.
-/

namespace ObdSimulator.Rate

/-- An element and every later one that is not among its next `k - 1` are at
least `d` apart. -/
def Paced (k d : Nat) : List Nat → Prop
  | [] => True
  | x :: rest => (∀ y ∈ rest.drop (k - 1), x + d ≤ y) ∧ Paced k d rest

variable {k d : Nat}

/-- Where nothing happens, nothing happens too often. -/
theorem paced_nil : Paced k d [] := trivial

/-- Leaving times out keeps the others apart. -/
theorem Paced.sublist {before after : List Nat} (inside : before.Sublist after)
    (paced : Paced k d after) : Paced k d before := by
  induction inside with
  | slnil => exact paced
  | cons x _ ih => exact ih paced.2
  | cons_cons x inside ih =>
    refine ⟨?_, ih paced.2⟩
    intro y member
    exact paced.1 y ((inside.drop (k - 1)).subset member)

/-- What remains behind some of the times is paced. -/
theorem Paced.drop {times : List Nat} (paced : Paced k d times) (n : Nat) :
    Paced k d (times.drop n) :=
  paced.sublist (List.drop_sublist n times)

/-- A single batch keeps no distances. -/
theorem paced_batch (times : List Nat) (few : times.length ≤ k) : Paced k d times := by
  induction times with
  | nil => trivial
  | cons x rest ih =>
    rw [List.length_cons] at few
    have none_left : rest.drop (k - 1) = [] := List.drop_eq_nil_of_le (by omega)
    refine ⟨?_, ih (by omega)⟩
    intro y member
    rw [none_left] at member
    cases member

/-- A new time may follow fewer than `k` times of the current batch, when every
time before that batch is at least `d` old. -/
theorem paced_snoc {old batch : List Nat} {t : Nat} (paced : Paced k d (old ++ batch))
    (room : batch.length < k) (elapsed : ∀ x ∈ old, x + d ≤ t) :
    Paced k d (old ++ batch ++ [t]) := by
  induction old with
  | nil =>
    have few : batch.length + 1 ≤ k := room
    apply paced_batch
    simpa using few
  | cons x old ih =>
    refine ⟨?_, ih paced.2 (fun y member => elapsed y (List.mem_cons_of_mem x member))⟩
    intro y member
    have split : y ∈ (old ++ batch).drop (k - 1) ++ [t].drop (k - 1 - (old ++ batch).length) := by
      rw [← List.drop_append]
      exact member
    rcases List.mem_append.mp split with earlier | last
    · exact paced.1 y earlier
    · have same : y = t := List.mem_singleton.mp (List.mem_of_mem_drop last)
      rw [same]
      exact elapsed x List.mem_cons_self

/-- A window of length `T` holds at most `k` times for each whole `d` in it, and
`k` more. Proof: the times behind the first `k` fall into a window shorter by
`d`. -/
theorem Paced.window_bound {times : List Nat} (paced : Paced k d times) (batch : 0 < k)
    (apart : 0 < d) (start T : Nat) (inside : ∀ t ∈ times, start ≤ t ∧ t ≤ start + T) :
    times.length ≤ k * (T / d + 1) := by
  induction T using Nat.strong_induction_on generalizing times start with
  | _ T ih =>
    have behind : ∀ y ∈ times.drop k, start + d ≤ y := by
      intro y member
      cases times with
      | nil => simp at member
      | cons x rest =>
        obtain ⟨n, rfl⟩ : ∃ n, k = n + 1 := ⟨k - 1, by omega⟩
        have first := inside x List.mem_cons_self
        have later := paced.1 y member
        omega
    have split : times.length ≤ k + (times.drop k).length := by
      rw [List.length_drop]
      omega
    by_cases short : T < d
    · have empty : times.drop k = [] := by
        apply List.eq_nil_iff_forall_not_mem.mpr
        intro y member
        have late := behind y member
        have bound := (inside y (List.mem_of_mem_drop member)).2
        omega
      rw [Nat.div_eq_of_lt short]
      rw [empty] at split
      simpa using split
    · have shorter := ih (T - d) (by omega) (paced.drop k) (start + d) (by
        intro y member
        have bound := (inside y (List.mem_of_mem_drop member)).2
        have late := behind y member
        omega)
      have whole : T / d = (T - d) / d + 1 := by
        rw [Nat.div_eq_sub_div apart (by omega)]
      calc times.length ≤ k + (times.drop k).length := split
        _ ≤ k + k * ((T - d) / d + 1) := Nat.add_le_add_left shorter k
        _ = k * (T / d + 1) := by rw [whole]; ring

/-- The times of a window are counted in any paced list. -/
theorem Paced.window_count {times : List Nat} (paced : Paced k d times) (batch : 0 < k)
    (apart : 0 < d) (start T : Nat) :
    times.countP (fun t => start ≤ t && t ≤ start + T) ≤ k * (T / d + 1) := by
  rw [List.countP_eq_length_filter]
  apply (paced.sublist List.filter_sublist).window_bound batch apart start T
  intro t member
  simpa using List.of_mem_filter member

end ObdSimulator.Rate
