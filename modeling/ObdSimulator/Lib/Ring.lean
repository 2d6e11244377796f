import ObdSimulator.Lib.Run
import Mathlib.Logic.Function.Basic

/-!
# A ring between one producer and one consumer

The producer writes at the head and the consumer reads at the tail; the ring is
empty where they meet. A head that would run into the tail makes the ring full, so
one of its cells is never in use: `n` cells hold `n - 1` values.

The producer's push is one step. The consumer takes three, the test, the copy and
the advance of its index, and the producer may come in between any two of them.
-/

namespace ObdSimulator.Spsc

universe u
variable {α : Type u} {n : Nat}

/-- The cells and the two indices, both inside the array. -/
structure RingBuffer (α : Type u) (n : Nat) where
  cells : Fin n → α
  head : Fin n
  tail : Fin n

/-- The index after one, around the end. -/
def next (i : Fin n) : Fin n := ⟨(i.val + 1) % n, Nat.mod_lt _ i.pos⟩

/-- Write at the head unless the ring is full; the result says whether it was done. -/
def RingBuffer.push (r : RingBuffer α n) (a : α) : RingBuffer α n × Bool :=
  if next r.head = r.tail then (r, false)
  else ({ r with cells := Function.update r.cells r.head a, head := next r.head }, true)

/-- Release the cell at the tail. -/
def RingBuffer.advance (r : RingBuffer α n) : RingBuffer α n := { r with tail := next r.tail }

/-- How many cells are in use. -/
def RingBuffer.count (r : RingBuffer α n) : Nat :=
  if r.tail.val ≤ r.head.val then r.head.val - r.tail.val else r.head.val + n - r.tail.val

/-- The cell `i` places behind the tail. -/
def RingBuffer.place (r : RingBuffer α n) (i : Nat) : Fin n :=
  ⟨(r.tail.val + i) % n, Nat.mod_lt _ r.tail.pos⟩

/-- The values in the ring, the oldest first. -/
def RingBuffer.contents (r : RingBuffer α n) : List α :=
  (List.range r.count).map fun i => r.cells (r.place i)

/-! ## Indices -/

/-- The next place, with the wrap. -/
theorem next_val (i : Fin n) : (next i).val = if i.val + 1 = n then 0 else i.val + 1 := by
  have bound := i.isLt
  split
  · rename_i last
    simp only [next, last, Nat.mod_self]
  · exact Nat.mod_eq_of_lt (by omega)

/-- The place of the `i`-th item behind the tail. -/
theorem RingBuffer.place_val (r : RingBuffer α n) (i : Nat) (inside : i < n) :
    (r.place i).val = if r.tail.val + i < n then r.tail.val + i else r.tail.val + i - n := by
  have bound := r.tail.isLt
  split
  · rename_i below
    exact Nat.mod_eq_of_lt below
  · rename_i wrapped
    have reduced := Nat.mod_eq_sub_mod (Nat.le_of_not_lt wrapped)
    exact reduced.trans (Nat.mod_eq_of_lt (by omega))

/-- One place stays free. -/
theorem RingBuffer.count_lt (r : RingBuffer α n) : r.count < n := by
  have head := r.head.isLt
  have tail := r.tail.isLt
  rw [count]
  split <;> omega

/-- The items are as many as the count. -/
@[simp] theorem RingBuffer.contents_length (r : RingBuffer α n) : r.contents.length = r.count := by
  simp [contents]

/-- The head is the first place behind the values. -/
theorem RingBuffer.place_count (r : RingBuffer α n) : r.place r.count = r.head := by
  have head := r.head.isLt
  have tail := r.tail.isLt
  apply Fin.ext
  rw [place_val r _ r.count_lt, count]
  split <;> split <;> omega

/-- The values do not reach the head. -/
theorem RingBuffer.place_ne_head (r : RingBuffer α n) (i : Nat) (inside : i < r.count) :
    r.place i ≠ r.head := by
  have head := r.head.isLt
  have tail := r.tail.isLt
  have bound := r.count_lt
  intro same
  have value := congrArg Fin.val same
  rw [place_val r i (by omega)] at value
  rw [count] at inside
  split at inside <;> split at value <;> omega

/-- The two indices meet exactly in an empty ring. -/
theorem RingBuffer.empty_iff (r : RingBuffer α n) : r.tail = r.head ↔ r.count = 0 := by
  have head := r.head.isLt
  have tail := r.tail.isLt
  rw [Fin.ext_iff, count]
  split <;> omega

/-- One cell stays free: a ring is full one value before its cells are used up. -/
theorem RingBuffer.full_iff (r : RingBuffer α n) : next r.head = r.tail ↔ r.count + 1 = n := by
  have head := r.head.isLt
  have tail := r.tail.isLt
  rw [Fin.ext_iff, next_val, count]
  split <;> split <;> omega

/-! ## The two ends -/

/-- A full ring refuses an item and is left as it was. -/
theorem RingBuffer.push_full (r : RingBuffer α n) (a : α) (full : r.count + 1 = n) :
    r.push a = (r, false) :=
  if_pos (r.full_iff.mpr full)

/-- A push that is done puts its value behind the others. -/
theorem RingBuffer.push_contents (r : RingBuffer α n) (a : α) (room : r.count + 1 ≠ n) :
    (r.push a).2 = true ∧ (r.push a).1.contents = r.contents ++ [a] := by
  have open_cell : ¬ next r.head = r.tail := fun full => room (r.full_iff.mp full)
  have pushed : r.push a =
      ({ r with cells := Function.update r.cells r.head a, head := next r.head }, true) :=
    if_neg open_cell
  have more : (r.push a).1.count = r.count + 1 := by
    have head := r.head.isLt
    have tail := r.tail.isLt
    have apart : ¬ (next r.head).val = r.tail.val := fun same => open_cell (Fin.ext same)
    have value := next_val r.head
    obtain ⟨after, same⟩ : ∃ after, (next r.head).val = after := ⟨_, rfl⟩
    rw [same] at apart value
    rw [pushed]
    simp only [count, same]
    split at value <;> split <;> split <;> omega
  refine ⟨by rw [pushed], ?_⟩
  rw [contents, more, List.range_succ, List.map_append, pushed]
  congr 1
  · apply List.map_congr_left
    intro i member
    exact Function.update_of_ne (r.place_ne_head i (List.mem_range.mp member)) a r.cells
  · have last : Function.update r.cells r.head a (r.place r.count) = a := by
      rw [r.place_count, Function.update_self]
    exact congrArg (fun value => [value]) last

/-- A ring that is not empty is its oldest value, at the tail, and what is left when
the tail moves on. -/
theorem RingBuffer.advance_contents (r : RingBuffer α n) (filled : r.count ≠ 0) :
    r.contents = r.cells r.tail :: r.advance.contents := by
  have head := r.head.isLt
  have tail := r.tail.isLt
  have fewer : r.count = r.advance.count + 1 := by
    have value := next_val r.tail
    obtain ⟨after, same⟩ : ∃ after, (next r.tail).val = after := ⟨_, rfl⟩
    rw [same] at value
    simp only [count, advance, same] at filled ⊢
    split at value <;> split at filled <;> split <;> split <;> omega
  have first : r.place 0 = r.tail := by
    apply Fin.ext
    rw [place_val r 0 (by omega), if_pos (by omega), Nat.add_zero]
  have shifted (i : Nat) (inside : i < r.advance.count) : r.place (i + 1) = r.advance.place i := by
    have bound := r.count_lt
    apply Fin.ext
    have value := next_val r.tail
    obtain ⟨after, same⟩ : ∃ after, (next r.tail).val = after := ⟨_, rfl⟩
    rw [same] at value
    rw [place_val r (i + 1) (by omega), place_val r.advance i (by omega)]
    simp only [advance, same]
    split at value <;> split <;> split <;> omega
  rw [contents, fewer, List.range_succ_eq_map, List.map_cons, first, List.map_map, contents]
  congr 1
  apply List.map_congr_left
  intro i member
  exact congrArg r.cells (shifted i (List.mem_range.mp member))

/-! ## Interleavings -/

/-- Where the consumer is inside its operation. -/
inductive Phase (α : Type u) where
  | idle
  | checked
  | copied (out : α)
deriving DecidableEq

/-- The ring and how far the consumer is with its pop. -/
structure State (α : Type u) (n : Nat) where
  ring : RingBuffer α n
  phase : Phase α

/-- Who makes the next step. -/
inductive Input (α : Type u) where
  | push (a : α)
  | consume

/-- An item is accepted, refused or popped. -/
inductive Event (α : Type u) where
  | accepted (a : α)
  | dropped (a : α)
  | popped (a : α)
  | found_empty
deriving DecidableEq

/-- A push is one step; a pop checks, copies and advances in three. -/
def step (s : State α n) : Input α → State α n × List (Event α)
  | .push a =>
    match s.ring.push a with
    | (ring, true) => ({ s with ring := ring }, [.accepted a])
    | (ring, false) => ({ s with ring := ring }, [.dropped a])
  | .consume =>
    match s.phase with
    | .idle =>
      if s.ring.tail = s.ring.head then (s, [.found_empty])
      else ({ s with phase := .checked }, [])
    | .checked => ({ s with phase := .copied (s.ring.cells s.ring.tail) }, [])
    | .copied out => (⟨s.ring.advance, .idle⟩, [.popped out])

/-- The item of an acceptance. -/
def Event.accepted? : Event α → Option α
  | .accepted a => some a
  | _ => none

/-- The item of a pop. -/
def Event.popped? : Event α → Option α
  | .popped a => some a
  | _ => none

/-- What the consumer has found out still holds: the ring is not empty, and what it
has copied is the oldest value. -/
def State.Steady (s : State α n) : Prop :=
  match s.phase with
  | .idle => True
  | .checked => s.ring.count ≠ 0
  | .copied out => s.ring.count ≠ 0 ∧ s.ring.cells s.ring.tail = out

/-- The values accepted so far are those popped so far and those in the ring. -/
structure Fifo (past : List (Event α)) (s : State α n) : Prop where
  steady : s.Steady
  conserved : past.filterMap Event.accepted? =
    past.filterMap Event.popped? ++ s.ring.contents

/-- A push leaves the oldest value of a ring that is not empty alone. -/
theorem push_steady (s : State α n) (a : α) (steady : s.Steady) :
    (step s (.push a)).1.Steady := by
  have keeps (filled : s.ring.count ≠ 0) : (s.ring.push a).1.count ≠ 0 ∧
      (s.ring.push a).1.cells (s.ring.push a).1.tail = s.ring.cells s.ring.tail := by
    by_cases full : s.ring.count + 1 = n
    · rw [s.ring.push_full a full]
      exact ⟨filled, rfl⟩
    · have grown := congrArg List.length (s.ring.push_contents a full).2
      have before := s.ring.advance_contents filled
      have after : (s.ring.push a).1.count ≠ 0 := by
        simp only [RingBuffer.contents_length, List.length_append, List.length_singleton] at grown
        omega
      have front := (s.ring.push a).1.advance_contents after
      rw [(s.ring.push_contents a full).2, before, List.cons_append] at front
      exact ⟨after, (List.cons.inj front).1.symm⟩
  have moved : (step s (.push a)).1 = { s with ring := (s.ring.push a).1 } := by
    simp only [step]
    generalize s.ring.push a = outcome
    obtain ⟨ring, done⟩ := outcome
    cases done <;> rfl
  obtain ⟨ring, phase⟩ := s
  rw [moved]
  cases phase with
  | idle => trivial
  | checked => exact (keeps steady).1
  | copied out => exact ⟨(keeps steady.1).1, (keeps steady.1).2.trans steady.2⟩

/-- An event that is neither adds nothing to either side. -/
theorem conserved_append {past : List (Event α)} {contents : List α} (e : Event α)
    (conserved : past.filterMap Event.accepted? = past.filterMap Event.popped? ++ contents)
    (kept : e.accepted? = none) (held : e.popped? = none) :
    (past ++ [e]).filterMap Event.accepted? =
      (past ++ [e]).filterMap Event.popped? ++ contents := by
  simp [List.filterMap_append, kept, held, conserved]

/-- Every step of either party keeps the order of the values. -/
theorem step_fifo (past : List (Event α)) (s : State α n) (i : Input α) (fifo : Fifo past s) :
    Fifo (past ++ (step s i).2) (step s i).1 := by
  obtain ⟨steady, conserved⟩ := fifo
  cases i with
  | push a =>
    refine ⟨push_steady s a steady, ?_⟩
    by_cases full : s.ring.count + 1 = n
    · simp only [step, s.ring.push_full a full]
      exact conserved_append _ conserved rfl rfl
    · obtain ⟨done, grown⟩ := s.ring.push_contents a full
      generalize pushed : s.ring.push a = outcome at done grown
      obtain ⟨ring, done'⟩ := outcome
      cases done
      simp only [step, pushed, List.filterMap_append, conserved, List.append_assoc]
      rw [grown]
      rfl
  | consume =>
    obtain ⟨ring, phase⟩ := s
    cases phase with
    | idle =>
      by_cases empty : ring.tail = ring.head
      · simp only [step, if_pos empty]
        exact ⟨trivial, conserved_append _ conserved rfl rfl⟩
      · simp only [step, if_neg empty, List.append_nil]
        exact ⟨fun none_left => empty (ring.empty_iff.mpr none_left), conserved⟩
    | checked =>
      simp only [step, List.append_nil]
      exact ⟨⟨steady, rfl⟩, conserved⟩
    | copied out =>
      obtain ⟨filled, same⟩ := steady
      refine ⟨trivial, ?_⟩
      have split := ring.advance_contents filled
      rw [same] at split
      simp only [step, List.filterMap_append, conserved]
      rw [split]
      simp [Event.accepted?, Event.popped?]

/-- A value is dropped exactly by a push that finds the ring full. -/
theorem dropped_iff (s : State α n) (i : Input α) (a : α) :
    .dropped a ∈ (step s i).2 ↔ i = .push a ∧ s.ring.count + 1 = n := by
  cases i with
  | push b =>
    by_cases full : s.ring.count + 1 = n
    · simp only [step, s.ring.push_full b full, List.mem_singleton, Event.dropped.injEq, full,
        Input.push.injEq, and_true]
      exact eq_comm
    · have done := (s.ring.push_contents b full).1
      generalize pushed : s.ring.push b = outcome at done
      obtain ⟨ring, done'⟩ := outcome
      cases done
      simp [step, pushed, full]
  | consume =>
    obtain ⟨ring, phase⟩ := s
    cases phase with
    | idle =>
      simp only [step]
      split <;> simp
    | checked => simp [step]
    | copied out => simp [step]

/-! ## Arrivals -/

/-- One event's part in the number of values that have arrived since the consumer last
found the ring empty. -/
def arrive (arrived : Nat) : Event α → Nat
  | .found_empty => 0
  | .popped _ => arrived
  | .accepted _ | .dropped _ => arrived + 1

/-- How many items arrived since the ring was last found empty. -/
def arrivals (past : List (Event α)) : Nat := past.foldl arrive 0

/-- An empty ring has no contents. -/
theorem contents_empty (r : RingBuffer α n) (empty : r.count = 0) : r.contents = [] := by
  rw [RingBuffer.contents, empty, List.range_zero, List.map_nil]

/-- From an empty ring, at every point of every interleaving. -/
theorem run_fifo (r : RingBuffer α n) (empty : r.count = 0) (inputs : List (Input α)) :
    Fifo (Run.trace step ⟨r, .idle⟩ inputs) (Run.final step ⟨r, .idle⟩ inputs) := by
  have start : Fifo [] (⟨r, .idle⟩ : State α n) := ⟨trivial, by simp [contents_empty r empty]⟩
  have kept := Run.invariant_final step (fun _ _ _ => True) Fifo
    (fun past s i fifo _ => step_fifo past s i fifo) [] ⟨r, .idle⟩ inputs start
    (Run.along_of_forall step _ (fun _ _ _ => trivial) [] _ inputs)
  rwa [List.nil_append] at kept

/-- The consumer's last step hands out the oldest value. -/
theorem popped_front (r : RingBuffer α n) (out : α) (steady : (⟨r, .copied out⟩ : State α n).Steady)
    (more : List (Input α)) :
    (Run.trace step ⟨r, .copied out⟩ (.consume :: more)).filterMap Event.popped? =
      out :: (Run.trace step ⟨r.advance, .idle⟩ more).filterMap Event.popped? ∧
      r.contents = out :: r.advance.contents := by
  have front := r.advance_contents steady.1
  rw [steady.2] at front
  exact ⟨rfl, front⟩

/-- The consumer alone pops what is in the ring, whatever step it is at.

Proof: induction on the number of values, with as many steps for the oldest one as its
operation still has to make. -/
theorem drains (s : State α n) (steady : s.Steady) : ∃ steps,
    (Run.trace step s (List.replicate steps .consume)).filterMap Event.popped? =
      s.ring.contents := by
  obtain ⟨r, phase⟩ := s
  generalize left : r.count = values
  induction values generalizing r phase with
  | zero =>
    refine ⟨0, ?_⟩
    rw [contents_empty r left]
    rfl
  | succ values ih =>
    have filled : r.count ≠ 0 := by omega
    have shorter : r.advance.count = values := by
      have lengths := congrArg List.length (r.advance_contents filled)
      simp only [RingBuffer.contents_length, List.length_cons] at lengths
      omega
    obtain ⟨steps, rest⟩ := ih r.advance .idle trivial shorter
    have last (out : α) (held : (⟨r, .copied out⟩ : State α n).Steady) :
        (Run.trace step ⟨r, .copied out⟩ (List.replicate (steps + 1) .consume)).filterMap
          Event.popped? = r.contents := by
      obtain ⟨popped, front⟩ := popped_front r out held (List.replicate steps .consume)
      rw [List.replicate_succ, popped, front, rest]
    have checked := last (r.cells r.tail) ⟨filled, rfl⟩
    cases phase with
    | copied out => exact ⟨steps + 1, last out steady⟩
    | checked => exact ⟨steps + 2, checked⟩
    | idle =>
      have found : ¬ r.tail = r.head := fun empty => filled (r.empty_iff.mp empty)
      refine ⟨steps + 3, ?_⟩
      rw [List.replicate_succ, Run.trace]
      simp only [step, if_neg found, List.nil_append]
      exact checked

end ObdSimulator.Spsc
