import Mathlib.Data.List.Basic

/-!
# Cutting a list into parts

A list is cut into parts of a fixed positive size, the last of which may be
shorter.
-/

namespace ObdSimulator.Chunks

universe u
variable {α : Type u}

/-- The parts of a list, `size + 1` elements each. -/
def chunks (size : Nat) (l : List α) : List (List α) :=
  if l = [] then [] else l.take (size + 1) :: chunks size (l.drop (size + 1))
termination_by l.length
decreasing_by
  have filled : 0 < l.length := List.length_pos_iff.mpr ‹_›
  rw [List.length_drop]
  omega

/-- Nothing has no chunks. -/
@[simp] theorem chunks_nil (size : Nat) : chunks size ([] : List α) = [] := by
  rw [chunks, if_pos rfl]

/-- The first chunk, then those of the rest. -/
theorem chunks_cons (size : Nat) (l : List α) (filled : l ≠ []) :
    chunks size l = l.take (size + 1) :: chunks size (l.drop (size + 1)) := by
  rw [chunks, if_neg filled]

/-- The chunks put together give the list. -/
theorem chunks_flatten (size : Nat) (l : List α) : (chunks size l).flatten = l := by
  fun_induction chunks size l with
  | case1 => rfl
  | case2 l filled ih => rw [List.flatten_cons, ih, List.take_append_drop]

/-- No record is empty, and none longer than the size. -/
theorem chunks_sized (size : Nat) (l : List α) :
    ∀ c ∈ chunks size l, 0 < c.length ∧ c.length ≤ size + 1 := by
  fun_induction chunks size l with
  | case1 => exact List.forall_mem_nil _
  | case2 l filled ih =>
    intro c member
    rcases List.mem_cons.mp member with rfl | later
    · have some_data := List.length_pos_iff.mpr filled
      rw [List.length_take]
      omega
    · exact ih c later

/-- All records but the last have the size. -/
theorem chunks_full (size : Nat) (l : List α) :
    ∀ c ∈ (chunks size l).dropLast, c.length = size + 1 := by
  fun_induction chunks size l with
  | case1 => exact List.forall_mem_nil _
  | case2 l filled ih =>
    by_cases last : l.drop (size + 1) = []
    · rw [last, chunks_nil]
      exact List.forall_mem_nil _
    · have more : chunks size (l.drop (size + 1)) ≠ [] := by
        rw [chunks_cons size _ last]
        exact List.cons_ne_nil _ _
      rw [List.dropLast_cons_of_ne_nil more]
      intro c member
      rcases List.mem_cons.mp member with rfl | later
      · rw [List.drop_eq_nil_iff] at last
        rw [List.length_take]
        omega
      · exact ih c later

/-- Records of one size are cut apart again. -/
theorem chunks_flat_map {α β : Type*} (size : Nat) (f : α → List β) (l : List α)
    (sized : ∀ a ∈ l, (f a).length = size + 1) : chunks size (l.flatMap f) = l.map f := by
  induction l with
  | nil => simp
  | cons a rest ih =>
    have here : (f a).length = size + 1 := sized a List.mem_cons_self
    have filled : f a ++ rest.flatMap f ≠ [] := by
      intro empty
      rw [(List.append_eq_nil_iff.mp empty).1] at here
      simp at here
    rw [List.flatMap_cons, chunks_cons _ _ filled, List.take_left' here, List.drop_left' here,
      ih (fun b member => sized b (List.mem_cons_of_mem a member)), List.map_cons]

/-- Pieces of equal lengths are equal where their concatenations are. -/
theorem flat_map_pieces {α β : Type*} (f g : α → List β) (l : List α)
    (lengths : ∀ a ∈ l, (f a).length = (g a).length) (same : l.flatMap f = l.flatMap g) :
    ∀ a ∈ l, f a = g a := by
  induction l with
  | nil => exact nofun
  | cons a rest ih =>
    rw [List.flatMap_cons, List.flatMap_cons] at same
    obtain ⟨here, later⟩ := List.append_inj same (lengths a List.mem_cons_self)
    intro b member
    rcases List.mem_cons.mp member with rfl | inside
    · exact here
    · exact ih (fun c within => lengths c (List.mem_cons_of_mem _ within)) later b inside

end ObdSimulator.Chunks
