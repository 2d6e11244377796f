import ObdSimulator.Lib.Run

/-!
# Framing a stream

A receiver collects symbols until what it has is a frame, and starts afresh. What
is collected says by itself whether more symbols belong to it, whether it is
done, or whether it can be no frame at all. A frame that no shorter front of it
ends is delimited by itself: a stream of such frames is cut into them again,
without any mark between them.
-/

namespace ObdSimulator.Framing

open Run

universe u
variable {β : Type u}

/-- What the symbols collected so far are. -/
inductive Progress where
  | more
  | done
  | broken
deriving DecidableEq, Repr

/-- One symbol of the stream, with the frame it ends. -/
def step (progress : List β → Progress) (front : List β) (b : β) : List β × List (List β) :=
  let collected := front ++ [b]
  match progress collected with
  | .more => (collected, [])
  | .done => ([], [collected])
  | .broken => ([], [])

/-- What is collected afterwards ends what was, and a frame is all of it. -/
theorem step_cases (progress : List β → Progress) (front : List β) (b : β) :
    ((step progress front b).1 = front ++ [b] ∨ (step progress front b).1 = []) ∧
      ∀ w ∈ (step progress front b).2, w = front ++ [b] := by
  unfold step
  cases verdict : progress (front ++ [b]) <;> simp [verdict]

/-- A frame that is done as a whole, and at no front before. -/
structure Delimited (progress : List β → Progress) (w : List β) : Prop where
  whole : progress w = .done
  fronts : ∀ front b rest, w = front ++ b :: rest → front ≠ [] → progress front = .more

variable {progress : List β → Progress}

/-- The symbols of a frame behind a front of it.

Proof: induction on what is missing. The last symbol completes the frame, every
one before it leaves a longer front. -/
theorem frame_fed (front rest : List β) (missing : rest ≠ [])
    (frame : Delimited progress (front ++ rest)) :
    final (step progress) front rest = [] ∧
      trace (step progress) front rest = [front ++ rest] := by
  induction rest generalizing front with
  | nil => exact absurd rfl missing
  | cons b rest ih =>
    cases rest with
    | nil =>
      have done := frame.whole
      simp only [final, trace, step, done, List.append_nil, and_self]
    | cons c rest =>
      have whole : front ++ b :: c :: rest = (front ++ [b]) ++ c :: rest := by simp
      have partly : progress (front ++ [b]) = .more :=
        frame.fronts (front ++ [b]) c rest whole (by simp)
      rw [whole] at frame
      obtain ⟨ended, cut⟩ := ih (front ++ [b]) (by simp) frame
      simp only [final, trace, step, partly] at ended cut ⊢
      rw [whole]
      exact ⟨ended, cut⟩

/-- A stream of delimited frames is cut into its frames. -/
theorem frames_fed (frames : List (List β)) (filled : ∀ w ∈ frames, w ≠ [])
    (delimited : ∀ w ∈ frames, Delimited progress w) :
    trace (step progress) [] frames.flatten = frames := by
  induction frames with
  | nil => rfl
  | cons w rest ih =>
    obtain ⟨ended, cut⟩ := frame_fed [] w (filled w List.mem_cons_self)
      (delimited w List.mem_cons_self)
    have later := ih (fun v member => filled v (List.mem_cons_of_mem _ member))
      (fun v member => delimited v (List.mem_cons_of_mem _ member))
    rw [List.flatten_cons, trace_append, ended, cut, later]
    rfl

end ObdSimulator.Framing
