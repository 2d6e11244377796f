import Mathlib.Logic.Relation
import ObdSimulator.Lib.Program

/-!
# Programs that call a service

A program makes calls and goes on with their replies. The service changes with a
call, and it also drifts by itself at any time. `Ensures` says that every run of a
program ends well: it is the weakest precondition of the program, and closed under
drift by its definition. It has one rule for each construct of a program.
-/

namespace ObdSimulator.Calls

open Relation

variable {S Q α β : Type} {R : Q → Type}

/-- A service: the steps it takes by itself, and the replies a call may get, with the
state after it. -/
structure Service (S Q : Type) (R : Q → Type) where
  drifts : S → S → Prop
  answers : S → (q : Q) → S → R q → Prop

variable (v : Service S Q R)

/-- However the service drifts and whichever replies come, the program ends with a value
and in a state, and stays in states, that meet the postcondition. -/
def Ensures (post : α → S → Prop) : Program Q R α → S → Prop
  | .done a, s => ∀ s', ReflTransGen v.drifts s s' → post a s'
  | .ask q next, s => ∀ s', ReflTransGen v.drifts s s' →
      ∀ s'' r, v.answers s' q s'' r → Ensures post (next r) s''

/-- What drift keeps. -/
def Stable (assertion : S → Prop) : Prop :=
  ∀ s s', assertion s → v.drifts s s' → assertion s'

variable {v}

/-- A stable assertion survives any drift. -/
theorem Stable.drifted {assertion : S → Prop} (stable : Stable v assertion) {s s' : S}
    (holds : assertion s) (drifted : ReflTransGen v.drifts s s') : assertion s' := by
  induction drifted with
  | refl => exact holds
  | tail _ last ih => exact stable _ _ ih last

/-- A stable assertion stays one under a condition that does not depend on the state. -/
theorem Stable.imp {assertion : S → Prop} (given : Prop) (stable : Stable v assertion) :
    Stable v fun s => given → assertion s :=
  fun s s' holds drift given => stable s s' (holds given) drift

/-- Drift goes on where it came to. -/
theorem Ensures.drifted {post : α → S → Prop} {p : Program Q R α} {s s' : S}
    (ensures : Ensures v post p s) (drifted : ReflTransGen v.drifts s s') :
    Ensures v post p s' := by
  cases p with
  | done a =>
    intro last later
    exact ensures last (drifted.trans later)
  | ask q next =>
    intro last later
    exact ensures last (drifted.trans later)

/-- One step of drift is drift. -/
theorem Ensures.drift {post : α → S → Prop} {p : Program Q R α} {s s' : S}
    (ensures : Ensures v post p s) (drift : v.drifts s s') : Ensures v post p s' :=
  ensures.drifted (.single drift)

/-- A finished program has its value in a state that meets the postcondition. -/
theorem Ensures.value {post : α → S → Prop} {a : α} {s : S}
    (ensures : Ensures v post (.done a) s) : post a s :=
  ensures s .refl

/-- A program that ends well does so behind every reply. -/
theorem Ensures.reply {post : α → S → Prop} {q : Q} {next : R q → Program Q R α} {s s' : S}
    {r : R q} (ensures : Ensures v post (.ask q next) s) (answered : v.answers s q s' r) :
    Ensures v post (next r) s' :=
  ensures s .refl s' r answered

/-! ## Rules -/

/-- A finished program ends well where its postcondition holds and stays. -/
theorem Ensures.done {post : α → S → Prop} {a : α} {s : S} (stable : Stable v (post a))
    (holds : post a s) : Ensures v post (.done a) s :=
  fun _ drifted => stable.drifted holds drifted

/-- A call from a stable precondition. -/
theorem Ensures.ask {post : α → S → Prop} {pre : S → Prop} {q : Q} {next : R q → Program Q R α}
    {s : S} (stable : Stable v pre) (holds : pre s)
    (rest : ∀ s s' r, pre s → v.answers s q s' r → Ensures v post (next r) s') :
    Ensures v post (.ask q next) s :=
  fun s' drifted s'' r answered => rest s' s'' r (stable.drifted holds drifted) answered

/-- A single call, from a stable precondition to a stable postcondition. -/
theorem Ensures.question {pre : S → Prop} {q : Q} {post : R q → S → Prop} {s : S}
    (before : Stable v pre) (after : ∀ r, Stable v (post r)) (holds : pre s)
    (answer : ∀ s s' r, pre s → v.answers s q s' r → post r s') :
    Ensures v post (Program.question q) s :=
  Ensures.ask before holds fun s s' r pre answered =>
    Ensures.done (after r) (answer s s' r pre answered)

/-- One program after another: the postcondition of the first is the precondition of
the second. -/
theorem Ensures.bind {mid : α → S → Prop} {post : β → S → Prop} {p : Program Q R α}
    {f : α → Program Q R β} {s : S} (first : Ensures v mid p s)
    (second : ∀ a s, mid a s → Ensures v post (f a) s) : Ensures v post (p >>= f) s := by
  induction p generalizing s with
  | done a => exact second a s first.value
  | ask q next ih => exact fun s' drifted s'' r answered => ih r (first s' drifted s'' r answered)

end ObdSimulator.Calls
