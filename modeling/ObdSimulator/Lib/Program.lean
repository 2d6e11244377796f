import Mathlib.Data.List.Basic

/-!
# Programs that ask

A program is done with a value, or asks its environment a question and goes on
with the reply. Run in an environment it has a value and a log of its questions.
The judgement `Meets` says what a program comes to, what holds of that, and that it
asks only what it may; it has one rule for each construct. A program that asks only
what it may comes to the same in every environment that agrees on those questions.
-/

namespace ObdSimulator

/-- A program with questions `Q` and their replies `R`. -/
inductive Program (Q : Type) (R : Q → Type) (α : Type) where
  | done (a : α)
  | ask (q : Q) (next : R q → Program Q R α)

namespace Program

variable {Q : Type} {R : Q → Type} {α β : Type}

/-- A program goes on with the value of another. -/
def bind : Program Q R α → (α → Program Q R β) → Program Q R β
  | done a, f => f a
  | ask q next, f => ask q fun reply => bind (next reply) f

instance : Monad (Program Q R) where
  pure := done
  bind := bind

/-- One question. -/
def question (q : Q) : Program Q R (R q) := ask q done

/-- What a program comes to. -/
def value (env : ∀ q, R q) : Program Q R α → α
  | done a => a
  | ask q next => value env (next (env q))

/-- The questions of a run, in order. -/
def asked (env : ∀ q, R q) : Program Q R α → List Q
  | done _ => []
  | ask q next => q :: asked env (next (env q))

/-- The value of a composition is the composition of the values. -/
theorem value_bind (env : ∀ q, R q) (p : Program Q R α) (f : α → Program Q R β) :
    (p >>= f).value env = (f (p.value env)).value env := by
  induction p with
  | done a => rfl
  | ask q next ih => exact ih (env q)

/-- The questions of the first program come first. -/
theorem asked_bind (env : ∀ q, R q) (p : Program Q R α) (f : α → Program Q R β) :
    (p >>= f).asked env = p.asked env ++ (f (p.value env)).asked env := by
  induction p with
  | done a => rfl
  | ask q next ih => exact congrArg (q :: ·) (ih (env q))

/-- The program comes to `v`, which is good, and all its questions are allowed. -/
structure Meets (env : ∀ q, R q) (allowed : Q → Prop) (good : α → Prop) (p : Program Q R α)
    (v : α) : Prop where
  value : p.value env = v
  good : good v
  asks : ∀ q ∈ p.asked env, allowed q

variable {env : ∀ q, R q} {allowed : Q → Prop} {good : α → Prop}

/-- A program that asks nothing meets its specification by its value. -/
theorem Meets.give {v : α} (holds : good v) : Meets env allowed good (pure v) v where
  value := rfl
  good := holds
  asks := by
    intro q member
    cases member

/-- Any value is good enough where nothing is asked of it. -/
theorem Meets.done (v : α) : Meets env allowed (fun _ => True) (pure v) v := .give trivial

/-- One allowed question. -/
theorem Meets.question {q : Q} (may : allowed q) :
    Meets env allowed (fun _ => True) (Program.question q) (env q) where
  value := rfl
  good := trivial
  asks := by
    intro q' member
    rw [List.mem_singleton.mp member]
    exact may

/-- A composition meets what its second part does on the value of the first. -/
theorem Meets.bind {good' : β → Prop} {p : Program Q R α} {f : α → Program Q R β} {a : α} {v : β}
    (first : Meets env allowed good p a) (rest : Meets env allowed good' (f a) v) :
    Meets env allowed good' (p >>= f) v where
  value := by
    rw [value_bind, first.value, rest.value]
  good := rest.good
  asks := by
    intro q member
    rw [asked_bind, first.value] at member
    rcases List.mem_append.mp member with before | after
    · exact first.asks q before
    · exact rest.asks q after

/-- A branch taken by the program and by its value. -/
theorem Meets.ite {c : Prop} [Decidable c] {p q : Program Q R α} {v w : α}
    (first : c → Meets env allowed good p v) (second : ¬c → Meets env allowed good q w) :
    Meets env allowed good (if c then p else q) (if c then v else w) := by
  split
  · rename_i holds
    exact first holds
  · rename_i fails
    exact second fails

/-- The program and its value may put the condition differently. -/
theorem Meets.ite_iff {c d : Prop} [Decidable c] [Decidable d] {p q : Program Q R α} {v w : α}
    (same : c ↔ d) (first : d → Meets env allowed good p v)
    (second : ¬d → Meets env allowed good q w) :
    Meets env allowed good (if c then p else q) (if d then v else w) := by
  rw [if_congr same rfl rfl]
  exact .ite first second

/-- A program does not see a change of the environment it never asks about. -/
theorem Meets.unseen {env' : ∀ q, R q} {p : Program Q R α} {v : α}
    (meets : Meets env allowed good p v) (agree : ∀ q, allowed q → env' q = env q) :
    Meets env' allowed good p v := by
  induction p with
  | done a => exact ⟨meets.value, meets.good, meets.asks⟩
  | ask q next ih =>
    have may : allowed q := meets.asks q List.mem_cons_self
    have rest : Meets env allowed good (next (env q)) v :=
      ⟨meets.value, meets.good, fun q' member => meets.asks q' (List.mem_cons_of_mem _ member)⟩
    have same := ih (env q) rest
    rw [← agree q may] at same
    constructor
    · exact same.value
    · exact same.good
    · intro q' member
      rcases List.mem_cons.mp member with rfl | later
      · exact may
      · exact same.asks q' later

end Program

end ObdSimulator
