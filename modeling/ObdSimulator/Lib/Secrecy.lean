import ObdSimulator.Lib.Run

/-!
# Machines that see a secret

Every step of the machine is given a secret besides its input. When the secret
never reaches the state, two runs on the same inputs stay in the same state, and
what they emit can be compared step by step: a run conceals its secrets exactly
when each step emits the same for all of them.
-/

namespace ObdSimulator.Run

universe u v w x
variable {σ : Type u} {ι : Type v} {ε : Type w} {κ : Type x}

/-- A step on an input paired with the secret it sees. -/
def opened (step : κ → σ → ι → σ × List ε) (s : σ) (call : κ × ι) : σ × List ε :=
  step call.1 s call.2

/-- Runs on the same inputs emit the same, whatever secrets their steps see. -/
def Conceals (step : κ → σ → ι → σ × List ε) (s : σ) (inputs : List ι) : Prop :=
  ∀ calls calls' : List (κ × ι), calls.map (·.2) = inputs → calls'.map (·.2) = inputs →
    trace (opened step) s calls = trace (opened step) s calls'

/-- The secret does not reach the state. -/
def Blind (step : κ → σ → ι → σ × List ε) : Prop :=
  ∀ k k' s i, (step k s i).1 = (step k' s i).1

/-- A step that emits the same for all secrets. -/
def StepConceals (step : κ → σ → ι → σ × List ε) (_ : List ε) (s : σ) (i : ι) : Prop :=
  ∀ k k', (step k s i).2 = (step k' s i).2

/-- The first step and the rest of a run conceal their secrets apart.

Proof: a difference in the first step is seen with equal secrets in the rest, one
in the rest with equal secrets in the first step. -/
theorem conceals_cons (step : κ → σ → ι → σ × List ε) (blind : Blind step) (k : κ) (s : σ) (i : ι)
    (rest : List ι) :
    Conceals step s (i :: rest) ↔
      (∀ k k', (step k s i).2 = (step k' s i).2) ∧ Conceals step (step k s i).1 rest := by
  constructor
  · intro conceals
    constructor
    · intro k₁ k₂
      let later : List (κ × ι) := rest.map fun j => (k, j)
      have inputs : later.map (·.2) = rest := by
        simp [later, Function.comp_def]
      have same := conceals ((k₁, i) :: later) ((k₂, i) :: later)
        (by simp [inputs]) (by simp [inputs])
      simp only [trace, opened] at same
      rw [blind k₁ k₂] at same
      exact List.append_cancel_right same
    · intro calls calls' inputs inputs'
      have same := conceals ((k, i) :: calls) ((k, i) :: calls')
        (by simp [inputs]) (by simp [inputs'])
      simp only [trace, opened] at same
      exact List.append_cancel_left same
  · rintro ⟨first, later⟩ calls calls' inputs inputs'
    obtain ⟨⟨k₁, j₁⟩, calls, rfl, same₁, tail⟩ := List.map_eq_cons_iff.mp inputs
    obtain ⟨⟨k₂, j₂⟩, calls', rfl, same₂, tail'⟩ := List.map_eq_cons_iff.mp inputs'
    cases same₁
    cases same₂
    simp only [trace, opened]
    rw [first k₁ k₂, blind k₁ k, blind k₂ k, later calls calls' tail tail']

/-- A run conceals its secrets exactly when every step does. Any secret shows the
states that the run goes through. -/
theorem conceals_iff_along (step : κ → σ → ι → σ × List ε) (blind : Blind step) (k : κ)
    (past : List ε) (s : σ) (inputs : List ι) :
    Conceals step s inputs ↔ Along (step k) (StepConceals step) past s inputs := by
  induction inputs generalizing past s with
  | nil =>
    simp only [Along, iff_true]
    intro calls calls' inputs inputs'
    rw [List.map_eq_nil_iff.mp inputs, List.map_eq_nil_iff.mp inputs']
  | cons i rest ih =>
    rw [conceals_cons step blind k, ih (past ++ (step k s i).2), Along]
    exact Iff.rfl

end ObdSimulator.Run
