import Mathlib.Data.List.Infix

/-!
# Runs of a machine that emits events

A machine takes one input at a time and answers with its next state and the
events of that step, in order. A run concatenates the events. Conditions and
conclusions about runs are stated step by step, over the events emitted so far,
the state before the step and the input.

An inductive invariant turns a condition met by every step into a conclusion
met by every step. Where a conclusion speaks of every prefix of the events, a
step is also observed after each of its own events, which is where an
interruption can fall.
-/

namespace ObdSimulator.Run

universe u v w
variable {σ : Type u} {ι : Type v} {ε : Type w}

/-- The state after a list of inputs. -/
def final (step : σ → ι → σ × List ε) : σ → List ι → σ
  | s, [] => s
  | s, i :: rest => final step (step s i).1 rest

/-- The events of a list of inputs, in order. -/
def trace (step : σ → ι → σ × List ε) : σ → List ι → List ε
  | _, [] => []
  | s, i :: rest => (step s i).2 ++ trace step (step s i).1 rest

/-- A run goes on from the state it came to. -/
theorem final_append (step : σ → ι → σ × List ε) (s : σ) (before after : List ι) :
    final step s (before ++ after) = final step (final step s before) after := by
  induction before generalizing s with
  | nil => rfl
  | cons i rest ih => exact ih _

/-- The events of a run are those of its two parts, in order. -/
theorem trace_append (step : σ → ι → σ × List ε) (s : σ) (before after : List ι) :
    trace step s (before ++ after) =
      trace step s before ++ trace step (final step s before) after := by
  induction before generalizing s with
  | nil => rfl
  | cons i rest ih => simp only [List.cons_append, trace, final, ih, List.append_assoc]

/-- A machine that another one simulates emits the same, read through `view`. -/
theorem trace_simulated {τ : Type*} {ζ : Type*} (step : σ → ι → σ × List ε)
    (step' : τ → ι → τ × List ζ) (view : ε → ζ) (related : σ → τ → Prop)
    (simulates : ∀ s t i, related s t →
      (step s i).2.map view = (step' t i).2 ∧ related (step s i).1 (step' t i).1)
    (s : σ) (t : τ) (inputs : List ι) (start : related s t) :
    (trace step s inputs).map view = trace step' t inputs := by
  induction inputs generalizing s t with
  | nil => rfl
  | cons i rest ih =>
    obtain ⟨emitted, next⟩ := simulates s t i start
    simp only [trace, List.map_append, emitted, ih _ _ next]

/-- Every step of the run meets `cond`, which sees the events before the step,
the state it starts from and its input. -/
def Along (step : σ → ι → σ × List ε) (cond : List ε → σ → ι → Prop) :
    List ε → σ → List ι → Prop
  | _, _, [] => True
  | past, s, i :: rest =>
      cond past s i ∧ Along step cond (past ++ (step s i).2) (step s i).1 rest

instance decidableAlong (step : σ → ι → σ × List ε) (cond : List ε → σ → ι → Prop)
    [∀ past s i, Decidable (cond past s i)] : ∀ past s inputs,
    Decidable (Along step cond past s inputs)
  | _, _, [] => isTrue trivial
  | past, s, i :: rest =>
    @instDecidableAnd _ _ _ (decidableAlong step cond (past ++ (step s i).2) (step s i).1 rest)

/-- A condition along a run, by its two parts. -/
theorem along_append (step : σ → ι → σ × List ε) (cond : List ε → σ → ι → Prop) (past : List ε)
    (s : σ) (before after : List ι) :
    Along step cond past s (before ++ after) ↔ Along step cond past s before ∧
      Along step cond (past ++ trace step s before) (final step s before) after := by
  induction before generalizing past s with
  | nil => simp [Along, trace, final]
  | cons i rest ih =>
    simp only [List.cons_append, Along, trace, final, ih, List.append_assoc]
    exact and_assoc.symm

/-- A condition that does not see the events may start from any. -/
theorem along_past (step : σ → ι → σ × List ε) (cond : List ε → σ → ι → Prop)
    (blind : ∀ past past' s i, cond past s i → cond past' s i) (past past' : List ε) (s : σ)
    (inputs : List ι) (met : Along step cond past s inputs) : Along step cond past' s inputs := by
  induction inputs generalizing past past' s with
  | nil => trivial
  | cons i rest ih => exact ⟨blind past past' s i met.1, ih _ _ _ met.2⟩

/-- What is said of every place of a list is said of its head and of every place behind. -/
theorem forall_places_cons (P : List ι → ι → Prop) (i : ι) (rest : List ι) :
    (∀ before j after, i :: rest = before ++ j :: after → P before j) ↔
      P [] i ∧ ∀ before j after, rest = before ++ j :: after → P (i :: before) j := by
  constructor
  · intro every
    refine ⟨every [] i rest rfl, ?_⟩
    rintro before j after rfl
    exact every (i :: before) j after rfl
  · rintro ⟨head, later⟩ before j after whole
    cases before with
    | nil =>
      obtain ⟨rfl, rfl⟩ := List.cons.inj whole
      exact head
    | cons k before =>
      obtain ⟨rfl, rfl⟩ := List.cons.inj whole
      exact later before j after rfl

/-- An invariant that every step meeting the condition preserves holds at the
end of a run whose steps all meet it. -/
theorem invariant_final (step : σ → ι → σ × List ε) (cond : List ε → σ → ι → Prop)
    (inv : List ε → σ → Prop)
    (preserved : ∀ past s i, inv past s → cond past s i →
      inv (past ++ (step s i).2) (step s i).1)
    (past : List ε) (s : σ) (inputs : List ι) (initial : inv past s)
    (met : Along step cond past s inputs) :
    inv (past ++ trace step s inputs) (final step s inputs) := by
  induction inputs generalizing past s with
  | nil => simpa [trace, final] using initial
  | cons i rest ih =>
    have next := ih _ _ (preserved past s i initial met.1) met.2
    simpa [trace, final] using next

/-- What every step keeps holds at the end. -/
theorem final_of_kept (step : σ → ι → σ × List ε) (inv : σ → Prop)
    (kept : ∀ s i, inv s → inv (step s i).1) (s : σ) (inputs : List ι) (initial : inv s) :
    inv (final step s inputs) := by
  induction inputs generalizing s with
  | nil => exact initial
  | cons i rest ih => exact ih _ (kept s i initial)

/-- Under an invariant, a condition met by every step gives a conclusion at
every step. -/
theorem along_of_invariant (step : σ → ι → σ × List ε) (cond good : List ε → σ → ι → Prop)
    (inv : List ε → σ → Prop)
    (preserved : ∀ past s i, inv past s → cond past s i →
      inv (past ++ (step s i).2) (step s i).1)
    (sound : ∀ past s i, inv past s → cond past s i → good past s i)
    (past : List ε) (s : σ) (inputs : List ι) (initial : inv past s)
    (met : Along step cond past s inputs) : Along step good past s inputs := by
  induction inputs generalizing past s with
  | nil => trivial
  | cons i rest ih =>
    exact ⟨sound past s i initial met.1,
      ih _ _ (preserved past s i initial met.1) met.2⟩

/-- When the invariant makes condition and conclusion agree on each step, they
agree on runs. The invariant is only preserved by steps that meet them. -/
theorem along_iff_of_invariant (step : σ → ι → σ × List ε)
    (cond good : List ε → σ → ι → Prop) (inv : List ε → σ → Prop)
    (preserved : ∀ past s i, inv past s → cond past s i →
      inv (past ++ (step s i).2) (step s i).1)
    (agree : ∀ past s i, inv past s → (cond past s i ↔ good past s i))
    (past : List ε) (s : σ) (inputs : List ι) (initial : inv past s) :
    Along step cond past s inputs ↔ Along step good past s inputs := by
  induction inputs generalizing past s with
  | nil => exact Iff.rfl
  | cons i rest ih =>
    constructor
    · rintro ⟨here, later⟩
      exact ⟨(agree past s i initial).mp here,
        (ih _ _ (preserved past s i initial here)).mp later⟩
    · rintro ⟨here, later⟩
      have met := (agree past s i initial).mpr here
      exact ⟨met, (ih _ _ (preserved past s i initial met)).mpr later⟩

/-- A weaker condition is met too. -/
theorem along_mono (step : σ → ι → σ × List ε) (cond good : List ε → σ → ι → Prop)
    (weaker : ∀ past s i, cond past s i → good past s i) (past : List ε) (s : σ) (inputs : List ι)
    (met : Along step cond past s inputs) : Along step good past s inputs := by
  induction inputs generalizing past s with
  | nil => trivial
  | cons i rest ih => exact ⟨weaker past s i met.1, ih _ _ met.2⟩

/-- Two conditions are met together. -/
theorem along_and (step : σ → ι → σ × List ε) (cond cond' : List ε → σ → ι → Prop)
    (past : List ε) (s : σ) (inputs : List ι) (first : Along step cond past s inputs)
    (second : Along step cond' past s inputs) :
    Along step (fun past s i => cond past s i ∧ cond' past s i) past s inputs := by
  induction inputs generalizing past s with
  | nil => trivial
  | cons i rest ih => exact ⟨⟨first.1, second.1⟩, ih _ _ first.2 second.2⟩

/-- Inputs the machine does not notice may be left out. The two runs stay related,
and what the other inputs emit is the same. -/
theorem erase_inputs (step : σ → ι → σ × List ε) (cond : List ε → σ → ι → Prop) (keep : ι → Bool)
    (related : σ → σ → Prop)
    (kept : ∀ past s t i, related s t → keep i = true → cond past s i →
      (step s i).2 = (step t i).2 ∧ related (step s i).1 (step t i).1)
    (erased : ∀ past s t i, related s t → keep i = false → cond past s i →
      (step s i).2 = [] ∧ related (step s i).1 t)
    (past : List ε) (s t : σ) (inputs : List ι) (start : related s t)
    (met : Along step cond past s inputs) :
    trace step s inputs = trace step t (inputs.filter keep) ∧
      related (final step s inputs) (final step t (inputs.filter keep)) := by
  induction inputs generalizing past s t with
  | nil => exact ⟨rfl, start⟩
  | cons i rest ih =>
    cases keeps : keep i with
    | true =>
      obtain ⟨same, next⟩ := kept past s t i start keeps met.1
      obtain ⟨later, last⟩ := ih _ _ _ next met.2
      rw [List.filter_cons_of_pos keeps, trace, trace, final, final, same, later]
      exact ⟨rfl, last⟩
    | false =>
      obtain ⟨silent, next⟩ := erased past s t i start keeps met.1
      obtain ⟨later, last⟩ := ih _ _ _ next met.2
      rw [List.filter_cons_of_neg (by simp [keeps]), trace, final, silent, later]
      exact ⟨rfl, last⟩

/-- Conditions that agree under an invariant agree on the runs that preserve it. -/
theorem along_congr (step : σ → ι → σ × List ε) (met cond good : List ε → σ → ι → Prop)
    (inv : List ε → σ → Prop)
    (preserved : ∀ past s i, inv past s → met past s i →
      inv (past ++ (step s i).2) (step s i).1)
    (agree : ∀ past s i, inv past s → met past s i → (cond past s i ↔ good past s i))
    (past : List ε) (s : σ) (inputs : List ι) (initial : inv past s)
    (run : Along step met past s inputs) :
    Along step cond past s inputs ↔ Along step good past s inputs := by
  induction inputs generalizing past s with
  | nil => exact Iff.rfl
  | cons i rest ih =>
    have later := ih _ _ (preserved past s i initial run.1) run.2
    exact and_congr (agree past s i initial run.1) later

/-- A condition no step can miss is met along every run. -/
theorem along_of_forall (step : σ → ι → σ × List ε) (cond : List ε → σ → ι → Prop)
    (every : ∀ past s i, cond past s i) (past : List ε) (s : σ) (inputs : List ι) :
    Along step cond past s inputs := by
  induction inputs generalizing past s with
  | nil => trivial
  | cons i rest ih => exact ⟨every past s i, ih _ _⟩

/-- A property of history and state holds after every prefix of the inputs
exactly when it holds at the start and after each step. -/
theorem prefixes_iff_along_post (step : σ → ι → σ × List ε) (good : List ε → σ → Prop)
    (past : List ε) (s : σ) (inputs : List ι) (initial : good past s) :
    (∀ before after, inputs = before ++ after →
        good (past ++ trace step s before) (final step s before)) ↔
      Along step (fun past s i => good (past ++ (step s i).2) (step s i).1) past s inputs := by
  induction inputs generalizing past s with
  | nil =>
    simp only [Along, iff_true]
    intro before after whole
    obtain ⟨rfl, rfl⟩ := List.append_eq_nil_iff.mp whole.symm
    simpa [trace, final] using initial
  | cons i rest ih =>
    simp only [Along]
    constructor
    · intro all
      have here := all [i] rest rfl
      simp only [trace, final, List.append_nil] at here
      refine ⟨here, (ih _ _ here).mp ?_⟩
      rintro before after rfl
      have later := all (i :: before) after rfl
      simpa [trace, final] using later
    · rintro ⟨here, later⟩ before after whole
      cases before with
      | nil => simpa [trace, final] using initial
      | cons j before =>
        obtain ⟨rfl, rfl⟩ := List.cons.inj whole
        have next := (ih _ _ here).mpr later before after rfl
        simpa [trace, final] using next

/-- Prefixes of an appended list end either inside the first part or inside the
second. -/
theorem prefix_append_iff (p before after : List ε) :
    p <+: before ++ after ↔ p <+: before ∨ ∃ q, q <+: after ∧ p = before ++ q := by
  constructor
  · intro inside
    rcases Nat.le_total p.length before.length with short | long
    · exact Or.inl (List.prefix_of_prefix_length_le inside (List.prefix_append _ _) short)
    · obtain ⟨q, rfl⟩ := List.prefix_of_prefix_length_le (List.prefix_append _ _) inside long
      exact Or.inr ⟨q, (List.prefix_append_right_inj before).mp inside, rfl⟩
  · rintro (inside | ⟨q, inside, rfl⟩)
    · exact inside.trans (List.prefix_append _ _)
    · exact (List.prefix_append_right_inj before).mpr inside

/-- A fold over the events meets `P` at its start and after every event. -/
def Throughout {α : Type*} (f : α → ε → α) (P : α → Prop) : α → List ε → Prop
  | a, [] => P a
  | a, e :: rest => P a ∧ Throughout f P (f a e) rest

/-- What holds throughout two parts holds throughout both. -/
theorem throughout_append {α : Type*} (f : α → ε → α) (P : α → Prop) (a : α)
    (before after : List ε) (first : Throughout f P a before)
    (second : Throughout f P (before.foldl f a) after) : Throughout f P a (before ++ after) := by
  induction before generalizing a with
  | nil => exact second
  | cons e rest ih => exact ⟨first.1, ih (f a e) first.2 second⟩

/-- Meeting the property after every prefix is meeting it throughout. -/
theorem throughout_of_prefixes {α : Type*} (f : α → ε → α) (P : α → Prop) (a : α)
    (events : List ε) (met : ∀ n ≤ events.length, P ((events.take n).foldl f a)) :
    Throughout f P a events := by
  induction events generalizing a with
  | nil => exact met 0 (Nat.zero_le _)
  | cons e rest ih =>
    refine ⟨met 0 (Nat.zero_le _), ih (f a e) ?_⟩
    intro n inside
    exact met (n + 1) (Nat.succ_le_succ inside)

/-- What holds throughout holds behind every beginning. -/
theorem throughout_prefix {α : Type*} (f : α → ε → α) (P : α → Prop) (a : α) (events : List ε)
    (met : Throughout f P a events) (p : List ε) (inside : p <+: events) : P (p.foldl f a) := by
  induction events generalizing a p with
  | nil =>
    rw [List.prefix_nil.mp inside]
    exact met
  | cons e rest ih =>
    cases p with
    | nil => exact met.1
    | cons e' p =>
      obtain ⟨rfl, later⟩ := List.cons_prefix_cons.mp inside
      exact ih (f a e') met.2 p later

/-- A property every event of the list keeps is met throughout. -/
theorem throughout_of_kept {α : Type*} (f : α → ε → α) (P : α → Prop) (a : α) (events : List ε)
    (initial : P a) (kept : ∀ a, ∀ e ∈ events, P a → P (f a e)) : Throughout f P a events := by
  induction events generalizing a with
  | nil => exact initial
  | cons e rest ih =>
    refine ⟨initial, ih (f a e) (kept a e List.mem_cons_self initial) ?_⟩
    exact fun a e member => kept a e (List.mem_cons_of_mem _ member)

/-- A weaker property holds throughout too. -/
theorem throughout_mono {α : Type*} (f : α → ε → α) (P Q : α → Prop) (a : α) (events : List ε)
    (weaker : ∀ a, P a → Q a) (met : Throughout f P a events) : Throughout f Q a events := by
  induction events generalizing a with
  | nil => exact weaker a met
  | cons e rest ih => exact ⟨weaker a met.1, ih (f a e) met.2⟩

/-- Every event of a list meets a condition that sees the fold before it. -/
def Each {α : Type*} (f : α → ε → α) (check : α → ε → Prop) : α → List ε → Prop
  | _, [] => True
  | a, e :: rest => check a e ∧ Each f check (f a e) rest

instance decidableEach {α : Type*} (f : α → ε → α) (check : α → ε → Prop)
    [∀ a e, Decidable (check a e)] : ∀ a events, Decidable (Each f check a events)
  | _, [] => isTrue trivial
  | a, e :: rest => @instDecidableAnd _ _ _ (decidableEach f check (f a e) rest)

/-- A check of every event, by the two parts of a list. -/
theorem each_append {α : Type*} (f : α → ε → α) (check : α → ε → Prop) (a : α)
    (before after : List ε) :
    Each f check a (before ++ after) ↔
      Each f check a before ∧ Each f check (before.foldl f a) after := by
  induction before generalizing a with
  | nil => simp [Each]
  | cons e rest ih => simp [Each, ih, and_assoc]

/-- A weaker check is passed too. -/
theorem each_mono {α : Type*} (f : α → ε → α) (check check' : α → ε → Prop) (a : α)
    (events : List ε) (weaker : ∀ a e, check a e → check' a e) (met : Each f check a events) :
    Each f check' a events := by
  induction events generalizing a with
  | nil => trivial
  | cons e rest ih => exact ⟨weaker a e met.1, ih (f a e) met.2⟩

/-- Events that carry a label are folded by a fold that knows the label. -/
theorem each_map {α ζ : Type*} (label : ζ → ε) (f : α → ε → α) (check : α → ε → Prop) (a : α)
    (events : List ζ) :
    Each f check a (events.map label) ↔
      Each (fun a e => f a (label e)) (fun a e => check a (label e)) a events := by
  induction events generalizing a with
  | nil => exact Iff.rfl
  | cons e rest ih => simp only [List.map_cons, Each, ih]

/-- Each event passes its check where it stands. -/
theorem each_split {α : Type*} (f : α → ε → α) (check : α → ε → Prop) (a : α)
    (before after : List ε) (e : ε) (met : Each f check a (before ++ e :: after)) :
    check (before.foldl f a) e :=
  ((each_append f check a before (e :: after)).mp met).2.1

/-- A check that is passed anywhere is passed everywhere. -/
theorem each_of_forall {α : Type*} (f : α → ε → α) (check : α → ε → Prop) (a : α)
    (events : List ε) (every : ∀ a, ∀ e ∈ events, check a e) : Each f check a events := by
  induction events generalizing a with
  | nil => trivial
  | cons e rest ih =>
    exact ⟨every a e List.mem_cons_self,
      ih (f a e) (fun a e member => every a e (List.mem_cons_of_mem _ member))⟩

/-- A fold property that every event keeps, and that gives the condition. -/
theorem each_of_kept {α : Type*} (f : α → ε → α) (check : α → ε → Prop) (P : α → Prop) (a : α)
    (events : List ε) (initial : P a) (kept : ∀ a, ∀ e ∈ events, P a → P (f a e))
    (sound : ∀ a, ∀ e ∈ events, P a → check a e) : Each f check a events := by
  induction events generalizing a with
  | nil => trivial
  | cons e rest ih =>
    refine ⟨sound a e List.mem_cons_self initial,
      ih (f a e) (kept a e List.mem_cons_self initial) ?_ ?_⟩
    · exact fun a e member => kept a e (List.mem_cons_of_mem _ member)
    · exact fun a e member => sound a e (List.mem_cons_of_mem _ member)

/-- Events that neither move the fold nor can miss the condition may be left out. -/
theorem fold_filter {α : Type*} (f : α → ε → α) (seen : ε → Bool)
    (neutral : ∀ a e, seen e = false → f a e = a) (a : α) (events : List ε) :
    (events.filter seen).foldl f a = events.foldl f a := by
  induction events generalizing a with
  | nil => rfl
  | cons e rest ih =>
    cases visible : seen e with
    | true => simp [visible, ih]
    | false => simp [visible, ih, neutral a e visible]

/-- Events that change nothing and pass every check may be left out. -/
theorem each_filter {α : Type*} (f : α → ε → α) (check : α → ε → Prop) (seen : ε → Bool)
    (neutral : ∀ a e, seen e = false → f a e = a) (harmless : ∀ a e, seen e = false → check a e)
    (a : α) (events : List ε) :
    Each f check a (events.filter seen) ↔ Each f check a events := by
  induction events generalizing a with
  | nil => exact Iff.rfl
  | cons e rest ih =>
    cases visible : seen e with
    | true => simp [visible, Each, ih]
    | false =>
      simp [visible, Each, ih, neutral a e visible, harmless a e visible]

/-- A condition on inputs alone is met along a run of such inputs. -/
theorem along_of_mem (step : σ → ι → σ × List ε) (allowed : ι → Prop) (past : List ε) (s : σ)
    (inputs : List ι) (every : ∀ i ∈ inputs, allowed i) :
    Along step (fun _ _ i => allowed i) past s inputs := by
  induction inputs generalizing past s with
  | nil => trivial
  | cons i rest ih =>
    exact ⟨every i List.mem_cons_self,
      ih _ _ (fun j member => every j (List.mem_cons_of_mem _ member))⟩

/-- A condition on inputs alone is met along a run exactly when all inputs meet it. -/
theorem along_inputs_iff (step : σ → ι → σ × List ε) (allowed : ι → Prop) (past : List ε) (s : σ)
    (inputs : List ι) :
    Along step (fun _ _ i => allowed i) past s inputs ↔ ∀ i ∈ inputs, allowed i := by
  constructor
  · intro met i member
    obtain ⟨before, after, rfl⟩ := List.append_of_mem member
    exact ((along_append step _ past s before (i :: after)).mp met).2.1
  · exact along_of_mem step allowed past s inputs

/-- A step keeps `safe` after each of its own events. -/
def StepSafe (step : σ → ι → σ × List ε) (safe : List ε → Prop)
    (past : List ε) (s : σ) (i : ι) : Prop :=
  ∀ p, p <+: (step s i).2 → safe (past ++ p)

/-- Every prefix of the events is safe exactly when the past is and every step
is safe after each of its events. -/
theorem prefixes_iff_along (step : σ → ι → σ × List ε) (safe : List ε → Prop)
    (past : List ε) (s : σ) (inputs : List ι) (initial : safe past) :
    (∀ p, p <+: trace step s inputs → safe (past ++ p)) ↔
      Along step (StepSafe step safe) past s inputs := by
  induction inputs generalizing past s with
  | nil =>
    simp only [trace, Along, iff_true]
    intro p empty
    rw [List.prefix_nil.mp empty, List.append_nil]
    exact initial
  | cons i rest ih =>
    simp only [trace, Along]
    constructor
    · intro all
      have here : StepSafe step safe past s i := fun p inside =>
        all p (inside.trans (List.prefix_append _ _))
      refine ⟨here, (ih (past ++ (step s i).2) (step s i).1 ?_).mp ?_⟩
      · exact here _ (List.prefix_refl _)
      · intro q inside
        rw [List.append_assoc]
        exact all _ ((List.prefix_append_right_inj _).mpr inside)
    · rintro ⟨here, later⟩ p inside
      rcases (prefix_append_iff p _ _).mp inside with first | ⟨q, rest_inside, rfl⟩
      · exact here p first
      · rw [← List.append_assoc]
        exact (ih _ _ (here _ (List.prefix_refl _))).mpr later q rest_inside

end ObdSimulator.Run
