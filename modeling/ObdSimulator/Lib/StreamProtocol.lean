import ObdSimulator.Lib.Run
import Mathlib.Computability.RegularExpressions

/-!
# Transfers reported to a listener

A listener is told that a transfer of a given size begins, is handed its items in
portions, and is told that it is complete or that it failed. The rule of one
notification sees only the transfer that is open. Notifications that all follow the
rule are, by their kinds, a front part of a word of the regular expression one would
write down for the protocol.
-/

namespace ObdSimulator.StreamProtocol

universe u
variable {α : Type u}

/-- The kinds of notification. -/
inductive Kind where
  | begin
  | data
  | done
  | error
deriving DecidableEq, Repr

/-- A notification: its kind, its items and the announced size of the transfer. -/
structure Signal (α : Type u) where
  kind : Kind
  items : List α
  total : Nat

/-- An open transfer: its announced size and the items handed over so far. -/
structure Transfer (α : Type u) where
  total : Nat
  items : List α

/-- The open transfer after a notification. -/
def follow (current : Option (Transfer α)) (s : Signal α) : Option (Transfer α) :=
  match s.kind with
  | .begin => some ⟨s.total, []⟩
  | .data => current.map fun t => { t with items := t.items ++ s.items }
  | .done => none
  | .error => none

/-- What may be notified. A transfer begins when none is open; it is handed items as
long as some are missing and never too many; it is complete when none is missing, and
fails before that. -/
inductive Rule : Option (Transfer α) → Signal α → Prop
  | begin (total : Nat) : Rule none ⟨.begin, [], total⟩
  | data (t : Transfer α) (items : List α) (missing : t.items.length < t.total)
      (fits : (t.items ++ items).length ≤ t.total) : Rule (some t) ⟨.data, items, t.total⟩
  | done (t : Transfer α) (whole : t.items.length = t.total) : Rule (some t) ⟨.done, [], t.total⟩
  | error (t : Transfer α) (missing : t.items.length < t.total) :
      Rule (some t) ⟨.error, [], t.total⟩

open RegularExpression in
/-- One transfer: it begins, is handed portions, and is complete or fails. -/
def oneTransfer : RegularExpression Kind :=
  char .begin * (char .data).star * (char .done + char .error)

/-- Transfers one after the other. -/
def grammar : RegularExpression Kind := oneTransfer.star

/-! ## The words of the grammar -/

/-- Nothing said is a word. -/
theorem grammar_nil : [] ∈ grammar.matches' := Language.nil_mem_kstar _

/-- A word followed by a whole transfer is a word. -/
theorem grammar_append {front block : List Kind} (word : front ∈ grammar.matches')
    (next : block ∈ oneTransfer.matches') : front ++ block ∈ grammar.matches' := by
  obtain ⟨blocks, rfl, each⟩ := Language.mem_kstar.mp word
  refine Language.mem_kstar.mpr ⟨blocks ++ [block], ?_, ?_⟩
  · simp
  · intro b member
    rcases List.mem_append.mp member with early | last
    · exact each b early
    · rw [List.mem_singleton.mp last]
      exact next

/-- Any number of portions may stand between the ends of a transfer. -/
theorem replicate_data (portions : Nat) :
    List.replicate portions Kind.data ∈ (RegularExpression.char Kind.data).star.matches' := by
  refine Language.mem_kstar.mpr ⟨List.replicate portions [Kind.data], ?_, ?_⟩
  · rw [List.flatten_replicate_singleton]
  · intro b member
    rw [List.eq_of_mem_replicate member]
    exact Set.mem_singleton _

/-- A transfer is closed by its completion or its failure. -/
theorem one_transfer_word (portions : Nat) (last : Kind) (closes : last = .done ∨ last = .error) :
    .begin :: List.replicate portions .data ++ [last] ∈ oneTransfer.matches' := by
  refine Language.mem_mul.mpr ⟨.begin :: List.replicate portions .data, ?_, [last], ?_, rfl⟩
  · exact Language.mem_mul.mpr ⟨[.begin], Set.mem_singleton _, _, replicate_data portions, rfl⟩
  · rcases closes with rfl | rfl
    · exact Or.inl (Set.mem_singleton _)
    · exact Or.inr (Set.mem_singleton _)

/-! ## From the rule to the grammar -/

/-- What the kinds notified so far look like, by the transfer that is open. -/
inductive Shape : Option (Transfer α) → List Kind → Prop
  | closed (kinds : List Kind) (word : kinds ∈ grammar.matches') : Shape none kinds
  | opened (t : Transfer α) (front : List Kind) (portions : Nat)
      (word : front ∈ grammar.matches') :
      Shape (some t) (front ++ .begin :: List.replicate portions .data)

/-- A notification that follows the rule keeps the shape. -/
theorem Shape.step {current : Option (Transfer α)} {kinds : List Kind} {s : Signal α}
    (shape : Shape current kinds) (rule : Rule current s) :
    Shape (follow current s) (kinds ++ [s.kind]) := by
  cases rule with
  | begin total =>
    cases shape with
    | closed _ word => exact .opened ⟨total, []⟩ kinds 0 word
  | data t items _ _ =>
    cases shape with
    | opened _ front portions word =>
      have longer := Shape.opened (⟨t.total, t.items ++ items⟩ : Transfer α) front
        (portions + 1) word
      rw [List.replicate_succ'] at longer
      simpa [follow] using longer
  | done t _ =>
    cases shape with
    | opened _ front portions word =>
      have closed := grammar_append word (one_transfer_word portions .done (Or.inl rfl))
      rw [← List.append_assoc] at closed
      exact .closed _ closed
  | error t _ =>
    cases shape with
    | opened _ front portions word =>
      have closed := grammar_append word (one_transfer_word portions .error (Or.inr rfl))
      rw [← List.append_assoc] at closed
      exact .closed _ closed

/-- Signals that follow the rule keep the shape of what was said. -/
theorem Shape.run {current : Option (Transfer α)} {kinds : List Kind} (signals : List (Signal α))
    (shape : Shape current kinds) (rules : Run.Each follow Rule current signals) :
    Shape (signals.foldl follow current) (kinds ++ signals.map Signal.kind) := by
  induction signals generalizing current kinds with
  | nil => simpa using shape
  | cons s rest ih =>
    have next := ih (shape.step rules.1) rules.2
    simpa using next

/-- Notifications that follow the rule begin a word of the grammar. -/
theorem rule_grammar (signals : List (Signal α)) (rules : Run.Each follow Rule none signals) :
    ∃ rest, signals.map Signal.kind ++ rest ∈ grammar.matches' := by
  have shape := Shape.run signals (.closed [] grammar_nil) rules
  rw [List.nil_append] at shape
  generalize signals.map Signal.kind = kinds at shape
  generalize signals.foldl follow none = current at shape
  cases shape with
  | closed _ word => exact ⟨[], by rwa [List.append_nil]⟩
  | opened t front portions word =>
    have closed := grammar_append word (one_transfer_word portions .error (Or.inr rfl))
    rw [← List.append_assoc] at closed
    exact ⟨[.error], closed⟩

end ObdSimulator.StreamProtocol
