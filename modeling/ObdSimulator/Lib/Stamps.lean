import Mathlib.Data.List.DropRight
import Mathlib.Data.List.Infix

/-!
# Sequence stamps

A log lists events in the order they happened, and every event concerns one key.
The stamp of a key is the number of its latest event, counted from one; a key
without an event has stamp zero. A machine that numbers events with one counter
and keeps the number by key keeps the stamps, and comparing two of them compares
the latest events of the keys, not their first ones.
-/

namespace ObdSimulator.Stamps

universe u v
variable {ε : Type u} {κ : Type v} [DecidableEq κ] (key : ε → κ)

/-- How long the log was when it last named the key. -/
def stamp (log : List ε) (k : κ) : Nat := (log.rdropWhile (key · != k)).length

/-- The last event of a key. -/
def latest (log : List ε) (k : κ) : Option ε := (log.filter (key · == k)).getLast?

/-- The first event of a key. -/
def earliest (log : List ε) (k : κ) : Option ε := log.find? (key · == k)

/-- Before the first event every stamp is zero. -/
@[simp] theorem stamp_nil (k : κ) : stamp key [] k = 0 := by simp [stamp]

/-- A new event is numbered by the length of the log it ends. -/
theorem stamp_named (log : List ε) (e : ε) : stamp key (log ++ [e]) (key e) = log.length + 1 := by
  rw [stamp, List.rdropWhile_concat_neg _ _ _ (by simp)]
  simp

/-- An event leaves the stamps of the other keys alone. -/
theorem stamp_other (log : List ε) (e : ε) (k : κ) (other : key e ≠ k) :
    stamp key (log ++ [e]) k = stamp key log k := by
  rw [stamp, List.rdropWhile_concat_pos _ _ _ (by simpa using other)]
  rfl

/-- Events of other keys leave a stamp alone. -/
theorem stamp_others (log later : List ε) (k : κ) (others : ∀ e ∈ later, key e ≠ k) :
    stamp key (log ++ later) k = stamp key log k := by
  induction later using List.reverseRecOn with
  | nil => rw [List.append_nil]
  | append_singleton later e ih =>
    rw [← List.append_assoc, stamp_other key _ e k (others e (by simp))]
    exact ih fun e' member => others e' (List.mem_append_left _ member)

/-- No stamp is ahead of the count. -/
theorem stamp_le_length (log : List ε) (k : κ) : stamp key log k ≤ log.length :=
  (List.rdropWhile_prefix _ _).length_le

/-- Zero stands for a key that has no event. -/
theorem stamp_eq_zero_iff (log : List ε) (k : κ) :
    stamp key log k = 0 ↔ ∀ e ∈ log, key e ≠ k := by
  simp [stamp, List.rdropWhile_eq_nil_iff]

/-- Two keys share no stamp but zero. -/
theorem stamp_injective (log : List ε) (k k' : κ) (same : stamp key log k = stamp key log k')
    (named : stamp key log k ≠ 0) : k = k' := by
  induction log using List.reverseRecOn with
  | nil => simp at named
  | append_singleton log e ih =>
    have short := stamp_le_length key log k
    have short' := stamp_le_length key log k'
    by_cases here : key e = k
    · subst here
      by_contra other
      rw [stamp_named, stamp_other key log e k' other] at same
      omega
    · by_cases there : key e = k'
      · subst there
        rw [stamp_named, stamp_other key log e k here] at same
        omega
      · rw [stamp_other key log e k here, stamp_other key log e k' there] at same
        rw [stamp_other key log e k here] at named
        exact ih same named

/-! ## The latest and the earliest event -/

/-- An event is the latest of its key. -/
theorem latest_named (log : List ε) (e : ε) : latest key (log ++ [e]) (key e) = some e := by
  simp [latest]

/-- An event leaves the latest events of other keys alone. -/
theorem latest_other (log : List ε) (e : ε) (k : κ) (other : key e ≠ k) :
    latest key (log ++ [e]) k = latest key log k := by
  simp [latest, other]

/-- The latest event of a key is an event of the log and of that key. -/
theorem latest_mem (log : List ε) (k : κ) (e : ε) (last : latest key log k = some e) :
    e ∈ log ∧ key e = k := by
  have inside := List.mem_filter.mp (List.mem_of_getLast? last)
  exact ⟨inside.1, by simpa using inside.2⟩

/-- A key with a latest event has an earliest one. -/
theorem earliest_of_latest (log : List ε) (k : κ) (e : ε) (last : latest key log k = some e) :
    ∃ first, earliest key log k = some first := by
  obtain ⟨member, named⟩ := latest_mem key log k e last
  exact Option.isSome_iff_exists.mp (List.find?_isSome.mpr ⟨e, member, beq_iff_eq.mpr named⟩)

/-- The smaller stamp belongs to the key whose latest event came first. -/
theorem latest_ordered (R : ε → ε → Prop) (log : List ε) (k k' : κ) (e e' : ε)
    (sorted : log.Pairwise R) (last : latest key log k = some e)
    (last' : latest key log k' = some e') (before : stamp key log k < stamp key log k') :
    R e e' := by
  induction log using List.reverseRecOn with
  | nil => simp [latest] at last
  | append_singleton log x ih =>
    have short := stamp_le_length key log k'
    obtain ⟨earlier, _, ends⟩ := List.pairwise_append.mp sorted
    by_cases here : key x = k
    · subst here
      have bound := stamp_le_length key (log ++ [x]) k'
      rw [stamp_named] at before
      rw [List.length_append, List.length_singleton] at bound
      omega
    · rw [latest_other key log x k here] at last
      by_cases there : key x = k'
      · subst there
        rw [latest_named] at last'
        obtain rfl := Option.some.inj last'
        exact ends e (latest_mem key log k e last).1 x (List.mem_singleton_self x)
      · rw [latest_other key log x k' there] at last'
        rw [stamp_other key log x k here, stamp_other key log x k' there] at before
        exact ih earlier last last' before

/-- A key is overtaken by one whose latest event comes after all of its own. -/
theorem stamp_lt_iff (log : List ε) (k k' : κ) :
    stamp key log k < stamp key log k' ↔
      ∃ e later, e :: later <:+ log ∧ key e = k' ∧ ∀ x ∈ e :: later, key x ≠ k := by
  induction log using List.reverseRecOn with
  | nil => simp
  | append_singleton log x ih =>
    by_cases here : key x = k
    · have longest := stamp_le_length key (log ++ [x]) k'
      have top : stamp key (log ++ [x]) k = log.length + 1 := here ▸ stamp_named key log x
      rw [List.length_append, List.length_singleton] at longest
      refine iff_of_false (by omega) ?_
      rintro ⟨e, later, tail, _, others⟩
      rcases List.suffix_concat_iff.mp tail with empty | ⟨front, split, _⟩
      · exact List.cons_ne_nil e later empty
      · exact others x (split ▸ List.mem_append_right front (List.mem_singleton_self x)) here
    · by_cases there : key x = k'
      · have top : stamp key (log ++ [x]) k' = log.length + 1 := there ▸ stamp_named key log x
        have short := stamp_le_length key log k
        refine iff_of_true ?_ ⟨x, [], List.suffix_append log [x], there, by simpa using here⟩
        rw [top, stamp_other key log x k here]
        omega
      · rw [stamp_other key log x k here, stamp_other key log x k' there, ih]
        constructor
        · rintro ⟨e, later, tail, named, others⟩
          refine ⟨e, later ++ [x], ?_, named, ?_⟩
          · exact List.suffix_concat_iff.mpr (Or.inr ⟨e :: later, rfl, tail⟩)
          · intro y member
            rw [← List.cons_append] at member
            rcases List.mem_append.mp member with inside | last
            · exact others y inside
            · exact List.mem_singleton.mp last ▸ here
        · rintro ⟨e, later, tail, named, others⟩
          rcases List.suffix_concat_iff.mp tail with empty | ⟨front, split, inside⟩
          · exact absurd empty (List.cons_ne_nil e later)
          · cases front with
            | nil =>
              obtain ⟨rfl, -⟩ := List.cons.inj split
              exact absurd named there
            | cons first front =>
              obtain ⟨rfl, rfl⟩ := List.cons.inj split
              exact ⟨e, front, inside, named,
                fun y member => others y (List.mem_append_left [x] member)⟩

/-! ## Logs that carry more than they are compared by -/

variable {ζ : Type*} (view : ε → ζ) (key' : ζ → κ)

/-- Stamps depend on the keys of the events only. -/
theorem stamp_map (log : List ε) (k : κ) :
    stamp key' (log.map view) k = stamp (key' ∘ view) log k := by
  simp only [stamp, List.rdropWhile, ← List.map_reverse, List.dropWhile_map, List.length_map,
    List.length_reverse]
  rfl

/-- The latest event is the same one seen through a view that keeps the keys. -/
theorem latest_map (log : List ε) (k : κ) :
    latest key' (log.map view) k = (latest (key' ∘ view) log k).map view := by
  rw [latest, List.filter_map, List.getLast?_map]
  rfl

/-- The earliest event is the same one seen through a view that keeps the keys. -/
theorem earliest_map (log : List ε) (k : κ) :
    earliest key' (log.map view) k = (earliest (key' ∘ view) log k).map view := by
  rw [earliest, List.find?_map]
  rfl

end ObdSimulator.Stamps
