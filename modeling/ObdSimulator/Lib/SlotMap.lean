import Mathlib.Data.Finset.Card

/-!
# A partial map kept in a table of slots

A table of a fixed number of slots stands for a partial map. A slot whose key is
blank is free; every other slot binds its key. A binding goes to the slot of its
key, or to the first free one, and is given up by blanking its slot. As long as no
key is in two slots, both are updates of the map, and a binding is refused only
when every slot holds another key.
-/

namespace ObdSimulator.SlotMap

/-- A search splits the table at the first hit. -/
theorem find_idx_split {σ : Type*} (p : σ → Bool) (table : List σ) (i : Nat)
    (found : table.findIdx? p = some i) :
    ∃ front x back, table = front ++ x :: back ∧ i = front.length ∧ p x = true ∧
      ∀ y ∈ front, p y = false := by
  obtain ⟨inside, hit, first⟩ := List.findIdx?_eq_some_iff_getElem.mp found
  refine ⟨table.take i, table[i], table.drop (i + 1), ?_, ?_, hit, ?_⟩
  · rw [List.cons_getElem_drop_succ, List.take_append_drop]
  · rw [List.length_take, Nat.min_eq_left (Nat.le_of_lt inside)]
  · intro y member
    obtain ⟨j, before, rfl⟩ := List.mem_take_iff_getElem.mp member
    have earlier : j < i := by omega
    exact Bool.eq_false_iff.mpr (first j earlier)

/-- Writing a slot leaves those before and behind it. -/
theorem set_slot {σ : Type*} (front back : List σ) (x y : σ) :
    (front ++ x :: back).set front.length y = front ++ y :: back := by simp

/-- A search that meets neither slot does not see one replace the other. -/
theorem find_replaced {σ : Type*} (p : σ → Bool) (front back : List σ) (x y : σ)
    (old : p x = false) (new : p y = false) :
    (front ++ y :: back).find? p = (front ++ x :: back).find? p := by
  simp [List.find?_append, old, new]

/-- A search ends at the first slot it meets. -/
theorem find_first {σ : Type*} (p : σ → Bool) (front back : List σ) (x : σ)
    (first : ∀ y ∈ front, p y = false) (hit : p x = true) :
    (front ++ x :: back).find? p = some x := by
  have none_before : front.find? p = none :=
    List.find?_eq_none.mpr fun y member => by simp [first y member]
  rw [List.find?_append, none_before, Option.none_or, List.find?_cons_of_pos hit]

variable {σ κ : Type*} (key : σ → κ) (blank : κ)

/-- No key is in two slots. -/
def Distinct (table : List σ) : Prop :=
  table.Pairwise fun a b => key a ≠ blank → key a ≠ key b

/-- A slot between others repeats none of their keys. -/
theorem distinct_insert (front back : List σ) (x : σ) :
    Distinct key blank (front ++ x :: back) ↔
      Distinct key blank (front ++ back) ∧
        (key x ≠ blank → ∀ y ∈ front ++ back, key y ≠ key x) := by
  unfold Distinct
  simp only [List.pairwise_append, List.pairwise_cons, List.mem_cons, List.mem_append]
  constructor
  · rintro ⟨first, ⟨later, second⟩, across⟩
    refine ⟨⟨first, second, fun a inFront b inBack => across a inFront b (Or.inr inBack)⟩, ?_⟩
    rintro used y (inFront | inBack)
    · intro same
      exact across y inFront x (Or.inl rfl) (same ▸ used) same
    · exact fun same => later y inBack used same.symm
  · rintro ⟨⟨first, second, across⟩, apart⟩
    refine ⟨first, ⟨fun b inBack used same => apart used b (Or.inr inBack) same.symm, second⟩, ?_⟩
    rintro a inFront b (rfl | inBack)
    · intro used same
      exact apart (same ▸ used) a (Or.inl inFront) same
    · exact across a inFront b inBack

/-- Blanking a slot keeps the keys apart. -/
theorem distinct_blank (table : List σ) (i : Nat) (x : σ) (distinct : Distinct key blank table)
    (free : key x = blank) : Distinct key blank (table.set i x) := by
  by_cases inside : i < table.length
  · have whole : table = table.take i ++ table[i] :: table.drop (i + 1) := by
      rw [List.cons_getElem_drop_succ, List.take_append_drop]
    have place : i = (table.take i).length := by
      rw [List.length_take, Nat.min_eq_left (Nat.le_of_lt inside)]
    generalize table.take i = front at whole place
    subst place
    generalize table.drop (front.length + 1) = back at whole
    rw [whole] at distinct ⊢
    rw [set_slot, distinct_insert]
    exact ⟨((distinct_insert key blank front back _).mp distinct).1, fun used => absurd free used⟩
  · rw [List.set_eq_of_length_le (Nat.not_lt.mp inside)]
    exact distinct

variable [DecidableEq κ]

/-- The slot a key is bound in. -/
def lookup (table : List σ) (k : κ) : Option σ :=
  if k = blank then none else table.find? (key · == k)

/-- The place of a binding: the slot of its key, else the first free one. -/
def slotFor (table : List σ) (k : κ) : Option Nat :=
  (table.findIdx? (key · == k)).or (table.findIdx? (key · == blank))

/-- The bound keys. -/
def keys (table : List σ) : Finset κ := (table.map key).toFinset.erase blank

/-- The keys are those of the slots in use. -/
theorem mem_keys (table : List σ) (k : κ) :
    k ∈ keys key blank table ↔ k ≠ blank ∧ ∃ x ∈ table, key x = k := by
  simp [keys]

/-- A key is found exactly if a slot has it. -/
theorem lookup_isSome (table : List σ) (k : κ) :
    (lookup key blank table k).isSome = true ↔ k ∈ keys key blank table := by
  rw [mem_keys]
  unfold lookup
  by_cases free : k = blank
  · simp [free]
  · simp [free]

/-- What is found is a slot of the table, of that key. -/
theorem lookup_mem (table : List σ) (k : κ) (x : σ) (found : lookup key blank table k = some x) :
    x ∈ table ∧ key x = k ∧ k ≠ blank := by
  unfold lookup at found
  split at found
  · cases found
  · rename_i used
    have hit := List.find?_some found
    exact ⟨List.mem_of_find?_eq_some found, by simpa using hit, used⟩

/-- There are no more keys than slots. -/
theorem keys_card_le (table : List σ) : (keys key blank table).card ≤ table.length := by
  calc (keys key blank table).card
      ≤ (table.map key).toFinset.card := Finset.card_erase_le
    _ ≤ (table.map key).length := List.toFinset_card_le _
    _ = table.length := List.length_map _

/-- A free slot binds nothing. -/
theorem lookup_blank (front back : List σ) (x : σ) (free : key x = blank) :
    lookup key blank (front ++ x :: back) = lookup key blank (front ++ back) := by
  funext k
  unfold lookup
  by_cases unused : k = blank
  · simp [unused]
  · have other : ¬ (key x == k) = true := by
      rw [free]
      simpa using Ne.symm unused
    have skipped : (x :: back).find? (key · == k) = back.find? (key · == k) :=
      List.find?_cons_of_neg other
    simp only [if_neg unused, List.find?_append, skipped]

/-- A slot with a key of its own binds it next to the others. -/
theorem lookup_insert (front back : List σ) (x : σ) (used : key x ≠ blank)
    (apart : ∀ y ∈ front ++ back, key y ≠ key x) :
    lookup key blank (front ++ x :: back) =
      Function.update (lookup key blank (front ++ back)) (key x) (some x) := by
  funext k
  by_cases same : k = key x
  · subst same
    have not_before : front.find? (key · == key x) = none := by
      rw [List.find?_eq_none]
      intro y member
      simpa using apart y (List.mem_append_left _ member)
    simp [lookup, used, List.find?_append, not_before]
  · have other : ¬ (key x == k) = true := by simpa using Ne.symm same
    have skipped : (x :: back).find? (key · == k) = back.find? (key · == k) :=
      List.find?_cons_of_neg other
    rw [Function.update_of_ne same]
    unfold lookup
    simp only [List.find?_append, skipped]

/-- A used slot is where its key is bound. -/
theorem lookup_of_mem (table : List σ) (x : σ) (distinct : Distinct key blank table)
    (member : x ∈ table) (used : key x ≠ blank) : lookup key blank table (key x) = some x := by
  obtain ⟨front, back, rfl⟩ := List.append_of_mem member
  have apart := ((distinct_insert key blank front back x).mp distinct).2 used
  rw [lookup_insert key blank front back x used apart, Function.update_self]

/-- A key that no slot has is not found. -/
theorem unbound (table : List σ) (k : κ) (apart : ∀ y ∈ table, key y ≠ k) :
    lookup key blank table k = none := by
  unfold lookup
  split
  · rfl
  · rw [List.find?_eq_none]
    intro y member
    simpa using apart y member

/-- A table of free slots binds nothing. -/
theorem lookup_free (table : List σ) (free : ∀ y ∈ table, key y = blank) (k : κ) :
    lookup key blank table k = none := by
  by_cases unused : k = blank
  · exact if_pos unused
  · refine unbound key blank table k fun y member => ?_
    rw [free y member]
    exact Ne.symm unused

/-- A binding in the place of its key updates the map there. -/
theorem assign (table : List σ) (k : κ) (i : Nat) (x : σ) (distinct : Distinct key blank table)
    (used : k ≠ blank) (place : slotFor key blank table k = some i) (bound : key x = k) :
    Distinct key blank (table.set i x) ∧
      lookup key blank (table.set i x) =
        Function.update (lookup key blank table) k (some x) := by
  subst bound
  unfold slotFor at place
  cases own : table.findIdx? (key · == key x) with
  | some j =>
    rw [own] at place
    cases place
    obtain ⟨front, old, back, rfl, rfl, hit, _⟩ := find_idx_split _ table i own
    have same : key old = key x := by simpa using hit
    rw [distinct_insert] at distinct
    have apart := distinct.2 (same ▸ used)
    rw [same] at apart
    rw [set_slot, distinct_insert, lookup_insert key blank front back x used apart,
      lookup_insert key blank front back old (same ▸ used) (same ▸ apart), same,
      Function.update_idem]
    exact ⟨⟨distinct.1, fun _ => apart⟩, rfl⟩
  | none =>
    rw [own, Option.none_or] at place
    obtain ⟨front, old, back, rfl, rfl, hit, _⟩ := find_idx_split _ table i place
    have free : key old = blank := by simpa using hit
    rw [distinct_insert] at distinct
    have apart : ∀ y ∈ front ++ back, key y ≠ key x := by
      intro y member
      have whole : y ∈ front ++ old :: back := by
        rcases List.mem_append.mp member with inFront | inBack
        · exact List.mem_append_left _ inFront
        · exact List.mem_append_right _ (List.mem_cons_of_mem _ inBack)
      simpa using List.findIdx?_eq_none_iff.mp own y whole
    rw [set_slot, distinct_insert, lookup_insert key blank front back x used apart,
      lookup_blank key blank front back old free]
    exact ⟨⟨distinct.1, fun _ => apart⟩, rfl⟩

/-- Blanking the slot of a key removes it from the map. -/
theorem release (table : List σ) (k : κ) (i : Nat) (x : σ) (distinct : Distinct key blank table)
    (used : k ≠ blank) (place : table.findIdx? (key · == k) = some i) (free : key x = blank) :
    Distinct key blank (table.set i x) ∧
      lookup key blank (table.set i x) = Function.update (lookup key blank table) k none := by
  obtain ⟨front, old, back, rfl, rfl, hit, _⟩ := find_idx_split _ table i place
  have same : key old = k := by simpa using hit
  subst same
  rw [distinct_insert] at distinct
  have apart := distinct.2 used
  rw [set_slot, distinct_insert, lookup_blank key blank front back x free,
    lookup_insert key blank front back old used apart, Function.update_idem,
    ← unbound key blank (front ++ back) (key old) apart, Function.update_eq_self]
  exact ⟨⟨distinct.1, fun bound => absurd free bound⟩, rfl⟩

omit [DecidableEq κ] in
/-- A change of every slot that renames none keeps the keys apart. -/
theorem distinct_map (f : σ → σ) (table : List σ)
    (named : ∀ x ∈ table, key (f x) = key x ∨ key (f x) = blank)
    (distinct : Distinct key blank table) : Distinct key blank (table.map f) := by
  unfold Distinct at distinct ⊢
  rw [List.pairwise_map]
  refine distinct.imp_of_mem ?_
  intro x y inside inside' apart used same
  have kept : key (f x) = key x := (named x inside).resolve_right used
  rcases named y inside' with kept' | freed
  · exact apart (kept ▸ used) (kept ▸ kept' ▸ same)
  · exact used (same.trans freed)

/-- A change of every slot that renames none changes each binding, or gives it up. -/
theorem lookup_map (f : σ → σ) (table : List σ) (k : κ)
    (named : ∀ x ∈ table, key (f x) = key x ∨ key (f x) = blank)
    (distinct : Distinct key blank table) :
    lookup key blank (table.map f) k =
      (lookup key blank table k).bind fun x => if key (f x) = k then some (f x) else none := by
  have distinct' := distinct_map key blank f table named distinct
  cases found : lookup key blank table k with
  | some x =>
    obtain ⟨member, rfl, used⟩ := lookup_mem key blank table k x found
    by_cases kept : key (f x) = key x
    · have bound := lookup_of_mem key blank (table.map f) (f x) distinct'
        (List.mem_map_of_mem member) (kept ▸ used)
      rw [kept] at bound
      rw [bound, Option.bind_some, if_pos kept]
    · rw [Option.bind_some, if_neg kept]
      have freed : key (f x) = blank := (named x member).resolve_left kept
      obtain ⟨front, back, rfl⟩ := List.append_of_mem member
      have apart := ((distinct_insert key blank front back x).mp distinct).2 used
      rw [List.map_append, List.map_cons, lookup_blank key blank _ _ _ freed, ← List.map_append]
      refine unbound key blank _ _ fun y inside => ?_
      obtain ⟨z, within, rfl⟩ := List.mem_map.mp inside
      have whole : z ∈ front ++ x :: back := by
        rcases List.mem_append.mp within with inFront | inBack
        · exact List.mem_append_left _ inFront
        · exact List.mem_append_right _ (List.mem_cons_of_mem _ inBack)
      rcases named z whole with same | free
      · rw [same]
        exact apart z within
      · rw [free]
        exact used.symm
  | none =>
    rw [Option.bind_none]
    by_cases unused : k = blank
    · exact if_pos unused
    · refine unbound key blank _ k fun y inside => ?_
      obtain ⟨x, member, rfl⟩ := List.mem_map.mp inside
      have absent : key x ≠ k := by
        rintro rfl
        rw [lookup_of_mem key blank table x distinct member unused] at found
        cases found
      rcases named x member with same | free
      · rw [same]
        exact absent
      · rw [free]
        exact Ne.symm unused

/-- What only the slot of a key contributes to is what it contributes. -/
theorem flat_map_lookup {β : Type*} (f : σ → List β) (table : List σ) (k : κ) (used : k ≠ blank)
    (silent : ∀ x ∈ table, key x ≠ k → f x = []) (distinct : Distinct key blank table) :
    table.flatMap f = ((lookup key blank table k).map f).getD [] := by
  have none_of (rest : List σ) (inside : ∀ y ∈ rest, y ∈ table) (apart : ∀ y ∈ rest, key y ≠ k) :
      rest.flatMap f = [] :=
    List.flatMap_eq_nil_iff.mpr fun y member => silent y (inside y member) (apart y member)
  cases found : lookup key blank table k with
  | none =>
    refine none_of table (fun _ => id) ?_
    rintro x member rfl
    rw [lookup_of_mem key blank table x distinct member used] at found
    cases found
  | some x =>
    obtain ⟨member, rfl, used'⟩ := lookup_mem key blank table k x found
    obtain ⟨front, back, rfl⟩ := List.append_of_mem member
    have apart := ((distinct_insert key blank front back x).mp distinct).2 used'
    have before := none_of front (fun y inside => List.mem_append_left _ inside)
      fun y inside => apart y (List.mem_append_left _ inside)
    have after := none_of back
      (fun y inside => List.mem_append_right _ (List.mem_cons_of_mem _ inside))
      fun y inside => apart y (List.mem_append_right _ inside)
    rw [List.flatMap_append, List.flatMap_cons, before, after]
    simp

/-- A binding finds no place only when every slot holds another key. -/
theorem full (table : List σ) (k : κ) (distinct : Distinct key blank table)
    (refused : slotFor key blank table k = none) :
    (keys key blank table).card = table.length ∧ k ∉ keys key blank table := by
  obtain ⟨not_bound, none_free⟩ := Option.or_eq_none_iff.mp refused
  rw [List.findIdx?_eq_none_iff] at not_bound none_free
  have used : ∀ x ∈ table, key x ≠ blank := fun x member => by simpa using none_free x member
  have nodup : (table.map key).Nodup := by
    rw [List.Nodup, List.pairwise_map]
    exact distinct.imp_of_mem fun member _ apart => apart (used _ member)
  have outside : blank ∉ (table.map key).toFinset := by
    simp only [List.mem_toFinset, List.mem_map, not_exists, not_and]
    exact used
  constructor
  · rw [keys, Finset.erase_eq_of_notMem outside, List.toFinset_card_of_nodup nodup,
      List.length_map]
  · rw [mem_keys]
    rintro ⟨_, x, member, rfl⟩
    simpa using not_bound x member

end ObdSimulator.SlotMap
