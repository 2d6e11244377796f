import Mathlib.Algebra.Order.BigOperators.Group.List
import ObdSimulator.Lib.SlotMap
import ObdSimulator.MemoryConfidentiality
import ObdSimulator.ServiceFrame

/-!
# The table of dynamic identifiers as a map

The four slots stand for a partial map from dynamic identifiers to records. A
positive DynamicallyDefineDataIdentifier binds or removes its identifier, and no
other request touches the map. What a definition asks for is read off its bytes
here, apart from the loop that checks it, and so is what reading an identifier
gives.
-/

namespace ObdSimulator.UdsService

open Bytes NorFlash

/-- The map a table stands for. -/
abbrev Bindings := UInt16 → Option (List DynRec)

/-- The identifiers a tester may define. -/
def dynamicDid (did : UInt16) : Prop := udsDidDynamicBase ≤ did ∧ did ≤ udsDidDynamicEnd

instance (did : UInt16) : Decidable (dynamicDid did) := inferInstanceAs (Decidable (_ ∧ _))

/-- One to three records of together one to 56 bytes. -/
structure Bounded (recs : List DynRec) : Prop where
  count : 1 ≤ recs.length ∧ recs.length ≤ udsDynMaxRec
  size : 1 ≤ totalSize recs ∧ totalSize recs ≤ udsDynMaxData

/-- A map with at most four keys, all dynamic, whose values are bounded. -/
structure BoundedMap (m : Bindings) : Prop where
  few : ∃ keys : Finset UInt16, keys.card ≤ udsDynSlots ∧ ∀ did, (m did).isSome = true ↔ did ∈ keys
  formed : ∀ did recs, m did = some recs → dynamicDid did ∧ Bounded recs

/-- What the slots bind, identifier by identifier. -/
def bindings (dyn : List DynSlot) : Bindings :=
  fun did => (SlotMap.lookup DynSlot.did 0 dyn did).map (·.recs)

/-- The four slots stand for the map, and no identifier is in two of them. -/
structure Represents (dyn : List DynSlot) (m : Bindings) : Prop where
  slots : dyn.length = udsDynSlots
  distinct : SlotMap.Distinct DynSlot.did 0 dyn
  map : bindings dyn = m

/-! ## What a definition asks for -/

/-- The slice is inside its source. -/
def sliceFits (s : App) (r : DynRec) : Bool :=
  if r.srcDid = udsDynSrcMem then true
  else
    match resolveSource s r.srcDid with
    | none => false
    | some data => decide (r.position ≠ 0) && decide (r.position - 1 + r.size ≤ data.length)

/-- The current bytes of a slice. -/
def slice (mem : Memory) (s : App) (r : DynRec) : List UInt8 :=
  if r.srcDid = udsDynSrcMem then readBytes mem r.srcAddr r.size
  else (((resolveSource s r.srcDid).getD []).drop (r.position - 1)).take r.size

/-- A record `{sourceDID(2) position(1) size(1)}` as spelled out. -/
def identifierFields (r : List UInt8) : DynRec where
  srcDid := word (byte r 0) (byte r 1)
  position := (byte r 2).toNat
  size := (byte r 3).toNat

/-- A record `{address size}` as spelled out. -/
def memoryFields (alen slen : Nat) (r : List UInt8) : DynRec where
  srcDid := udsDynSrcMem
  srcAddr := ofBe (r.take alen)
  size := ofBe ((r.drop alen).take slen)

/-- `n` records of `stride` bytes each. -/
def recordsAt (fields : List UInt8 → DynRec) (stride n : Nat) (data : List UInt8) : List DynRec :=
  (List.range n).map fun i => fields (data.drop (stride * i))

/-- The identifier a definition is for. -/
def requestedDid (req : List UInt8) : UInt16 := word (byte req 2) (byte req 3)

/-- The width of one record of raw memory. -/
def requestedStride (req : List UInt8) : Nat :=
  addressLength (byte req 4) + sizeLength (byte req 4)

/-- The records of a definition, as its bytes spell them out. -/
def requestedRecords (req : List UInt8) (reqLen : Nat) : List DynRec :=
  if subFunction (byte req 1) = 0x01 then
    recordsAt identifierFields 4 ((reqLen - 4) / 4) (req.drop 4)
  else
    recordsAt (memoryFields (addressLength (byte req 4)) (sizeLength (byte req 4)))
      (requestedStride req) ((reqLen - 5) / requestedStride req) (req.drop 5)

/-- Whole records behind the header. -/
def layoutFits (req : List UInt8) (reqLen : Nat) : Bool :=
  if subFunction (byte req 1) = 0x01 then decide (8 ≤ reqLen) && decide ((reqLen - 4) % 4 = 0)
  else
    decide (5 ≤ reqLen) && alfidInRange (byte req 4) &&
      decide (5 + requestedStride req ≤ reqLen) &&
      decide ((reqLen - 5) % requestedStride req = 0)

/-- A record of readable memory, or of a source that has its bytes. -/
def validRecord (s : App) (r : DynRec) : Bool :=
  decide (0 < r.size) && sliceFits s r &&
    (decide (r.srcDid ≠ udsDynSrcMem) || memReadable r.srcAddr r.size)

/-- A definition nothing is wrong with. -/
structure WellFormed (s : App) (req : List UInt8) (reqLen : Nat) : Prop where
  header : 4 ≤ reqLen
  did : dynamicDid (requestedDid req)
  sub : subFunction (byte req 1) = 0x01 ∨ subFunction (byte req 1) = 0x02
  layout : layoutFits req reqLen = true
  records : ∀ r ∈ requestedRecords req reqLen, validRecord s r = true
  bounded : Bounded (requestedRecords req reqLen)

/-! ## The checks of a definition -/

/-- The first record, then those behind it. -/
theorem records_at_succ (fields : List UInt8 → DynRec) (stride n : Nat) (data : List UInt8) :
    recordsAt fields stride (n + 1) data =
      fields data :: recordsAt fields stride n (data.drop stride) := by
  simp only [recordsAt, List.range_succ_eq_map, List.map_cons, List.map_map, Nat.mul_zero,
    List.drop_zero, List.cons.injEq, true_and]
  apply List.map_congr_left
  intro i _
  simp [List.drop_drop, Nat.mul_succ, Nat.add_comm]

/-- The record loop gives the records as spelled out, if each passes its check. -/
theorem dyn_records_at (parse : List UInt8 → Option DynRec) (fields : List UInt8 → DynRec)
    (valid : DynRec → Bool) (stride : Nat)
    (checks : ∀ data, parse (data.take stride) =
      if valid (fields data) then some (fields data) else none) (n : Nat) (data : List UInt8) :
    dynRecords parse stride n data =
      if ∀ r ∈ recordsAt fields stride n data, valid r = true then
        some (recordsAt fields stride n data)
      else none := by
  induction n generalizing data with
  | zero => simp [dynRecords, recordsAt]
  | succ n ih =>
    rw [dynRecords, checks, ih, records_at_succ]
    by_cases first : valid (fields data) = true
    · simp only [first, if_true, List.forall_mem_cons, true_and]
      split <;> rfl
    · simp [first]

/-- No source is registered under the marker of raw memory. -/
theorem resolve_marker (s : App) : resolveSource s udsDynSrcMem = none := by
  have port : udsDynSrcMem ≠ udsDidIoControl := by decide
  rw [resolveSource, if_neg port]
  rfl

/-- A record by identifier is accepted as spelled out when it is valid. -/
theorem identifier_record_fields (s : App) (data : List UInt8) :
    identifierRecord s (data.take 4) =
      if validRecord s (identifierFields data) then some (identifierFields data) else none := by
  have no_memory (size : Nat) : memReadable 0 size = false := rfl
  unfold identifierRecord
  simp only [byte_take data 4 0 (by decide), byte_take data 4 1 (by decide),
    byte_take data 4 2 (by decide), byte_take data 4 3 (by decide)]
  unfold validRecord sliceFits identifierFields
  simp only
  by_cases marker : word (byte data 0) (byte data 1) = udsDynSrcMem
  · simp [marker, resolve_marker, no_memory]
  · simp only [if_neg marker]
    cases resolveSource s (word (byte data 0) (byte data 1)) with
    | none => simp
    | some source =>
      simp only
      by_cases valid : (byte data 3).toNat = 0 ∨ (byte data 2).toNat = 0 ∨
          source.length < (byte data 2).toNat - 1 + (byte data 3).toNat
      · rw [if_pos valid, if_neg]
        simp only [Bool.and_eq_true, decide_eq_true_eq]
        omega
      · rw [if_neg valid, if_pos]
        simp only [Bool.and_eq_true, decide_eq_true_eq, marker, ne_eq, not_false_eq_true,
          decide_true, Bool.true_or, and_true]
        omega

/-- A record by address is taken when its fields are valid and it fits the data of a slot by
itself. -/
theorem memory_record_fields (s : App) (alen slen : Nat) (data : List UInt8) :
    memoryRecord alen slen (data.take (alen + slen)) =
      if validRecord s (memoryFields alen slen data) &&
          decide ((memoryFields alen slen data).size ≤ udsDynMaxData) then
        some (memoryFields alen slen data)
      else none := by
  have address : (data.take (alen + slen)).take alen = data.take alen := by
    rw [List.take_take, Nat.min_eq_left (Nat.le_add_right _ _)]
  have size : ((data.take (alen + slen)).drop alen).take slen = (data.drop alen).take slen := by
    rw [List.drop_take, Nat.add_sub_cancel_left, List.take_take, Nat.min_self]
  unfold memoryRecord
  simp only [address, size]
  unfold validRecord sliceFits memoryFields
  simp only [if_true, ne_eq, not_true_eq_false, decide_false, Bool.false_or, Bool.and_true]
  by_cases valid : ofBe ((data.drop alen).take slen) = 0 ∨
      udsDynMaxData < ofBe ((data.drop alen).take slen) ∨
      memReadable (ofBe (data.take alen)) (ofBe ((data.drop alen).take slen)) = false
  · rw [if_pos valid, if_neg]
    simp only [Bool.and_eq_true, decide_eq_true_eq]
    rintro ⟨⟨positive, readable⟩, small⟩
    simp only [readable, Bool.true_eq_false, or_false] at valid
    omega
  · rw [if_neg valid, if_pos]
    simp only [not_or, Bool.not_eq_false] at valid
    simp only [Bool.and_eq_true, decide_eq_true_eq]
    exact ⟨⟨Nat.pos_of_ne_zero valid.1, valid.2.2⟩, Nat.not_lt.mp valid.2.1⟩

/-- No record is longer than all of them. -/
theorem size_le_total (recs : List DynRec) (r : DynRec) (member : r ∈ recs) :
    r.size ≤ totalSize recs := List.le_sum_of_mem (List.mem_map_of_mem member)

instance (recs : List DynRec) : Decidable (Bounded recs) :=
  decidable_of_iff ((1 ≤ recs.length ∧ recs.length ≤ udsDynMaxRec) ∧
      1 ≤ totalSize recs ∧ totalSize recs ≤ udsDynMaxData)
    ⟨fun both => ⟨both.1, both.2⟩, fun bounded => ⟨bounded.count, bounded.size⟩⟩

/-- The scratch slot holds the records as spelled out, if they pass all checks. -/
theorem scratch_records_at (parse : List UInt8 → Option DynRec) (fields : List UInt8 → DynRec)
    (valid : DynRec → Bool) (stride : Nat)
    (checks : ∀ data, parse (data.take stride) =
      if valid (fields data) then some (fields data) else none) (n : Nat) (data : List UInt8) :
    scratchRecords parse stride n data =
      if Bounded (recordsAt fields stride n data) ∧
          ∀ r ∈ recordsAt fields stride n data, valid r = true then
        .ok (recordsAt fields stride n data)
      else .error nrcRequestOutOfRange := by
  have length : (recordsAt fields stride n data).length = n := by simp [recordsAt]
  unfold scratchRecords
  rw [dyn_records_at parse fields valid stride checks]
  generalize recordsAt fields stride n data = recs at length
  subst length
  by_cases count : recs.length = 0 ∨ udsDynMaxRec < recs.length
  · rw [if_pos count, if_neg]
    rintro ⟨⟨⟨some_records, few⟩, _⟩, _⟩
    omega
  · rw [if_neg count]
    by_cases all_valid : ∀ r ∈ recs, valid r = true
    · rw [if_pos all_valid]
      simp only
      by_cases size : totalSize recs = 0 ∨ udsDynMaxData < totalSize recs
      · rw [if_pos size, if_neg]
        rintro ⟨⟨_, some_bytes, fits⟩, _⟩
        omega
      · rw [if_neg size, if_pos]
        exact ⟨⟨by omega, by omega⟩, all_valid⟩
    · rw [if_neg all_valid, if_neg]
      exact fun both => all_valid both.2

/-- What a definition is checked for behind its header. -/
def Checked (s : App) (req : List UInt8) (reqLen : Nat) : Prop :=
  layoutFits req reqLen = true ∧ Bounded (requestedRecords req reqLen) ∧
    ∀ r ∈ requestedRecords req reqLen, validRecord s r = true

/-- A definition gives the records as spelled out exactly when they pass. -/
inductive Judged (s : App) (req : List UInt8) (reqLen : Nat) : Except UInt8 (List DynRec) → Prop
  | accepted (checked : Checked s req reqLen) :
      Judged s req reqLen (.ok (requestedRecords req reqLen))
  | rejected (code : UInt8) (unchecked : ¬ Checked s req reqLen) : Judged s req reqLen (.error code)

/-- Behind a fitting layout only the records decide. -/
theorem judged_behind (s : App) (req : List UInt8) (reqLen : Nat)
    (layout : layoutFits req reqLen = true) :
    Judged s req reqLen
      (if Bounded (requestedRecords req reqLen) ∧
          ∀ r ∈ requestedRecords req reqLen, validRecord s r = true then
        .ok (requestedRecords req reqLen)
      else .error nrcRequestOutOfRange) := by
  split
  · rename_i passed
    exact .accepted ⟨layout, passed⟩
  · rename_i failed
    exact .rejected _ fun checked => failed checked.2

section Definitions

variable (s : App) (req : List UInt8) (reqLen : Nat) (short : reqLen ≤ IsoTp.isoTpMaxMessageSize)

include short

/-- Sub-function 0x01 judges a definition by these checks. -/
theorem define_by_identifier_judged (sub : subFunction (byte req 1) = 0x01) :
    Judged s req reqLen (defineByIdentifier s req reqLen) := by
  have message : IsoTp.isoTpMaxMessageSize = 512 := rfl
  have layout : layoutFits req reqLen = true ↔ ¬ (reqLen < 8 ∨ (reqLen - 4) % 4 ≠ 0) := by
    simp only [layoutFits, if_pos sub, Bool.and_eq_true, decide_eq_true_eq]
    omega
  have requested : requestedRecords req reqLen =
      recordsAt identifierFields 4 ((reqLen - 4) / 4) (req.drop 4) := if_pos sub
  have count : (reqLen - 4) / 4 % 256 = (reqLen - 4) / 4 := Nat.mod_eq_of_lt (by omega)
  unfold defineByIdentifier
  rw [count]
  by_cases misfit : reqLen < 8 ∨ (reqLen - 4) % 4 ≠ 0
  · rw [if_pos misfit]
    exact .rejected _ fun checked => layout.mp checked.1 misfit
  · rw [if_neg misfit, scratch_records_at _ _ _ _ (identifier_record_fields s), ← requested]
    exact judged_behind s req reqLen (layout.mpr misfit)

/-- Sub-function 0x02 judges a definition by these checks. -/
theorem define_by_memory_judged (sub : subFunction (byte req 1) ≠ 0x01) :
    Judged s req reqLen (defineByMemoryAddress req reqLen) := by
  have message : IsoTp.isoTpMaxMessageSize = 512 := rfl
  have requested : requestedRecords req reqLen =
      recordsAt (memoryFields (addressLength (byte req 4)) (sizeLength (byte req 4)))
        (requestedStride req) ((reqLen - 5) / requestedStride req) (req.drop 5) := if_neg sub
  have stride : addressLength (byte req 4) + sizeLength (byte req 4) = requestedStride req := rfl
  have layout : layoutFits req reqLen = true ↔ 5 ≤ reqLen ∧ alfidInRange (byte req 4) = true ∧
      5 + requestedStride req ≤ reqLen ∧ (reqLen - 5) % requestedStride req = 0 := by
    simp only [layoutFits, if_neg sub, Bool.and_eq_true, decide_eq_true_eq, and_assoc]
  unfold defineByMemoryAddress
  simp only [stride]
  by_cases brief : reqLen < 5
  · rw [if_pos brief]
    exact .rejected _ fun checked => Nat.not_le.mpr brief (layout.mp checked.1).1
  rw [if_neg brief]
  by_cases ranged : alfidInRange (byte req 4) = false
  · rw [if_pos ranged]
    refine .rejected _ fun checked => ?_
    rw [(layout.mp checked.1).2.1] at ranged
    cases ranged
  rw [if_neg ranged]
  by_cases misfit : reqLen < 5 + requestedStride req ∨ (reqLen - 5) % requestedStride req ≠ 0
  · rw [if_pos misfit]
    refine .rejected _ fun checked => ?_
    have fits := (layout.mp checked.1).2.2
    omega
  have in_range : alfidInRange (byte req 4) = true := by simpa using ranged
  have wide : 2 ≤ requestedStride req := by
    simp only [alfidInRange, Bool.and_eq_true, decide_eq_true_eq] at in_range
    rw [← stride]
    omega
  have few : (reqLen - 5) / requestedStride req ≤ (reqLen - 5) / 2 :=
    Nat.div_le_div_left wide (by decide)
  have count : (reqLen - 5) / requestedStride req % 256 =
      (reqLen - 5) / requestedStride req := Nat.mod_eq_of_lt (by omega)
  have checks := memory_record_fields s (addressLength (byte req 4)) (sizeLength (byte req 4))
  have scratch := scratch_records_at _ (memoryFields _ _)
    (fun r => validRecord s r && decide (r.size ≤ udsDynMaxData)) _ checks
  rw [if_neg misfit, count, ← stride, scratch, stride, ← requested]
  have same : (Bounded (requestedRecords req reqLen) ∧ ∀ r ∈ requestedRecords req reqLen,
        (validRecord s r && decide (r.size ≤ udsDynMaxData)) = true) ↔
      Bounded (requestedRecords req reqLen) ∧
        ∀ r ∈ requestedRecords req reqLen, validRecord s r = true := by
    simp only [Bool.and_eq_true, decide_eq_true_eq]
    constructor
    · rintro ⟨bounded, valid⟩
      exact ⟨bounded, fun r member => (valid r member).1⟩
    · rintro ⟨bounded, valid⟩
      refine ⟨bounded, fun r member => ⟨valid r member, ?_⟩⟩
      exact (size_le_total _ r member).trans bounded.size.2
  rw [if_congr same rfl rfl]
  rw [not_or, Nat.not_lt, not_not] at misfit
  exact judged_behind s req reqLen (layout.mpr ⟨Nat.not_lt.mp brief, in_range, misfit⟩)

end Definitions

/-! ## One request -/

/-- What DynamicallyDefineDataIdentifier does: bind, remove, or refuse. -/
inductive Defined (s : App) (req : List UInt8) (reqLen : Nat) : App × List UInt8 → Prop
  | bound (i : Nat) (wellFormed : WellFormed s req reqLen)
      (place : SlotMap.slotFor DynSlot.did 0 s.dyn (requestedDid req) = some i) :
      Defined s req reqLen
        ({ s with dyn := s.dyn.set i ⟨requestedDid req, requestedRecords req reqLen⟩ },
          dynResponse (subFunction (byte req 1)) (requestedDid req))
  | removed (i : Nat) (sub : subFunction (byte req 1) = 0x03)
      (dynamic : dynamicDid (requestedDid req))
      (place : s.dyn.findIdx? (·.did == requestedDid req) = some i) :
      Defined s req reqLen
        ({ s with dyn := s.dyn.set i {} },
          dynResponse (subFunction (byte req 1)) (requestedDid req))
  | refused (code : UInt8) (full : WellFormed s req reqLen →
        SlotMap.slotFor DynSlot.did 0 s.dyn (requestedDid req) = none) :
      Defined s req reqLen (s, nrc udsSidDynamicDefineDid code)

/-- A definition behind its header checks is bound if its records are accepted and a
slot is left. -/
theorem commit_defined (s : App) (req : List UInt8) (reqLen : Nat)
    (recs : Except UInt8 (List DynRec)) (header : 4 ≤ reqLen)
    (dynamic : dynamicDid (requestedDid req))
    (sub : subFunction (byte req 1) = 0x01 ∨ subFunction (byte req 1) = 0x02)
    (judged : Judged s req reqLen recs) :
    Defined s req reqLen
      (commitDynamic s (subFunction (byte req 1)) (requestedDid req) recs) := by
  cases judged with
  | rejected code unchecked =>
    refine .refused code fun wellFormed => absurd ?_ unchecked
    exact ⟨wellFormed.layout, wellFormed.bounded, wellFormed.records⟩
  | accepted checked =>
    obtain ⟨layout, bounded, records⟩ := checked
    have place : dynSlotFor s.dyn (requestedDid req) =
      SlotMap.slotFor DynSlot.did 0 s.dyn (requestedDid req) := rfl
    simp only [commitDynamic, place]
    cases found : SlotMap.slotFor DynSlot.did 0 s.dyn (requestedDid req) with
    | none => exact .refused _ fun _ => found
    | some i => exact .bound i ⟨header, dynamic, sub, layout, records, bounded⟩ found

/-- 0x2C binds a well-formed definition, unbinds what it clears and refuses the rest. -/
theorem dynamic_define_defined (s : App) (req : List UInt8) (reqLen : Nat)
    (short : reqLen ≤ IsoTp.isoTpMaxMessageSize) :
    Defined s req reqLen (handleDynamicDefineDid s req reqLen) := by
  unfold handleDynamicDefineDid
  simp only
  split
  · rename_i brief
    exact .refused _ fun wellFormed => absurd wellFormed.header (Nat.not_le.mpr brief)
  rename_i header
  split
  · rename_i outside
    refine .refused _ fun wellFormed => ?_
    obtain ⟨low, high⟩ := wellFormed.did
    rcases outside with below | above
    · exact absurd low (UInt16.not_le.mpr below)
    · exact absurd high (UInt16.not_le.mpr above)
  rename_i inside
  rw [not_or, UInt16.not_lt, UInt16.not_lt] at inside
  split
  · rename_i sub
    exact commit_defined s req reqLen _ (Nat.not_lt.mp header) inside (Or.inl sub)
      (define_by_identifier_judged s req reqLen short sub)
  rename_i other
  split
  · rename_i sub
    exact commit_defined s req reqLen _ (Nat.not_lt.mp header) inside (Or.inr sub)
      (define_by_memory_judged s req reqLen short other)
  rename_i other'
  have undefined : ¬ WellFormed s req reqLen := fun wellFormed =>
    wellFormed.sub.elim other other'
  split
  · rename_i sub
    split
    · exact .refused _ fun wellFormed => absurd wellFormed undefined
    · rename_i i found
      exact .removed i sub inside found
  · exact .refused _ fun wellFormed => absurd wellFormed undefined

/-- Four slots without a repeated identifier, and nothing but bounded bindings. -/
structure Table (dyn : List DynSlot) : Prop where
  slots : dyn.length = udsDynSlots
  distinct : SlotMap.Distinct DynSlot.did 0 dyn
  formed : ∀ slot ∈ dyn, slot.did ≠ 0 → dynamicDid slot.did ∧ Bounded slot.recs

/-- Four empty slots are a table. -/
theorem table_empty : Table (List.replicate udsDynSlots {}) where
  slots := rfl
  distinct := by
    refine List.pairwise_replicate.mpr (Or.inr ?_)
    exact fun used => absurd rfl used
  formed := by
    intro slot member used
    rw [List.eq_of_mem_replicate member] at used
    exact absurd rfl used

/-- Four empty slots bind nothing. -/
theorem bindings_empty : bindings (List.replicate udsDynSlots {}) = fun _ => none := by
  funext did
  rw [bindings, SlotMap.lookup_free DynSlot.did 0 _
    fun slot member => congrArg DynSlot.did (List.eq_of_mem_replicate member)]
  rfl

/-- Zero marks an empty slot and is no dynamic identifier. -/
theorem dynamic_nonzero (did : UInt16) (dynamic : dynamicDid did) : did ≠ 0 := by
  rintro rfl
  exact absurd dynamic (by decide)

/-- A binding is a slot. -/
theorem bindings_some (dyn : List DynSlot) (did : UInt16) (recs : List DynRec)
    (bound : bindings dyn did = some recs) :
    ∃ slot ∈ dyn, slot.did = did ∧ did ≠ 0 ∧ slot.recs = recs := by
  obtain ⟨slot, found, same⟩ := Option.map_eq_some_iff.mp bound
  obtain ⟨member, key, used⟩ := SlotMap.lookup_mem DynSlot.did 0 dyn did slot found
  exact ⟨slot, member, key, used, same⟩

/-- The map behind a table is bounded by its four slots. -/
theorem Table.bounded {dyn : List DynSlot} (table : Table dyn) : BoundedMap (bindings dyn) := by
  constructor
  · refine ⟨SlotMap.keys DynSlot.did 0 dyn, ?_, ?_⟩
    · rw [← table.slots]
      exact SlotMap.keys_card_le DynSlot.did 0 dyn
    · intro did
      rw [← SlotMap.lookup_isSome, bindings, Option.isSome_map]
  · intro did recs bound
    obtain ⟨slot, member, rfl, used, rfl⟩ := bindings_some dyn did recs bound
    exact table.formed slot member used

/-- A change of one key of the slots is one of the map. -/
theorem bindings_update (dyn dyn' : List DynSlot) (did : UInt16) (slot : Option DynSlot)
    (updated : SlotMap.lookup DynSlot.did 0 dyn' =
      Function.update (SlotMap.lookup DynSlot.did 0 dyn) did slot) :
    bindings dyn' = Function.update (bindings dyn) did (slot.map (·.recs)) := by
  have whole := Function.comp_update (Option.map (·.recs)) (SlotMap.lookup DynSlot.did 0 dyn) did
    slot
  rw [← updated] at whole
  exact whole

/-- Writing the slot an identifier gets binds the identifier and nothing else. -/
theorem Table.bind {dyn : List DynSlot} (table : Table dyn) (did : UInt16) (recs : List DynRec)
    (i : Nat) (dynamic : dynamicDid did) (bounded : Bounded recs)
    (place : SlotMap.slotFor DynSlot.did 0 dyn did = some i) :
    Table (dyn.set i ⟨did, recs⟩) ∧
      bindings (dyn.set i ⟨did, recs⟩) = Function.update (bindings dyn) did (some recs) := by
  obtain ⟨distinct, updated⟩ := SlotMap.assign DynSlot.did 0 dyn did i ⟨did, recs⟩ table.distinct
    (dynamic_nonzero did dynamic) place rfl
  refine ⟨⟨?_, distinct, ?_⟩, bindings_update dyn _ did _ updated⟩
  · rw [List.length_set]
    exact table.slots
  · intro slot member used
    rcases List.mem_or_eq_of_mem_set member with old | rfl
    · exact table.formed slot old used
    · exact ⟨dynamic, bounded⟩

/-- Emptying its slot unbinds it and nothing else. -/
theorem Table.unbind {dyn : List DynSlot} (table : Table dyn) (did : UInt16) (i : Nat)
    (dynamic : dynamicDid did) (place : dyn.findIdx? (·.did == did) = some i) :
    Table (dyn.set i {}) ∧ bindings (dyn.set i {}) = Function.update (bindings dyn) did none := by
  obtain ⟨distinct, updated⟩ := SlotMap.release DynSlot.did 0 dyn did i {} table.distinct
    (dynamic_nonzero did dynamic) place rfl
  refine ⟨⟨?_, distinct, ?_⟩, bindings_update dyn _ did _ updated⟩
  · rw [List.length_set]
    exact table.slots
  · intro slot member used
    rcases List.mem_or_eq_of_mem_set member with old | rfl
    · exact table.formed slot old used
    · exact absurd rfl used

/-! ## Every reachable table -/

/-- An accepted definition has as many records as it announced. -/
theorem dyn_records_length (parse : List UInt8 → Option DynRec) (stride n : Nat)
    (data : List UInt8) (recs : List DynRec)
    (accepted : dynRecords parse stride n data = some recs) : recs.length = n := by
  induction n generalizing data recs with
  | zero =>
    cases accepted
    rfl
  | succ n ih =>
    rw [dynRecords] at accepted
    cases parsed : parse (data.take stride) with
    | none =>
      rw [parsed] at accepted
      cases accepted
    | some first =>
      rw [parsed] at accepted
      obtain ⟨rest, later, rfl⟩ := Option.map_eq_some_iff.mp accepted
      rw [List.length_cons, ih _ rest later]

/-- Accepted records respect both bounds of a slot. -/
theorem scratch_records_bounded (parse : List UInt8 → Option DynRec) (stride n : Nat)
    (data : List UInt8) (recs : List DynRec)
    (accepted : scratchRecords parse stride n data = .ok recs) : Bounded recs := by
  unfold scratchRecords at accepted
  split at accepted
  · cases accepted
  · rename_i count
    cases parsed : dynRecords parse stride n data with
    | none =>
      rw [parsed] at accepted
      cases accepted
    | some scratch =>
      rw [parsed] at accepted
      simp only at accepted
      split at accepted
      · cases accepted
      · rename_i size
        cases accepted
        have length := dyn_records_length parse stride n data recs parsed
        exact ⟨by omega, by omega⟩

/-- The records of any accepted definition respect both bounds of a slot. -/
theorem defines_bounded (s : App) (req : List UInt8) (reqLen : Nat) (recs : List DynRec)
    (defines : Defines s req reqLen recs) : Bounded recs := by
  rcases defines with byIdentifier | byAddress
  · unfold defineByIdentifier at byIdentifier
    split at byIdentifier
    · cases byIdentifier
    · exact scratch_records_bounded _ _ _ _ recs byIdentifier
  · unfold defineByMemoryAddress at byAddress
    simp only at byAddress
    split at byAddress
    · cases byAddress
    · split at byAddress
      · cases byAddress
      · split at byAddress
        · cases byAddress
        · exact scratch_records_bounded _ _ _ _ recs byAddress

/-- Whatever a request changes, the slots stay a table. -/
theorem change_table {s s' : App} {now : Nat} {req : List UInt8} {reqLen : Nat}
    (change : Change s now req reqLen s') (table : Table s.dyn) : Table s'.dyn := by
  cases change with
  | session t => cases t <;> exact table
  | defined i did recs opened inside place checked =>
    exact (table.bind did recs i inside (defines_bounded s req reqLen recs checked) place).1
  | undefined i opened =>
    have distinct := SlotMap.distinct_blank DynSlot.did 0 s.dyn i {} table.distinct rfl
    refine ⟨List.length_set.trans table.slots, distinct, ?_⟩
    intro slot member used
    rcases List.mem_or_eq_of_mem_set member with old | rfl
    · exact table.formed slot old used
    · exact absurd rfl used
  | _ => exact table

/-- A response to an admitted request that is not negative. It may be suppressed. -/
def accepted (req : List UInt8) (reqLen : Nat) (addr : AddrType) (response : List UInt8) : Bool :=
  admitted req reqLen addr && byte response 0 != 0x7F

/-- What a request and its answer do to the map. -/
def effect (m : Bindings) (req : List UInt8) (reqLen : Nat) (positive : Bool) : Bindings :=
  if byte req 0 = udsSidDynamicDefineDid ∧ positive = true then
    Function.update m (requestedDid req)
      (if subFunction (byte req 1) = 0x03 then none else some (requestedRecords req reqLen))
  else m

section Requests

variable (mem : Memory) (s : App) (now : Nat) (req : List UInt8) (reqLen : Nat) (addr : AddrType)

/-- How the switch reaches 0x2C. -/
theorem serve_define (service : byte req 0 = udsSidDynamicDefineDid) :
    serve mem s now req reqLen =
      gated s udsSidDynamicDefineDid (handleDynamicDefineDid s req reqLen) := by
  unfold serve
  rw [service]
  rfl

/-- A request that reaches its service is accepted exactly if the service does not
refuse. -/
theorem accepted_dispatch (reaches : admitted req reqLen addr = true) :
    accepted req reqLen addr (udsDispatchRequest mem s now req reqLen addr).2 =
      (byte (serve mem (stamped s now) now req reqLen).2 0 != 0x7F) := by
  have no_response : byte [] 0 = 0 := rfl
  unfold accepted udsDispatchRequest
  simp only [reaches, Bool.true_and, Bool.true_eq_false, if_false]
  split
  · rename_i quiet
    simp only [suppressed, Bool.and_eq_true] at quiet
    rw [quiet.1.1.1.2, no_response]
    rfl
  · rfl

/-- A request to a gated service is refused and keeps the application, up to the stamp,
or it does what its handler does. -/
theorem dispatch_gated (sid : UInt8) (handled : App × List UInt8)
    (served : serve mem (stamped s now) now req reqLen = gated (stamped s now) sid handled) :
    (accepted req reqLen addr (udsDispatchRequest mem s now req reqLen addr).2 = false ∧
      ((udsDispatchRequest mem s now req reqLen addr).1 = s ∨
        (udsDispatchRequest mem s now req reqLen addr).1 = stamped s now)) ∨
    admitted req reqLen addr = true ∧ accessGate s sid = none ∧
      (udsDispatchRequest mem s now req reqLen addr).1 = handled.1 ∧
      accepted req reqLen addr (udsDispatchRequest mem s now req reqLen addr).2 =
        (byte handled.2 0 != 0x7F) := by
  cases reaches : admitted req reqLen addr with
  | false =>
    rw [dispatch_ignored mem s now req reqLen addr reaches, accepted, reaches]
    exact Or.inl ⟨rfl, Or.inl rfl⟩
  | true =>
    have same : accessGate (stamped s now) sid = accessGate s sid := rfl
    rw [accepted_dispatch mem s now req reqLen addr reaches,
      dispatch_served mem s now req reqLen addr reaches, served, gated, same]
    cases accessGate s sid with
    | some code => exact Or.inl ⟨rfl, Or.inr rfl⟩
    | none => exact Or.inr ⟨rfl, rfl, rfl, rfl⟩

/-- Every request takes the table where the map says. -/
theorem dispatch_table (short : reqLen ≤ IsoTp.isoTpMaxMessageSize) (table : Table s.dyn) :
    Table (udsDispatchRequest mem s now req reqLen addr).1.dyn ∧
      bindings (udsDispatchRequest mem s now req reqLen addr).1.dyn =
        effect (bindings s.dyn) req reqLen
          (accepted req reqLen addr (udsDispatchRequest mem s now req reqLen addr).2) := by
  by_cases service : byte req 0 = udsSidDynamicDefineDid
  swap
  · have kept : (udsDispatchRequest mem s now req reqLen addr).1.dyn = s.dyn :=
      dispatch_keeps (·.dyn) mem s now req reqLen addr rfl
        ((serve_frame mem (stamped s now) now req reqLen).dyn service)
    rw [kept]
    exact ⟨table, (if_neg fun both => service both.1).symm⟩
  rcases dispatch_gated mem s now req reqLen addr _ _
      (serve_define mem (stamped s now) now req reqLen service) with
    ⟨refused, same⟩ | ⟨_, _, state, answer⟩
  · have kept : (udsDispatchRequest mem s now req reqLen addr).1.dyn = s.dyn := by
      rcases same with same | same
      · rw [same]
      · rw [same]
        rfl
    rw [kept, refused]
    exact ⟨table, (if_neg fun both => absurd both.2 Bool.false_ne_true).symm⟩
  rw [state, answer]
  have defined := dynamic_define_defined (stamped s now) req reqLen short
  generalize handleDynamicDefineDid (stamped s now) req reqLen = out at defined
  have positive (sub : UInt8) (did : UInt16) : (byte (dynResponse sub did) 0 != 0x7F) = true := rfl
  have negative (code : UInt8) :
    (byte (nrc udsSidDynamicDefineDid code) 0 != 0x7F) = false := rfl
  unfold effect
  cases defined with
  | bound i wellFormed place =>
    have defines : subFunction (byte req 1) ≠ 0x03 := by
      rcases wellFormed.sub with one | two
      · rw [one]
        decide
      · rw [two]
        decide
    rw [positive, if_pos ⟨service, rfl⟩, if_neg defines]
    exact table.bind _ _ i wellFormed.did wellFormed.bounded place
  | removed i sub dynamic place =>
    rw [positive, if_pos ⟨service, rfl⟩, if_pos sub]
    exact table.unbind _ i dynamic place
  | refused code full =>
    rw [negative, if_neg fun both => absurd both.2 Bool.false_ne_true]
    exact ⟨table, rfl⟩

/-- A definition nothing is wrong with is refused for lack of space only. -/
theorem refused_full (short : reqLen ≤ IsoTp.isoTpMaxMessageSize) (table : Table s.dyn)
    (service : byte req 0 = udsSidDynamicDefineDid) (reaches : admitted req reqLen addr = true)
    (opened : accessGate s udsSidDynamicDefineDid = none) (wellFormed : WellFormed s req reqLen)
    (refused : byte (udsDispatchRequest mem s now req reqLen addr).2 0 = 0x7F) :
    ∃ keys : Finset UInt16, keys.card = udsDynSlots ∧ requestedDid req ∉ keys ∧
      ∀ did ∈ keys, (bindings s.dyn did).isSome = true := by
  have unaccepted := accepted_dispatch mem s now req reqLen addr reaches
  have opened' : accessGate (stamped s now) udsSidDynamicDefineDid = none := opened
  have defined := dynamic_define_defined (stamped s now) req reqLen short
  rw [serve_define mem (stamped s now) now req reqLen service, gated, opened'] at unaccepted
  simp only [accepted, reaches, refused, bne_self_eq_false, Bool.and_false] at unaccepted
  generalize handleDynamicDefineDid (stamped s now) req reqLen = out at defined unaccepted
  cases defined with
  | bound => cases unaccepted
  | removed => cases unaccepted
  | refused code full =>
    have same : WellFormed (stamped s now) req reqLen :=
      ⟨wellFormed.header, wellFormed.did, wellFormed.sub, wellFormed.layout, wellFormed.records,
        wellFormed.bounded⟩
    obtain ⟨count, absent⟩ := SlotMap.full DynSlot.did 0 s.dyn (requestedDid req) table.distinct
      (full same)
    refine ⟨_, count.trans table.slots, absent, ?_⟩
    intro did member
    rw [bindings, Option.isSome_map, SlotMap.lookup_isSome]
    exact member

end Requests

/-! ## Reading an identifier -/

/-- The answer to reading a dynamic identifier, as the map has it. -/
def readAnswer (mem : Memory) (s : App) (did : UInt16) : Option (List DynRec) → List UInt8
  | none => nrc udsSidReadDataById nrcRequestOutOfRange
  | some recs =>
    if recs.all (sliceFits s) then
      (udsSidReadDataById + udsResponseSidOffset) :: (wordBytes did ++ recs.flatMap (slice mem s))
    else nrc udsSidReadDataById nrcRequestOutOfRange

section Reading

variable (mem : Memory) (s : App)

/-- A record yields its slice if that is inside its source. -/
theorem rec_data_slice (r : DynRec) :
    dynRecData mem s r = if sliceFits s r then some (slice mem s r) else none := by
  unfold dynRecData sliceFits slice
  by_cases raw : r.srcDid = udsDynSrcMem
  · simp [raw]
  · simp only [if_neg raw]
    cases resolveSource s r.srcDid with
    | none => rfl
    | some data =>
      by_cases outside : r.position = 0 ∨ data.length < r.position - 1 + r.size
      · have misfit : (decide (r.position ≠ 0) &&
            decide (r.position - 1 + r.size ≤ data.length)) = false := by
          rcases outside with none_there | beyond
          · simp [none_there]
          · simp [Nat.not_le.mpr beyond]
        simp only [if_pos outside, misfit, Bool.false_eq_true, if_false]
      · rw [not_or, Nat.not_lt] at outside
        simp [outside.1, outside.2]

/-- A slice inside its source has the size of its record. -/
theorem slice_length (r : DynRec) (fits : sliceFits s r = true) :
    (slice mem s r).length = r.size := by
  unfold sliceFits at fits
  unfold slice
  by_cases raw : r.srcDid = udsDynSrcMem
  · simp [raw, read_bytes_length]
  · simp only [if_neg raw] at fits ⊢
    cases resolved : resolveSource s r.srcDid with
    | none =>
      rw [resolved] at fits
      cases fits
    | some data =>
      simp only [resolved, Bool.and_eq_true, decide_eq_true_eq] at fits
      simp only [Option.getD_some, List.length_take, List.length_drop]
      omega

/-- Records that fit the limit are put together unless one does not fit its source. -/
theorem assemble_loop_slices (recs : List DynRec) (out : List UInt8)
    (fits : out.length + totalSize recs ≤ udsDynMaxData) :
    dynAssembleLoop mem s out recs =
      if recs.all (sliceFits s) then some (out ++ recs.flatMap (slice mem s)) else none := by
  induction recs generalizing out with
  | nil => simp [dynAssembleLoop]
  | cons r rest ih =>
    have total : totalSize (r :: rest) = r.size + totalSize rest := by simp [totalSize]
    rw [total] at fits
    have room : ¬ udsDynMaxData < out.length + r.size := by omega
    simp only [dynAssembleLoop, if_neg room, rec_data_slice]
    cases inside : sliceFits s r with
    | false => simp [inside]
    | true =>
      have length := slice_length mem s r inside
      simp only [if_true]
      rw [ih _ (by rw [List.length_append, length]; omega)]
      simp [inside, List.append_assoc]

/-- Slices inside their sources add up to the total size. -/
theorem slices_length (recs : List DynRec) (fits : recs.all (sliceFits s) = true) :
    (recs.flatMap (slice mem s)).length = totalSize recs := by
  rw [List.length_flatMap, totalSize]
  congr 1
  apply List.map_congr_left
  intro r member
  exact slice_length mem s r (List.all_eq_true.mp fits r member)

/-- The data of a slot are its slices, one behind the other, or none if one does not
fit. -/
theorem assemble_slices (slot : DynSlot) (bounded : Bounded slot.recs) :
    dynAssemble mem s slot =
      if slot.recs.all (sliceFits s) then slot.recs.flatMap (slice mem s) else [] := by
  have fits : ([] : List UInt8).length + totalSize slot.recs ≤ udsDynMaxData := by
    simpa using bounded.size.2
  unfold dynAssemble
  rw [assemble_loop_slices mem s slot.recs [] fits]
  split <;> rfl

/-- The search of the source finds what the map binds. -/
theorem dyn_find_lookup (did : UInt16) (dynamic : dynamicDid did) :
    dynFind s did = SlotMap.lookup DynSlot.did 0 s.dyn did :=
  (if_neg (dynamic_nonzero did dynamic)).symm

/-- A dynamic identifier is answered from the map. -/
theorem read_data_dynamic (req : List UInt8) (reqLen : Nat) (table : Table s.dyn)
    (long : 3 ≤ reqLen) (dynamic : dynamicDid (word (byte req 1) (byte req 2))) :
    handleReadDataById mem s req reqLen =
      readAnswer mem s (word (byte req 1) (byte req 2))
        (bindings s.dyn (word (byte req 1) (byte req 2))) := by
  have unregistered : registered s (word (byte req 1) (byte req 2)) = none :=
    AppMain.registered_dynamic s _ dynamic
  unfold handleReadDataById
  simp only [if_neg (Nat.not_lt.mpr long), unregistered, dyn_find_lookup s _ dynamic, bindings]
  cases found : SlotMap.lookup DynSlot.did 0 s.dyn (word (byte req 1) (byte req 2)) with
  | none => rfl
  | some slot =>
    obtain ⟨member, key, used⟩ := SlotMap.lookup_mem DynSlot.did 0 s.dyn _ slot found
    have bounded := (table.formed slot member (key ▸ used)).2
    simp only [Option.map_some, readAnswer, assemble_slices mem s slot bounded]
    by_cases fits : slot.recs.all (sliceFits s) = true
    · have some_bytes : slot.recs.flatMap (slice mem s) ≠ [] := by
        rw [← List.length_pos_iff, slices_length mem s slot.recs fits]
        exact bounded.size.1
      simp only [if_pos fits, if_neg some_bytes]
    · simp only [if_neg fits, if_true]

/-- A read of a dynamic identifier answers by the map alone. -/
theorem dispatch_read_dynamic (now : Nat) (req : List UInt8) (reqLen : Nat) (table : Table s.dyn)
    (service : byte req 0 = udsSidReadDataById) (long : 3 ≤ reqLen)
    (dynamic : dynamicDid (word (byte req 1) (byte req 2))) :
    (udsDispatchRequest mem s now req reqLen .physical).2 =
      readAnswer mem s (word (byte req 1) (byte req 2))
        (bindings s.dyn (word (byte req 1) (byte req 2))) := by
  have reaches := admitted_physical req reqLen (by omega)
  have plain : byte req 0 ∉ suppressibleSids := by
    rw [service]
    decide
  rw [dispatch_unsuppressed mem s now req reqLen .physical reaches plain,
    AppMain.serve_read_data mem (stamped s now) now req reqLen service]
  exact read_data_dynamic mem (stamped s now) req reqLen table long dynamic

end Reading

end ObdSimulator.UdsService

namespace ObdSimulator.AppMain

open Bytes NorFlash UdsService

/-- Every call of the application keeps the table. -/
theorem step_table (mem : Memory) (s : App) (i : Input) (table : Table s.dyn) :
    Table (step mem s i).1.dyn := by
  cases i with
  | request now req reqLen addr =>
    rcases dispatch_change mem s now req reqLen addr with same | ⟨_, change⟩
    · simp only [step, same]
      exact table
    · exact change_table change table
  | work now k =>
    have kept : (step mem s (.work now k)).1.dyn = s.dyn := (work_keeps mem s now k).1
    rw [kept]
    exact table
  | boot now ready => exact table_empty

/-- The table of every reachable state. -/
theorem run_table (boot ready : Nat) (calls : List (Memory × Input)) :
    Table (Run.final (Run.opened step) (appInit boot ready) calls).dyn := by
  apply Run.final_of_kept (Run.opened step) fun s => Table s.dyn
  · intro s call table
    exact step_table call.1 s call.2 table
  · exact table_empty

/-- The transport hands over at most one buffer. -/
def Received : Input → Prop
  | .request _ _ reqLen _ => reqLen ≤ IsoTp.isoTpMaxMessageSize
  | _ => True

instance decidableReceived : ∀ i, Decidable (Received i)
  | .request _ _ reqLen _ => inferInstanceAs (Decidable (reqLen ≤ IsoTp.isoTpMaxMessageSize))
  | .work _ _ | .boot _ _ => isTrue trivial

/-- A call next to what it emits. -/
def converse (s : App) (call : Memory × Input) : App × List (Input × List Event) :=
  let (s, events) := step call.1 s call.2
  (s, [(call.2, events)])

/-- What a call and its answer do to the map. A reset forgets it. -/
def observe (m : Bindings) : Input × List Event → Bindings
  | (.boot _ _, _) => fun _ => none
  | (.request _ req reqLen addr, [.answered _ _ response]) =>
    effect m req reqLen (accepted req reqLen addr response)
  | _ => m

/-- One call changes the map as an observer of its frames expects. -/
theorem converse_table (past : List (Input × List Event)) (s : App) (call : Memory × Input)
    (before : Table s.dyn ∧ bindings s.dyn = past.foldl observe fun _ => none)
    (received : Received call.2) :
    Table (converse s call).1.dyn ∧
      bindings (converse s call).1.dyn =
        (past ++ (converse s call).2).foldl observe fun _ => none := by
  obtain ⟨table, map⟩ := before
  rw [List.foldl_append, ← map]
  obtain ⟨mem, i⟩ := call
  cases i with
  | request now req reqLen addr => exact dispatch_table mem s now req reqLen addr received table
  | boot now ready =>
    exact ⟨table_empty, bindings_empty⟩
  | work now k =>
    have kept := (work_keeps mem s now k).1
    change Table (k.run mem s now).1.dyn ∧ bindings (k.run mem s now).1.dyn = bindings s.dyn
    rw [kept]
    exact ⟨table, rfl⟩

/-- The table refines a bounded map: the slots stand for the map that the requests and
their answers spell out. A definition nothing is wrong with is refused for lack of space
only, and a dynamic identifier is answered from the map. -/
theorem dynamic_table_refines (boot ready : Nat) (calls : List (Memory × Input))
    (received : ∀ call ∈ calls, Received call.2) :
    let s := Run.final converse (appInit boot ready) calls
    let m := (Run.trace converse (appInit boot ready) calls).foldl observe fun _ => none
    Represents s.dyn m ∧ BoundedMap m ∧
      ∀ (mem : Memory) (now : Nat) (req : List UInt8) (reqLen : Nat),
        reqLen ≤ IsoTp.isoTpMaxMessageSize →
        (byte req 0 = udsSidDynamicDefineDid → accessGate s udsSidDynamicDefineDid = none →
          WellFormed s req reqLen →
          byte (udsDispatchRequest mem s now req reqLen .physical).2 0 = 0x7F →
          ∃ keys : Finset UInt16, keys.card = udsDynSlots ∧ requestedDid req ∉ keys ∧
            ∀ did ∈ keys, (m did).isSome = true) ∧
        (byte req 0 = udsSidReadDataById → 3 ≤ reqLen →
          dynamicDid (word (byte req 1) (byte req 2)) →
          (udsDispatchRequest mem s now req reqLen .physical).2 =
            readAnswer mem s (word (byte req 1) (byte req 2))
              (m (word (byte req 1) (byte req 2)))) := by
  intro s m
  have members := Run.along_of_mem converse (fun call => Received call.2) []
    (appInit boot ready) calls received
  obtain ⟨table, map⟩ : Table s.dyn ∧ bindings s.dyn = m :=
    Run.invariant_final converse _
      (fun past s => Table s.dyn ∧ bindings s.dyn = past.foldl observe fun _ => none)
      (fun past s call before reached => converse_table past s call before reached)
      [] (appInit boot ready) calls ⟨table_empty, bindings_empty⟩ members
  rw [← map]
  refine ⟨⟨table.slots, table.distinct, rfl⟩, table.bounded, ?_⟩
  intro mem now req reqLen short
  constructor
  · intro service opened wellFormed refused
    have reaches : admitted req reqLen .physical = true := by
      have nonzero : reqLen ≠ 0 := by
        have header := wellFormed.header
        omega
      simp [admitted, nonzero]
    exact refused_full mem s now req reqLen .physical short table service reaches opened
      wellFormed refused
  · intro service long dynamic
    exact dispatch_read_dynamic mem s now req reqLen table service long dynamic

/-- The Extended session, then a definition of the first three bytes of the VIN. -/
def definingCalls : List (Memory × Input) :=
  [(erasedMemory, .request 0 [0x10, 0x03] 2 .physical),
    (erasedMemory, .request 0 [0x2C, 0x01, 0xF2, 0x00, 0xF1, 0x90, 0x01, 0x03] 8 .physical)]

/-- An identifier over the VIN, defined and read back. -/
theorem dynamic_table_refines_vin :
    Represents (Run.final converse (appInit 0 0) definingCalls).dyn
        ((Run.trace converse (appInit 0 0) definingCalls).foldl observe fun _ => none) ∧
      (Run.trace converse (appInit 0 0) definingCalls).foldl observe (fun _ => none) 0xF200 =
        some [{ srcDid := udsDidVin, position := 1, size := 3 }] ∧
      (udsDispatchRequest erasedMemory (Run.final converse (appInit 0 0) definingCalls) 0
        [0x22, 0xF2, 0x00] 3 .physical).2 =
        readAnswer erasedMemory (Run.final converse (appInit 0 0) definingCalls) 0xF200
          ((Run.trace converse (appInit 0 0) definingCalls).foldl observe (fun _ => none)
            0xF200) := by
  obtain ⟨represents, _, answers⟩ := dynamic_table_refines 0 0 definingCalls (by decide)
  refine ⟨represents, by decide +kernel, ?_⟩
  exact (answers erasedMemory 0 [0x22, 0xF2, 0x00] 3 (by decide)).2 rfl (by decide) (by decide)

end ObdSimulator.AppMain
