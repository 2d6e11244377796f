import ObdSimulator.DynamicTable

/-!
# Memory read through a dynamic identifier

ReadMemoryByAddress and a definition by memory address parse the same fields with
code of their own. Both are followed here on the message that spells out one area:
what each checks comes down to the size and the region of the area, and the bytes
come from the memory at the time of the read, as long as the identifier is not
defined or cleared again.
-/

namespace ObdSimulator.UdsService

open Bytes NorFlash

/-- An area of memory as a request spells it out: an ALFID with fields of one to four
bytes, then the address and the size in as many bytes as it announces. -/
structure Area where
  alfid : UInt8
  address : List UInt8
  size : List UInt8
  ranged : alfidInRange alfid = true
  addressed : address.length = addressLength alfid
  sized : size.length = sizeLength alfid

namespace Area

variable (a : Area)

/-- The address its bytes spell. -/
def addr : Nat := ofBe a.address

/-- The size its bytes spell. -/
def bytes : Nat := ofBe a.size

/-- The ALFID and the two fields. -/
def fields : List UInt8 := a.alfid :: (a.address ++ a.size)

/-- ReadMemoryByAddress of the area. -/
def directRead : List UInt8 := udsSidReadMemByAddr :: a.fields

/-- A definition of an identifier by this area alone. -/
def definition (sub : UInt8) (did : UInt16) : List UInt8 :=
  udsSidDynamicDefineDid :: sub :: (wordBytes did ++ a.fields)

/-- The record a definition stores. -/
def record : DynRec := { srcDid := udsDynSrcMem, srcAddr := a.addr, size := a.bytes }

/-- The fields are as wide as the format byte says. -/
theorem fields_length :
    a.fields.length = 1 + addressLength a.alfid + sizeLength a.alfid := by
  simp only [fields, List.length_cons, List.length_append, a.addressed, a.sized]
  omega

end Area

/-- ReadDataByIdentifier of one identifier. -/
def identifierRead (did : UInt16) : List UInt8 := udsSidReadDataById :: wordBytes did

/-- A message in the receive buffer, in front of what an earlier one left there. -/
def ask (mem : Memory) (s : App) (now : Nat) (message stale : List UInt8) : App × List UInt8 :=
  udsDispatchRequest mem s now (message ++ stale) message.length .physical

/-! ## What both services check -/

section Parsing

variable (a : Area) (mem : Memory) (s : App) (now : Nat) (stale : List UInt8)

/-- The address field, then the size field, behind a header. -/
theorem area_fields (header : List UInt8) :
    ((header ++ (a.address ++ a.size) ++ stale).drop header.length).take (addressLength a.alfid) =
        a.address ∧
      ((header ++ (a.address ++ a.size) ++ stale).drop
        (header.length + addressLength a.alfid)).take (sizeLength a.alfid) = a.size := by
  have behind : (header ++ (a.address ++ a.size) ++ stale).drop header.length =
      a.address ++ (a.size ++ stale) := by
    rw [List.append_assoc, List.drop_left, List.append_assoc]
  constructor
  · rw [behind, ← a.addressed, List.take_left]
  · rw [← List.drop_drop, behind, ← a.addressed, List.drop_left, ← a.sized, List.take_left]

/-- ReadMemoryByAddress checks the size of its response and the region. -/
theorem direct_read_answer :
    handleReadMemByAddr mem (a.directRead ++ stale) a.directRead.length =
      if a.bytes = 0 ∨ udsMaxResponseSize - 1 < a.bytes ∨ memReadable a.addr a.bytes = false then
        nrc udsSidReadMemByAddr nrcRequestOutOfRange
      else (udsSidReadMemByAddr + udsResponseSidOffset) :: readBytes mem a.addr a.bytes := by
  have alfid : byte (a.directRead ++ stale) 1 = a.alfid := rfl
  have length : a.directRead.length = 2 + addressLength a.alfid + sizeLength a.alfid := by
    rw [Area.directRead, List.length_cons, a.fields_length]
    omega
  obtain ⟨address, size⟩ := area_fields a stale [udsSidReadMemByAddr, a.alfid]
  have addr : ofBe (((a.directRead ++ stale).drop 2).take (addressLength a.alfid)) = a.addr :=
    congrArg ofBe address
  have bytes : ofBe (((a.directRead ++ stale).drop (2 + addressLength a.alfid)).take
      (sizeLength a.alfid)) = a.bytes := congrArg ofBe size
  have ranged := a.ranged
  have lengths : addressLength a.alfid ≠ 0 := by
    simp only [alfidInRange, Bool.and_eq_true, decide_eq_true_eq] at ranged
    exact ranged.1.1.1
  have long : ¬ 2 + addressLength a.alfid + sizeLength a.alfid < 3 := by omega
  have in_range : ¬ alfidInRange a.alfid = false := by simp [ranged]
  unfold handleReadMemByAddr
  simp only [alfid, length, addr, bytes, if_neg long, if_neg in_range, if_neg (Nat.lt_irrefl _)]
  by_cases sized : a.bytes = 0 ∨ udsMaxResponseSize - 1 < a.bytes
  · rw [if_pos sized, if_pos (by tauto)]
  · rw [if_neg sized]
    by_cases outside : memReadable a.addr a.bytes = false
    · rw [if_pos outside, if_pos (Or.inr (Or.inr outside))]
    · rw [if_neg outside, if_neg (by tauto)]

/-- A definition checks the limit of assembled data and the region. -/
theorem definition_records (sub : UInt8) (did : UInt16) :
    defineByMemoryAddress (a.definition sub did ++ stale) (a.definition sub did).length =
      if a.bytes = 0 ∨ udsDynMaxData < a.bytes ∨ memReadable a.addr a.bytes = false then
        .error nrcRequestOutOfRange
      else .ok [a.record] := by
  have alfid : byte (a.definition sub did ++ stale) 4 = a.alfid := rfl
  have length : (a.definition sub did).length =
      5 + (addressLength a.alfid + sizeLength a.alfid) := by
    have fields := a.fields_length
    simp only [Area.definition, List.length_cons, List.length_append, wordBytes, fields,
      List.length_nil]
    omega
  have ranged := a.ranged
  have lengths : addressLength a.alfid ≠ 0 := by
    simp only [alfidInRange, Bool.and_eq_true, decide_eq_true_eq] at ranged
    exact ranged.1.1.1
  have in_range : ¬ alfidInRange a.alfid = false := by simp [ranged]
  have header : (a.definition sub did ++ stale).drop 5 = a.address ++ (a.size ++ stale) :=
    List.append_assoc _ _ _
  have whole : (a.address ++ (a.size ++ stale)).take (addressLength a.alfid + sizeLength a.alfid) =
      a.address ++ a.size := by
    rw [← List.append_assoc, ← a.addressed, ← a.sized, ← List.length_append, List.take_left]
  have address : (a.address ++ a.size).take (addressLength a.alfid) = a.address := by
    rw [← a.addressed, List.take_left]
  have size : ((a.address ++ a.size).drop (addressLength a.alfid)).take (sizeLength a.alfid) =
      a.size := by
    rw [← a.addressed, List.drop_left, ← a.sized, List.take_length]
  unfold defineByMemoryAddress
  simp only [alfid, length, header]
  generalize stride : addressLength a.alfid + sizeLength a.alfid = n
  have positive : 0 < n := by omega
  have one : (5 + n - 5) / n % 256 = 1 := by
    rw [Nat.add_sub_cancel_left, Nat.div_self positive]
  have exact_length : ¬ (5 + n < 5 + n ∨ (5 + n - 5) % n ≠ 0) := by simp
  rw [if_neg (by omega), if_neg in_range, if_neg exact_length, one]
  subst stride
  have few : ¬ (1 = 0 ∨ udsDynMaxRec < 1) := by decide
  have record : memoryRecord (addressLength a.alfid) (sizeLength a.alfid) (a.address ++ a.size) =
      if a.bytes = 0 ∨ udsDynMaxData < a.bytes ∨ memReadable a.addr a.bytes = false then none
      else some a.record := by
    simp only [memoryRecord, address, size]
    rfl
  simp only [scratchRecords, if_neg few, dynRecords, whole, record]
  by_cases unfit : a.bytes = 0 ∨ udsDynMaxData < a.bytes ∨ memReadable a.addr a.bytes = false
  · simp only [if_pos unfit]
  · have total : totalSize [a.record] = a.bytes := by simp [totalSize, Area.record]
    have sized : ¬ (a.bytes = 0 ∨ udsDynMaxData < a.bytes) := by tauto
    simp only [if_neg unfit, Option.map_some, total, if_neg sized]

end Parsing

/-! ## The slot of a definition -/

section Slots

variable (dyn : List DynSlot) (did : UInt16)

/-- A definition that finds a slot is what a search for its identifier finds next. -/
theorem find_defined (i : Nat) (recs : List DynRec) (place : dynSlotFor dyn did = some i) :
    (dyn.set i ⟨did, recs⟩).find? (·.did == did) = some ⟨did, recs⟩ := by
  have hit : ((⟨did, recs⟩ : DynSlot).did == did) = true := beq_self_eq_true did
  unfold dynSlotFor at place
  cases own : dyn.findIdx? (·.did == did) with
  | some j =>
    rw [own] at place
    cases place
    obtain ⟨front, x, back, rfl, rfl, _, first⟩ := SlotMap.find_idx_split _ dyn i own
    rw [SlotMap.set_slot]
    exact SlotMap.find_first _ front back _ first hit
  | none =>
    rw [own, Option.none_or] at place
    obtain ⟨front, x, back, rfl, rfl, _, _⟩ := SlotMap.find_idx_split _ dyn i place
    rw [SlotMap.set_slot]
    refine SlotMap.find_first _ front back _ ?_ hit
    intro y member
    exact List.findIdx?_eq_none_iff.mp own y (List.mem_append_left _ member)

/-- A slot that another identifier takes was not the slot of this one. -/
theorem find_other (other : UInt16) (i : Nat) (slot : DynSlot) (used : did ≠ 0)
    (apart : other ≠ did) (place : dynSlotFor dyn other = some i) (taken : slot.did ≠ did) :
    (dyn.set i slot).find? (·.did == did) = dyn.find? (·.did == did) := by
  have new : (slot.did == did) = false := by simpa using taken
  unfold dynSlotFor at place
  cases own : dyn.findIdx? (·.did == other) with
  | some j =>
    rw [own] at place
    cases place
    obtain ⟨front, x, back, rfl, rfl, hit, _⟩ := SlotMap.find_idx_split _ dyn i own
    have named : x.did = other := by simpa using hit
    rw [SlotMap.set_slot]
    exact SlotMap.find_replaced _ front back x slot (by simpa [named] using apart) new
  | none =>
    rw [own, Option.none_or] at place
    obtain ⟨front, x, back, rfl, rfl, hit, _⟩ := SlotMap.find_idx_split _ dyn i place
    have free : x.did = 0 := by simpa using hit
    rw [SlotMap.set_slot]
    exact SlotMap.find_replaced _ front back x slot (by simpa [free] using used.symm) new

/-- There is a place for a definition as long as one slot is free or its own. -/
theorem slot_for_room (room : ∃ slot ∈ dyn, slot.did = 0 ∨ slot.did = did) :
    ∃ i, dynSlotFor dyn did = some i := by
  rw [← Option.isSome_iff_exists, dynSlotFor, Option.isSome_or, Bool.or_eq_true,
    List.findIdx?_isSome, List.findIdx?_isSome]
  obtain ⟨slot, member, free | own⟩ := room
  · exact Or.inr (List.any_eq_true.mpr ⟨slot, member, beq_iff_eq.mpr free⟩)
  · exact Or.inl (List.any_eq_true.mpr ⟨slot, member, beq_iff_eq.mpr own⟩)

end Slots

/-- A request for another identifier leaves this one as it is. -/
theorem dynamic_define_other (s : App) (req : List UInt8) (reqLen : Nat) (did : UInt16)
    (used : did ≠ 0) (apart : requestedDid req ≠ did) :
    dynFind (handleDynamicDefineDid s req reqLen).1 did = dynFind s did := by
  have committed (sub : UInt8) (recs : Except UInt8 (List DynRec)) :
      dynFind (commitDynamic s sub (requestedDid req) recs).1 did = dynFind s did := by
    cases recs with
    | error code => rfl
    | ok recs =>
      cases place : dynSlotFor s.dyn (requestedDid req) with
      | none => simp only [commitDynamic, place]
      | some i =>
        simp only [commitDynamic, place]
        exact find_other s.dyn did _ i _ used apart place apart
  unfold handleDynamicDefineDid
  simp only
  split
  · rfl
  · split
    · rfl
    · split
      · exact committed _ _
      · split
        · exact committed _ _
        · split
          · split
            · rfl
            · rename_i i found
              have place : dynSlotFor s.dyn (requestedDid req) = some i := by
                simp only [dynSlotFor, requestedDid, found, Option.some_or]
              exact find_other s.dyn did _ i {} used apart place used.symm
          · rfl

/-- A request that does not define the identifier anew keeps its slot. -/
theorem serve_find_kept (mem : Memory) (s : App) (now : Nat) (req : List UInt8) (reqLen : Nat)
    (did : UInt16) (used : did ≠ 0)
    (kept : byte req 0 = udsSidDynamicDefineDid → requestedDid req ≠ did) :
    dynFind (serve mem s now req reqLen).1 did = dynFind s did := by
  by_cases service : byte req 0 = udsSidDynamicDefineDid
  · rw [serve_define mem s now req reqLen service, gated]
    cases accessGate s udsSidDynamicDefineDid with
    | some code => rfl
    | none => exact dynamic_define_other s req reqLen did used (kept service)
  · rw [dynFind, (serve_frame mem s now req reqLen).dyn service]
    rfl

/-! ## The three requests -/

section Requests

variable (a : Area) (mem : Memory) (s : App) (now : Nat) (stale : List UInt8)

/-- In an unlocked Extended session ReadMemoryByAddress is answered by its handler. -/
theorem ask_direct_read (extended : s.session.sessionType = .extended)
    (unlocked : s.session.securityLevel ≠ .locked) :
    (ask mem s now a.directRead stale).2 =
      handleReadMemByAddr mem (a.directRead ++ stale) a.directRead.length := by
  have opened : accessGate (stamped s now) udsSidReadMemByAddr = none :=
    (access_gate_iff _ _ true rfl).mpr ⟨extended, fun _ => unlocked⟩
  have served := AppMain.serve_read_mem mem (stamped s now) now (a.directRead ++ stale)
    a.directRead.length rfl
  have service : byte (a.directRead ++ stale) 0 = udsSidReadMemByAddr := rfl
  have plain : byte (a.directRead ++ stale) 0 ∉ suppressibleSids := by
    rw [service]
    decide
  rw [gated, opened] at served
  rw [ask, dispatch_unsuppressed mem s now _ _ .physical rfl plain, served]

variable (did : UInt16) (dynamic : dynamicDid did) (sub : UInt8) (memory : subFunction sub = 0x02)

include dynamic memory

/-- What a definition by one such record does. -/
theorem handle_definition :
    handleDynamicDefineDid s (a.definition sub did ++ stale) (a.definition sub did).length =
      commitDynamic s 0x02 did
        (defineByMemoryAddress (a.definition sub did ++ stale) (a.definition sub did).length) := by
  have named : word (byte (a.definition sub did ++ stale) 2)
      (byte (a.definition sub did ++ stale) 3) = did := word_word_bytes did
  have function : subFunction (byte (a.definition sub did ++ stale) 1) = 0x02 := memory
  have long : ¬ (a.definition sub did).length < 4 := by
    simp only [Area.definition, List.length_cons, List.length_append, wordBytes]
    omega
  have inside : ¬ (did < udsDidDynamicBase ∨ udsDidDynamicEnd < did) := by
    rw [not_or, UInt16.not_lt, UInt16.not_lt]
    exact dynamic
  have other : ¬ ((0x02 : UInt8) = 0x01) := by decide
  unfold handleDynamicDefineDid
  simp only [named, function, if_neg long, if_neg inside, if_neg other, if_true]

/-- A definition of an area, when its identifier has a slot or a free one is left. -/
theorem ask_definition (extended : s.session.sessionType = .extended)
    (i : Nat) (place : dynSlotFor s.dyn did = some i) :
    let defined := ask mem s now (a.definition sub did) stale
    let unfit := a.bytes = 0 ∨ udsDynMaxData < a.bytes ∨ memReadable a.addr a.bytes = false
    (accepted (a.definition sub did ++ stale) (a.definition sub did).length .physical defined.2 =
        true ↔ ¬ unfit) ∧
      (¬ unfit → defined.1.dyn = s.dyn.set i ⟨did, [a.record]⟩) := by
  intro defined unfit
  have opened : accessGate (stamped s now) udsSidDynamicDefineDid = none :=
    (access_gate_iff _ _ false rfl).mpr ⟨extended, fun asked => absurd asked Bool.false_ne_true⟩
  have reaches : admitted (a.definition sub did ++ stale) (a.definition sub did).length
      .physical = true := rfl
  have served : serve mem (stamped s now) now (a.definition sub did ++ stale)
      (a.definition sub did).length =
        commitDynamic (stamped s now) 0x02 did
          (if unfit then .error nrcRequestOutOfRange else .ok [a.record]) := by
    rw [serve_define mem (stamped s now) now _ _ rfl, gated, opened]
    simp only
    rw [handle_definition a (stamped s now) stale did dynamic sub memory, definition_records]
  have place' : dynSlotFor (stamped s now).dyn did = some i := place
  have state : defined.1 = (serve mem (stamped s now) now (a.definition sub did ++ stale)
      (a.definition sub did).length).1 := dispatch_served mem s now _ _ _ reaches
  have judged : accepted (a.definition sub did ++ stale) (a.definition sub did).length .physical
      defined.2 = (byte (serve mem (stamped s now) now (a.definition sub did ++ stale)
        (a.definition sub did).length).2 0 != 0x7F) :=
    accepted_dispatch mem s now _ _ _ reaches
  rw [judged, state, served]
  by_cases failed : unfit
  · have negative : (byte (nrc udsSidDynamicDefineDid nrcRequestOutOfRange) 0 != 0x7F) = false :=
      rfl
    simp only [if_pos failed, commitDynamic, negative]
    exact ⟨⟨fun never => absurd never Bool.false_ne_true, absurd failed⟩, absurd failed⟩
  · have positive : (byte (dynResponse 0x02 did) 0 != 0x7F) = true := rfl
    simp only [if_neg failed, commitDynamic, place', positive]
    exact ⟨⟨fun _ => failed, fun _ => trivial⟩, fun _ => rfl⟩

omit memory in
/-- A read of an identifier that stands for one area returns its bytes. -/
theorem ask_identifier_read (found : dynFind s did = some ⟨did, [a.record]⟩)
    (some_bytes : a.bytes ≠ 0) (few : a.bytes ≤ udsDynMaxData) :
    (ask mem s now (identifierRead did) stale).2 =
      (udsSidReadDataById + udsResponseSidOffset) ::
        (wordBytes did ++ readBytes mem a.addr a.bytes) := by
  have named : word (byte (identifierRead did ++ stale) 1) (byte (identifierRead did ++ stale) 2) =
      did := word_word_bytes did
  have service : byte (identifierRead did ++ stale) 0 = udsSidReadDataById := rfl
  have plain : byte (identifierRead did ++ stale) 0 ∉ suppressibleSids := by
    rw [service]
    decide
  have served := AppMain.serve_read_data mem (stamped s now) now (identifierRead did ++ stale)
    (identifierRead did).length rfl
  have long : ¬ (identifierRead did).length < 3 := by
    simp only [identifierRead, wordBytes, List.length_cons, List.length_nil]
    decide
  have found' : dynFind (stamped s now) did = some ⟨did, [a.record]⟩ := found
  have data : dynAssemble mem (stamped s now) ⟨did, [a.record]⟩ = readBytes mem a.addr a.bytes := by
    have room : ¬ udsDynMaxData < ([] : List UInt8).length + a.record.size := by
      simp only [List.length_nil, Nat.zero_add]
      exact Nat.not_lt.mpr few
    have raw : dynRecData mem (stamped s now) a.record = some (readBytes mem a.addr a.bytes) := rfl
    simp only [dynAssemble, dynAssembleLoop, if_neg room, raw, List.nil_append, Option.getD_some]
  have full : readBytes mem a.addr a.bytes ≠ [] := by
    rw [← List.length_pos_iff, read_bytes_length]
    exact Nat.pos_of_ne_zero some_bytes
  rw [ask, dispatch_unsuppressed mem s now _ _ .physical rfl plain, served]
  simp only [handleReadDataById, if_neg long, named, AppMain.registered_dynamic _ did dynamic,
    found', data, if_neg full]

end Requests

end ObdSimulator.UdsService

namespace ObdSimulator.AppMain

open Bytes NorFlash UdsService

/-- A call that may define or clear the identifier, or a reset, which forgets it. -/
def Rebinds (did : UInt16) : Input → Prop
  | .request _ req _ _ => byte req 0 = udsSidDynamicDefineDid ∧ requestedDid req = did
  | .work _ _ => False
  | .boot _ _ => True

/-- A call that does not rebind the identifier keeps its slot. -/
theorem step_find_kept (mem : Memory) (s : App) (i : Input) (did : UInt16) (used : did ≠ 0)
    (kept : ¬ Rebinds did i) : dynFind (step mem s i).1 did = dynFind s did := by
  cases i with
  | request now req reqLen addr =>
    have apart : byte req 0 = udsSidDynamicDefineDid → requestedDid req ≠ did :=
      fun service same => kept ⟨service, same⟩
    exact dispatch_keeps (dynFind · did) mem s now req reqLen addr rfl
      (serve_find_kept mem (stamped s now) now req reqLen did used apart)
  | work now k =>
    have kept : (step mem s (.work now k)).1.dyn = s.dyn := (work_keeps mem s now k).1
    rw [dynFind, kept]
    rfl
  | boot now ready => exact absurd trivial kept

/-- A run that does not rebind the identifier keeps its slot. -/
theorem run_find_kept (did : UInt16) (used : did ≠ 0) (calls : List (Memory × Input))
    (kept : ∀ call ∈ calls, ¬ Rebinds did call.2) (s : App) :
    dynFind (Run.final (Run.opened step) s calls) did = dynFind s did := by
  induction calls generalizing s with
  | nil => rfl
  | cons call rest ih =>
    have first := step_find_kept call.1 s call.2 did used (kept call List.mem_cons_self)
    have later := ih (fun call member => kept call (List.mem_cons_of_mem _ member))
      (step call.1 s call.2).1
    exact later.trans first

/-- Indirect and direct reads of memory agree. In an unlocked Extended session a definition of
one area is accepted, when its identifier has a slot or a free one is left, exactly when
ReadMemoryByAddress of the area is answered positively and the area is not longer than the
data of an identifier can be. From then on a read of the identifier returns what the direct
read returns for the same memory, whatever is called in between, until a request for the
same identifier or a reset. -/
theorem indirect_read_agrees (s : App) (extended : s.session.sessionType = .extended)
    (unlocked : s.session.securityLevel ≠ .locked) (a : Area) (did : UInt16)
    (dynamic : dynamicDid did) (room : ∃ slot ∈ s.dyn, slot.did = 0 ∨ slot.did = did)
    (sub : UInt8) (memory : subFunction sub = 0x02) (mem : Memory) (now : Nat)
    (stale : List UInt8) :
    let defined := ask mem s now (a.definition sub did) stale
    let positive := accepted (a.definition sub did ++ stale) (a.definition sub did).length
      .physical defined.2
    let direct := fun mem now => (ask mem s now a.directRead stale).2
    (positive = true ↔ byte (direct mem now) 0 = udsSidReadMemByAddr + udsResponseSidOffset ∧
      a.bytes ≤ udsDynMaxData) ∧
    (positive = true → ∀ calls : List (Memory × Input), (∀ call ∈ calls, ¬ Rebinds did call.2) →
      ∀ (mem' : Memory) (later : Nat), ∃ data,
        direct mem' later = (udsSidReadMemByAddr + udsResponseSidOffset) :: data ∧
        (ask mem' (Run.final (Run.opened step) defined.1 calls) later (identifierRead did)
            stale).2 =
          (udsSidReadDataById + udsResponseSidOffset) :: (wordBytes did ++ data)) := by
  intro defined positive direct
  obtain ⟨i, place⟩ := slot_for_room s.dyn did room
  obtain ⟨judged, stored⟩ :=
    ask_definition a mem s now stale did dynamic sub memory extended i place
  have answer (mem' : Memory) (later : Nat) : direct mem' later =
      if a.bytes = 0 ∨ udsMaxResponseSize - 1 < a.bytes ∨ memReadable a.addr a.bytes = false then
        nrc udsSidReadMemByAddr nrcRequestOutOfRange
      else (udsSidReadMemByAddr + udsResponseSidOffset) :: readBytes mem' a.addr a.bytes :=
    (ask_direct_read a mem' s later stale extended unlocked).trans (direct_read_answer a mem' stale)
  have limits : udsDynMaxData ≤ udsMaxResponseSize - 1 := by decide
  have refusal : byte (nrc udsSidReadMemByAddr nrcRequestOutOfRange) 0 ≠
      udsSidReadMemByAddr + udsResponseSidOffset := by decide
  have used := dynamic_nonzero did dynamic
  constructor
  · rw [judged, answer]
    by_cases refused : a.bytes = 0 ∨ udsMaxResponseSize - 1 < a.bytes ∨
        memReadable a.addr a.bytes = false
    · rw [if_pos refused]
      constructor
      · intro fit
        rcases refused with nothing | long | outside
        · exact absurd (Or.inl nothing) fit
        · exact absurd (Or.inr (Or.inl (Nat.lt_of_le_of_lt limits long))) fit
        · exact absurd (Or.inr (Or.inr outside)) fit
      · exact fun both => absurd both.1 refusal
    · rw [if_neg refused]
      rw [not_or, not_or] at refused ⊢
      rw [Nat.not_lt]
      constructor
      · exact fun fit => ⟨rfl, fit.2.1⟩
      · exact fun both => ⟨refused.1, both.2, refused.2.2⟩
  · intro accepted calls kept mem' later
    have fit := judged.mp accepted
    have dyn : defined.1.dyn = s.dyn.set i ⟨did, [a.record]⟩ := stored fit
    rw [not_or, not_or, Nat.not_lt] at fit
    obtain ⟨some_bytes, few, readable⟩ := fit
    have found : dynFind (Run.final (Run.opened step) defined.1 calls) did =
        some ⟨did, [a.record]⟩ := by
      rw [run_find_kept did used calls kept, dynFind, dyn]
      exact find_defined s.dyn did i [a.record] place
    refine ⟨readBytes mem' a.addr a.bytes, ?_, ?_⟩
    · rw [answer, if_neg]
      rw [not_or, not_or, Nat.not_lt]
      exact ⟨some_bytes, few.trans limits, readable⟩
    · exact ask_identifier_read a mem' _ later stale did dynamic found some_bytes few

/-- Four bytes at the start of the flash. -/
def vectorTable : Area where
  alfid := 0x24
  address := [0x08, 0x00, 0x00, 0x00]
  size := [0x00, 0x04]
  ranged := by decide
  addressed := by decide
  sized := by decide

/-- The application unlocked in the Extended session. -/
def unlockedApp : App := { session := { sessionType := .extended, securityLevel := .level1 } }

/-- Read back after two requests for other identifiers. -/
theorem indirect_read_agrees_vectors :
    ∃ data, (ask writtenMemory unlockedApp 0 vectorTable.directRead []).2 =
        (udsSidReadMemByAddr + udsResponseSidOffset) :: data ∧
      (ask writtenMemory
        (Run.final (Run.opened step)
          (ask erasedMemory unlockedApp 0 (vectorTable.definition 0x02 0xF201) []).1
          [(erasedMemory, .request 0 [0x2C, 0x03, 0xF2, 0x02] 4 .physical),
            (erasedMemory, .work 10 .periodicTick)])
        0 (identifierRead 0xF201) []).2 =
        (udsSidReadDataById + udsResponseSidOffset) :: (wordBytes 0xF201 ++ data) := by
  obtain ⟨_, agrees⟩ := indirect_read_agrees unlockedApp rfl (by decide) vectorTable 0xF201
    (by decide) ⟨{}, List.mem_cons_self, Or.inl rfl⟩ 0x02 (by decide) erasedMemory 0 []
  refine agrees (by decide +kernel) _ ?_ writtenMemory 0
  intro call member
  simp only [List.mem_cons, List.not_mem_nil, or_false] at member
  rcases member with rfl | rfl
  · exact fun rebinds => absurd rebinds.2 (by decide)
  · exact id

end ObdSimulator.AppMain
