import ObdSimulator.AppMain
import ObdSimulator.Lib.Chunks

/-!
# Who sees the memory

ReadMemoryByAddress needs an unlocked Extended session. A dynamic identifier
defined by memory address needs the session only, and reading it back needs
neither, so a tester without the key sees flash and SRAM as well. Two runs are
compared whose calls read different memories: without an accepted key they answer
alike exactly when no dynamic identifier with a record of raw memory is read or
sent.
-/

namespace ObdSimulator.AppMain

open Bytes UdsService NorFlash

/-! ## Conditions on a call -/

/-- The verification of a key that a request runs, if any. -/
def keyOutcome (s : App) (now : Nat) (req : List UInt8) (reqLen : Nat) (addr : AddrType) :
    Option DiagKeyResult :=
  if admitted req reqLen addr = true ∧ byte req 0 = udsSidSecurityAccess then
    (sentKey req reqLen).map fun key => (diagSessionVerifyKey (stamped s now).session now key).2
  else none

/-- `DiagSession_VerifyKey` does not return `DIAG_KEY_OK`. -/
def KeyRefused (_ : List Event) (s : App) : Input → Prop
  | .request now req reqLen addr => keyOutcome s now req reqLen addr ≠ some .ok
  | _ => True

instance decidableKeyRefused (past : List Event) (s : App) : ∀ i, Decidable (KeyRefused past s i)
  | .request now req reqLen addr =>
    inferInstanceAs (Decidable (keyOutcome s now req reqLen addr ≠ some .ok))
  | .work _ _ | .boot _ _ => isTrue trivial

/-- A dynamic identifier with a record of raw memory. -/
def readsMemory (slot : DynSlot) : Bool := slot.recs.any (·.srcDid == udsDynSrcMem)

/-- No request reads a dynamic identifier with a record of raw memory, and no
subscription that is due sends one. -/
def Hidden (_ : List Event) (s : App) : Input → Prop
  | .request _ req reqLen addr => addr ≠ .functional → byte req 0 = udsSidReadDataById →
      3 ≤ reqLen → ∀ slot, dynFind s (word (byte req 1) (byte req 2)) = some slot →
      readsMemory slot = false
  | .work _ .periodicTick => ∀ p ∈ s.periodic, p.due = true →
      ∀ slot, dynFind s (periodicDid p.pdid) = some slot → readsMemory slot = false
  | _ => True

/-! ## Assembled data -/

section Assembly

variable (mem mem' : Memory) (s : App)

/-- The length of a record's data does not depend on the memory. -/
theorem rec_data_length (r : DynRec) :
    (dynRecData mem s r).map List.length = (dynRecData mem' s r).map List.length := by
  unfold dynRecData
  split
  · simp [read_bytes_length]
  · rfl

/-- How many bytes are assembled does not depend on the memory. -/
theorem assemble_loop_length (recs : List DynRec) (out out' : List UInt8)
    (same : out.length = out'.length) :
    (dynAssembleLoop mem s out recs).map List.length =
      (dynAssembleLoop mem' s out' recs).map List.length := by
  induction recs generalizing out out' with
  | nil => simpa [dynAssembleLoop] using same
  | cons r rest ih =>
    simp only [dynAssembleLoop, same]
    split
    · rfl
    · have length := rec_data_length mem mem' s r
      cases left : dynRecData mem s r with
      | none =>
        cases right : dynRecData mem' s r with
        | none => rfl
        | some data' =>
          rw [left, right] at length
          cases length
      | some data =>
        cases right : dynRecData mem' s r with
        | none =>
          rw [left, right] at length
          cases length
        | some data' =>
          rw [left, right] at length
          apply ih
          simp only [List.length_append, same, Option.some.inj length]

/-- The length of a slot's data does not depend on the memory. -/
theorem assemble_length (slot : DynSlot) :
    (dynAssemble mem s slot).length = (dynAssemble mem' s slot).length := by
  have same := assemble_loop_length mem mem' s slot.recs [] [] rfl
  unfold dynAssemble
  cases left : dynAssembleLoop mem s [] slot.recs with
  | none =>
    cases right : dynAssembleLoop mem' s [] slot.recs with
    | none => rfl
    | some data' =>
      rw [left, right] at same
      cases same
  | some data =>
    cases right : dynAssembleLoop mem' s [] slot.recs with
    | none =>
      rw [left, right] at same
      cases same
    | some data' =>
      rw [left, right] at same
      exact Option.some.inj same

/-- Whether a slot has data does not depend on the memory. -/
theorem assemble_empty (slot : DynSlot) :
    dynAssemble mem s slot = [] ↔ dynAssemble mem' s slot = [] := by
  rw [← List.length_eq_zero_iff, ← List.length_eq_zero_iff, assemble_length mem mem']

/-- Without a record of raw memory the data do not depend on it. -/
theorem assemble_unread (slot : DynSlot) (unread : readsMemory slot = false) :
    dynAssemble mem s slot = dynAssemble mem' s slot := by
  have every : ∀ r ∈ slot.recs, r.srcDid ≠ udsDynSrcMem := by
    simpa [readsMemory] using unread
  have loop : ∀ recs : List DynRec, (∀ r ∈ recs, r.srcDid ≠ udsDynSrcMem) → ∀ out,
      dynAssembleLoop mem s out recs = dynAssembleLoop mem' s out recs := by
    intro recs
    induction recs with
    | nil => exact fun _ _ => rfl
    | cons r rest ih =>
      intro other out
      have data : dynRecData mem s r = dynRecData mem' s r := by
        unfold dynRecData
        rw [if_neg (other r List.mem_cons_self), if_neg (other r List.mem_cons_self)]
      simp only [dynAssembleLoop, data]
      split
      · rfl
      · split
        · rfl
        · exact ih (fun later member => other later (List.mem_cons_of_mem _ member)) _
  unfold dynAssemble
  rw [loop slot.recs every]

/-- A record that was checked against sources like those of `s`. -/
structure Usable (r : DynRec) : Prop where
  some_bytes : 0 < r.size
  source : r.srcDid ≠ udsDynSrcMem → ∃ data, resolveSource s r.srcDid = some data ∧
    0 < r.position ∧ r.position - 1 + r.size ≤ data.length

/-- The bytes of a record. -/
def recBytes (r : DynRec) : List UInt8 := (dynRecData mem s r).getD []

/-- A usable record yields as many bytes as it says. -/
theorem Usable.data {s : App} {r : DynRec} (usable : Usable s r) (mem : Memory) :
    dynRecData mem s r = some (recBytes mem s r) ∧ (recBytes mem s r).length = r.size := by
  unfold recBytes dynRecData
  by_cases raw : r.srcDid = udsDynSrcMem
  · simp [raw, read_bytes_length]
  · obtain ⟨data, resolved, positive, inside⟩ := usable.source raw
    have valid : ¬ (r.position = 0 ∨ data.length < r.position - 1 + r.size) := by omega
    simp only [if_neg raw, resolved, if_neg valid, Option.getD_some, List.length_take,
      List.length_drop, true_and]
    omega

/-- Usable records that fit are assembled one behind the other. -/
theorem assemble_loop_usable (recs : List DynRec) (out : List UInt8)
    (usable : ∀ r ∈ recs, Usable s r) (fits : out.length + totalSize recs ≤ udsDynMaxData) :
    dynAssembleLoop mem s out recs = some (out ++ recs.flatMap (recBytes mem s)) := by
  induction recs generalizing out with
  | nil => simp [dynAssembleLoop]
  | cons r rest ih =>
    obtain ⟨data, length⟩ := (usable r List.mem_cons_self).data mem
    have total : totalSize (r :: rest) = r.size + totalSize rest := by simp [totalSize]
    rw [total] at fits
    have room : ¬ udsDynMaxData < out.length + r.size := by omega
    simp only [dynAssembleLoop, if_neg room, data]
    rw [ih (out ++ recBytes mem s r) (fun later member => usable later
      (List.mem_cons_of_mem _ member)) (by rw [List.length_append, length]; omega)]
    simp [List.append_assoc]

end Assembly

/-- Two memories that differ everywhere. -/
def erasedMemory : Memory := fun _ => 0xFF

/-- The second of them. -/
def writtenMemory : Memory := fun _ => 0x00

/-- A slot that assembles whatever the memory holds. -/
structure Assembles (s : App) (slot : DynSlot) : Prop where
  inside : udsDidDynamicBase ≤ slot.did ∧ slot.did ≤ udsDidDynamicEnd
  fits : totalSize slot.recs ≤ udsDynMaxData
  usable : ∀ r ∈ slot.recs, Usable s r

/-- Such a slot assembles the bytes of its records, one behind the other. -/
theorem Assembles.data {s : App} {slot : DynSlot} (assembles : Assembles s slot) (mem : Memory) :
    dynAssemble mem s slot = slot.recs.flatMap (recBytes mem s) := by
  have whole := assemble_loop_usable mem s slot.recs [] assembles.usable
    (by simpa using assembles.fits)
  rw [dynAssemble, whole]
  rfl

/-- A record of raw memory shows what the memory holds. -/
theorem Assembles.reveals {s : App} {slot : DynSlot} (assembles : Assembles s slot)
    (raw : readsMemory slot = true) :
    dynAssemble erasedMemory s slot ≠ dynAssemble writtenMemory s slot := by
  intro same
  rw [assembles.data, assembles.data] at same
  have pieces := Chunks.flat_map_pieces _ _ slot.recs
    (fun r member => by
      rw [((assembles.usable r member).data erasedMemory).2,
        ((assembles.usable r member).data writtenMemory).2]) same
  obtain ⟨r, member, source⟩ := List.any_eq_true.mp raw
  have here := pieces r member
  obtain ⟨size, positive⟩ := Nat.exists_eq_succ_of_ne_zero
    (Nat.ne_of_gt (assembles.usable r member).some_bytes)
  simp [recBytes, dynRecData, eq_of_beq source, readBytes, erasedMemory, writtenMemory, positive,
    List.range_succ_eq_map] at here

/-- Such a slot with a record of raw memory has data. -/
theorem Assembles.nonempty {s : App} {slot : DynSlot} (assembles : Assembles s slot)
    (raw : readsMemory slot = true) (mem : Memory) : dynAssemble mem s slot ≠ [] := by
  intro none_left
  have reveals := assembles.reveals raw
  rw [(assemble_empty mem erasedMemory s slot).mp none_left,
    (assemble_empty mem writtenMemory s slot).mp none_left] at reveals
  exact reveals rfl

/-! ## Calls and their memory -/

section Calls

variable (mem mem' : Memory) (s : App) (now : Nat) (req : List UInt8) (reqLen : Nat)

/-- How the switch reaches 0x22. -/
theorem serve_read_data (service : byte req 0 = udsSidReadDataById) :
    serve mem s now req reqLen = (s, handleReadDataById mem s req reqLen) := by
  unfold serve
  rw [service]
  rfl

/-- How the switch reaches 0x23. -/
theorem serve_read_mem (service : byte req 0 = udsSidReadMemByAddr) :
    serve mem s now req reqLen =
      gated s udsSidReadMemByAddr (s, handleReadMemByAddr mem req reqLen) := by
  unfold serve
  rw [service]
  rfl

/-- The other services do not look at the memory. -/
theorem serve_other (data : byte req 0 ≠ udsSidReadDataById)
    (address : byte req 0 ≠ udsSidReadMemByAddr) :
    serve mem s now req reqLen = serve mem' s now req reqLen := by
  unfold serve
  simp only [if_neg data, if_neg address]

/-- What a service does to the state does not depend on the memory. -/
theorem serve_state : (serve mem s now req reqLen).1 = (serve mem' s now req reqLen).1 := by
  by_cases data : byte req 0 = udsSidReadDataById
  · rw [serve_read_data mem s now req reqLen data, serve_read_data mem' s now req reqLen data]
  · by_cases address : byte req 0 = udsSidReadMemByAddr
    · rw [serve_read_mem mem s now req reqLen address, serve_read_mem mem' s now req reqLen address]
      unfold gated
      cases accessGate s udsSidReadMemByAddr with
      | none => rfl
      | some code => rfl
    · rw [serve_other mem mem' s now req reqLen data address]

/-- What a request does to the state does not depend on the memory. -/
theorem dispatch_state (addr : AddrType) :
    (udsDispatchRequest mem s now req reqLen addr).1 =
      (udsDispatchRequest mem' s now req reqLen addr).1 := by
  unfold udsDispatchRequest
  split
  · rfl
  · exact serve_state mem mem' (stamped s now) now req reqLen

/-- Whether a subscription has data does not depend on the memory. -/
theorem periodic_data_empty (pdid : UInt8) :
    periodicData mem s pdid = [] ↔ periodicData mem' s pdid = [] := by
  unfold periodicData
  cases dynFind s (periodicDid pdid) with
  | none => exact Iff.rfl
  | some slot => exact assemble_empty mem mem' s slot

/-- What a tick does to a subscription does not depend on the memory. -/
theorem periodic_tick_sub_state (p : PeriodicSub) :
    (periodicTickSub mem s p).1 = (periodicTickSub mem' s p).1 := by
  unfold periodicTickSub
  simp only [periodic_data_empty mem mem' s p.pdid]
  split
  · rfl
  · split
    · rfl
    · split
      · rfl
      · rfl

end Calls

/-- No memory reaches the state of the application. -/
theorem step_blind : Run.Blind step := by
  intro mem mem' s i
  cases i with
  | request now req reqLen addr => exact dispatch_state mem mem' s now req reqLen addr
  | boot => rfl
  | work now k =>
    cases k with
    | simulate => rfl
    | sessionTick => rfl
    | periodicTick =>
      have subs : s.periodic.map (fun p => (periodicTickSub mem s p).1) =
          s.periodic.map (fun p => (periodicTickSub mem' s p).1) :=
        List.map_congr_left fun p _ => periodic_tick_sub_state mem mem' s p
      simp [step, Work.run, udsPeriodicTick, Function.comp_def, subs]

/-! ## Without a key -/

/-- The application while no key was accepted: locked, and every slot in use
assembles. -/
structure Sealed (s : App) : Prop where
  locked : s.session.securityLevel = .locked
  slots : ∀ slot ∈ s.dyn, slot.recs ≠ [] → Assembles s slot

/-- The services that need an unlock stay closed. -/
theorem gate_locked (s : App) (sid : UInt8) (locked : s.session.securityLevel = .locked)
    (rule : kAccessRules.find? (fun rule => rule.1 == sid) = some (sid, true, true)) :
    accessGate s sid ≠ none :=
  fun opened => (gate_opened s sid rule opened).2 locked

/-- Sources keep their lengths while the VIN stays. -/
theorem Usable.sources {s s' : App} {r : DynRec} (usable : Usable s r) (vin : s'.vin = s.vin) :
    Usable s' r := by
  refine ⟨usable.some_bytes, ?_⟩
  intro other
  obtain ⟨data, resolved, positive, inside⟩ := usable.source other
  unfold resolveSource at resolved ⊢
  split at resolved
  · rename_i port
    cases resolved
    exact ⟨[s'.ioPort], if_pos port, positive, inside⟩
  · rename_i port
    refine ⟨data, ?_, positive, inside⟩
    rw [if_neg port, ← resolved]
    unfold registered kDidRead
    rw [vin]

/-- The VIN is the only source that can change. -/
theorem Assembles.sources {s s' : App} {slot : DynSlot} (assembles : Assembles s slot)
    (vin : s'.vin = s.vin) : Assembles s' slot :=
  ⟨assembles.inside, assembles.fits, fun r member => (assembles.usable r member).sources vin⟩

/-- A change that leaves the slots and their sources alone. -/
theorem Sealed.same {s s' : App} (before : Sealed s)
    (locked : s'.session.securityLevel = .locked) (vin : s'.vin = s.vin) (dyn : s'.dyn = s.dyn) :
    Sealed s' := by
  refine ⟨locked, ?_⟩
  rw [dyn]
  exact fun slot member used => (before.slots slot member used).sources vin

/-- A slot may be replaced by one that assembles. -/
theorem Sealed.set {s : App} (before : Sealed s) (i : Nat) (slot : DynSlot)
    (fresh : slot.recs ≠ [] → Assembles s slot) : Sealed { s with dyn := s.dyn.set i slot } := by
  refine ⟨before.locked, ?_⟩
  intro other member used
  rcases List.mem_or_eq_of_mem_set member with old | rfl
  · exact (before.slots other old used).sources rfl
  · exact (fresh used).sources rfl

/-- Accepted records are usable, if the parser of each checked it. -/
theorem scratch_records_usable (s : App) (parse : List UInt8 → Option DynRec) (stride n : Nat)
    (data : List UInt8) (checked : ∀ bytes r, parse bytes = some r → Usable s r)
    (recs : List DynRec) (accepted : scratchRecords parse stride n data = .ok recs) :
    totalSize recs ≤ udsDynMaxData ∧ ∀ r ∈ recs, Usable s r := by
  obtain ⟨fits, records⟩ := scratch_records_parsed parse stride n data recs accepted
  refine ⟨fits, ?_⟩
  intro r member
  obtain ⟨bytes, parsed⟩ := records r member
  exact checked bytes r parsed

/-- A parsed record by identifier is usable. -/
theorem identifier_record_usable (s : App) (bytes : List UInt8) (r : DynRec)
    (parsed : identifierRecord s bytes = some r) : Usable s r := by
  unfold identifierRecord at parsed
  simp only at parsed
  split at parsed
  · cases parsed
  · rename_i data resolved
    split at parsed
    · cases parsed
    · rename_i valid
      cases parsed
      simp only [not_or, Nat.not_lt] at valid
      exact ⟨Nat.pos_of_ne_zero valid.1,
        fun _ => ⟨data, resolved, Nat.pos_of_ne_zero valid.2.1, valid.2.2⟩⟩

/-- A parsed record by address is usable. -/
theorem memory_record_usable (s : App) (alen slen : Nat) (bytes : List UInt8) (r : DynRec)
    (parsed : memoryRecord alen slen bytes = some r) : Usable s r := by
  unfold memoryRecord at parsed
  simp only at parsed
  split at parsed
  · cases parsed
  · rename_i valid
    cases parsed
    simp only [not_or] at valid
    exact ⟨Nat.pos_of_ne_zero valid.1, fun other => absurd rfl other⟩

/-- What a positive definition stores assembles. -/
theorem defines_usable (s : App) (req : List UInt8) (reqLen : Nat) (recs : List DynRec)
    (defines : Defines s req reqLen recs) :
    totalSize recs ≤ udsDynMaxData ∧ ∀ r ∈ recs, Usable s r := by
  rcases defines with byIdentifier | byAddress
  · unfold defineByIdentifier at byIdentifier
    split at byIdentifier
    · cases byIdentifier
    · exact scratch_records_usable s _ _ _ _ (identifier_record_usable s) recs byIdentifier
  · unfold defineByMemoryAddress at byAddress
    simp only at byAddress
    split at byAddress
    · cases byAddress
    · split at byAddress
      · cases byAddress
      · split at byAddress
        · cases byAddress
        · exact scratch_records_usable s _ _ _ _ (memory_record_usable s _ _) recs byAddress

/-- Only an accepted key unlocks. -/
theorem secured_locked (d d' : DiagSession) (now : Nat) (req : List UInt8) (reqLen : Nat)
    (secured : Secured d now req reqLen d') (locked : d.securityLevel = .locked)
    (refused : ∀ key, sentKey req reqLen = some key → (diagSessionVerifyKey d now key).2 ≠ .ok) :
    d'.securityLevel = .locked := by
  cases secured with
  | kept => exact locked
  | stopped => rw [check_gate_security, locked]
  | seeded => rw [generate_seed_security, check_gate_security, locked]
  | verified key sent => rw [(verify_key_frame d now key).2 (refused key sent), locked]

/-- No session is entered with an unlock. -/
theorem enter_session_locked (s : App) (now : Nat) (t : SessionType)
    (locked : s.session.securityLevel = .locked) :
    (enterSession s now t).session.securityLevel = .locked := by
  unfold enterSession
  cases t with
  | default => rfl
  | programming => exact locked
  | extended => exact locked

/-- Entering a session keeps the application sealed. -/
theorem Sealed.enter {s : App} (before : Sealed s) (now : Nat) (t : SessionType) :
    Sealed (enterSession s now t) := by
  apply before.same (enter_session_locked s now t before.locked)
  · unfold enterSession
    split
    · rfl
    · rfl
  · unfold enterSession
    split
    · rfl
    · rfl

/-- Every change a request makes keeps the slots sealed, as long as its key is refused. -/
theorem change_sealed (s s' : App) (now : Nat) (req : List UInt8) (reqLen : Nat)
    (change : Change s now req reqLen s') (before : Sealed s)
    (refused : byte req 0 = udsSidSecurityAccess → ∀ key, sentKey req reqLen = some key →
      (diagSessionVerifyKey s.session now key).2 ≠ .ok) : Sealed s' := by
  cases change with
  | unchanged => exact before
  | session t => exact before.enter now t
  | programming => exact (before.enter now .programming).same (before.enter now _).locked rfl rfl
  | reset => exact before.same before.locked rfl rfl
  | security session service secured =>
    have locked := secured_locked _ _ _ _ _ secured before.locked (refused service)
    exact before.same locked rfl rfl
  | faults => exact before.same before.locked rfl rfl
  | communication => exact before.same before.locked rfl rfl
  | vin vin opened => exact absurd opened (gate_locked s _ before.locked (by decide))
  | ioPort value opened => exact absurd opened (gate_locked s _ before.locked (by decide))
  | defined i did recs _ inside _ checked =>
    obtain ⟨fits, usable⟩ := defines_usable s req reqLen recs checked
    exact before.set i ⟨did, recs⟩ fun _ => ⟨inside, fits, usable⟩
  | undefined i => exact before.set i {} fun used => absurd rfl used
  | periodic => exact before.same before.locked rfl rfl

/-- The application starts locked and with empty slots. -/
theorem app_init_sealed (now ready : Nat) : Sealed (appInit now ready) := by
  refine ⟨rfl, ?_⟩
  intro slot member used
  have empty := List.eq_of_mem_replicate member
  rw [empty] at used
  exact absurd rfl used

/-- The activity stamp does not matter. -/
theorem stamped_sealed (s : App) (now : Nat) (before : Sealed s) : Sealed (stamped s now) :=
  before.same before.locked rfl rfl

/-- Every call with refused keys keeps the application sealed. -/
theorem step_sealed (mem : Memory) (past : List Event) (s : App) (i : Input) (before : Sealed s)
    (refused : KeyRefused past s i) : Sealed (step mem s i).1 := by
  cases i with
  | request now req reqLen addr =>
    rcases dispatch_change mem s now req reqLen addr with same | ⟨reaches, change⟩
    · simp only [step, same]
      exact before
    · refine change_sealed _ _ _ _ _ change (stamped_sealed s now before) ?_
      intro service key sent accepted
      apply refused
      rw [keyOutcome, if_pos ⟨reaches, service⟩, sent, Option.map_some, accepted]
  | work now k =>
    cases k with
    | simulate => exact before.same before.locked rfl rfl
    | periodicTick => exact before.same before.locked rfl rfl
    | sessionTick stamp =>
      simp only [step, Work.run, expireSession]
      split
      · exact before.enter stamp .default
      · exact before
  | boot now ready => exact app_init_sealed now ready

/-! ## What a call shows -/

/-- A slot that is found is in the table, under its identifier. -/
theorem dyn_find_mem (s : App) (did : UInt16) (slot : DynSlot) (found : dynFind s did = some slot) :
    slot ∈ s.dyn ∧ slot.did = did := by
  have matched := List.find?_some found
  exact ⟨List.mem_of_find?_eq_some found, eq_of_beq matched⟩

/-- A slot with a record of raw memory assembles, whatever the memory holds. -/
theorem Sealed.assembles {s : App} (before : Sealed s) (did : UInt16) (slot : DynSlot)
    (found : dynFind s did = some slot) (raw : readsMemory slot = true) : Assembles s slot := by
  apply before.slots slot (dyn_find_mem s did slot found).1
  intro empty
  rw [readsMemory, empty] at raw
  cases raw

/-- Dynamic identifiers are none of the registry. -/
theorem registered_dynamic (s : App) (did : UInt16)
    (inside : udsDidDynamicBase ≤ did ∧ did ≤ udsDidDynamicEnd) : registered s did = none := by
  have other : ∀ known : UInt16, known < udsDidDynamicBase → (known == did) = false := by
    intro known below
    rw [beq_eq_false_iff_ne]
    rintro rfl
    exact absurd inside.1 (UInt16.not_le.mpr below)
  have vin := other udsDidVin (by decide)
  have hardware := other udsDidHwVersion (by decide)
  have software := other udsDidSwVersion (by decide)
  have name := other udsDidEcuName (by decide)
  simp [registered, kDidRead, vin, hardware, software, name]

/-- The response to a request that reads a dynamic identifier. -/
theorem dispatch_read_data (mem : Memory) (s : App) (now : Nat) (req : List UInt8) (reqLen : Nat)
    (addr : AddrType) (slot : DynSlot) (physical : addr ≠ .functional)
    (service : byte req 0 = udsSidReadDataById) (long : 3 ≤ reqLen)
    (found : dynFind (stamped s now) (word (byte req 1) (byte req 2)) = some slot)
    (assembles : Assembles (stamped s now) slot)
    (some_data : dynAssemble mem (stamped s now) slot ≠ []) :
    (udsDispatchRequest mem s now req reqLen addr).2 =
      (udsSidReadDataById + udsResponseSidOffset) ::
        (wordBytes (word (byte req 1) (byte req 2)) ++ dynAssemble mem (stamped s now) slot) := by
  have reaches : admitted req reqLen addr = true := by
    have nonzero : reqLen ≠ 0 := by omega
    simp [admitted, physical, nonzero]
  have unregistered : registered (stamped s now) (word (byte req 1) (byte req 2)) = none := by
    rw [← (dyn_find_mem _ _ _ found).2]
    exact registered_dynamic _ _ assembles.inside
  have answered : handleReadDataById mem (stamped s now) req reqLen =
      (udsSidReadDataById + udsResponseSidOffset) ::
        (wordBytes (word (byte req 1) (byte req 2)) ++ dynAssemble mem (stamped s now) slot) := by
    simp only [handleReadDataById, if_neg (Nat.not_lt.mpr long), unregistered, found,
      if_neg some_data]
  have plain : byte req 0 ∉ suppressibleSids := by
    rw [service]
    decide
  rw [dispatch_unsuppressed mem s now req reqLen addr reaches plain,
    serve_read_data mem _ now req reqLen service]
  exact answered

/-- A request answers the same for all memories exactly when it reads no record of
raw memory. -/
theorem request_conceals_iff (s : App) (now : Nat) (req : List UInt8) (reqLen : Nat)
    (addr : AddrType) (before : Sealed s) :
    (∀ mem mem', (udsDispatchRequest mem s now req reqLen addr).2 =
      (udsDispatchRequest mem' s now req reqLen addr).2) ↔
      Hidden [] s (.request now req reqLen addr) := by
  have before' := stamped_sealed s now before
  constructor
  · intro same physical service long slot found
    by_contra raw
    rw [Bool.not_eq_false] at raw
    have assembles := before'.assembles _ slot found raw
    have reveals := assembles.reveals raw
    have shown := same erasedMemory writtenMemory
    rw [dispatch_read_data erasedMemory s now req reqLen addr slot physical service long found
        assembles (assembles.nonempty raw _),
      dispatch_read_data writtenMemory s now req reqLen addr slot physical service long found
        assembles (assembles.nonempty raw _)] at shown
    simp only [List.cons.injEq, List.append_cancel_left_eq, true_and] at shown
    exact reveals shown
  · intro hidden mem mem'
    by_cases reaches : admitted req reqLen addr = false
    · simp [udsDispatchRequest, reaches]
    · have served : serve mem (stamped s now) now req reqLen =
          serve mem' (stamped s now) now req reqLen := by
        by_cases data : byte req 0 = udsSidReadDataById
        · rw [serve_read_data mem _ now req reqLen data, serve_read_data mem' _ now req reqLen data]
          congr 1
          have physical : addr ≠ .functional := by
            rintro rfl
            have never : udsSidReadDataById ∉ functionalSids := by decide
            simp [admitted, data, never] at reaches
          unfold handleReadDataById
          simp only
          split
          · rfl
          · rename_i long
            split
            · rfl
            · split
              · rfl
              · rename_i slot found
                have unread := hidden physical data (Nat.not_lt.mp long) slot found
                rw [assemble_unread mem mem' (stamped s now) slot unread]
        · by_cases address : byte req 0 = udsSidReadMemByAddr
          · rw [serve_read_mem mem _ now req reqLen address,
              serve_read_mem mem' _ now req reqLen address]
            unfold gated
            cases gate : accessGate (stamped s now) udsSidReadMemByAddr with
            | some code => rfl
            | none => exact absurd gate (gate_locked _ _ before'.locked (by decide))
          · exact serve_other mem mem' _ now req reqLen data address
      simp only [udsDispatchRequest, reaches, served]

/-- What a subscription sends in a tick. -/
theorem periodic_tick_sub_due (mem : Memory) (s : App) (p : PeriodicSub) (due : p.due = true)
    (some_data : periodicData mem s p.pdid ≠ []) :
    (periodicTickSub mem s p).2 = [p.pdid :: periodicData mem s p.pdid] := by
  simp only [PeriodicSub.due, Bool.and_eq_true, bne_iff_ne, Bool.not_eq_true',
    decide_eq_false_iff_not] at due
  simp only [periodicTickSub, if_neg due.1, if_neg due.2, if_neg some_data]

/-- The number of frames of a tick does not depend on the memory. -/
theorem periodic_tick_sub_length (mem mem' : Memory) (s : App) (p : PeriodicSub) :
    (periodicTickSub mem s p).2.length = (periodicTickSub mem' s p).2.length := by
  unfold periodicTickSub
  simp only [periodic_data_empty mem mem' s p.pdid]
  split
  · rfl
  · split
    · rfl
    · split
      · rfl
      · rfl

/-- A tick sends the same for all memories exactly when no subscription that is due
sends a record of raw memory. -/
theorem periodic_conceals_iff (s : App) (now : Nat) (before : Sealed s) :
    (∀ mem mem', (udsPeriodicTick mem s).2 = (udsPeriodicTick mem' s).2) ↔
      Hidden [] s (.work now .periodicTick) := by
  constructor
  · intro same p member due slot found
    by_contra raw
    rw [Bool.not_eq_false] at raw
    have assembles := before.assembles _ slot found raw
    have shown := same erasedMemory writtenMemory
    simp only [udsPeriodicTick, List.flatMap_map] at shown
    have pieces := Chunks.flat_map_pieces _ _ s.periodic
      (fun q _ => periodic_tick_sub_length erasedMemory writtenMemory s q) shown
    have here := pieces p member
    have data : ∀ mem, periodicData mem s p.pdid = dynAssemble mem s slot := by
      intro mem
      simp only [periodicData, found]
    rw [periodic_tick_sub_due erasedMemory s p due (by rw [data]; exact assembles.nonempty raw _),
      periodic_tick_sub_due writtenMemory s p due (by rw [data]; exact assembles.nonempty raw _),
      data, data, List.singleton_inj, List.cons.injEq] at here
    exact assembles.reveals raw here.2
  · intro hidden mem mem'
    have subs : ∀ p ∈ s.periodic, periodicTickSub mem s p = periodicTickSub mem' s p := by
      intro p member
      by_cases due : p.due = true
      · have data : periodicData mem s p.pdid = periodicData mem' s p.pdid := by
          unfold periodicData
          split
          · rfl
          · rename_i slot found
            exact assemble_unread mem mem' s slot (hidden p member due slot found)
        unfold periodicTickSub
        rw [data]
      · simp only [PeriodicSub.due, Bool.and_eq_true, bne_iff_ne, Bool.not_eq_true',
          decide_eq_false_iff_not, not_and, Classical.not_not] at due
        unfold periodicTickSub
        split
        · rfl
        · rename_i active
          simp only [if_pos (due active)]
    simp only [udsPeriodicTick, List.map_congr_left subs]

/-- A sealed application answers alike over all memories exactly if the call is hidden.
-/
theorem step_conceals_iff (past : List Event) (s : App) (i : Input) (before : Sealed s) :
    Run.StepConceals step past s i ↔ Hidden past s i := by
  cases i with
  | request now req reqLen addr =>
    have request := request_conceals_iff s now req reqLen addr before
    constructor
    · intro same
      apply request.mp
      intro mem mem'
      have events := same mem mem'
      simpa [step] using events
    · intro hidden mem mem'
      simp only [step, request.mpr hidden mem mem']
  | work now k =>
    cases k with
    | simulate => exact ⟨fun _ => trivial, fun _ _ _ => rfl⟩
    | sessionTick => exact ⟨fun _ => trivial, fun _ _ _ => rfl⟩
    | periodicTick =>
      have tick := periodic_conceals_iff s now before
      constructor
      · intro same
        apply tick.mp
        intro mem mem'
        have injective : Function.Injective Event.periodic := fun _ _ => Event.periodic.inj
        exact List.map_injective_iff.mpr injective (same mem mem')
      · intro hidden mem mem'
        simp only [step, Work.run, tick.mpr hidden mem mem']
  | boot => exact ⟨fun _ => trivial, fun _ _ _ => rfl⟩

/-- Without an accepted key, two runs that read different memories answer and send
the same exactly when no record of raw memory is read back or sent.

Proof: the memory does not reach the state, so the runs are compared call by call;
ReadMemoryByAddress stays closed, and what assembles is as long for every memory,
but shows the bytes of its raw records. -/
theorem memory_confidential_iff (now ready : Nat) (mem : Memory) (inputs : List Input) :
    (Run.Along (step mem) KeyRefused [] (appInit now ready) inputs →
        Run.Conceals step (appInit now ready) inputs) ↔
      (Run.Along (step mem) KeyRefused [] (appInit now ready) inputs →
        Run.Along (step mem) Hidden [] (appInit now ready) inputs) := by
  have conceals := Run.conceals_iff_along step step_blind mem [] (appInit now ready) inputs
  have agree := Run.along_congr (step mem) KeyRefused (Run.StepConceals step) Hidden
    (fun _ s => Sealed s) (fun past s i before refused => step_sealed mem past s i before refused)
    (fun past s i before _ => step_conceals_iff past s i before) [] _ inputs
    (app_init_sealed now ready)
  constructor
  · intro confidential refused
    exact (agree refused).mp (conceals.mp (confidential refused))
  · intro hidden refused
    exact conceals.mpr ((agree refused).mpr (hidden refused))

/-- A physical request at a tick after the boot delay. -/
def asked (bytes : List UInt8) : Input := .request 2000 bytes bytes.length .physical

/-- An Extended session, a dynamic identifier for eight bytes of the bootloader, and
a request that reads it. -/
def readBootloader : List Input :=
  [asked [0x10, 0x03], asked [0x2C, 0x02, 0xF2, 0x00, 0x14, 0x08, 0x00, 0x00, 0x00, 0x08],
    asked [0x22, 0xF2, 0x00]]

/-- A tester without a key reads the flash. -/
theorem keyless_tester_reads_flash :
    ¬ ∀ inputs, Run.Along (step erasedMemory) KeyRefused [] (appInit 0 0) inputs →
      Run.Conceals step (appInit 0 0) inputs := by
  intro confidential
  have refused : Run.Along (step erasedMemory) KeyRefused [] (appInit 0 0) readBootloader := by
    decide
  have shown := confidential readBootloader refused
    (readBootloader.map fun i => (erasedMemory, i)) (readBootloader.map fun i => (writtenMemory, i))
    rfl rfl
  have differ : Run.trace (Run.opened step) (appInit 0 0)
        (readBootloader.map fun i => (erasedMemory, i)) ≠
      Run.trace (Run.opened step) (appInit 0 0)
        (readBootloader.map fun i => (writtenMemory, i)) := by
    decide
  exact differ shown

end ObdSimulator.AppMain
