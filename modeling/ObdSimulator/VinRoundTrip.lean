import Mathlib.Data.List.TakeWhile
import ObdSimulator.BufferAccess

/-!
# The VIN read back

WriteDataByIdentifier stores seventeen bytes of any value, and the readers of the VIN
take its length from its content: they stop at the first byte zero. What was written is
read back exactly when it has no such byte, and then every slice of the VIN that a
dynamic identifier was defined with is still there, whichever VIN it was checked
against.
-/

namespace ObdSimulator.UdsService

open Bytes NorFlash

/-! ## Sources -/

/-- A string without a byte zero is read as a whole. -/
theorem c_string_whole (bytes : List UInt8) : cString bytes = bytes ↔ 0 ∉ bytes := by
  rw [cString, List.takeWhile_eq_self_iff]
  constructor
  · intro nonzero member
    exact absurd (nonzero 0 member) (by decide)
  · intro absent b member
    rw [bne_iff_ne]
    rintro rfl
    exact absent member

/-- The VIN is read up to its terminator. -/
theorem registered_vin (s : App) : registered s udsDidVin = some (cString s.vin) := rfl

/-- Only the VIN depends on the state. -/
theorem registered_other (s s' : App) (did : UInt16) (other : did ≠ udsDidVin) :
    registered s did = registered s' did := by
  have skipped : (udsDidVin == did) = false := beq_eq_false_iff_ne.mpr (Ne.symm other)
  simp [registered, kDidRead, skipped]

/-- A source is nowhere longer than where the VIN is whole. -/
theorem source_length (s s' : App) (short : s'.vin.length ≤ (cString s.vin).length) (did : UInt16)
    (data' : List UInt8) (resolved : resolveSource s' did = some data') :
    ∃ data, resolveSource s did = some data ∧ data'.length ≤ data.length := by
  unfold resolveSource at resolved ⊢
  by_cases port : did = udsDidIoControl
  · rw [if_pos port] at resolved ⊢
    cases resolved
    exact ⟨_, rfl, Nat.le_refl _⟩
  · rw [if_neg port] at resolved ⊢
    by_cases vin : did = udsDidVin
    · subst vin
      cases resolved
      exact ⟨_, registered_vin s, (Safe.c_string_length _).trans short⟩
    · rw [registered_other s' s did vin] at resolved
      exact ⟨data', resolved, Nat.le_refl _⟩

/-- A record that was checked in one state fits its source where the VIN is whole. -/
theorem usable_fits (s s' : App) (r : DynRec) (usable : AppMain.Usable s' r)
    (short : s'.vin.length ≤ (cString s.vin).length) : sliceFits s r = true := by
  unfold sliceFits
  by_cases raw : r.srcDid = udsDynSrcMem
  · rw [if_pos raw]
  · rw [if_neg raw]
    obtain ⟨data', resolved', positive, inside⟩ := usable.source raw
    obtain ⟨data, resolved, longer⟩ := source_length s s' short r.srcDid data' resolved'
    simp only [resolved, Bool.and_eq_true, decide_eq_true_eq]
    omega

/-! ## Records that some VIN was long enough for -/

/-- A record that was checked, against a VIN of at most seventeen bytes. -/
def Vetted (dyn : List DynSlot) : Prop :=
  ∀ slot ∈ dyn, ∀ r ∈ slot.recs, ∃ s : App, s.vin.length ≤ 17 ∧ AppMain.Usable s r

/-- A slot may be replaced by one whose records were checked against some VIN. -/
theorem Vetted.set {dyn : List DynSlot} (vetted : Vetted dyn) (i : Nat) (slot : DynSlot)
    (fresh : ∀ r ∈ slot.recs, ∃ s : App, s.vin.length ≤ 17 ∧ AppMain.Usable s r) :
    Vetted (dyn.set i slot) := by
  intro other member
  rcases List.mem_or_eq_of_mem_set member with kept | rfl
  · exact vetted other kept
  · exact fresh

/-- Empty slots are vetted. -/
theorem vetted_empty : Vetted (List.replicate udsDynSlots {}) := by
  intro slot member r within
  rw [List.eq_of_mem_replicate member] at within
  cases within

/-- Whatever a request does to the slots, their records were checked when they were let
in. -/
theorem change_vetted {s s' : App} {now : Nat} {req : List UInt8} {reqLen : Nat}
    (change : Change s now req reqLen s') (array : s.vin.length ≤ 17) (vetted : Vetted s.dyn) :
    Vetted s'.dyn := by
  cases change with
  | session t => cases t <;> exact vetted
  | defined i did recs opened inside place checked =>
    have usable := (AppMain.defines_usable s req reqLen recs checked).2
    exact vetted.set i ⟨did, recs⟩ fun r member => ⟨s, array, usable r member⟩
  | undefined i => exact vetted.set i {} fun r member => absurd member List.not_mem_nil
  | _ => exact vetted

/-! ## Writing the VIN -/

section Requests

variable (mem : Memory) (s : App) (now : Nat) (req : List UInt8) (reqLen : Nat) (addr : AddrType)

/-- A positive response stores the data of the request, and a refusal nothing. -/
theorem write_data_stores :
    (handleWriteDataById s req reqLen).1.vin =
      if (byte (handleWriteDataById s req reqLen).2 0 != 0x7F) = true then
        (req.take reqLen).drop 3
      else s.vin := by
  unfold handleWriteDataById
  simp only
  split
  · rfl
  split
  · rfl
  split
  · rfl
  rename_i sized
  have data : (req.take reqLen).drop 3 = (req.drop 3).take 17 := by
    rw [List.drop_take, not_not.mp sized]
  rw [data]
  rfl

/-- Only an accepted 0x2E changes the VIN, to the bytes behind its header. -/
theorem dispatch_vin :
    (udsDispatchRequest mem s now req reqLen addr).1.vin =
      if byte req 0 = udsSidWriteDataById ∧
          accepted req reqLen addr (udsDispatchRequest mem s now req reqLen addr).2 = true then
        (req.take reqLen).drop 3
      else s.vin := by
  by_cases service : byte req 0 = udsSidWriteDataById
  swap
  · rw [if_neg fun both => service both.1]
    exact dispatch_keeps (·.vin) mem s now req reqLen addr rfl
      ((serve_frame mem (stamped s now) now req reqLen).vin service)
  rcases dispatch_gated mem s now req reqLen addr _ _
      (serve_write_data mem (stamped s now) now req reqLen service) with
    ⟨refused, same⟩ | ⟨_, _, state, answer⟩
  · rw [refused, if_neg fun both => absurd both.2 Bool.false_ne_true]
    rcases same with same | same
    · rw [same]
    · rw [same]
      rfl
  · rw [state, answer]
    simp only [service, true_and]
    exact write_data_stores (stamped s now) req reqLen

/-! ## Reading it back -/

/-- ReadDataByIdentifier answers with the bytes before the first zero. -/
theorem dispatch_read_vin (service : byte req 0 = udsSidReadDataById) (long : 3 ≤ reqLen)
    (named : word (byte req 1) (byte req 2) = udsDidVin) :
    (udsDispatchRequest mem s now req reqLen .physical).2 =
      (udsSidReadDataById + udsResponseSidOffset) :: (wordBytes udsDidVin ++ cString s.vin) := by
  have reaches := admitted_physical req reqLen (by omega)
  have plain : byte req 0 ∉ suppressibleSids := by
    rw [service]
    decide
  rw [dispatch_unsuppressed mem s now req reqLen .physical reaches plain,
    AppMain.serve_read_data mem (stamped s now) now req reqLen service]
  simp only [handleReadDataById, if_neg (Nat.not_lt.mpr long), named, registered_vin]
  rfl

/-- How the switch reaches service 0x09. -/
theorem serve_vehicle_info (service : byte req 0 = udsSidObd2VehicleInfo) :
    serve mem s now req reqLen = (s, handleObd2Service09 s req reqLen) := by
  unfold serve
  rw [service]
  rfl

/-- Mode 09 returns the VIN as a C string, whichever address it is sent to. -/
theorem dispatch_vehicle_info (service : byte req 0 = udsSidObd2VehicleInfo) (long : 2 ≤ reqLen)
    (info : byte req 1 = 0x02) :
    (udsDispatchRequest mem s now req reqLen addr).2 =
      (udsSidObd2VehicleInfo + udsResponseSidOffset) :: 0x02 :: 0x01 :: cString s.vin := by
  have reaches : admitted req reqLen addr = true := by
    have functional : udsSidObd2VehicleInfo ∈ functionalSids := by decide
    have nonzero : reqLen ≠ 0 := by omega
    simp [admitted, service, functional, nonzero]
  have plain : byte req 0 ∉ suppressibleSids := by
    rw [service]
    decide
  rw [dispatch_unsuppressed mem s now req reqLen addr reaches plain,
    serve_vehicle_info mem (stamped s now) now req reqLen service]
  simp only [handleObd2Service09, if_neg (Nat.not_lt.mpr long), info]
  rfl

end Requests

/-- The bytes of a record, with those of the VIN taken from what was written. -/
def piece (payload : List UInt8) (mem : Memory) (s : App) (r : DynRec) : List UInt8 :=
  if r.srcDid = udsDidVin then (payload.drop (r.position - 1)).take r.size else slice mem s r

/-- A slice of the VIN is a piece of it, where the VIN has no terminator inside. -/
theorem slice_piece (mem : Memory) (s : App) (r : DynRec) (whole : cString s.vin = s.vin) :
    slice mem s r = piece s.vin mem s r := by
  unfold piece
  split
  · rename_i vin
    have source : udsDidVin ≠ udsDynSrcMem := by decide
    have registry : udsDidVin ≠ udsDidIoControl := by decide
    rw [slice, vin, if_neg source, resolveSource, if_neg registry, registered_vin, whole]
    rfl
  · rfl

end ObdSimulator.UdsService

namespace ObdSimulator.AppMain

open Bytes NorFlash UdsService

/-- The data of the last positive write, as the requests and their answers have it. The
array of the VIN is in RAM, and a reset starts over. -/
def written (v : Option (List UInt8)) : Input × List Event → Option (List UInt8)
  | (.boot _ _, _) => none
  | (.request _ req reqLen addr, [.answered _ _ response]) =>
    if byte req 0 = udsSidWriteDataById ∧ accepted req reqLen addr response = true then
      some ((req.take reqLen).drop 3)
    else v
  | _ => v

/-- Every read of the VIN returns the payload, and every identifier that is bound to a
slice of it is read, with the slice cut out of the payload. -/
structure RoundTrip (s : App) (m : Bindings) (payload : List UInt8) : Prop where
  identifier : ∀ (mem : Memory) (now : Nat) (req : List UInt8) (reqLen : Nat),
    byte req 0 = udsSidReadDataById → word (byte req 1) (byte req 2) = udsDidVin → 3 ≤ reqLen →
      (udsDispatchRequest mem s now req reqLen .physical).2 =
        (udsSidReadDataById + udsResponseSidOffset) :: (wordBytes udsDidVin ++ payload)
  vehicleInfo : ∀ (mem : Memory) (now : Nat) (req : List UInt8) (reqLen : Nat) (addr : AddrType),
    byte req 0 = udsSidObd2VehicleInfo → byte req 1 = 0x02 → 2 ≤ reqLen →
      (udsDispatchRequest mem s now req reqLen addr).2 =
        (udsSidObd2VehicleInfo + udsResponseSidOffset) :: 0x02 :: 0x01 :: payload
  slices : ∀ did recs, m did = some recs → (∃ r ∈ recs, r.srcDid = udsDidVin) →
    (∀ r ∈ recs, r.srcDid = udsDidVin →
      0 < r.position ∧ r.position - 1 + r.size ≤ payload.length) ∧
    ∀ (mem : Memory) (now : Nat) (req : List UInt8) (reqLen : Nat),
      byte req 0 = udsSidReadDataById → word (byte req 1) (byte req 2) = did → 3 ≤ reqLen →
        (udsDispatchRequest mem s now req reqLen .physical).2 =
          (udsSidReadDataById + udsResponseSidOffset) ::
            (wordBytes did ++ recs.flatMap (piece payload mem s))

/-- What a run has established: the table stands for the observed map, its records were
checked, and the VIN is what was written last. -/
structure Stored (past : List (Input × List Event)) (s : App) : Prop where
  sound : Safe.Sound s
  table : Table s.dyn
  map : bindings s.dyn = past.foldl observe fun _ => none
  vetted : Vetted s.dyn
  vin : ∀ payload, past.foldl written none = some payload → s.vin = payload

/-- The VIN before the first write is the one built in. -/
theorem app_init_stored (boot ready : Nat) : Stored [] (appInit boot ready) where
  sound := .initial boot ready
  table := table_empty
  map := bindings_empty
  vetted := vetted_empty
  vin := by
    intro payload none_written
    cases none_written

/-- Every call keeps the slots vetted. -/
theorem step_vetted (mem : Memory) (s : App) (i : Input) (sound : Safe.Sound s)
    (vetted : Vetted s.dyn) : Vetted (step mem s i).1.dyn := by
  cases i with
  | request now req reqLen addr =>
    rcases dispatch_change mem s now req reqLen addr with same | ⟨_, change⟩
    · simp only [step, same]
      exact vetted
    · exact change_vetted change sound.vin vetted
  | work now k =>
    have kept : (step mem s (.work now k)).1.dyn = s.dyn := (work_keeps mem s now k).1
    rw [kept]
    exact vetted
  | boot now ready => exact vetted_empty

/-- A call stores the VIN that its answer shows. -/
theorem converse_vin (past : List (Input × List Event)) (s : App) (call : Memory × Input)
    (before : ∀ payload, past.foldl written none = some payload → s.vin = payload)
    (payload : List UInt8)
    (last : (past ++ (converse s call).2).foldl written none = some payload) :
    (converse s call).1.vin = payload := by
  rw [List.foldl_append] at last
  obtain ⟨mem, i⟩ := call
  cases i with
  | request now req reqLen addr =>
    have stores := dispatch_vin mem s now req reqLen addr
    simp only [converse, step, List.foldl_cons, List.foldl_nil, written] at last ⊢
    rw [stores]
    split at last
    · rename_i positive
      rw [if_pos positive]
      exact Option.some.inj last
    · rename_i other
      rw [if_neg other]
      exact before payload last
  | work now k =>
    have kept := (work_keeps mem s now k).2
    exact kept.trans (before payload last)
  | boot now ready => cases last

/-- Every call keeps the VIN as its observer expects it. -/
theorem converse_stored (past : List (Input × List Event)) (s : App) (call : Memory × Input)
    (before : Stored past s) (received : Received call.2) :
    Stored (past ++ (converse s call).2) (converse s call).1 := by
  obtain ⟨table, map⟩ := converse_table past s call ⟨before.table, before.map⟩ received
  exact ⟨before.sound.step call.1 call.2, table, map,
    step_vetted call.1 s call.2 before.sound before.vetted, converse_vin past s call before.vin⟩

/-- Along every run the VIN is as its observer expects it. -/
theorem run_stored (boot ready : Nat) (calls : List (Memory × Input))
    (received : ∀ call ∈ calls, Received call.2) :
    Stored (Run.trace converse (appInit boot ready) calls)
      (Run.final converse (appInit boot ready) calls) := by
  have members := Run.along_of_mem converse (fun call => Received call.2) []
    (appInit boot ready) calls received
  exact Run.invariant_final converse _ Stored
    (fun past s call before here => converse_stored past s call before here) []
    (appInit boot ready) calls (app_init_stored boot ready) members

/-- Where the VIN has no byte zero, every record of every identifier is there. -/
theorem stored_fits {past : List (Input × List Event)} {s : App} (stored : Stored past s)
    (sized : s.vin.length = 17) (whole : cString s.vin = s.vin) (did : UInt16)
    (recs : List DynRec) (bound : bindings s.dyn did = some recs) :
    ∀ r ∈ recs, sliceFits s r = true := by
  intro r member
  obtain ⟨slot, inside, _, _, rfl⟩ := bindings_some s.dyn did recs bound
  obtain ⟨s', short, usable⟩ := stored.vetted slot inside r member
  apply usable_fits s s' r usable
  rw [whole, sized]
  exact short

/-- A VIN of full length is read back by all three services. -/
theorem stored_round_trip {past : List (Input × List Event)} {s : App} (stored : Stored past s)
    (sized : s.vin.length = 17) (whole : cString s.vin = s.vin) :
    RoundTrip s (bindings s.dyn) s.vin where
  identifier := by
    intro mem now req reqLen service named long
    rw [dispatch_read_vin mem s now req reqLen service long named, whole]
  vehicleInfo := by
    intro mem now req reqLen addr service info long
    rw [dispatch_vehicle_info mem s now req reqLen addr service long info, whole]
  slices := by
    intro did recs bound _
    have fits := stored_fits stored sized whole did recs bound
    constructor
    · intro r member vin
      have here := fits r member
      have source : udsDidVin ≠ udsDynSrcMem := by decide
      have registry : udsDidVin ≠ udsDidIoControl := by decide
      simp only [sliceFits, vin, if_neg source, resolveSource, if_neg registry, registered_vin,
        whole, Bool.and_eq_true, decide_eq_true_eq] at here
      exact ⟨Nat.pos_of_ne_zero here.1, here.2⟩
    · rintro mem now req reqLen service rfl long
      have dynamic := (stored.table.bounded.formed _ recs bound).1
      have pieces : recs.flatMap (slice mem s) = recs.flatMap (piece s.vin mem s) :=
        List.flatMap_congr fun r _ => slice_piece mem s r whole
      rw [dispatch_read_dynamic mem s now req reqLen stored.table service long dynamic, bound,
        readAnswer, if_pos (List.all_eq_true.mpr fits), pieces]

/-- After every run, the seventeen bytes written last are read back, and every slice of
them is there, exactly when none of them is zero. -/
theorem vin_round_trip_iff (boot ready : Nat) (calls : List (Memory × Input))
    (received : ∀ call ∈ calls, Received call.2) (payload : List UInt8)
    (sized : payload.length = 17)
    (last : (Run.trace converse (appInit boot ready) calls).foldl written none = some payload) :
    RoundTrip (Run.final converse (appInit boot ready) calls)
        ((Run.trace converse (appInit boot ready) calls).foldl observe fun _ => none) payload ↔
      0 ∉ payload := by
  have stored := run_stored boot ready calls received
  generalize Run.trace converse (appInit boot ready) calls = past at stored last
  generalize Run.final converse (appInit boot ready) calls = s at stored
  rw [← stored.map]
  obtain rfl := stored.vin payload last
  rw [← c_string_whole]
  constructor
  · intro trip
    have asked := trip.identifier erasedMemory 0 [0x22, 0xF1, 0x90] 3 rfl (by decide) (by decide)
    rw [dispatch_read_vin erasedMemory s 0 [0x22, 0xF1, 0x90] 3 rfl (by decide) (by decide)]
      at asked
    simpa using asked
  · intro whole
    exact stored_round_trip stored sized whole

/-- The Extended session unlocked, and a definition of the last byte of the VIN. -/
def slicingCalls : List (Memory × Input) :=
  [(erasedMemory, .request 2000 [0x10, 0x03] 2 .physical),
    (erasedMemory, .request 2000 [0x27, 0x01] 2 .physical),
    (erasedMemory, .request 2000 [0x27, 0x02, 0xEF, 0x62] 4 .physical),
    (erasedMemory, .request 2000 [0x2C, 0x01, 0xF2, 0x00, 0xF1, 0x90, 0x11, 0x01] 8 .physical)]

/-- A request that writes a payload, for the witness. -/
def vinWrite (payload : List UInt8) : Memory × Input :=
  (erasedMemory, .request 2000 ([0x2E, 0xF1, 0x90] ++ payload) 20 .physical)

/-- A payload without a zero. -/
def plainVin : List UInt8 := List.replicate 17 0x41

/-- A VIN of letters and digits is read back. -/
theorem vin_round_trip_iff_plain :
    RoundTrip (Run.final converse (appInit 0 0) (slicingCalls ++ [vinWrite plainVin]))
      ((Run.trace converse (appInit 0 0) (slicingCalls ++ [vinWrite plainVin])).foldl observe
        fun _ => none) plainVin :=
  (vin_round_trip_iff 0 0 (slicingCalls ++ [vinWrite plainVin]) (by decide) plainVin (by decide)
    (by decide +kernel)).mpr (by decide)

/-- A payload that starts with a zero. -/
def zeroVin : List UInt8 := 0x00 :: List.replicate 16 0x41

/-- The payload is written positively, read back as nothing, and the slice that was accepted
before is refused. -/
theorem zero_vin_lost :
    (Run.trace converse (appInit 0 0) (slicingCalls ++ [vinWrite zeroVin])).foldl written none =
        some zeroVin ∧
      (udsDispatchRequest erasedMemory
        (Run.final converse (appInit 0 0) (slicingCalls ++ [vinWrite zeroVin])) 2000
        [0x22, 0xF1, 0x90] 3 .physical).2 = [0x62, 0xF1, 0x90] ∧
      (udsDispatchRequest erasedMemory
        (Run.final converse (appInit 0 0) (slicingCalls ++ [vinWrite zeroVin])) 2000
        [0x09, 0x02] 2 .functional).2 = [0x49, 0x02, 0x01] ∧
      (udsDispatchRequest erasedMemory (Run.final converse (appInit 0 0) slicingCalls) 2000
        [0x22, 0xF2, 0x00] 3 .physical).2.length = 4 ∧
      (udsDispatchRequest erasedMemory
        (Run.final converse (appInit 0 0) (slicingCalls ++ [vinWrite zeroVin])) 2000
        [0x22, 0xF2, 0x00] 3 .physical).2 = [0x7F, 0x22, 0x31] := by
  decide +kernel

end ObdSimulator.AppMain
