import ObdSimulator.BlAccess
import ObdSimulator.DynamicTable
import ObdSimulator.FaultHistory
import ObdSimulator.ServiceAccess

/-!
# The accesses of both dispatchers

The accesses of the application depend on the state: on the length of the VIN, which
WriteDataByIdentifier can overwrite, on the number of fault entries, and on the records
of raw memory. Every call of the application keeps these as they need to be, so in
every reachable state no request makes an access out of bounds. Those of the
bootloader depend on no state.
-/

namespace ObdSimulator.UdsService

open Bytes NorFlash

/-! ## The fault table keeps its entries -/

/-- No operation adds or removes an entry. -/
theorem operate_table_length (m : FaultManager) (operation : DtcOperation) :
    (m.operate operation).table.length = m.table.length := by
  have codes := congrArg List.length (operate_codes m operation)
  simpa using codes

/-- A call makes at most one operation on the fault manager. -/
inductive Operated (m : FaultManager) : FaultManager → Prop
  | kept : Operated m m
  | once (operation : DtcOperation) : Operated m (m.operate operation)

/-- A call keeps the length of the fault table. -/
theorem Operated.table_length {m m' : FaultManager} (operated : Operated m m') :
    m'.table.length = m.table.length := by
  cases operated with
  | kept => rfl
  | once operation => exact operate_table_length m operation

section Handlers

variable (mem : Memory) (s : App) (now : Nat) (req : List UInt8) (reqLen : Nat)

/-- Only a return to Default switches the setting on. -/
theorem enter_session_operated (t : SessionType) :
    Operated s.faults (enterSession s now t).faults := by
  cases t with
  | default => exact .once (.input (.setting true))
  | programming => exact .kept
  | extended => exact .kept

/-- 0x10 touches the faults only through the return to Default. -/
theorem session_control_operated :
    Operated s.faults (handleSessionControl s now req reqLen).1.faults := by
  unfold handleSessionControl
  simp only
  split
  · exact .kept
  · split
    · exact .kept
    · cases SessionType.ofByte (subFunction (byte req 1)) with
      | none => exact .kept
      | some t =>
        have entered := enter_session_operated s now t
        cases t <;> exact entered

/-- 0x14 is the clear operation or nothing. -/
theorem clear_dtc_operated : Operated s.faults (handleClearDtc s req reqLen).1.faults := by
  unfold handleClearDtc
  simp only
  split
  · exact .kept
  · split
    · exact .kept
    · exact .once (.input .clear)

/-- 0x31 clears or injects the demonstration fault, or does neither. -/
theorem routine_control_operated :
    Operated s.faults (handleRoutineControl s req reqLen).1.faults := by
  unfold handleRoutineControl
  simp only
  split
  · exact .kept
  · split
    · exact .kept
    · split
      · exact .kept
      · simp only
        split
        · exact .kept
        · split
          · exact .once (.input .clear)
          · exact .once (.injectDemo s.sim)

/-- 0x85 is the setting operation or nothing. -/
theorem control_dtc_setting_operated :
    Operated s.faults (handleControlDtcSetting s req reqLen).1.faults := by
  unfold handleControlDtcSetting
  simp only
  split
  · exact .kept
  · split
    · exact .kept
    · exact .once (.input (.setting _))

/-- No other service reaches the fault manager. -/
theorem serve_operated : Operated s.faults (serve mem s now req reqLen).1.faults := by
  have serves := serve_serves mem s now req reqLen
  generalize serve mem s now req reqLen = served at serves
  cases serves with
  | clearDtc => exact .once (.input .clear)
  | sessionCtrl => exact session_control_operated s now req reqLen
  | clearDiagInfo => exact clear_dtc_operated s req reqLen
  | routineControl => exact routine_control_operated s req reqLen
  | controlDtcSetting => exact control_dtc_setting_operated s req reqLen
  | ecuReset =>
    obtain ⟨_, same⟩ := ecu_reset_writes s req reqLen
    rw [same]
    exact .kept
  | readDataPeriodic =>
    obtain ⟨_, same⟩ := read_periodic_writes s req reqLen
    rw [same]
    exact .kept
  | dynamicDefineDid =>
    obtain ⟨_, same⟩ := dynamic_define_writes s req reqLen
    rw [same]
    exact .kept
  | securityAccess =>
    obtain ⟨_, same, _⟩ := security_access_writes s now req reqLen
    rw [same]
    exact .kept
  | communicationControl =>
    obtain ⟨_, _, same⟩ := communication_control_writes s req reqLen
    rw [same]
    exact .kept
  | writeDataById =>
    obtain ⟨_, same⟩ := write_data_writes s req reqLen
    rw [same]
    exact .kept
  | ioControlById =>
    obtain ⟨_, same⟩ := input_output_writes s req reqLen
    rw [same]
    exact .kept
  | _ => exact .kept

/-! ## The VIN keeps its array -/

/-- A write of the VIN is of exactly seventeen bytes. -/
theorem write_data_vin (fits : s.vin.length ≤ 17) :
    (handleWriteDataById s req reqLen).1.vin.length ≤ 17 := by
  unfold handleWriteDataById
  simp only
  split
  · exact fits
  · split
    · exact fits
    · split
      · exact fits
      · exact List.length_take_le _ _

/-- How the switch reaches 0x2E. -/
theorem serve_write_data (service : byte req 0 = udsSidWriteDataById) :
    serve mem s now req reqLen =
      gated s udsSidWriteDataById (handleWriteDataById s req reqLen) := by
  unfold serve
  rw [service]
  rfl

/-- No request makes the VIN longer. -/
theorem serve_vin (fits : s.vin.length ≤ 17) :
    (serve mem s now req reqLen).1.vin.length ≤ 17 := by
  by_cases writes : byte req 0 = udsSidWriteDataById
  · rw [serve_write_data mem s now req reqLen writes, gated]
    cases accessGate s udsSidWriteDataById with
    | some code => exact fits
    | none => exact write_data_vin s req reqLen fits
  · rw [(serve_frame mem s now req reqLen).vin writes]
    exact fits

/-! ## Records of raw memory are readable -/

/-- A record of an identifier does not carry the marker of raw memory: nothing is
registered under the marker. -/
theorem identifier_record_unmarked (bytes : List UInt8) (r : DynRec)
    (parsed : identifierRecord s bytes = some r) : r.srcDid ≠ udsDynSrcMem := by
  unfold identifierRecord at parsed
  simp only at parsed
  cases resolved : resolveSource s (word (byte bytes 0) (byte bytes 1)) with
  | none =>
    rw [resolved] at parsed
    cases parsed
  | some data =>
    rw [resolved] at parsed
    simp only at parsed
    split at parsed
    · cases parsed
    · cases parsed
      intro marked
      dsimp only at marked
      rw [marked, resolve_marker] at resolved
      cases resolved

/-- A record of raw memory is readable, whatever address and size it has. -/
theorem memory_record_readable (alen slen : Nat) (bytes : List UInt8) (r : DynRec)
    (parsed : memoryRecord alen slen bytes = some r) :
    r.srcDid = udsDynSrcMem ∧ memReadable r.srcAddr r.size = true := by
  unfold memoryRecord at parsed
  simp only at parsed
  split at parsed
  · cases parsed
  · rename_i checked
    cases parsed
    rw [not_or, not_or] at checked
    exact ⟨rfl, eq_true_of_ne_false checked.2.2⟩

/-- No record of an accepted definition by identifier carries the marker. -/
theorem define_by_identifier_unmarked (recs : List DynRec)
    (accepted : defineByIdentifier s req reqLen = .ok recs) :
    ∀ r ∈ recs, r.srcDid ≠ udsDynSrcMem := by
  intro r member
  unfold defineByIdentifier at accepted
  split at accepted
  · cases accepted
  · obtain ⟨bytes, parsed⟩ := (scratch_records_parsed _ _ _ _ recs accepted).2 r member
    exact identifier_record_unmarked s bytes r parsed

/-- Every record of an accepted definition by address is readable. -/
theorem define_by_memory_readable (recs : List DynRec)
    (accepted : defineByMemoryAddress req reqLen = .ok recs) :
    ∀ r ∈ recs, r.srcDid = udsDynSrcMem ∧ memReadable r.srcAddr r.size = true := by
  intro r member
  unfold defineByMemoryAddress at accepted
  simp only at accepted
  split at accepted
  · cases accepted
  · split at accepted
    · cases accepted
    · split at accepted
      · cases accepted
      · obtain ⟨bytes, parsed⟩ := (scratch_records_parsed _ _ _ _ recs accepted).2 r member
        exact memory_record_readable _ _ bytes r parsed

/-- The records of raw memory in a table. -/
def Readable (dyn : List DynSlot) : Prop :=
  ∀ slot ∈ dyn, ∀ r ∈ slot.recs, r.srcDid = udsDynSrcMem → memReadable r.srcAddr r.size = true

/-- A slot may be replaced by one whose raw records are readable. -/
theorem Readable.set {dyn : List DynSlot} (readable : Readable dyn) (i : Nat) (slot : DynSlot)
    (fresh : ∀ r ∈ slot.recs, r.srcDid = udsDynSrcMem → memReadable r.srcAddr r.size = true) :
    Readable (dyn.set i slot) := by
  intro other member
  rcases List.mem_or_eq_of_mem_set member with kept | rfl
  · exact readable other kept
  · exact fresh

/-- Whatever a request does to the slots, their raw records stay readable. -/
theorem change_readable (s' : App) (change : Change s now req reqLen s')
    (readable : Readable s.dyn) : Readable s'.dyn := by
  cases change with
  | session t => cases t <;> exact readable
  | undefined i => exact readable.set i {} fun r member => absurd member List.not_mem_nil
  | defined i did recs opened inside slot checked =>
    apply readable.set i ⟨did, recs⟩
    intro r member marked
    rcases checked with identifier | memory
    · exact absurd marked (define_by_identifier_unmarked s req reqLen recs identifier r member)
    · exact (define_by_memory_readable req reqLen recs memory r member).2
  | _ => exact readable

end Handlers

end ObdSimulator.UdsService

/-! ## What the accesses depend on is kept -/

namespace ObdSimulator.Safe.Sound

open AppMain UdsService NorFlash

/-- The application starts with an empty table of slots and its own VIN. -/
theorem initial (boot ready : Nat) : Sound (appInit boot ready) where
  vin := Nat.le_of_ble_eq_true rfl
  table := rfl
  readable := by
    intro slot member r within
    rw [List.eq_of_mem_replicate member] at within
    cases within

variable {s : App} (sound : Sound s) (mem : Memory) (now : Nat)

include sound

/-- A request keeps all three. -/
theorem serve (req : List UInt8) (reqLen : Nat) :
    Sound (UdsService.serve mem s now req reqLen).1 where
  vin := serve_vin mem s now req reqLen sound.vin
  table := (serve_operated mem s now req reqLen).table_length.trans sound.table
  readable := change_readable s now req reqLen _ (serve_change mem s now req reqLen) sound.readable

/-- Restarting the session timer changes none of the three. -/
theorem stamped : Sound (UdsService.stamped s now) := ⟨sound.vin, sound.table, sound.readable⟩

/-- The dispatcher keeps what its services keep. -/
theorem dispatch (req : List UInt8) (reqLen : Nat) (addr : AddrType) :
    Sound (UdsService.udsDispatchRequest mem s now req reqLen addr).1 := by
  unfold UdsService.udsDispatchRequest
  split
  · exact sound
  · exact (sound.stamped now).serve mem now req reqLen

/-- The rest of the loop keeps the bounds as well. -/
theorem work (k : Work) : Sound (k.run mem s now).1 := by
  cases k with
  | simulate =>
    have length := operate_table_length s.faults (.input (.update (obd2UpdateSimValues s.sim)))
    exact ⟨sound.vin, length.trans sound.table, sound.readable⟩
  | periodicTick => exact ⟨sound.vin, sound.table, sound.readable⟩
  | sessionTick stamp =>
    simp only [Work.run, expireSession]
    split
    · exact ⟨sound.vin, sound.table, sound.readable⟩
    · exact sound

/-- Every call leaves the application sound. -/
theorem step (i : Input) : Sound (AppMain.step mem s i).1 := by
  cases i with
  | request now req reqLen addr => exact sound.dispatch mem now req reqLen addr
  | work now k => exact sound.work mem now k
  | boot now ready => exact initial now ready

omit sound in
/-- In every reachable state the accesses can rely on it. -/
theorem reachable (boot ready : Nat) (calls : List (Memory × Input)) :
    Sound (Run.final (Run.opened AppMain.step) (appInit boot ready) calls) := by
  apply Run.final_of_kept
  · intro s call sound
    exact sound.step call.1 call.2
  · exact initial boot ready

end ObdSimulator.Safe.Sound

/-! ## Both dispatchers stay inside their buffers -/

namespace ObdSimulator

open NorFlash

/-- A run of a dispatcher over a buffer of which `reqLen` bytes are the request: what
it reads and writes, how long the response is, and that nothing behind the request
matters. -/
structure Contained (mem : Memory) (rx : List UInt8) (reqLen : Nat) {α : Type} (p : Handler α)
    (v : α) (response : List UInt8) : Prop where
  reads : ∀ i, Access.request i ∈ p.asked (buffers mem rx) → i < reqLen
  writes : ∀ i b, Access.response i b ∈ p.asked (buffers mem rx) → i < UdsService.udsMaxResponseSize
  length : response.length ≤ UdsService.udsMaxResponseSize
  value : p.value (buffers mem rx) = v
  stale : ∀ rx', rx'.take reqLen = rx.take reqLen → p.value (buffers mem rx') = v

/-- Buffers with the same request look the same to a handler that stays inside. -/
theorem buffers_agree (mem : Memory) (rx rx' : List UInt8) (reqLen : Nat)
    (same : rx'.take reqLen = rx.take reqLen) :
    ∀ a : Access, a.Inside reqLen → buffers mem rx' a = buffers mem rx a
  | .request i, inside => by
    change Bytes.byte rx' i = Bytes.byte rx i
    rw [← Bytes.byte_take rx' reqLen i inside, same, Bytes.byte_take rx reqLen i inside]
  | .response _ _, _ => rfl
  | .memory _ _, _ => rfl

/-- A handler that meets its specification inside the buffers is contained. -/
theorem contained_of_meets {mem : Memory} {rx : List UInt8} {reqLen : Nat} {α : Type}
    {p : Handler α} {v : α} {response : α → List UInt8}
    (meets : p.Meets (buffers mem rx) (Access.Inside reqLen)
      (fun v => (response v).length ≤ UdsService.udsMaxResponseSize) v) :
    Contained mem rx reqLen p v (response v) where
  reads := fun _ asked => meets.asks _ asked
  writes := fun _ _ asked => meets.asks _ asked
  length := meets.good
  value := meets.value
  stale := fun rx' same => (meets.unseen (buffers_agree mem rx rx' reqLen same)).value

/-- No handler reads past the request or writes past the response: in every reachable
state of the application and every state of the bootloader, whatever the request. -/
theorem dispatchers_stay_inside (boot ready : Nat) (calls : List (Memory × AppMain.Input))
    (server : BlUds.Server) (mem : Memory) (now : Nat) (rx : List UInt8) (reqLen : Nat)
    (addr : AddrType) (room : reqLen ≤ rx.length) :
    let s := Run.final (Run.opened AppMain.step) (UdsService.appInit boot ready) calls
    Contained mem rx reqLen (Handler.udsDispatchRequest s now reqLen addr)
        (UdsService.udsDispatchRequest mem s now rx reqLen addr)
        (UdsService.udsDispatchRequest mem s now rx reqLen addr).2 ∧
      Contained mem rx reqLen (BlUds.Handler.udsDispatchRequest server now reqLen addr)
        (BlUds.udsDispatchRequest server now (rx.take reqLen) addr)
        (BlUds.udsDispatchRequest server now (rx.take reqLen) addr).2.response := by
  intro s
  constructor
  · exact contained_of_meets
      (Safe.udsDispatchRequest s now (Safe.Sound.reachable boot ready calls) room addr)
  · have length : (rx.take reqLen).length = reqLen := List.length_take_of_le room
    have same : rx.take reqLen = (rx.take reqLen).take reqLen := by
      rw [List.take_take, Nat.min_self]
    have served : BlUds.Serves mem (rx.take reqLen)
        (BlUds.Handler.udsDispatchRequest server now (rx.take reqLen).length addr)
        (BlUds.udsDispatchRequest server now (rx.take reqLen) addr) :=
      BlUds.Serves.udsDispatchRequest server now addr
    rw [BlUds.Serves, length] at served
    exact contained_of_meets (served.unseen (buffers_agree mem _ rx reqLen same))

/-- A dynamic identifier is read, with stale bytes behind the request. -/
def staleBuffer : List UInt8 := [0x22, 0xF2, 0x00, 0xAA, 0xBB]

/-- The application with one identifier defined over raw memory, for the witness. -/
def definedApp : UdsService.App :=
  Run.final (Run.opened AppMain.step) (UdsService.appInit 0 0) AppMain.definingCalls

/-- The bootloader as it starts, for the witness. -/
def freshServer : BlUds.Server where
  flash := .standard stmFlash AppMain.erasedMemory []

/-- A read of that identifier out of a stale buffer, on both dispatchers. -/
theorem dispatchers_stay_inside_read :
    (UdsService.udsDispatchRequest AppMain.erasedMemory definedApp 0 staleBuffer 3 .physical).2 =
        [0x62, 0xF2, 0x00, 0x57, 0x56, 0x57] ∧
      Contained AppMain.erasedMemory staleBuffer 3
        (Handler.udsDispatchRequest definedApp 0 3 .physical)
        (UdsService.udsDispatchRequest AppMain.erasedMemory definedApp 0 staleBuffer 3 .physical)
        (UdsService.udsDispatchRequest AppMain.erasedMemory definedApp 0 staleBuffer 3
          .physical).2 ∧
      Contained AppMain.erasedMemory staleBuffer 3
        (BlUds.Handler.udsDispatchRequest freshServer 0 3 .physical)
        (BlUds.udsDispatchRequest freshServer 0 (staleBuffer.take 3) .physical)
        (BlUds.udsDispatchRequest freshServer 0 (staleBuffer.take 3) .physical).2.response := by
  refine ⟨by decide +kernel, ?_⟩
  exact dispatchers_stay_inside 0 0 AppMain.definingCalls freshServer AppMain.erasedMemory 0
    staleBuffer 3 .physical (by decide)

end ObdSimulator
