import ObdSimulator.BufferAccess

/-!
# Reads of raw memory

Raw memory is read by ReadMemoryByAddress, by a read of a dynamic identifier and by the
periodic scheduler. The bound is checked once, where a record is defined; the marker in
its source field decides later whether its address is used. The scheduler is written as
a program here too, and what the requests say about the origin of each identifier is
kept next to the table.
-/

namespace ObdSimulator.Handler

open UdsService

/-! ## The periodic scheduler -/

section Scheduler

variable (s : App)

/-- What a due subscription sends. -/
def periodicData (pdid : UInt8) : Handler (List UInt8) :=
  match dynFind s (periodicDid pdid) with
  | none => pure []
  | some slot => dynAssemble s slot

/-- The body of the slot loop of `UDS_PeriodicTick`. -/
def periodicTickSub (p : PeriodicSub) : Handler (PeriodicSub × List (List UInt8)) :=
  if p.divider = 0 then pure (p, [])
  else if p.counter + 1 < p.divider then pure ({ p with counter := p.counter + 1 }, [])
  else do
    let data ← periodicData s p.pdid
    if data = [] then pure ({ p with counter := 0, divider := 0 }, [])
    else pure ({ p with counter := 0 }, [p.pdid :: data])

/-- The slot loop, with the messages it sends. -/
def periodicTickLoop : List PeriodicSub → Handler (List PeriodicSub × List (List UInt8))
  | [] => pure ([], [])
  | p :: rest => do
    let (p, sent) ← periodicTickSub s p
    let (rest, later) ← periodicTickLoop rest
    pure (p :: rest, sent ++ later)

/-- `UDS_PeriodicTick`. -/
def udsPeriodicTick : Handler (App × List (List UInt8)) := do
  let (periodic, sent) ← periodicTickLoop s s.periodic
  pure ({ s with periodic }, sent)

end Scheduler

end ObdSimulator.Handler

namespace ObdSimulator.Safe

open NorFlash UdsService

section Scheduler

variable {mem : Memory} {req : List UInt8} {reqLen : Nat} (s : App) (sound : Sound s)

include sound

/-- The data of a subscription are read through its slot. -/
theorem periodicData (pdid : UInt8) :
    Safe mem req reqLen (Handler.periodicData s pdid) (UdsService.periodicData mem s pdid) := by
  unfold Handler.periodicData UdsService.periodicData
  cases bound : dynFind s (periodicDid pdid) with
  | none => exact .done _
  | some slot => exact dynAssemble s (sound.readable slot (List.mem_of_find?_eq_some bound))

/-- One subscription of a tick reads memory through the data of its slot only. -/
theorem periodicTickSub (p : PeriodicSub) :
    Safe mem req reqLen (Handler.periodicTickSub s p) (UdsService.periodicTickSub mem s p) := by
  apply Program.Meets.ite (fun _ => .done _)
  intro _
  apply Program.Meets.ite (fun _ => .done _)
  intro _
  apply (periodicData s sound p.pdid).bind
  apply Program.Meets.ite
  · intro _
    exact .done _
  · intro _
    exact .done _

/-- The loop over the subscriptions reads memory through their slots only. -/
theorem periodicTickLoop (subs : List PeriodicSub) :
    Safe mem req reqLen (Handler.periodicTickLoop s subs)
      ((subs.map (UdsService.periodicTickSub mem s)).map (·.1),
        (subs.map (UdsService.periodicTickSub mem s)).flatMap (·.2)) := by
  induction subs with
  | nil => exact .done _
  | cons p rest ih =>
    apply (periodicTickSub s sound p).bind
    apply ih.bind
    exact .done _

/-- A tick stays inside the readable regions. -/
theorem udsPeriodicTick :
    Safe mem req reqLen (Handler.udsPeriodicTick s) (UdsService.udsPeriodicTick mem s) := by
  apply (periodicTickLoop s sound s.periodic).bind
  exact .done _

end Scheduler

end ObdSimulator.Safe

/-! ## Regions -/

namespace ObdSimulator.UdsService

open Bytes NorFlash

/-- Every byte of a slice is in flash. -/
def InFlash (addr size : Nat) : Prop :=
  ∀ i < size, udsMemFlashBase ≤ addr + i ∧ addr + i < udsMemFlashEnd

/-- Every byte of a slice is in SRAM. -/
def InSram (addr size : Nat) : Prop :=
  ∀ i < size, udsMemSramBase ≤ addr + i ∧ addr + i < udsMemSramEnd

/-- Every byte of a range inside a region is inside it. -/
theorem in_region_bytes (base last addr size : Nat) (inside : inRegion base last addr size = true) :
    ∀ i < size, base ≤ addr + i ∧ addr + i < last := by
  simp only [inRegion, Bool.and_eq_true, decide_eq_true_eq] at inside
  intro i within
  omega

/-- The check leaves no way around the end of a region, however large address and size are. -/
theorem mem_readable_region (addr size : Nat) (readable : memReadable addr size = true) :
    InFlash addr size ∨ InSram addr size := by
  rcases Bool.or_eq_true_iff.mp readable with flash | sram
  · exact Or.inl (in_region_bytes _ _ addr size flash)
  · exact Or.inr (in_region_bytes _ _ addr size sram)

/-- A call comes to `v`, and fetches slices of flash and of SRAM only. -/
structure Fetches (mem : Memory) (rx : List UInt8) {α : Type} (p : Handler α) (v : α) : Prop where
  value : p.value (buffers mem rx) = v
  slices : ∀ addr size, Access.memory addr size ∈ p.asked (buffers mem rx) →
    InFlash addr size ∨ InSram addr size

/-- A handler that meets its specification fetches inside the regions only. -/
theorem fetches_of_meets {mem : Memory} {rx : List UInt8} {reqLen : Nat} {α : Type}
    {good : α → Prop} {p : Handler α} {v : α}
    (meets : p.Meets (buffers mem rx) (Access.Inside reqLen) good v) : Fetches mem rx p v where
  value := meets.value
  slices := fun addr size asked => mem_readable_region addr size (meets.asks _ asked)

/-! ## Records of identifiers are no raw memory -/

/-- Records without the marker are put together without any access. -/
theorem assemble_quiet (s : App) (slot : DynSlot) (env : ∀ a : Access, a.Reply)
    (unmarked : ∀ r ∈ slot.recs, r.srcDid ≠ udsDynSrcMem) :
    (Handler.dynAssemble s slot).asked env = [] := by
  have data (r : DynRec) (other : r.srcDid ≠ udsDynSrcMem) :
      (Handler.dynRecData s r).asked env = [] := by
    rw [Handler.dynRecData, if_neg other]
    cases resolveSource s r.srcDid with
    | none => rfl
    | some source =>
      simp only
      split <;> rfl
  have loop (recs : List DynRec) (out : List UInt8)
      (others : ∀ r ∈ recs, r.srcDid ≠ udsDynSrcMem) :
      (Handler.dynAssembleLoop s out recs).asked env = [] := by
    induction recs generalizing out with
    | nil => rfl
    | cons r rest ih =>
      rw [Handler.dynAssembleLoop]
      split
      · rfl
      · rw [Program.asked_bind, data r (others r List.mem_cons_self), List.nil_append]
        cases (Handler.dynRecData s r).value env with
        | none => rfl
        | some bytes => exact ih _ fun other member => others other (List.mem_cons_of_mem _ member)
  rw [Handler.dynAssemble, Program.asked_bind, loop slot.recs [] unmarked]
  rfl

/-- Which sub-function defined each identifier. -/
abbrev Origins := UInt16 → Option UInt8

/-- The records fit the sub-function that defined them: a source identifier never reads
as the marker of raw memory. -/
def Sourced (m : Bindings) (o : Origins) : Prop :=
  ∀ did recs, m did = some recs → ∃ sub, o did = some sub ∧
    ∀ r ∈ recs, sub = 0x01 ↔ r.srcDid ≠ udsDynSrcMem

/-- A record that is spelled out by identifier is none of readable memory: its address
would be zero, which is in no region. -/
theorem identifier_fields_unmarked (data : List UInt8)
    (readable : (identifierFields data).srcDid = udsDynSrcMem →
      memReadable (identifierFields data).srcAddr (identifierFields data).size = true) :
    (identifierFields data).srcDid ≠ udsDynSrcMem := by
  intro marked
  -- A source identifier leaves the address field zero, which is in no region.
  have no_memory : memReadable 0 (identifierFields data).size = false := rfl
  exact absurd ((readable marked).symm.trans no_memory) Bool.true_eq_false.mp

/-- What a request and its answer say about the origins, next to `effect`. -/
def originEffect (o : Origins) (req : List UInt8) (positive : Bool) : Origins :=
  if byte req 0 = udsSidDynamicDefineDid ∧ positive = true then
    Function.update o (requestedDid req)
      (if subFunction (byte req 1) = 0x03 then none else some (subFunction (byte req 1)))
  else o

/-- The sub-function tells which kind every requested record is. -/
theorem requested_sourced (req : List UInt8) (reqLen : Nat) (r : DynRec)
    (member : r ∈ requestedRecords req reqLen)
    (readable : r.srcDid = udsDynSrcMem → memReadable r.srcAddr r.size = true) :
    subFunction (byte req 1) = 0x01 ↔ r.srcDid ≠ udsDynSrcMem := by
  unfold requestedRecords at member
  by_cases sub : subFunction (byte req 1) = 0x01
  · rw [if_pos sub] at member
    obtain ⟨i, _, rfl⟩ := List.mem_map.mp member
    exact iff_of_true sub (identifier_fields_unmarked _ readable)
  · rw [if_neg sub] at member
    obtain ⟨i, _, rfl⟩ := List.mem_map.mp member
    exact iff_of_false sub fun other => other rfl

/-- A definition keeps the origins in step with the bindings. -/
theorem Sourced.effect {m : Bindings} {o : Origins} (sourced : Sourced m o) (req : List UInt8)
    (reqLen : Nat) (positive : Bool)
    (readable : ∀ did recs, effect m req reqLen positive did = some recs → ∀ r ∈ recs,
      r.srcDid = udsDynSrcMem → memReadable r.srcAddr r.size = true) :
    Sourced (effect m req reqLen positive) (originEffect o req positive) := by
  by_cases defines : byte req 0 = udsSidDynamicDefineDid ∧ positive = true
  swap
  · rw [UdsService.effect, originEffect, if_neg defines, if_neg defines]
    exact sourced
  intro did recs bound
  have checked := readable did recs bound
  rw [UdsService.effect, if_pos defines] at bound
  rw [originEffect, if_pos defines]
  by_cases other : did ≠ requestedDid req
  · rw [Function.update_of_ne other] at bound ⊢
    exact sourced did recs bound
  rw [not_not] at other
  subst other
  rw [Function.update_self] at bound ⊢
  by_cases removes : subFunction (byte req 1) = 0x03
  · rw [if_pos removes] at bound
    cases bound
  · rw [if_neg removes] at bound ⊢
    cases bound
    exact ⟨_, rfl, fun r member => requested_sourced req reqLen r member (checked r member)⟩

end ObdSimulator.UdsService

/-! ## Every run -/

namespace ObdSimulator.AppMain

open Bytes NorFlash UdsService

/-- What a call and its answer say about the origins. A reset forgets them. -/
def origin (o : Origins) : Input × List Event → Origins
  | (.boot _ _, _) => fun _ => none
  | (.request _ req reqLen addr, [.answered _ _ response]) =>
    originEffect o req (accepted req reqLen addr response)
  | _ => o

/-- The table with its map and its origins, after the calls of the past. -/
structure Known (past : List (Input × List Event)) (s : App) : Prop where
  sound : Safe.Sound s
  table : Table s.dyn ∧ bindings s.dyn = past.foldl observe fun _ => none
  sourced : Sourced (bindings s.dyn) (past.foldl origin fun _ => none)

/-- Nothing is defined at the start. -/
theorem known_initial (boot ready : Nat) : Known [] (appInit boot ready) where
  sound := .initial boot ready
  table := ⟨table_empty, bindings_empty⟩
  sourced := by
    intro did recs bound
    have unbound : bindings (appInit boot ready).dyn did = none := congrFun bindings_empty did
    rw [unbound] at bound
    cases bound

/-- Bound records of raw memory are readable. -/
theorem bindings_readable (s : App) (sound : Safe.Sound s) (did : UInt16) (recs : List DynRec)
    (bound : bindings s.dyn did = some recs) :
    ∀ r ∈ recs, r.srcDid = udsDynSrcMem → memReadable r.srcAddr r.size = true := by
  obtain ⟨slot, member, _, _, rfl⟩ := bindings_some s.dyn did recs bound
  exact sound.readable slot member

/-- Every call keeps the account of what was defined and how. -/
theorem Known.step {past : List (Input × List Event)} {s : App} (known : Known past s)
    (call : Memory × Input) (received : Received call.2) :
    Known (past ++ (converse s call).2) (converse s call).1 := by
  have table := converse_table past s call known.table received
  have sound : Safe.Sound (converse s call).1 := known.sound.step call.1 call.2
  refine ⟨sound, table, ?_⟩
  have readable := bindings_readable _ sound
  rw [table.2, List.foldl_append, ← known.table.2] at readable ⊢
  rw [List.foldl_append]
  obtain ⟨mem, i⟩ := call
  cases i with
  | request now req reqLen addr => exact known.sourced.effect req reqLen _ readable
  | boot now ready =>
    intro did recs bound
    cases bound
  | work now k => exact known.sourced

/-- Raw memory is read inside flash or inside SRAM, by every request and every tick of the
scheduler in every reachable state. So is what each record of raw memory stands for, and
a record of an identifier is not read as one. -/
theorem memory_reads_stay_inside (boot ready : Nat) (calls : List (Memory × Input))
    (received : ∀ call ∈ calls, Received call.2) :
    let s := Run.final converse (appInit boot ready) calls
    let origins := (Run.trace converse (appInit boot ready) calls).foldl origin fun _ => none
    (∀ (mem : Memory) (now : Nat) (rx : List UInt8) (reqLen : Nat) (addr : AddrType),
      reqLen ≤ rx.length →
      Fetches mem rx (Handler.udsDispatchRequest s now reqLen addr)
        (udsDispatchRequest mem s now rx reqLen addr)) ∧
    (∀ mem : Memory, Fetches mem [] (Handler.udsPeriodicTick s) (udsPeriodicTick mem s)) ∧
    (∀ slot ∈ s.dyn, ∀ r ∈ slot.recs, r.srcDid = udsDynSrcMem →
      InFlash r.srcAddr r.size ∨ InSram r.srcAddr r.size) ∧
    ∀ slot ∈ s.dyn, slot.did ≠ 0 → origins slot.did = some 0x01 →
      (∀ r ∈ slot.recs, r.srcDid ≠ udsDynSrcMem) ∧
        ∀ env : ∀ a : Access, a.Reply, (Handler.dynAssemble s slot).asked env = [] := by
  intro s origins
  have members := Run.along_of_mem converse (fun call => Received call.2) []
    (appInit boot ready) calls received
  have known : Known (Run.trace converse (appInit boot ready) calls) s :=
    Run.invariant_final converse _ Known (fun past s call known => known.step call) []
      (appInit boot ready) calls (known_initial boot ready) members
  refine ⟨?_, ?_, ?_, ?_⟩
  · intro mem now rx reqLen addr room
    exact fetches_of_meets (Safe.udsDispatchRequest s now known.sound room addr)
  · intro mem
    have ticked : Safe mem [] 0 (Handler.udsPeriodicTick s) (udsPeriodicTick mem s) :=
      Safe.udsPeriodicTick s known.sound
    exact fetches_of_meets ticked
  · intro slot member r within raw
    exact mem_readable_region _ _ (known.sound.readable slot member r within raw)
  · intro slot member used identifier
    have bound : bindings s.dyn slot.did = some slot.recs := by
      rw [bindings, SlotMap.lookup_of_mem DynSlot.did 0 s.dyn slot known.table.1.distinct member
        used]
      rfl
    obtain ⟨sub, defined, marked⟩ := known.sourced slot.did slot.recs bound
    cases identifier.symm.trans defined
    have unmarked : ∀ r ∈ slot.recs, r.srcDid ≠ udsDynSrcMem :=
      fun r within => (marked r within).mp rfl
    exact ⟨unmarked, fun env => assemble_quiet s slot env unmarked⟩

/-- In the Extended session, an identifier of three bytes of the VIN and one of eight
bytes at the start of the flash. -/
def mixedCalls : List (Memory × Input) :=
  definingCalls ++
    [(erasedMemory, .request 0 [0x2C, 0x02, 0xF2, 0x01, 0x14, 0x08, 0x00, 0x00, 0x00, 0x08] 10
      .physical)]

/-- The application with one identifier over the bootloader and one over the VIN, for
the witness. -/
def mixedApp : App := Run.final converse (appInit 0 0) mixedCalls

/-- The slot of the first identifier. -/
def vinSlot : DynSlot := ⟨0xF200, [{ srcDid := udsDidVin, position := 1, size := 3 }]⟩

/-- A read of the first and a tick. -/
theorem memory_reads_stay_inside_mixed :
    Fetches erasedMemory [0x22, 0xF2, 0x01] (Handler.udsDispatchRequest mixedApp 0 3 .physical)
        (udsDispatchRequest erasedMemory mixedApp 0 [0x22, 0xF2, 0x01] 3 .physical) ∧
      (InFlash 0x08000000 8 ∨ InSram 0x08000000 8) ∧
      Fetches erasedMemory [] (Handler.udsPeriodicTick mixedApp)
        (udsPeriodicTick erasedMemory mixedApp) ∧
      vinSlot ∈ mixedApp.dyn ∧ ∀ r ∈ vinSlot.recs, r.srcDid ≠ udsDynSrcMem := by
  obtain ⟨requests, ticks, _, unmarked⟩ := memory_reads_stay_inside 0 0 mixedCalls (by decide)
  have read := requests erasedMemory 0 [0x22, 0xF2, 0x01] 3 .physical (by decide)
  have bound : vinSlot ∈ mixedApp.dyn := by decide +kernel
  refine ⟨read, ?_, ticks erasedMemory, bound, ?_⟩
  · exact read.slices _ _ (by decide +kernel)
  · exact (unmarked vinSlot bound (by decide) (by decide +kernel)).1

end ObdSimulator.AppMain
