import ObdSimulator.BlUds
import ObdSimulator.Lib.Run

/-!
# The bootloader as a machine

`bl_main.c`, one decision at a time: the boot gate, one request of the flash
server, the session tick, and the checks at the end of a loop iteration. Power
may be lost after any number of the primitives a request gives the flash; RAM is
then gone and the next input that matters is a boot. A boot may also come at any
other time, with or without the hand-off flag. While the application runs, the
flash is not touched.

A step emits what happened, in order: the request, the acceptance of an image by
CheckMemory, every flash primitive, and the answer before its suppression.
-/

namespace ObdSimulator.Bootloader

open NorFlash BlUds

/-- Which part of the device runs. -/
inductive Mode where
  | server
  | app
  | off
deriving DecidableEq, Repr

/-- RAM and flash; RAM means something in server mode only. -/
structure State where
  mode : Mode
  uds : Server
  prevSession : SessionType := .default
  resetAt : Nat := 0

/-- What the bootloader's loop is given, a power failure in the midst of a request
included. -/
inductive Input where
  | boot (flag : Bool) (now ready : Nat)
  | request (now : Nat) (r : Request) (addr : AddrType)
  /-- The request is cut after its first `primitives` flash primitives. -/
  | cut (now : Nat) (r : Request) (addr : AddrType) (primitives : Nat)
  | tick (now stamp : Nat)
  | check (now : Nat)

/-- What a step does that its history is about. -/
inductive Event where
  | received (request : List UInt8)
  /-- CheckMemory accepted an image of this version. -/
  | checked (version : Nat)
  | flash (e : NorFlash.Event)
  | answered (request response : List UInt8)
  | enteredDefault
deriving DecidableEq

/-! ## Steps -/

/-- The server is up; `now` and `ready` are the ticks of the session's
initialisation and of the end of the start-up. -/
def serverUp (flash : Device) (now ready : Nat) : Server where
  session := diagSessionMarkBootReady (diagSessionInit {} now) ready
  flash := flash

/-- The boot gate, and the server where it does not jump. -/
def boot (flash : Device) (flag : Bool) (now ready : Nat) : State :=
  let up := serverUp flash now ready
  match bootGate flag flash.mem with
  | .jump => { mode := .app, uds := { flash } }
  | .stay => { mode := .server, uds := up }
  | .stayProgramming =>
    { mode := .server, prevSession := .programming,
      uds := { up with session := diagSessionEnter up.session ready .programming } }

/-- The server with an empty primitive log. -/
def fresh (s : Server) : Server := { s with flash := { s.flash with log := [] } }

/-- The acceptance a command is. -/
def checkedEvents : Option Command → List Event
  | some (.checkMemory _ version _) => [.checked version.toNat]
  | _ => []

/-- A confirmed return to Default is an event of its own. -/
def defaultEvents (response : List UInt8) : List Event :=
  if response = sessionResponse 0x01 then [.enteredDefault] else []

/-- A request served to its end. -/
def serveStep (b : State) (now : Nat) (request : List UInt8) (addr : AddrType) :
    State × List Event :=
  let served := serveRequest (fresh b.uds) now request addr
  ({ b with uds := served.1 },
    .received request :: checkedEvents (command b.uds request addr) ++
      served.1.flash.log.map .flash ++
      .answered request served.2.response :: defaultEvents served.2.response)

/-- A request cut after some of its primitives. -/
def cutStep (b : State) (now : Nat) (request : List UInt8) (addr : AddrType) (primitives : Nat) :
    State × List Event :=
  let served := serveRequest (fresh b.uds) now request addr
  let done := served.1.flash.log.take primitives
  ({ mode := .off,
     uds := { flash := { served.1.flash with
       mem := replay stmFlash b.uds.flash.mem done
       faults := b.uds.flash.faults.drop done.length } } },
    .received request :: checkedEvents (command b.uds request addr) ++ done.map .flash)

/-- The session-change check, the reset handshake and the self-heal rule. -/
def checkStep (b : State) (now : Nat) : State :=
  let session := diagSessionGet b.uds.session
  let uds := if session ≠ b.prevSession ∧ session = .default then resetTransfer b.uds else b.uds
  let b := { b with uds, prevSession := session }
  if b.uds.resetPending = true ∧ b.resetAt ≠ 0 ∧ tickSub now b.resetAt < 2 ^ 31 then
    { b with mode := .off }
  else
    let b := if b.uds.resetPending = true ∧ b.resetAt = 0 then
      { b with resetAt := u32 (now + 200) } else b
    if session = .default ∧ blAppCrcOk b.uds.flash.mem = true then { b with mode := .app } else b

/-- One step of the bootloader. -/
def step (b : State) : Input → State × List Event
  | .boot flag now ready => (boot b.uds.flash flag now ready, [])
  | .request now r addr =>
    match b.mode with
    | .server => serveStep b now r.1 addr
    | _ => (b, [])
  | .cut now r addr primitives =>
    match b.mode with
    | .server => cutStep b now r.1 addr primitives
    | _ => ({ b with mode := .off }, [])
  | .tick now stamp =>
    match b.mode with
    | .server =>
      ({ b with uds := { b.uds with session := diagSessionTick b.uds.session now stamp } },
        if diagSessionExpired b.uds.session now then [.enteredDefault] else [])
    | _ => (b, [])
  | .check now =>
    match b.mode with
    | .server => (checkStep b now, [])
    | _ => (b, [])

/-- The first boot over a given flash. -/
def powerUp (flash : Device) (flag : Bool) (now ready : Nat) : State := boot flash flag now ready

/-! ## History -/

/-- Memory after an event. -/
def memoryStep (mem : Memory) : Event → Memory
  | .flash e => NorFlash.Event.apply stmFlash mem e
  | _ => mem

/-- Memory after a list of events over an initial memory. -/
def memoryAfter (mem : Memory) (events : List Event) : Memory := events.foldl memoryStep mem

/-- A primitive's interval meets the application slot. -/
def touchesSlot : Op → Bool
  | .erase page => decide (stmFlash.pageStart page < metaBase) &&
      decide (appBase < stmFlash.pageStart page + flashPageSize)
  | .program addr word => decide (addr < metaBase) && decide (appBase < addr + word.length)

/-- The command of an input, in server mode. -/
def commanded (b : State) : Input → Option Command
  | .request _ r addr => if b.mode = .server then command b.uds r.1 addr else none
  | .cut _ r addr _ => if b.mode = .server then command b.uds r.1 addr else none
  | _ => none

/-- An input lets at least one primitive happen. -/
def reachesFlash : Input → Bool
  | .request _ _ _ => true
  | .cut _ _ _ primitives => decide (0 < primitives)
  | _ => false

/-- Neither a primitive nor an acceptance nor a positive download answer. -/
def Quiet : Event → Prop
  | .flash _ => False
  | .checked _ => False
  | .answered _ response => Bytes.byte response 0 ∉ downloadAnswers
  | _ => True

/-- Primitives leave the memory that their replay does. -/
theorem memory_after_flash (mem : Memory) (prims : List NorFlash.Event) :
    memoryAfter mem (prims.map .flash) = replay stmFlash mem prims := by
  rw [memoryAfter, List.foldl_map]
  rfl

/-- The memory goes on from where it was. -/
theorem memory_after_append (mem : Memory) (before after : List Event) :
    memoryAfter mem (before ++ after) = memoryAfter (memoryAfter mem before) after := by
  simp [memoryAfter]

/-- Events other than primitives leave the memory as it was. -/
theorem memory_after_inert (mem : Memory) (events : List Event)
    (inert : ∀ e ∈ events, ∀ prim, e ≠ .flash prim) : memoryAfter mem events = mem := by
  induction events generalizing mem with
  | nil => rfl
  | cons e rest ih =>
    have here : memoryStep mem e = mem := by
      cases e with
      | flash prim => exact absurd rfl (inert _ List.mem_cons_self prim)
      | _ => rfl
    rw [memoryAfter, List.foldl_cons, here]
    exact ih mem (fun f member => inert f (List.mem_cons_of_mem _ member))

/-! ## What a step does -/

/-- After a step without a command the memory is the same, and the transfer is
the same, closed, or gone. -/
structure Rests (b b' : State) : Prop where
  mem : b'.uds.flash.mem = b.uds.flash.mem
  accepts : b'.uds.flash.accepts = b.uds.flash.accepts
  faults : b'.uds.flash.faults = b.uds.flash.faults
  xfer : b'.uds.xfer = {} ∨ b'.uds.savedRollback = b.uds.savedRollback ∧
    (b'.uds.xfer = b.uds.xfer ∨
      (b'.uds.xfer = { b.uds.xfer with closed := true } ∧ b.uds.xfer.active = true ∧
        b.uds.xfer.closed = false))

/-- A bootloader that nothing happened to rests. -/
theorem Rests.same (b : State) : Rests b b := ⟨rfl, rfl, rfl, Or.inr ⟨rfl, Or.inl rfl⟩⟩

/-- A boot keeps the flash and starts without a transfer. -/
theorem boot_fresh (flash : Device) (flag : Bool) (now ready : Nat) :
    (boot flash flag now ready).uds.flash = flash ∧ (boot flash flag now ready).uds.xfer = {} := by
  unfold boot
  cases bootGate flag flash.mem <;> exact ⟨rfl, rfl⟩

/-- A start is no primitive. -/
theorem boot_rests (b : State) (flag : Bool) (now ready : Nat) :
    Rests b (boot b.uds.flash flag now ready) := by
  obtain ⟨flash, xfer⟩ := boot_fresh b.uds.flash flag now ready
  exact ⟨by rw [flash], by rw [flash], by rw [flash], Or.inl xfer⟩

/-- The check of the loop is no primitive. -/
theorem check_step_rests (b : State) (now : Nat) : Rests b (checkStep b now) := by
  unfold checkStep
  simp only
  by_cases dropped : diagSessionGet b.uds.session ≠ b.prevSession ∧
      diagSessionGet b.uds.session = .default
  · simp only [if_pos dropped]
    split
    · exact ⟨rfl, rfl, rfl, Or.inl rfl⟩
    · split <;> split <;> exact ⟨rfl, rfl, rfl, Or.inl rfl⟩
  · simp only [if_neg dropped]
    split
    · exact ⟨rfl, rfl, rfl, Or.inr ⟨rfl, Or.inl rfl⟩⟩
    · split <;> split <;> exact ⟨rfl, rfl, rfl, Or.inr ⟨rfl, Or.inl rfl⟩⟩

/-- A return to Default is no primitive and no check. -/
theorem default_events_quiet (response : List UInt8) :
    ∀ e ∈ defaultEvents response, Quiet e := by
  intro e member
  unfold defaultEvents at member
  split at member
  · rw [List.mem_singleton.mp member]
    trivial
  · cases member

/-- Without a command the server logs no primitive. -/
theorem serve_fresh_idle (s : Server) (now : Nat) (request : List UInt8) (addr : AddrType)
    (idle : command s request addr = none) :
    Idle (fresh s) (serveRequest (fresh s) now request addr).1 ∧
      (serveRequest (fresh s) now request addr).1.flash.log = [] ∧
      Bytes.byte (serveRequest (fresh s) now request addr).2.response 0 ∉ downloadAnswers := by
  obtain ⟨rests, answer⟩ := (serve_request_command (fresh s) now request addr).2 idle
  refine ⟨rests, ?_, answer⟩
  rw [rests.flash]
  rfl

/-- A step without a command rests, and all its events are quiet. -/
theorem step_rests (b : State) (i : Input) (idle : commanded b i = none) :
    Rests b (step b i).1 ∧ ∀ e ∈ (step b i).2, Quiet e := by
  cases i with
  | boot flag now ready => exact ⟨boot_rests b flag now ready, by simp [step]⟩
  | request now r addr =>
    cases mode : b.mode with
    | app => simpa [step, mode] using Rests.same b
    | off => simpa [step, mode] using Rests.same b
    | server =>
      have no_command : command b.uds r.1 addr = none := by simpa [commanded, mode] using idle
      obtain ⟨rests, silent, answer⟩ := serve_fresh_idle b.uds now r.1 addr no_command
      simp only [step, mode, serveStep]
      refine ⟨⟨?_, ?_, ?_, Or.inr ⟨rests.saved, rests.xfer⟩⟩, ?_⟩
      · rw [rests.flash]
        rfl
      · rw [rests.flash]
        rfl
      · rw [rests.flash]
        rfl
      · intro e member
        simp only [no_command, checkedEvents, silent, List.map_nil, List.append_nil,
          List.singleton_append, List.mem_cons] at member
        rcases member with rfl | rfl | later
        · trivial
        · exact answer
        · exact default_events_quiet _ e later
  | cut now r addr primitives =>
    cases mode : b.mode with
    | app =>
      simp only [step, mode]
      exact ⟨⟨rfl, rfl, rfl, Or.inr ⟨rfl, Or.inl rfl⟩⟩, by simp⟩
    | off =>
      simp only [step, mode]
      exact ⟨⟨rfl, rfl, rfl, Or.inr ⟨rfl, Or.inl rfl⟩⟩, by simp⟩
    | server =>
      have no_command : command b.uds r.1 addr = none := by simpa [commanded, mode] using idle
      obtain ⟨rests, silent, _⟩ := serve_fresh_idle b.uds now r.1 addr no_command
      simp only [step, mode, cutStep, silent, List.take_nil]
      refine ⟨⟨rfl, ?_, rfl, Or.inl rfl⟩, ?_⟩
      · simp only
        rw [rests.flash]
        rfl
      · intro e member
        simp only [no_command, checkedEvents, List.map_nil, List.append_nil,
          List.mem_singleton] at member
        rw [member]
        trivial
  | tick now stamp =>
    cases mode : b.mode with
    | app => simpa [step, mode] using Rests.same b
    | off => simpa [step, mode] using Rests.same b
    | server =>
      simp only [step, mode]
      refine ⟨⟨rfl, rfl, rfl, Or.inr ⟨rfl, Or.inl rfl⟩⟩, ?_⟩
      intro e member
      split at member
      · rw [List.mem_singleton.mp member]
        trivial
      · cases member
  | check now =>
    cases mode : b.mode with
    | app => simpa [step, mode] using Rests.same b
    | off => simpa [step, mode] using Rests.same b
    | server => simpa [step, mode] using check_step_rests b now

/-! ## Commanded steps -/

/-- The primitives an input lets happen, out of those its request gives the
flash. -/
def reached (i : Input) (prims : List NorFlash.Event) : List NorFlash.Event :=
  match i with
  | .cut _ _ _ primitives => prims.take primitives
  | _ => prims

/-- The request an input delivers. -/
def delivered : Input → List UInt8
  | .request _ r _ => r.1
  | .cut _ r _ _ => r.1
  | _ => []

/-- What follows the primitives of a request: its answer, unless it was cut. -/
def answerEvents (i : Input) (response : List UInt8) : List Event :=
  match i with
  | .request _ r _ => .answered r.1 response :: defaultEvents response
  | _ => []

/-- Memory and device after the primitives that happened. -/
structure Outcome (b b' : State) (prims : List NorFlash.Event) : Prop where
  mem : b'.uds.flash.mem = replay stmFlash b.uds.flash.mem prims
  accepts : b'.uds.flash.accepts = b.uds.flash.accepts
  faults : b'.uds.flash.faults = b.uds.flash.faults.drop prims.length

/-- The transfer a step leaves: a request keeps RAM, a cut loses it. -/
def Leaves (i : Input) (b' : State) (x : Transfer) (saved : UInt32) : Prop :=
  match i with
  | .request _ _ _ => b'.uds.xfer = x ∧ b'.uds.savedRollback = saved
  | _ => b'.uds.xfer = {}

/-- The events of a commanded step. -/
def commandEvents (i : Input) (c : Command) (prims : List NorFlash.Event)
    (response : List UInt8) : List Event :=
  .received (delivered i) :: checkedEvents (some c) ++ prims.map .flash ++ answerEvents i response

/-- A request is commanded while the server runs. -/
theorem commanded_server (b : State) (now : Nat) (r : Request) (addr : AddrType) (c : Command)
    (cmd : commanded b (.request now r addr) = some c) :
    b.mode = .server ∧ command b.uds r.1 addr = some c := by
  simp only [commanded] at cmd
  split at cmd
  · rename_i server
    exact ⟨server, cmd⟩
  · cases cmd

/-- A commanded input delivers a request of the command's service. -/
theorem commanded_sid (b : State) (i : Input) (c : Command) (cmd : commanded b i = some c) :
    Bytes.byte (delivered i) 0 = c.sid := by
  cases i with
  | request now r addr =>
    exact command_sid b.uds r.1 addr c (commanded_server b now r addr c cmd).2
  | cut now r addr primitives =>
    exact command_sid b.uds r.1 addr c (commanded_server b now r addr c cmd).2
  | _ => cases cmd

/-- The command of an input came from a request that passed its checks. -/
theorem commanded_fits (b : State) (i : Input) (c : Command) (cmd : commanded b i = some c)
    (bounded : b.uds.xfer.Bounded) : c.Fits b.uds (delivered i) := by
  cases i with
  | request now r addr =>
    exact command_fits b.uds r.1 addr c bounded r.2 (commanded_server b now r addr c cmd).2
  | cut now r addr primitives =>
    exact command_fits b.uds r.1 addr c bounded r.2 (commanded_server b now r addr c cmd).2
  | boot flag now ready => cases cmd
  | tick now stamp => cases cmd
  | check now => cases cmd

/-- A commanded step runs its command on the fresh server, up to the cut. -/
theorem step_outcome (b : State) (i : Input) (c : Command) (cmd : commanded b i = some c)
    (spec : ∀ now, ∃ prims, (stamped (fresh b.uds) now).flash.Ran stmFlash prims
      (c.run (stamped (fresh b.uds) now)).1.flash) :
    ∃ now, Outcome b (step b i).1
        (reached i (c.run (stamped (fresh b.uds) now)).1.flash.log) ∧
      (step b i).2 = commandEvents i c
        (reached i (c.run (stamped (fresh b.uds) now)).1.flash.log)
        (c.run (stamped (fresh b.uds) now)).2.response ∧
      Leaves i (step b i).1 (c.run (stamped (fresh b.uds) now)).1.xfer
        (c.run (stamped (fresh b.uds) now)).1.savedRollback := by
  cases i with
  | request now r addr =>
    obtain ⟨server, is_command⟩ := commanded_server b now r addr c cmd
    have served := (serve_request_command (fresh b.uds) now r.1 addr).1 c is_command
    obtain ⟨prims, ran⟩ := spec now
    have log : (c.run (stamped (fresh b.uds) now)).1.flash.log = prims := ran.log
    refine ⟨now, ⟨?_, ?_, ?_⟩, ?_, ?_⟩
    · simp only [step, server, serveStep, served, reached, log]
      exact ran.mem
    · simp only [step, server, serveStep, served]
      exact ran.accepts
    · simp only [step, server, serveStep, served, reached, log]
      exact ran.faults
    · simp only [step, server, serveStep, served, is_command]
      rfl
    · simp only [step, server, serveStep, served]
      exact ⟨rfl, rfl⟩
  | cut now r addr primitives =>
    obtain ⟨server, is_command⟩ := commanded_server b now r addr c cmd
    have served := (serve_request_command (fresh b.uds) now r.1 addr).1 c is_command
    obtain ⟨prims, ran⟩ := spec now
    refine ⟨now, ⟨?_, ?_, ?_⟩, ?_, ?_⟩
    · simp only [step, server, cutStep, served, reached]
    · simp only [step, server, cutStep, served]
      exact ran.accepts
    · simp only [step, server, cutStep, served, reached]
    · simp [step, server, cutStep, served, is_command, commandEvents, reached, answerEvents,
        delivered]
    · simp only [step, server, cutStep, served]
      rfl
  | boot flag now ready => cases cmd
  | tick now stamp => cases cmd
  | check now => cases cmd

/-- A commanded step, where the run of the command on the fresh server is known: its
primitives with their verdict, and what the verdict makes of response and transfer. -/
theorem step_ran (b : State) (i : Input) (c : Command) (cmd : commanded b i = some c)
    (judged : List NorFlash.Event → Bool → Prop) (response : Bool → List UInt8)
    (xfer : Bool → Transfer) (saved : UInt32)
    (runs : ∀ now, ∃ prims ok, judged prims ok ∧
      (stamped (fresh b.uds) now).flash.Ran stmFlash prims
        (c.run (stamped (fresh b.uds) now)).1.flash ∧
      (c.run (stamped (fresh b.uds) now)).2.response = response ok ∧
      (c.run (stamped (fresh b.uds) now)).1.xfer = xfer ok ∧
      (c.run (stamped (fresh b.uds) now)).1.savedRollback = saved) :
    ∃ prims ok, judged prims ok ∧ Outcome b (step b i).1 (reached i prims) ∧
      (step b i).2 = commandEvents i c (reached i prims) (response ok) ∧
      Leaves i (step b i).1 (xfer ok) saved := by
  obtain ⟨now, outcome, events, leaves⟩ := step_outcome b i c cmd (by
    intro now
    obtain ⟨prims, _, _, ran, _⟩ := runs now
    exact ⟨prims, ran⟩)
  obtain ⟨prims, ok, holds, ran, answered, left, carried⟩ := runs now
  have log : (c.run (stamped (fresh b.uds) now)).1.flash.log = prims := ran.log
  rw [log] at outcome
  rw [log, answered] at events
  rw [left, carried] at leaves
  exact ⟨prims, ok, holds, outcome, events, leaves⟩

/-- The reply code of a failed command of a service. -/
def failure (sid : UInt8) : List UInt8 := nrc sid nrcGeneralProgrammingFailure

/-- An accepted download request attempts its primitives in order, up to the
first fault or the cut. -/
theorem step_download (b : State) (i : Input) (size : Nat)
    (cmd : commanded b i = some (.requestDownload size))
    (standard : b.uds.flash.accepts = writable stmFlash) (bounded : b.uds.xfer.Bounded) :
    ∃ ops ok, ops = downloadOps (blMetaRollbackCounter b.uds.flash.mem) size ∧
      ok = decide (completed ops.length b.uds.flash.faults = ops.length) ∧
      Outcome b (step b i).1 (reached i (attempted ops b.uds.flash.faults)) ∧
      (step b i).2 = commandEvents i (.requestDownload size)
        (reached i (attempted ops b.uds.flash.faults))
        (if ok then requestDownloadResponse else failure udsSidRequestDownload) ∧
      Leaves i (step b i).1 (if ok then ⟨true, false, size, 0, 1⟩ else b.uds.xfer)
        (blMetaRollbackCounter b.uds.flash.mem) := by
  have fits := commanded_fits b i _ cmd bounded
  obtain ⟨prims, ok, ⟨same, completes⟩, rest⟩ := step_ran b i _ cmd
    (fun prims ok =>
      prims = attempted (downloadOps (blMetaRollbackCounter b.uds.flash.mem) size)
        b.uds.flash.faults ∧
      ok = decide (completed (downloadOps (blMetaRollbackCounter b.uds.flash.mem) size).length
        b.uds.flash.faults = (downloadOps (blMetaRollbackCounter b.uds.flash.mem) size).length))
    (fun ok => if ok then requestDownloadResponse else failure udsSidRequestDownload)
    (fun ok => if ok then ⟨true, false, size, 0, 1⟩ else b.uds.xfer)
    (blMetaRollbackCounter b.uds.flash.mem) (by
      intro now
      obtain ⟨flash, ok, tries, result⟩ := request_download_attempts (stamped (fresh b.uds) now)
        size standard fits.2
      refine ⟨_, ok, ⟨rfl, tries.ok⟩, ?_⟩
      rw [Command.run, result]
      cases ok with
      | false => exact ⟨tries.ran, rfl, rfl, rfl⟩
      | true => exact ⟨tries.ran, rfl, rfl, rfl⟩)
  subst same
  exact ⟨_, ok, rfl, completes, rest⟩

/-- An accepted CheckMemory attempts its meta rewrite, up to the first fault or
the cut. -/
theorem step_check_memory (b : State) (i : Input) (sub : UInt8) (version crc : UInt32)
    (cmd : commanded b i = some (.checkMemory sub version crc))
    (standard : b.uds.flash.accepts = writable stmFlash) :
    ∃ ops ok, ops = metaOps (validMeta version crc b.uds.xfer.written) ∧
      ok = decide (completed ops.length b.uds.flash.faults = ops.length) ∧
      Outcome b (step b i).1 (reached i (attempted ops b.uds.flash.faults)) ∧
      (step b i).2 = commandEvents i (.checkMemory sub version crc)
        (reached i (attempted ops b.uds.flash.faults))
        (if ok then checkMemoryResponse sub crc else failure udsSidRoutineControl) ∧
      Leaves i (step b i).1 (if ok then { b.uds.xfer with active := false } else b.uds.xfer)
        b.uds.savedRollback := by
  obtain ⟨prims, ok, ⟨same, completes⟩, rest⟩ := step_ran b i _ cmd
    (fun prims ok =>
      prims = attempted (metaOps (validMeta version crc b.uds.xfer.written)) b.uds.flash.faults ∧
      ok = decide (completed (metaOps (validMeta version crc b.uds.xfer.written)).length
        b.uds.flash.faults = (metaOps (validMeta version crc b.uds.xfer.written)).length))
    (fun ok => if ok then checkMemoryResponse sub crc else failure udsSidRoutineControl)
    (fun ok => if ok then { b.uds.xfer with active := false } else b.uds.xfer)
    b.uds.savedRollback (by
      intro now
      obtain ⟨flash, ok, tries, result⟩ := check_memory_attempts (stamped (fresh b.uds) now) sub
        version crc standard
      refine ⟨_, ok, ⟨rfl, tries.ok⟩, ?_⟩
      rw [Command.run, result]
      cases ok with
      | false => exact ⟨tries.ran, rfl, rfl, rfl⟩
      | true => exact ⟨tries.ran, rfl, rfl, rfl⟩)
  subst same
  exact ⟨_, ok, rfl, completes, rest⟩

/-- An accepted block programs the slot behind the written bytes only. -/
theorem step_transfer (b : State) (i : Input) (seq : UInt8) (data : List UInt8)
    (cmd : commanded b i = some (.transferData seq data))
    (standard : b.uds.flash.accepts = writable stmFlash) (bounded : b.uds.xfer.Bounded) :
    ∃ prims ok, (∀ e ∈ prims, e.done = true →
        Within (appBase + b.uds.xfer.written) metaBase e.op) ∧
      (ok = true → (appBase + b.uds.xfer.written) % 8 = 0 ∧
        replay stmFlash b.uds.flash.mem prims =
          programWord b.uds.flash.mem (appBase + b.uds.xfer.written)
            (padded data (doublewords data.length))) ∧
      Outcome b (step b i).1 (reached i prims) ∧
      (step b i).2 = commandEvents i (.transferData seq data) (reached i prims)
        (if ok then [udsSidTransferData + udsResponseSidOffset, seq]
          else failure udsSidTransferData) ∧
      Leaves i (step b i).1
        (if ok then { b.uds.xfer with written := b.uds.xfer.written + data.length,
                                      blockSeq := b.uds.xfer.blockSeq + 1 }
          else b.uds.xfer)
        b.uds.savedRollback := by
  obtain ⟨_, _, _, _, some_data, room⟩ := commanded_fits b i _ cmd bounded
  obtain ⟨prims, ok, ⟨confined, stored⟩, rest⟩ := step_ran b i _ cmd
    (fun prims ok =>
      (∀ e ∈ prims, e.done = true → Within (appBase + b.uds.xfer.written) metaBase e.op) ∧
      (ok = true → (appBase + b.uds.xfer.written) % 8 = 0 ∧
        replay stmFlash b.uds.flash.mem prims =
          programWord b.uds.flash.mem (appBase + b.uds.xfer.written)
            (padded data (doublewords data.length))))
    (fun ok => if ok then [udsSidTransferData + udsResponseSidOffset, seq]
      else failure udsSidTransferData)
    (fun ok => if ok then { b.uds.xfer with written := b.uds.xfer.written + data.length,
                                            blockSeq := b.uds.xfer.blockSeq + 1 }
      else b.uds.xfer)
    b.uds.savedRollback (by
      intro now
      obtain ⟨prims, flash, ok, ran, confined, stored, result, _⟩ := transfer_data_ran
        (stamped (fresh b.uds) now) seq data (Device.aligning_of_standard standard) bounded
        some_data room
      have mem : flash.mem = replay stmFlash b.uds.flash.mem prims := ran.mem
      refine ⟨prims, ok, ⟨fun e member => (confined e member).within, mem ▸ stored⟩, ?_⟩
      rw [Command.run, result]
      cases ok with
      | false => exact ⟨ran, rfl, rfl, rfl⟩
      | true => exact ⟨ran, rfl, rfl, rfl⟩)
  exact ⟨prims, ok, confined, stored, rest⟩

/-- A commanded request that is cut loses the transfer. -/
theorem cut_transfer (b : State) (now : Nat) (r : Request) (addr : AddrType) (primitives : Nat)
    (c : Command) (cmd : commanded b (.cut now r addr primitives) = some c) :
    (step b (.cut now r addr primitives)).1.uds.xfer = {} := by
  have server := (commanded_server b now r addr c cmd).1
  simp only [step, server, cutStep]

/-- The device follows the usual rule and the transfer is inside its bounds. -/
structure Regular (b : State) : Prop where
  standard : b.uds.flash.accepts = writable stmFlash
  bounded : b.uds.xfer.Bounded

/-- No transfer is a bounded one. -/
theorem empty_bounded : ({} : Transfer).Bounded := ⟨Nat.le_refl 0, Nat.zero_le _⟩

/-- The bootloader is regular at power-up. -/
theorem power_up_regular (flash : Device) (flag : Bool) (now ready : Nat)
    (standard : flash.accepts = writable stmFlash) : Regular (powerUp flash flag now ready) := by
  obtain ⟨kept, xfer⟩ := boot_fresh flash flag now ready
  constructor
  · rw [powerUp, kept]
    exact standard
  · rw [powerUp, xfer]
    exact empty_bounded

/-- A step that rests keeps the transfer bounded. -/
theorem rests_bounded {b b' : State} (rests : Rests b b') (bounded : b.uds.xfer.Bounded) :
    b'.uds.xfer.Bounded := by
  rcases rests.xfer with gone | ⟨_, same | ⟨closed, _⟩⟩
  · rw [gone]
    exact empty_bounded
  · rw [same]
    exact bounded
  · rw [closed]
    exact bounded

/-- Whatever an input does to the transfer, a bounded request result or a lost
one is bounded. -/
theorem leaves_bounded {i : Input} {b' : State} {x : Transfer} {saved : UInt32}
    (leaves : Leaves i b' x saved) (bounded : x.Bounded) : b'.uds.xfer.Bounded := by
  cases i with
  | request now r addr =>
    rw [leaves.1]
    exact bounded
  | _ =>
    have gone : b'.uds.xfer = {} := leaves
    rw [gone]
    exact empty_bounded

/-- Every step keeps the machine regular. -/
theorem step_regular (b : State) (i : Input) (regular : Regular b) : Regular (step b i).1 := by
  cases cmd : commanded b i with
  | none =>
    obtain ⟨rests, _⟩ := step_rests b i cmd
    exact ⟨rests.accepts.trans regular.standard, rests_bounded rests regular.bounded⟩
  | some c =>
    cases c with
    | requestDownload size =>
      have fits := commanded_fits b i _ cmd regular.bounded
      obtain ⟨_, ok, _, _, outcome, _, leaves⟩ :=
        step_download b i size cmd regular.standard regular.bounded
      refine ⟨outcome.accepts.trans regular.standard, leaves_bounded leaves ?_⟩
      cases ok with
      | false => exact regular.bounded
      | true => exact ⟨Nat.zero_le _, fits.2⟩
    | transferData seq data =>
      have fits := commanded_fits b i _ cmd regular.bounded
      obtain ⟨_, ok, _, _, outcome, _, leaves⟩ :=
        step_transfer b i seq data cmd regular.standard regular.bounded
      refine ⟨outcome.accepts.trans regular.standard, leaves_bounded leaves ?_⟩
      cases ok with
      | false => exact regular.bounded
      | true => exact ⟨fits.2.2.2.2.2, regular.bounded.2⟩
    | checkMemory sub version crc =>
      obtain ⟨_, ok, _, _, outcome, _, leaves⟩ :=
        step_check_memory b i sub version crc cmd regular.standard
      refine ⟨outcome.accepts.trans regular.standard, leaves_bounded leaves ?_⟩
      cases ok <;> exact regular.bounded

/-- An answer emits neither primitives nor acceptances. -/
theorem answer_events_plain (i : Input) (response : List UInt8) :
    ∀ e ∈ answerEvents i response,
      (∀ prim, e ≠ .flash prim) ∧ (∀ version, e ≠ .checked version) := by
  intro e member
  cases i with
  | request now r addr =>
    rcases List.mem_cons.mp member with rfl | later
    · exact ⟨by simp, by simp⟩
    · unfold defaultEvents at later
      split at later
      · rw [List.mem_singleton.mp later]
        exact ⟨by simp, by simp⟩
      · cases later
  | _ => cases member

/-- A passed check is noted apart from its primitives. -/
theorem checked_events_plain (c : Option Command) :
    ∀ e ∈ checkedEvents c, ∀ prim, e ≠ .flash prim := by
  intro e member prim
  unfold checkedEvents at member
  split at member
  · rw [List.mem_singleton.mp member]
    simp
  · cases member

/-- A commanded step's events change the memory by its primitives. -/
theorem command_events_memory (mem : Memory) (i : Input) (c : Command)
    (prims : List NorFlash.Event) (response : List UInt8) :
    memoryAfter mem (commandEvents i c prims response) = replay stmFlash mem prims := by
  rw [commandEvents, memory_after_append, memory_after_append, memory_after_flash,
    memory_after_inert]
  · congr 1
    refine memory_after_inert mem _ ?_
    intro e member prim
    rcases List.mem_cons.mp member with rfl | later
    · simp
    · exact checked_events_plain _ e later prim
  · exact fun e member => (answer_events_plain i response e member).1

/-- The events of a step account for its memory, and a device without faults stays
one. -/
theorem step_account (b : State) (i : Input) (regular : Regular b) :
    (step b i).1.uds.flash.mem = memoryAfter b.uds.flash.mem (step b i).2 ∧
      (b.uds.flash.faults = [] → (step b i).1.uds.flash.faults = []) := by
  have acted (c : Command) (prims : List NorFlash.Event) (response : List UInt8)
      (outcome : Outcome b (step b i).1 prims)
      (events : (step b i).2 = commandEvents i c prims response) :
      (step b i).1.uds.flash.mem = memoryAfter b.uds.flash.mem (step b i).2 ∧
        (b.uds.flash.faults = [] → (step b i).1.uds.flash.faults = []) := by
    refine ⟨by rw [outcome.mem, events, command_events_memory], ?_⟩
    intro clean
    rw [outcome.faults, clean, List.drop_nil]
  cases cmd : commanded b i with
  | none =>
    obtain ⟨rests, quiet⟩ := step_rests b i cmd
    refine ⟨?_, fun clean => rests.faults.trans clean⟩
    rw [rests.mem, memory_after_inert]
    rintro e member prim rfl
    exact quiet _ member
  | some c =>
    cases c with
    | requestDownload size =>
      obtain ⟨_, _, _, _, outcome, events, _⟩ :=
        step_download b i size cmd regular.standard regular.bounded
      exact acted _ _ _ outcome events
    | transferData seq data =>
      obtain ⟨_, _, _, _, outcome, events, _⟩ :=
        step_transfer b i seq data cmd regular.standard regular.bounded
      exact acted _ _ _ outcome events
    | checkMemory sub version crc =>
      obtain ⟨_, _, _, _, outcome, events, _⟩ :=
        step_check_memory b i sub version crc cmd regular.standard
      exact acted _ _ _ outcome events

/-- An uninterrupted request gets to all of its primitives. -/
@[simp] theorem reached_request (now : Nat) (r : Request) (addr : AddrType)
    (prims : List NorFlash.Event) : reached (.request now r addr) prims = prims := rfl

/-- An input reaches the flash with none but its own primitives. -/
theorem reached_subset (i : Input) (prims : List NorFlash.Event) : reached i prims ⊆ prims := by
  cases i with
  | cut now r addr primitives => exact List.take_subset _ _
  | _ => exact List.Subset.refl _

/-- Without faults, what happens of a sequence is its first primitives, all of
them done: all of them for a request, none for a cut at the start. -/
theorem reached_done (i : Input) (ops : List Op) :
    ∃ n, reached i (attempted ops []) = doneEvents (ops.take n) ∧
      (∀ now r addr, i = .request now r addr → ops.take n = ops) ∧
      (∀ now r addr k, i = .cut now r addr k → n = k) := by
  rw [attempted_nil]
  cases i with
  | cut now r addr primitives =>
    exact ⟨primitives, by simp [reached, doneEvents, List.map_take], by simp, by simp⟩
  | _ => exact ⟨ops.length, by simp [reached], by simp, by simp⟩

/-! ## Where primitives fall -/

/-- Primitives below the record keep the record. -/
theorem within_keeps_meta (mem : Memory) (prims : List NorFlash.Event) (lo : Nat)
    (confined : ∀ e ∈ prims, e.done = true → Within lo metaBase e.op) :
    blMeta (replay stmFlash mem prims) = blMeta mem := by
  induction prims generalizing mem with
  | nil => rfl
  | cons e rest ih =>
    rw [replay_cons, ih _ (fun f member => confined f (List.mem_cons_of_mem _ member))]
    apply bl_meta_congr
    intro a low _
    cases done : e.done with
    | false => simp [NorFlash.Event.apply, done]
    | true =>
      apply apply_untouched
      intro touched
      have below := (confined e List.mem_cons_self done a touched).2
      omega

/-- Primitives below the record keep the marker. -/
theorem within_keeps_updating (mem : Memory) (e : NorFlash.Event) (lo : Nat)
    (confined : e.done = true → Within lo metaBase e.op) (updating : Updating mem) :
    Updating (NorFlash.Event.apply stmFlash mem e) := by
  have same := within_keeps_meta mem [e] lo (by
    intro f member
    rw [List.mem_singleton.mp member]
    exact confined)
  rw [replay_cons, replay_nil] at same
  rw [Updating, same]
  exact updating

/-- Primitives of the record leave the slot status alone. -/
theorem meta_ops_outside (m : BlMeta) (op : Op) (member : op ∈ metaOps m) :
    touchesSlot op = false := by
  obtain ⟨_, _, record, _⟩ := slot_values
  rcases List.mem_append.mp member with erase | program
  · have page : op = .erase metaPage := by simpa [eraseOps] using erase
    rw [page]
    decide
  · obtain ⟨i, word, _, _, rfl⟩ := program_ops_range metaBase _ 3 (by decide) op program
    simp only [touchesSlot, Bool.and_eq_false_iff, decide_eq_false_iff_not]
    exact Or.inl (by omega)

/-- The pages of an image lie inside the slot. -/
theorem image_page_within (page size : Nat) (fits : size ≤ appSlotSize) (first : slotPage ≤ page)
    (last : page < slotPage + imagePages size) : Within appBase metaBase (.erase page) := by
  obtain ⟨app, slot, record, _⟩ := slot_values
  have geometry : stmFlash.pageStart page = 0x08000000 + page * 2048 := rfl
  have start : slotPage = 14 := rfl
  have pages : imagePages size = (size + 2047) / 2048 := rfl
  intro a touched
  simp only [Op.Touches, geometry, show stmFlash.pageSize = 2048 from rfl] at touched
  omega

/-- An accepted announcement erases inside the slot. -/
theorem erase_ops_within (size : Nat) (fits : size ≤ appSlotSize) (op : Op)
    (member : op ∈ eraseOps slotPage (imagePages size)) : Within appBase metaBase op := by
  obtain ⟨page, inside, rfl⟩ := List.mem_map.mp member
  obtain ⟨first, last⟩ := List.mem_range'_1.mp inside
  exact image_page_within page size fits first last

/-- The first primitives of a download request: its marker, then page erases. -/
theorem download_ops_take (saved : UInt32) (size n : Nat) :
    (downloadOps saved size).take n = (metaOps (updatingMeta saved)).take (min 4 n) ++
      (eraseOps slotPage (imagePages size)).take (n - 4) := by
  have marker : (metaOps (updatingMeta saved)).take n =
      (metaOps (updatingMeta saved)).take (min 4 n) := by
    rw [← meta_ops_length (updatingMeta saved), List.take_eq_take_iff]
    omega
  rw [downloadOps, List.take_append, meta_ops_length, marker]

/-- The page erases of a download request do not move the record. -/
theorem download_meta (mem : Memory) (saved : UInt32) (size n : Nat) (fits : size ≤ appSlotSize) :
    blMeta (replay stmFlash mem (doneEvents ((downloadOps saved size).take n))) =
      blMeta (replay stmFlash mem
        (doneEvents ((metaOps (updatingMeta saved)).take (min 4 n)))) := by
  have slot : ∀ e ∈ doneEvents ((eraseOps slotPage (imagePages size)).take (n - 4)),
      e.done = true → Within appBase metaBase e.op := by
    intro e member _
    obtain ⟨op, inside, rfl⟩ := List.mem_map.mp member
    exact erase_ops_within size fits op (List.mem_of_mem_take inside)
  rw [download_ops_take, doneEvents, List.map_append, ← doneEvents, ← doneEvents, replay_append]
  exact within_keeps_meta _ _ appBase slot

/-- From its second primitive on a download request has marked the record. -/
theorem download_memory (mem : Memory) (saved : UInt32) (size n : Nat) (fits : size ≤ appSlotSize)
    (started : 2 ≤ n) :
    Updating (replay stmFlash mem (doneEvents ((downloadOps saved size).take n))) := by
  have index : min 4 n = (min 4 n - 1) + 1 := by omega
  rw [Updating, download_meta mem saved size n fits, index,
    replay_meta_ops mem (updatingMeta saved) (min 4 n - 1) (by omega)]
  exact meta_image_marker mem (updatingMeta saved) (min 4 n - 1) (by omega) (by omega)

/-- A whole download request has marked the record. -/
theorem download_marks (mem : Memory) (saved : UInt32) (size : Nat) (fits : size ≤ appSlotSize) :
    Updating (replay stmFlash mem (doneEvents (downloadOps saved size))) := by
  have marked := download_memory mem saved size (downloadOps saved size).length fits (by
    rw [downloadOps, List.length_append, meta_ops_length]
    omega)
  rw [List.take_length] at marked
  exact marked

/-- How many of a sequence's primitives an input lets be done. -/
def doneCount (i : Input) (count : Nat) (faults : List Bool) : Nat :=
  match i with
  | .cut _ _ _ primitives => min primitives (completed count faults)
  | _ => completed count faults

/-- No more primitives are done than were given. -/
theorem done_count_le (i : Input) (count : Nat) (faults : List Bool) :
    doneCount i count faults ≤ count := by
  have bound := completed_le count faults
  cases i with
  | cut now r addr primitives =>
    rw [doneCount]
    omega
  | _ => exact bound

/-- The memory after the primitives that happened is that after the ones done. -/
theorem reached_replay (mem : Memory) (i : Input) (ops : List Op) (faults : List Bool) :
    replay stmFlash mem (reached i (attempted ops faults)) =
      replay stmFlash mem (doneEvents (ops.take (doneCount i ops.length faults))) := by
  have whole := replay_attempted stmFlash mem ops faults ops.length
  rw [List.take_of_length_le (attempted_length_le ops faults),
    Nat.min_eq_right (completed_le _ _)] at whole
  cases i with
  | cut now r addr primitives => exact replay_attempted stmFlash mem ops faults primitives
  | _ => exact whole

/-- A front part of a sequence is done up to its own length. -/
theorem done_count_front (i : Input) (m n : Nat) (faults : List Bool) (front : m ≤ n) :
    min m (doneCount i n faults) = doneCount i m faults := by
  have part := completed_front m n faults front
  cases i with
  | cut now r addr primitives =>
    simp only [doneCount]
    omega
  | _ => exact part

end ObdSimulator.Bootloader
