import ObdSimulator.BrickSafety

/-!
# Where and when the bootloader changes the flash

Three services reach the flash driver, all behind one gate: the Programming session
and an unlocked level. RequestDownload rewrites the meta page and erases pages of the
slot, TransferData programs the slot, CheckMemory rewrites the meta page again. The
driver itself would let a write run to the end of the flash; what keeps it in the slot
is the announced size, and, for the padding of the last doubleword, a device that
refuses an address off the doubleword grid. Nothing else is assumed of the device.
-/

namespace ObdSimulator.Bootloader

open NorFlash BlUds Run

/-! ## The rule -/

/-- End of the first meta page. -/
def metaPageEnd : Nat := metaBase + flashPageSize

/-- The session and the level the flash services ask for. -/
def Authorised (session : DiagSession) : Prop :=
  session.sessionType = .programming ∧ diagSessionSecurityUnlocked session = true

/-- The flash primitives of a history. -/
def Event.primitive? : Event → Option NorFlash.Event
  | .flash prim => some prim
  | _ => none

/-- The flash primitives among some events. -/
def primitives (events : List Event) : List NorFlash.Event := events.filterMap Event.primitive?

/-- Where the primitives of a service fall. The first four of RequestDownload are its
meta rewrite, the others its slot erase. -/
inductive Placed (prims : List NorFlash.Event) : UInt8 → Prop
  | requestDownload (marker : ∀ e ∈ prims.take 4, Targets metaBase metaPageEnd e)
      (slot : ∀ e ∈ prims.drop 4, (∃ page, e.op = .erase page) ∧ Targets appBase metaBase e) :
      Placed prims udsSidRequestDownload
  | transferData (slot : ∀ e ∈ prims, Targets appBase metaBase e) :
      Placed prims udsSidTransferData
  | checkMemory (record : ∀ e ∈ prims, Targets metaBase metaPageEnd e) :
      Placed prims udsSidRoutineControl

/-- The primitives of a step are given in an authorised session, and where the service
of its request may give them; the bootloader's own pages stay as they are. -/
structure Disciplined (b : State) (i : Input) : Prop where
  authorised : primitives (step b i).2 ≠ [] → Authorised b.uds.session
  placed : primitives (step b i).2 ≠ [] →
    Placed (primitives (step b i).2) (Bytes.byte (delivered i) 0)
  targets : ∀ e ∈ primitives (step b i).2,
    Targets appBase metaBase e ∨ Targets metaBase metaPageEnd e
  own : ∀ a < appBase, (step b i).1.uds.flash.mem a = b.uds.flash.mem a

/-! ## The gate -/

/-- The gate of the flash services lets only an authorised session through. -/
theorem gate_authorised (session : DiagSession) (opened : gateFlashServices session = none) :
    Authorised session := by
  unfold gateFlashServices at opened
  by_cases other : diagSessionGet session ≠ .programming
  · rw [if_pos other] at opened
    cases opened
  · rw [if_neg other] at opened
    by_cases locked : diagSessionSecurityUnlocked session = false
    · rw [if_pos locked] at opened
      cases opened
    · exact ⟨not_not.mp other, eq_true_of_ne_false locked⟩

/-- A request with a flash command passed the gate. -/
theorem command_authorised (s : Server) (request : List UInt8) (addr : AddrType) (c : Command)
    (is_command : command s request addr = some c) : Authorised s.session := by
  apply gate_authorised
  cases gate : gateFlashServices s.session with
  | none => rfl
  | some code => simp [command, gate] at is_command

/-- A flash command comes of an authorised session. -/
theorem commanded_authorised (b : State) (i : Input) (c : Command)
    (cmd : commanded b i = some c) : Authorised b.uds.session := by
  cases i with
  | request now r addr =>
    rw [commanded] at cmd
    split at cmd
    · exact command_authorised b.uds r.1 addr c cmd
    · cases cmd
  | cut now r addr primitives =>
    rw [commanded] at cmd
    split at cmd
    · exact command_authorised b.uds r.1 addr c cmd
    · cases cmd
  | boot flag now ready => cases cmd
  | tick now stamp => cases cmd
  | check now => cases cmd

/-! ## Where the sequences fall -/

/-- A primitive changes nothing below the address it is given. -/
theorem first_le_of_touches (op : Op) (a : Nat) (touched : op.Touches stmFlash a) :
    op.first stmFlash ≤ a := by
  cases op with
  | erase page => exact touched.1
  | program addr word => exact touched.1

/-- A sequence that changes only a range targets it. -/
theorem targets_of_within {lo hi : Nat} {e : NorFlash.Event} (within : Within lo hi e.op)
    (touched : e.op.Touches stmFlash (e.op.first stmFlash)) : Targets lo hi e :=
  ⟨(within _ touched).1, (within _ touched).2, fun _ => within⟩

/-- An erase touches the address it is given. -/
theorem erase_touches_first (page : Nat) :
    (Op.erase page).Touches stmFlash ((Op.erase page).first stmFlash) := by
  have size : stmFlash.pageSize = 2048 := rfl
  simp only [Op.Touches, Op.first, size]
  omega

/-- Every primitive of a meta rewrite targets the first meta page. -/
theorem meta_ops_target (m : BlMeta) (e : NorFlash.Event) (member : e.op ∈ metaOps m) :
    Targets metaBase metaPageEnd e := by
  have page_end : metaPageEnd = 0x0801E800 := rfl
  obtain ⟨_, _, record, _⟩ := slot_values
  rcases List.mem_append.mp member with erase | program
  · have page : e.op = .erase metaPage := by simpa [eraseOps] using erase
    have start : stmFlash.pageStart metaPage = 0x0801E000 := rfl
    have size : stmFlash.pageSize = 2048 := rfl
    apply targets_of_within
    · intro a touched
      rw [page, Op.Touches, start, size] at touched
      omega
    · rw [page]
      exact erase_touches_first metaPage
  · obtain ⟨i, word, inside, length, op⟩ :=
      program_ops_range metaBase _ 3 (by decide) e.op program
    apply targets_of_within
    · intro a touched
      rw [op, Op.Touches, length] at touched
      omega
    · rw [op, Op.Touches, Op.first, length]
      omega

/-- The page erases of an image target the slot. -/
theorem image_erase_target (size : Nat) (fits : size ≤ appSlotSize) (e : NorFlash.Event)
    (member : e.op ∈ eraseOps slotPage (imagePages size)) :
    (∃ page, e.op = .erase page) ∧ Targets appBase metaBase e := by
  have within := erase_ops_within size fits e.op member
  obtain ⟨page, _, op⟩ := List.mem_map.mp member
  refine ⟨⟨page, op.symm⟩, targets_of_within within ?_⟩
  rw [← op]
  exact erase_touches_first page

/-- A front part of two sequences is a front part of the first one and, behind its
length, of the second. -/
theorem front_parts {prims : List NorFlash.Event} {ops more : List Op}
    (front : prims.map NorFlash.Event.op <+: ops ++ more) :
    (∀ e ∈ prims.take ops.length, e.op ∈ ops) ∧ ∀ e ∈ prims.drop ops.length, e.op ∈ more := by
  constructor
  · intro e member
    have head := front.take ops.length
    rw [← List.map_take, List.take_left] at head
    exact head.subset (List.mem_map_of_mem member)
  · intro e member
    have tail := front.drop ops.length
    rw [← List.map_drop, List.drop_left] at tail
    exact tail.subset (List.mem_map_of_mem member)

/-- What a command that passed its checks gives the flash, and the transfer it leaves. -/
theorem command_placed (s : Server) (request : List UInt8) (c : Command)
    (fits : c.Fits s request) (aligning : s.flash.Aligning stmFlash) (bounded : s.xfer.Bounded) :
    ∃ prims, s.flash.Ran stmFlash prims (c.run s).1.flash ∧ Placed prims c.sid ∧
      (c.run s).1.xfer.Bounded := by
  cases c with
  | requestDownload size =>
    obtain ⟨_, ⟨prims, ran, front, _⟩, xfer⟩ := request_download_follows s size fits.2
    obtain ⟨marker, slot⟩ := front_parts front
    rw [meta_ops_length] at marker slot
    refine ⟨prims, ran, .requestDownload ?_ ?_, ?_⟩
    · exact fun e member => meta_ops_target _ e (marker e member)
    · exact fun e member => image_erase_target size fits.2 e (slot e member)
    · rw [Command.run]
      rcases xfer with same | opened
      · rw [same]
        exact bounded
      · rw [opened]
        exact ⟨Nat.zero_le _, fits.2⟩
  | transferData seq data =>
    obtain ⟨_, _, _, _, some_data, room⟩ := fits
    obtain ⟨prims, flash, ok, ran, confined, _, result, _⟩ :=
      transfer_data_ran s seq data aligning bounded some_data room
    refine ⟨prims, ?_, .transferData ?_, ?_⟩
    · rw [Command.run, result]
      cases ok <;> exact ran
    · intro e member
      obtain ⟨low, high, within⟩ := confined e member
      refine ⟨by omega, high, ?_⟩
      intro done a touched
      have inside := within done a touched
      omega
    · rw [Command.run, result]
      cases ok with
      | false => exact bounded
      | true => exact ⟨room, bounded.2⟩
  | checkMemory sub version crc =>
    obtain ⟨_, ⟨prims, ran, front, _⟩, xfer⟩ := check_memory_follows s sub version crc
    refine ⟨prims, ran, .checkMemory ?_, ?_⟩
    · exact fun e member => meta_ops_target _ e (front.subset (List.mem_map_of_mem member))
    · rw [Command.run]
      rcases xfer with same | consumed
      · rw [same]
        exact bounded
      · rw [consumed]
        exact bounded

/-! ## One step -/

/-- The primitives that happen of a placed sequence are placed. -/
theorem Placed.reached {prims : List NorFlash.Event} {sid : UInt8} (placed : Placed prims sid)
    (i : Input) : Placed (reached i prims) sid := by
  have subset := reached_subset i prims
  cases placed with
  | requestDownload marker slot =>
    cases i with
    | cut now r addr count =>
      refine .requestDownload ?_ ?_
      · intro e member
        rw [Bootloader.reached, List.take_take, Nat.min_comm, ← List.take_take] at member
        exact marker e (List.mem_of_mem_take member)
      · intro e member
        rw [Bootloader.reached, List.drop_take] at member
        exact slot e (List.mem_of_mem_take member)
    | _ => exact .requestDownload marker slot
  | transferData slot => exact .transferData fun e member => slot e (subset member)
  | checkMemory record => exact .checkMemory fun e member => record e (subset member)

/-- Primitives that are placed target the slot or the page of the record. -/
theorem Placed.targets {prims : List NorFlash.Event} {sid : UInt8} (placed : Placed prims sid) :
    ∀ e ∈ prims, Targets appBase metaBase e ∨ Targets metaBase metaPageEnd e := by
  intro e member
  cases placed with
  | requestDownload marker slot =>
    rw [← List.take_append_drop 4 prims] at member
    rcases List.mem_append.mp member with first | later
    · exact Or.inr (marker e first)
    · exact Or.inl (slot e later).2
  | transferData slot => exact Or.inl (slot e member)
  | checkMemory record => exact Or.inr (record e member)

/-- Primitives of the slot and the meta page leave the pages below alone. -/
theorem targets_keep_own (mem : Memory) (prims : List NorFlash.Event)
    (targets : ∀ e ∈ prims, Targets appBase metaBase e ∨ Targets metaBase metaPageEnd e)
    (a : Nat) (own : a < appBase) : replay stmFlash mem prims a = mem a := by
  obtain ⟨app, _, record, _⟩ := slot_values
  apply replay_untouched
  intro e member touched
  have first := first_le_of_touches e.op a touched
  rcases targets e member with slot | page
  · have low := slot.low
    omega
  · have low := page.low
    omega

/-- Quiet events are no primitives. -/
theorem primitives_quiet (events : List Event) (quiet : ∀ e ∈ events, Quiet e) :
    primitives events = [] := by
  apply List.filterMap_eq_nil_iff.mpr
  intro e member
  cases e with
  | flash prim => cases quiet _ member
  | _ => rfl

/-- Among the events of a command only its primitives are flash events. -/
theorem primitives_command (i : Input) (c : Command) (prims : List NorFlash.Event)
    (response : List UInt8) : primitives (commandEvents i c prims response) = prims := by
  have silent (events : List Event) (plain : ∀ e ∈ events, ∀ prim, e ≠ .flash prim) :
      primitives events = [] := by
    apply List.filterMap_eq_nil_iff.mpr
    intro e member
    cases e with
    | flash prim => exact absurd rfl (plain _ member prim)
    | _ => rfl
  have before := silent (.received (delivered i) :: checkedEvents (some c)) (by
    intro e member prim
    rcases List.mem_cons.mp member with rfl | later
    · simp
    · exact checked_events_plain _ e later prim)
  have after := silent (answerEvents i response)
    fun e member => (answer_events_plain i response e member).1
  have label : (prims.map Event.flash).filterMap Event.primitive? = prims := by
    rw [List.filterMap_map]
    exact List.filterMap_some
  simp only [primitives] at before after
  simp only [primitives, commandEvents, List.filterMap_append, before, after, label,
    List.nil_append, List.append_nil]

/-- The device refuses misaligned programs and the transfer is inside its bounds. -/
structure Sound (b : State) : Prop where
  aligning : b.uds.flash.Aligning stmFlash
  bounded : b.uds.xfer.Bounded

/-- A sound machine makes a disciplined step to a sound machine. -/
theorem step_disciplined (b : State) (i : Input) (sound : Sound b) :
    Disciplined b i ∧ Sound (step b i).1 := by
  cases cmd : commanded b i with
  | none =>
    obtain ⟨rests, quiet⟩ := step_rests b i cmd
    have none_given := primitives_quiet _ quiet
    constructor
    · refine ⟨fun given => absurd none_given given, fun given => absurd none_given given, ?_, ?_⟩
      · rw [none_given]
        simp
      · intro a _
        rw [rests.mem]
    · constructor
      · rw [Device.Aligning, rests.accepts]
        exact sound.aligning
      · exact rests_bounded rests sound.bounded
  | some c =>
    have fits := commanded_fits b i c cmd sound.bounded
    have placed (now : Nat) := command_placed (stamped (fresh b.uds) now) (delivered i) c (by
      cases c <;> exact fits) sound.aligning sound.bounded
    obtain ⟨now, outcome, events, leaves⟩ := step_outcome b i c cmd fun now =>
      ⟨(placed now).choose, (placed now).choose_spec.1⟩
    obtain ⟨prims, ran, where_placed, bounded⟩ := placed now
    have log : (c.run (stamped (fresh b.uds) now)).1.flash.log = prims := ran.log
    rw [log] at outcome events
    have given : primitives (step b i).2 = reached i prims := by
      rw [events, primitives_command]
    have there := where_placed.reached i
    rw [← commanded_sid b i c cmd] at there
    constructor
    · refine ⟨fun _ => commanded_authorised b i c cmd, fun _ => ?_, ?_, ?_⟩
      · rw [given]
        exact there
      · rw [given]
        exact there.targets
      · intro a own
        rw [outcome.mem]
        exact targets_keep_own _ _ there.targets a own
    · constructor
      · rw [Device.Aligning, outcome.accepts]
        exact sound.aligning
      · exact leaves_bounded leaves bounded

/-- The device is sound at power-up. -/
theorem power_up_sound (flash : Device) (flag : Bool) (now ready : Nat)
    (aligning : flash.Aligning stmFlash) : Sound (powerUp flash flag now ready) := by
  obtain ⟨kept, xfer⟩ := boot_fresh flash flag now ready
  constructor
  · rw [powerUp, kept]
    exact aligning
  · rw [powerUp, xfer]
    exact empty_bounded

/-! ## Runs -/

/-- On a device that refuses misaligned programs every step of every run is
disciplined, and the bootloader's own pages are never changed. -/
theorem flash_authorised (flash : Device) (flag : Bool) (now ready : Nat) (inputs : List Input)
    (aligning : flash.Aligning stmFlash) :
    Along step (fun _ b i => Disciplined b i) [] (powerUp flash flag now ready) inputs ∧
      ∀ a < appBase,
        (final step (powerUp flash flag now ready) inputs).uds.flash.mem a = flash.mem a := by
  have start := power_up_sound flash flag now ready aligning
  have unconditional := along_of_forall step (fun _ _ _ => True) (fun _ _ _ => trivial) []
    (powerUp flash flag now ready) inputs
  constructor
  · exact along_of_invariant step (fun _ _ _ => True) (fun _ b i => Disciplined b i)
      (fun _ b => Sound b) (fun _ b i sound _ => (step_disciplined b i sound).2)
      (fun _ b i sound _ => (step_disciplined b i sound).1) [] _ inputs start unconditional
  · have kept := invariant_final step (fun _ _ _ => True)
      (fun _ b => Sound b ∧ ∀ a < appBase, b.uds.flash.mem a = flash.mem a)
      (by
        rintro past b i ⟨sound, same⟩ _
        obtain ⟨disciplined, still⟩ := step_disciplined b i sound
        exact ⟨still, fun a own => (disciplined.own a own).trans (same a own)⟩)
      [] (powerUp flash flag now ready) inputs
      ⟨start, fun a _ => by rw [powerUp, (boot_fresh flash flag now ready).1]⟩ unconditional
    exact kept.2

/-- On a blank device with the usual rule, over a run that unlocks, downloads and is
cut in its second download request. -/
theorem flash_authorised_restart :
    Along step (fun _ b i => Disciplined b i) []
        (powerUp (Device.standard stmFlash (fun _ => 0xFF) []) true 0 0) dirtyRestart ∧
      ∀ a < appBase,
        (final step (powerUp (Device.standard stmFlash (fun _ => 0xFF) []) true 0 0)
          dirtyRestart).uds.flash.mem a = 0xFF :=
  flash_authorised (Device.standard stmFlash (fun _ => 0xFF) []) true 0 0 dirtyRestart
    (Device.aligning_of_standard rfl)

end ObdSimulator.Bootloader
