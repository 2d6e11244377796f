import ObdSimulator.Bootloader

/-!
# The anti-rollback counter across interruptions

The counter lives in the meta page only. Both services that rewrite the page
carry it through RAM, so it is lost in between: after the erase it reads as
zero, and once the first doubleword is stored it reads as the erased value. Any
primitive may fault and power may be lost after any primitive; the counter then
stays between the accepted versions exactly when no rewrite ends in one of these
two images, unless the bound on that side is already trivial.
-/

namespace ObdSimulator.Bootloader

open NorFlash BlUds Run

/-- The value `bl_meta_rollback_counter` returns. -/
def counter (mem : Memory) : Nat := (blMetaRollbackCounter mem).toNat

/-- A positively answered check raises the floor. -/
def floorStep (floor : Nat) : Event → Nat
  | .answered request response =>
    if Bytes.byte response 0 = 0x71 then max floor (requestVersion request).toNat else floor
  | _ => floor

/-- A check that is passed raises the ceiling, whatever comes of its rewrite. -/
def ceilingStep (ceiling : Nat) : Event → Nat
  | .checked version => max ceiling version
  | _ => ceiling

/-- The largest of an initial counter and the versions answered positively. -/
def floorAfter (start : Nat) (events : List Event) : Nat := events.foldl floorStep start

/-- The largest of an initial counter and the versions that passed the checks. -/
def ceilingAfter (start : Nat) (events : List Event) : Nat := events.foldl ceilingStep start

/-- The counter is neither below the floor nor above the ceiling. -/
def CounterKept (start : Nat) (past : List Event) (b : State) : Prop :=
  floorAfter start past ≤ counter b.uds.flash.mem ∧
    counter b.uds.flash.mem ≤ ceilingAfter start past

/-- The commands that erase the record and write it anew. -/
def rewritesMeta : Command → Bool
  | .transferData _ _ => false
  | _ => true

/-- A rewrite of the record does not end right after its erase unless the floor
is zero, nor right after its first doubleword unless the ceiling is already the
erased value. -/
def Untorn (start : Nat) (past : List Event) (b : State) (i : Input) : Prop :=
  ∀ c, commanded b i = some c → rewritesMeta c = true →
    (doneCount i 4 b.uds.flash.faults = 1 → floorAfter start past = 0) ∧
    (doneCount i 4 b.uds.flash.faults = 2 →
      ceilingAfter start (past ++ checkedEvents (some c)) = 0xFFFFFFFF)

/-! ## The counter of each page image -/

/-- The counter is a 32-bit value. -/
theorem counter_lt (mem : Memory) : counter mem < 2 ^ 32 := (blMetaRollbackCounter mem).toNat_lt

/-- The rollback counter depends on the record only. -/
theorem counter_congr {mem mem' : Memory} (same : blMeta mem = blMeta mem') :
    counter mem = counter mem' := by
  rw [counter, counter, blMetaRollbackCounter, blMetaRollbackCounter, same]

/-- The counter of a record with a marker is its version. -/
theorem counter_marked (mem : Memory) (magic : (blMeta mem).magic = blMetaMagic)
    (state : (blMeta mem).state = blMetaStateValid ∨ (blMeta mem).state = blMetaStateUpdating) :
    counter mem = (blMeta mem).version.toNat := by
  rw [counter, blMetaRollbackCounter]
  simp [magic, state]

/-- The counter after a rewrite to a version, by how many primitives were done. -/
def imageCounter (old version : Nat) : Nat → Nat
  | 0 => old
  | 1 => 0
  | 2 => 0xFFFFFFFF
  | _ => version

/-- What a rewrite leaves of the counter when it stops between two primitives. -/
theorem counter_image (mem : Memory) (m : BlMeta) (n : Nat) (short : n ≤ 4)
    (magic : m.magic = blMetaMagic)
    (state : m.state = blMetaStateValid ∨ m.state = blMetaStateUpdating) :
    counter (replay stmFlash mem (doneEvents ((metaOps m).take n))) =
      imageCounter (counter mem) m.version.toNat n := by
  match n, short with
  | 0, _ => rfl
  | 1, _ =>
    have absent := meta_absent_magic _ (meta_image_absent mem m)
    rw [replay_meta_ops mem m 0 (by omega), counter, blMetaRollbackCounter]
    simp only [absent]
    rfl
  | 2, _ =>
    obtain ⟨magic', state'⟩ := meta_image_marker mem m 1 (by omega) (by omega)
    rw [replay_meta_ops mem m 1 (by omega), counter_marked _ (magic'.trans magic)
      (by rw [state']; exact state), meta_image_torn]
    rfl
  | j + 3, _ =>
    obtain ⟨magic', state'⟩ := meta_image_marker mem m (j + 2) (by omega) (by omega)
    obtain ⟨version, _⟩ := meta_image_version mem m (j + 2) (by omega) (by omega)
    rw [replay_meta_ops mem m (j + 2) (by omega), counter_marked _ (magic'.trans magic)
      (by rw [state']; exact state), version]
    rfl

/-! ## Bounds along a step -/

/-- The floor goes on from where it was. -/
theorem floor_after_append (start : Nat) (past events : List Event) :
    floorAfter start (past ++ events) = floorAfter (floorAfter start past) events := by
  simp [floorAfter]

/-- The ceiling goes on from where it was. -/
theorem ceiling_after_append (start : Nat) (past events : List Event) :
    ceilingAfter start (past ++ events) = ceilingAfter (ceilingAfter start past) events := by
  simp [ceilingAfter]

/-- An event other than a positive CheckMemory answer keeps the floor. -/
theorem floor_kept (floor : Nat) (events : List Event)
    (other : ∀ e ∈ events, ∀ request response, e = .answered request response →
      Bytes.byte response 0 ≠ 0x71) : floorAfter floor events = floor := by
  induction events generalizing floor with
  | nil => rfl
  | cons e rest ih =>
    have here : floorStep floor e = floor := by
      cases e with
      | answered request response =>
        simp [floorStep, other _ List.mem_cons_self request response rfl]
      | _ => rfl
    rw [floorAfter, List.foldl_cons, here]
    exact ih floor (fun f member => other f (List.mem_cons_of_mem _ member))

/-- Only a passed check raises the ceiling. -/
theorem ceiling_kept (ceiling : Nat) (events : List Event)
    (other : ∀ e ∈ events, ∀ version, e ≠ .checked version) :
    ceilingAfter ceiling events = ceiling := by
  induction events generalizing ceiling with
  | nil => rfl
  | cons e rest ih =>
    have here : ceilingStep ceiling e = ceiling := by
      cases e with
      | checked version => exact absurd rfl (other _ List.mem_cons_self version)
      | _ => rfl
    rw [ceilingAfter, List.foldl_cons, here]
    exact ih ceiling (fun f member => other f (List.mem_cons_of_mem _ member))

/-- Quiet events raise neither. -/
theorem quiet_bounds (floor ceiling : Nat) (events : List Event) (quiet : ∀ e ∈ events, Quiet e) :
    floorAfter floor events = floor ∧ ceilingAfter ceiling events = ceiling := by
  constructor
  · refine floor_kept floor events ?_
    rintro e member request response rfl positive
    exact quiet _ member (by rw [positive]; decide)
  · refine ceiling_kept ceiling events ?_
    rintro e member version rfl
    exact quiet _ member

/-- The bounds after a commanded step: the ceiling takes an accepted version in,
the floor only one that was answered positively. -/
theorem command_bounds (floor ceiling : Nat) (i : Input) (c : Command)
    (prims : List NorFlash.Event) (response : List UInt8) :
    ceilingAfter ceiling (commandEvents i c prims response) =
        ceilingAfter ceiling (checkedEvents (some c)) ∧
      floorAfter floor (commandEvents i c prims response) =
        floorAfter floor (answerEvents i response) := by
  have no_check : ∀ e ∈ prims.map Event.flash, ∀ version, e ≠ .checked version := by
    rintro e member version rfl
    simp at member
  have no_answer : ∀ e ∈ checkedEvents (some c) ++ prims.map Event.flash,
      ∀ request response, e = .answered request response → Bytes.byte response 0 ≠ 0x71 := by
    rintro e member request response rfl
    rcases List.mem_append.mp member with checked | flash
    · cases c <;> simp [checkedEvents] at checked
    · simp at flash
  constructor
  · have first : ceilingAfter ceiling (.received (delivered i) :: checkedEvents (some c)) =
        ceilingAfter ceiling (checkedEvents (some c)) := rfl
    rw [commandEvents, ceiling_after_append, ceiling_after_append, first,
      ceiling_kept _ (prims.map .flash) no_check,
      ceiling_kept _ (answerEvents i response)
        (fun e member => (answer_events_plain i response e member).2)]
  · have first : floorAfter floor
        (.received (delivered i) :: (checkedEvents (some c) ++ prims.map .flash)) =
          floorAfter floor (checkedEvents (some c) ++ prims.map .flash) := rfl
    rw [commandEvents, floor_after_append, List.cons_append, first, floor_kept _ _ no_answer]

/-- A response that is no positive CheckMemory answer keeps the floor. -/
theorem answer_floor (floor : Nat) (i : Input) (response : List UInt8)
    (other : Bytes.byte response 0 ≠ 0x71) :
    floorAfter floor (answerEvents i response) = floor := by
  cases i with
  | request now r addr =>
    refine floor_kept floor _ ?_
    rintro e member request reply rfl
    rcases List.mem_cons.mp member with same | later
    · cases same
      exact other
    · unfold defaultEvents at later
      split at later
      · simp at later
      · cases later
  | _ => rfl

/-- What every run keeps when no rewrite is torn. -/
structure FloorInv (start : Nat) (past : List Event) (b : State) : Prop where
  regular : Regular b
  kept : CounterKept start past b
  saved : b.uds.xfer.active = true → floorAfter start past ≤ b.uds.savedRollback.toNat
  bounded : ceilingAfter start past < 2 ^ 32

/-- The version a rewrite stores is inside the bounds, and the step's own floor
does not pass it. -/
structure Rewrites (start : Nat) (past : List Event) (b b' : State) (i : Input) (m : BlMeta)
    (events : List Event) (c : Command) : Prop where
  memory : counter b'.uds.flash.mem =
    counter (replay stmFlash b.uds.flash.mem
      (doneEvents ((metaOps m).take (doneCount i 4 b.uds.flash.faults))))
  magic : m.magic = blMetaMagic
  state : m.state = blMetaStateValid ∨ m.state = blMetaStateUpdating
  low : floorAfter start past ≤ m.version.toNat
  high : m.version.toNat ≤ ceilingAfter start (past ++ checkedEvents (some c))
  ceiling : ceilingAfter start (past ++ events) =
    ceilingAfter start (past ++ checkedEvents (some c))
  floor : floorAfter start (past ++ events) = floorAfter start past ∨
    (doneCount i 4 b.uds.flash.faults = 4 ∧
      floorAfter start (past ++ events) = max (floorAfter start past) m.version.toNat)

/-- The ceiling never falls. -/
theorem ceiling_le_after (ceiling : Nat) (events : List Event) :
    ceiling ≤ ceilingAfter ceiling events := by
  induction events generalizing ceiling with
  | nil => exact Nat.le_refl _
  | cons e rest ih =>
    refine Nat.le_trans ?_ (ih (ceilingStep ceiling e))
    cases e with
    | checked version => exact Nat.le_max_left _ _
    | _ => exact Nat.le_refl _

/-- A rewrite keeps the counter inside the bounds exactly when it does not end in
one of the two images that lose it. -/
theorem rewrite_kept_iff (start : Nat) (past : List Event) (b b' : State) (i : Input) (m : BlMeta)
    (events : List Event) (c : Command) (inv : FloorInv start past b)
    (bounded : ceilingAfter start (past ++ checkedEvents (some c)) < 2 ^ 32)
    (rewrites : Rewrites start past b b' i m events c) :
    CounterKept start (past ++ events) b' ↔
      (doneCount i 4 b.uds.flash.faults = 1 → floorAfter start past = 0) ∧
      (doneCount i 4 b.uds.flash.faults = 2 →
        ceilingAfter start (past ++ checkedEvents (some c)) = 0xFFFFFFFF) := by
  have short := done_count_le i 4 b.uds.flash.faults
  have image := counter_image b.uds.flash.mem m _ short rewrites.magic rewrites.state
  have low := rewrites.low
  have high := rewrites.high
  have grows : ceilingAfter start past ≤ ceilingAfter start (past ++ checkedEvents (some c)) := by
    rw [ceiling_after_append]
    exact ceiling_le_after _ _
  obtain ⟨below, above⟩ := inv.kept
  have small := counter_lt b.uds.flash.mem
  rw [← rewrites.memory] at image
  rw [CounterKept, rewrites.ceiling]
  have floor := rewrites.floor
  generalize doneCount i 4 b.uds.flash.faults = n at short image floor ⊢
  match n, short with
  | 0, _ =>
    simp only [imageCounter] at image
    omega
  | 1, _ =>
    simp only [imageCounter] at image
    omega
  | 2, _ =>
    simp only [imageCounter] at image
    omega
  | j + 3, _ =>
    simp only [imageCounter] at image
    omega

/-- 0x34 stores the counter it has read. -/
theorem download_rewrites (start : Nat) (past : List Event) (b : State) (i : Input) (size : Nat)
    (inv : FloorInv start past b) (cmd : commanded b i = some (.requestDownload size)) :
    Rewrites start past b (step b i).1 i (updatingMeta (blMetaRollbackCounter b.uds.flash.mem))
      (step b i).2 (.requestDownload size) := by
  have fits := commanded_fits b i _ cmd inv.regular.bounded
  obtain ⟨ops, ok, rfl, _, outcome, events, _⟩ :=
    step_download b i size cmd inv.regular.standard inv.regular.bounded
  obtain ⟨ceiling, floor⟩ := command_bounds (floorAfter start past) (ceilingAfter start past) i
    (.requestDownload size)
    (reached i (attempted (downloadOps (blMetaRollbackCounter b.uds.flash.mem) size)
      b.uds.flash.faults))
    (if ok then requestDownloadResponse else failure udsSidRequestDownload)
  have no_answer : Bytes.byte
      (if ok then requestDownloadResponse else failure udsSidRequestDownload) 0 ≠ 0x71 := by
    cases ok <;> decide
  obtain ⟨below, above⟩ := inv.kept
  refine ⟨?_, rfl, Or.inr rfl, below, ?_, ?_, Or.inl ?_⟩
  · have length : (downloadOps (blMetaRollbackCounter b.uds.flash.mem) size).length =
        4 + imagePages size := by
      simp [downloadOps, eraseOps]
    rw [outcome.mem, reached_replay, length, counter_congr (download_meta _ _ _ _ fits.2),
      done_count_front i 4 _ _ (by omega)]
  · rw [ceiling_after_append]
    exact above
  · rw [events, ceiling_after_append, ceiling_after_append, ceiling]
  · rw [events, floor_after_append, floor, answer_floor _ _ _ no_answer]

/-- A passed check stores the version it was given. -/
theorem check_memory_rewrites (start : Nat) (past : List Event) (b : State) (i : Input)
    (sub : UInt8) (version crc : UInt32) (inv : FloorInv start past b)
    (cmd : commanded b i = some (.checkMemory sub version crc)) :
    Rewrites start past b (step b i).1 i (validMeta version crc b.uds.xfer.written)
      (step b i).2 (.checkMemory sub version crc) := by
  obtain ⟨active, _, _, named, kept, _⟩ := commanded_fits b i _ cmd inv.regular.bounded
  obtain ⟨ops, ok, rfl, whole, outcome, events, _⟩ :=
    step_check_memory b i sub version crc cmd inv.regular.standard
  obtain ⟨ceiling, floor⟩ := command_bounds (floorAfter start past) (ceilingAfter start past) i
    (.checkMemory sub version crc)
    (reached i (attempted (metaOps (validMeta version crc b.uds.xfer.written))
      b.uds.flash.faults))
    (if ok then checkMemoryResponse sub crc else failure udsSidRoutineControl)
  have carried := inv.saved active
  have saved : b.uds.savedRollback.toNat ≤ version.toNat := kept
  refine ⟨?_, rfl, Or.inl rfl, Nat.le_trans carried saved, ?_, ?_, ?_⟩
  · rw [outcome.mem, reached_replay, meta_ops_length]
  · rw [ceiling_after_append]
    exact Nat.le_max_right _ _
  · rw [events, ceiling_after_append, ceiling_after_append, ceiling]
  · rw [events, floor_after_append, floor]
    cases ok with
    | false =>
      have negative : Bytes.byte (failure udsSidRoutineControl) 0 ≠ 0x71 := by decide
      exact Or.inl (answer_floor _ i _ negative)
    | true =>
      have all : completed 4 b.uds.flash.faults = 4 := by
        rw [meta_ops_length] at whole
        exact of_decide_eq_true whole.symm
      cases i with
      | request now r addr =>
        refine Or.inr ⟨all, ?_⟩
        · have answered : floorAfter (floorAfter start past)
              (answerEvents (.request now r addr) (checkMemoryResponse sub crc)) =
                max (floorAfter start past) (requestVersion r.1).toNat := rfl
          rw [named]
          exact answered
      | cut now r addr primitives => exact Or.inl rfl
      | _ => cases cmd

/-- The answer to a block is not read as an accepted image. -/
theorem block_answer_other (ok : Bool) (seq : UInt8) :
    Bytes.byte (if ok then [udsSidTransferData + udsResponseSidOffset, seq]
      else failure udsSidTransferData) 0 ≠ 0x71 := by
  have positive : (0x76 : UInt8) ≠ 0x71 := by decide
  have negative : Bytes.byte (failure udsSidTransferData) 0 ≠ 0x71 := by decide
  cases ok with
  | false => exact negative
  | true => exact positive

/-- A block moves neither the counter nor its bounds. -/
theorem transfer_bounds (start : Nat) (past : List Event) (b : State) (i : Input) (seq : UInt8)
    (data : List UInt8) (regular : Regular b)
    (cmd : commanded b i = some (.transferData seq data)) :
    counter (step b i).1.uds.flash.mem = counter b.uds.flash.mem ∧
      floorAfter start (past ++ (step b i).2) = floorAfter start past ∧
      ceilingAfter start (past ++ (step b i).2) = ceilingAfter start past := by
  obtain ⟨prims, ok, confined, _, outcome, events, _⟩ :=
    step_transfer b i seq data cmd regular.standard regular.bounded
  obtain ⟨ceiling, floor⟩ := command_bounds (floorAfter start past) (ceilingAfter start past)
    i (.transferData seq data) (reached i prims)
    (if ok then [udsSidTransferData + udsResponseSidOffset, seq] else failure udsSidTransferData)
  refine ⟨?_, ?_, ?_⟩
  · rw [outcome.mem]
    exact counter_congr (within_keeps_meta _ _ _
      (fun e member => confined e (reached_subset i prims member)))
  · rw [events, floor_after_append, floor, answer_floor _ _ _ (block_answer_other ok seq)]
  · rw [events, ceiling_after_append, ceiling]
    rfl

/-- The ceiling stays a 32-bit value. -/
theorem checked_bounded (start : Nat) (past : List Event) (c : Option Command)
    (bounded : ceilingAfter start past < 2 ^ 32) :
    ceilingAfter start (past ++ checkedEvents c) < 2 ^ 32 := by
  rw [ceiling_after_append]
  unfold checkedEvents
  split
  · rename_i version _
    have small := version.toNat_lt
    exact Nat.max_lt.mpr ⟨bounded, small⟩
  · exact bounded

/-- On a step, the condition and the conclusion agree. -/
theorem untorn_iff_kept (start : Nat) (past : List Event) (b : State) (i : Input)
    (inv : FloorInv start past b) :
    Untorn start past b i ↔ CounterKept start (past ++ (step b i).2) (step b i).1 := by
  cases cmd : commanded b i with
  | none =>
    obtain ⟨rests, quiet⟩ := step_rests b i cmd
    obtain ⟨floor, ceiling⟩ := quiet_bounds (floorAfter start past) (ceilingAfter start past)
      (step b i).2 quiet
    have vacuous : Untorn start past b i := by
      intro c some_command
      rw [cmd] at some_command
      cases some_command
    refine iff_of_true vacuous ?_
    rw [CounterKept, floor_after_append, ceiling_after_append, floor, ceiling, rests.mem]
    exact inv.kept
  | some c =>
    have only (rewrites : rewritesMeta c = true) :
        Untorn start past b i ↔
          (doneCount i 4 b.uds.flash.faults = 1 → floorAfter start past = 0) ∧
          (doneCount i 4 b.uds.flash.faults = 2 →
            ceilingAfter start (past ++ checkedEvents (some c)) = 0xFFFFFFFF) := by
      constructor
      · intro untorn
        exact untorn c cmd rewrites
      · intro both c' same _
        rw [cmd] at same
        cases same
        exact both
    cases c with
    | requestDownload size =>
      rw [only rfl]
      exact (rewrite_kept_iff start past b _ i _ _ _ inv
        (checked_bounded start past _ inv.bounded)
        (download_rewrites start past b i size inv cmd)).symm
    | checkMemory sub version crc =>
      rw [only rfl]
      exact (rewrite_kept_iff start past b _ i _ _ _ inv
        (checked_bounded start past _ inv.bounded)
        (check_memory_rewrites start past b i sub version crc inv cmd)).symm
    | transferData seq data =>
      obtain ⟨same, floor, ceiling⟩ := transfer_bounds start past b i seq data inv.regular cmd
      have vacuous : Untorn start past b i := by
        intro c some_command rewrites
        rw [cmd] at some_command
        cases some_command
        cases rewrites
      refine iff_of_true vacuous ?_
      rw [CounterKept, same, floor, ceiling]
      exact inv.kept

/-- A command keeps the counter a download checks against at least the floor. -/
theorem command_saved (start : Nat) (past : List Event) (b : State) (now : Nat) (r : Request)
    (addr : AddrType) (c : Command) (inv : FloorInv start past b)
    (cmd : commanded b (.request now r addr) = some c)
    (active : (step b (.request now r addr)).1.uds.xfer.active = true) :
    floorAfter start (past ++ (step b (.request now r addr)).2) ≤
      (step b (.request now r addr)).1.uds.savedRollback.toNat := by
  cases c with
  | requestDownload size =>
    have rewrites := download_rewrites start past b (.request now r addr) size inv cmd
    obtain ⟨_, ok, _, _, _, _, leaves⟩ := step_download b (.request now r addr) size cmd
      inv.regular.standard inv.regular.bounded
    have low : floorAfter start past ≤ (blMetaRollbackCounter b.uds.flash.mem).toNat :=
      rewrites.low
    rw [leaves.2]
    rcases rewrites.floor with same | ⟨_, grown⟩
    · rw [same]
      exact low
    · rw [grown]
      exact Nat.max_le.mpr ⟨low, Nat.le_refl _⟩
  | transferData seq data =>
    have fits := commanded_fits b _ _ cmd inv.regular.bounded
    obtain ⟨_, ok, _, _, _, _, leaves⟩ := step_transfer b (.request now r addr) seq data cmd
      inv.regular.standard inv.regular.bounded
    obtain ⟨_, floor, _⟩ :=
      transfer_bounds start past b (.request now r addr) seq data inv.regular cmd
    rw [floor, leaves.2]
    exact inv.saved fits.1
  | checkMemory sub version crc =>
    have rewrites := check_memory_rewrites start past b (.request now r addr) sub version crc
      inv cmd
    obtain ⟨_, ok, rfl, whole, _, _, leaves⟩ := step_check_memory b (.request now r addr)
      sub version crc cmd inv.regular.standard
    have fits := commanded_fits b _ _ cmd inv.regular.bounded
    rw [meta_ops_length] at whole
    cases ok with
    | true =>
      rw [leaves.1] at active
      cases active
    | false =>
      have short : completed 4 b.uds.flash.faults ≠ 4 := of_decide_eq_false whole.symm
      rw [leaves.2]
      rcases rewrites.floor with same | ⟨all, _⟩
      · rw [same]
        exact inv.saved fits.1
      · exact absurd all short

/-- Versions are 32-bit values, so the ceiling stays below them all. -/
theorem command_bounded (start : Nat) (past : List Event) (b : State) (i : Input) (c : Command)
    (inv : FloorInv start past b) (cmd : commanded b i = some c) :
    ceilingAfter start (past ++ (step b i).2) < 2 ^ 32 := by
  have checked := checked_bounded start past (some c) inv.bounded
  cases c with
  | requestDownload size =>
    rw [(download_rewrites start past b i size inv cmd).ceiling]
    exact checked
  | transferData seq data =>
    rw [(transfer_bounds start past b i seq data inv.regular cmd).2.2]
    exact inv.bounded
  | checkMemory sub version crc =>
    rw [(check_memory_rewrites start past b i sub version crc inv cmd).ceiling]
    exact checked

/-- A step that keeps the counter keeps the invariant. -/
theorem floor_inv_step (start : Nat) (past : List Event) (b : State) (i : Input)
    (inv : FloorInv start past b) (untorn : Untorn start past b i) :
    FloorInv start (past ++ (step b i).2) (step b i).1 := by
  have kept := (untorn_iff_kept start past b i inv).mp untorn
  have regular := step_regular b i inv.regular
  cases cmd : commanded b i with
  | none =>
    obtain ⟨rests, quiet⟩ := step_rests b i cmd
    obtain ⟨floor, ceiling⟩ := quiet_bounds (floorAfter start past) (ceilingAfter start past)
      (step b i).2 quiet
    refine ⟨regular, kept, ?_, ?_⟩
    · intro active
      rw [floor_after_append, floor]
      rcases rests.xfer with gone | ⟨saved, same | ⟨closed, was_active, _⟩⟩
      · rw [gone] at active
        cases active
      · rw [saved]
        rw [same] at active
        exact inv.saved active
      · rw [saved]
        exact inv.saved was_active
    · rw [ceiling_after_append, ceiling]
      exact inv.bounded
  | some c =>
    refine ⟨regular, kept, ?_, command_bounded start past b i c inv cmd⟩
    intro active
    cases i with
    | request now r addr => exact command_saved start past b now r addr c inv cmd active
    | cut now r addr primitives =>
      have gone := cut_transfer b now r addr primitives c cmd
      rw [gone] at active
      cases active
    | _ => cases cmd

/-- At power-up both bounds are the counter itself. -/
theorem power_up_floor (mem : Memory) (faults : List Bool) (flag : Bool) (now ready : Nat) :
    FloorInv (counter mem) [] (powerUp (Device.standard stmFlash mem faults) flag now ready) := by
  have regular := power_up_regular (Device.standard stmFlash mem faults) flag now ready rfl
  obtain ⟨flash, xfer⟩ := boot_fresh (Device.standard stmFlash mem faults) flag now ready
  refine ⟨regular, ?_, ?_, counter_lt mem⟩
  · rw [CounterKept, powerUp, flash]
    exact ⟨Nat.le_refl _, Nat.le_refl _⟩
  · rw [powerUp, xfer]
    simp

/-! ## The counter along a run -/

/-- Over any flash, any faults and any run of requests, ticks, boots and power
cuts, the counter the next download request reads is never below the initial one
or a version answered positively, and never above the initial one and the
versions that passed the checks, exactly when no rewrite of the record is torn
where that loses the counter. -/
theorem rollback_counter_kept_iff (mem : Memory) (faults : List Bool) (flag : Bool)
    (now ready : Nat) (inputs : List Input) :
    (∀ before after, inputs = before ++ after →
      CounterKept (counter mem)
        (trace step (powerUp (Device.standard stmFlash mem faults) flag now ready) before)
        (final step (powerUp (Device.standard stmFlash mem faults) flag now ready) before)) ↔
    Along step (Untorn (counter mem)) []
      (powerUp (Device.standard stmFlash mem faults) flag now ready) inputs := by
  have start := power_up_floor mem faults flag now ready
  have prefixes := prefixes_iff_along_post step (CounterKept (counter mem)) []
    (powerUp (Device.standard stmFlash mem faults) flag now ready) inputs start.kept
  simp only [List.nil_append] at prefixes
  rw [prefixes]
  exact (along_iff_of_invariant step (Untorn (counter mem)) _ (FloorInv (counter mem))
    (floor_inv_step (counter mem)) (untorn_iff_kept (counter mem)) [] _ inputs start).symm

/-- A flash whose record is VALID with version 7. -/
def versionSeven : Memory :=
  programWord (fun _ => 0xFF) metaBase (metaBuffer ⟨blMetaMagic, blMetaStateValid, 7, 8, 0⟩)

/-- A request for a seed. -/
def seedRequest : Request := ⟨[0x27, 0x01], Nat.le_of_ble_eq_true rfl⟩

/-- The key to the first seed of tick 2000. -/
def keyRequest : Request := ⟨[0x27, 0x02, 0xEF, 0x62], Nat.le_of_ble_eq_true rfl⟩

/-- A download request for eight bytes. -/
def downloadRequest : Request :=
  ⟨[0x34, 0x14, 0x08, 0x00, 0x70, 0x00, 0x08], Nat.le_of_ble_eq_true rfl⟩

/-- Unlock, and lose power once a download request erased the record. -/
def tornDownload : List Input :=
  [.request 2000 seedRequest .physical, .request 2000 keyRequest .physical,
   .cut 2000 downloadRequest .physical 1]

/-- A cut after the record erase of a download request takes the counter from
seven to zero. -/
theorem torn_download_loses_counter : ¬ ∀ before after, tornDownload = before ++ after →
    CounterKept (counter versionSeven)
      (trace step (powerUp (Device.standard stmFlash versionSeven []) true 0 0) before)
      (final step (powerUp (Device.standard stmFlash versionSeven []) true 0 0) before) := by
  intro kept
  have last := (kept tornDownload [] rfl).1
  have before : counter versionSeven = 7 := by decide +kernel
  have after : counter (final step (powerUp (Device.standard stmFlash versionSeven []) true 0 0)
      tornDownload).uds.flash.mem = 0 := by decide +kernel
  have floor : floorAfter (counter versionSeven) (trace step
      (powerUp (Device.standard stmFlash versionSeven []) true 0 0) tornDownload) = 7 := by
    decide +kernel
  omega

end ObdSimulator.Bootloader
