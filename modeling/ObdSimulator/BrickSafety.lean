import ObdSimulator.Bootloader

/-!
# A cold boot never runs a half-written application

Power may be lost between any two primitives. The slot is in the middle of an
update from the first primitive that changes it until CheckMemory accepts an
image. A cold boot must then not jump, and the boot gate has two ways to refuse:
the UPDATING marker, or an absent record over implausible vectors. Rewriting the
marker passes through the absent record, so a download request over a slot that
is already half-written is safe only if the vectors in it are implausible.
-/

namespace ObdSimulator.Bootloader

open NorFlash BlUds Run

/-! ## The history -/

/-- A change of the slot opens an update, and a passed check ends it. -/
def midUpdateStep (mid : Bool) : Event → Bool
  | .checked _ => false
  | .flash e => mid || (e.done && touchesSlot e.op)
  | _ => mid

/-- Since the slot was last wholly accepted, some primitive changed it. -/
def midUpdate (events : List Event) : Bool := events.foldl midUpdateStep false

/-- The next cold boot jumps into a half-written slot. -/
def Bricked (mem : Memory) (events : List Event) : Prop :=
  bootGate false (memoryAfter mem events) = .jump ∧ midUpdate events = true

/-- A download request that lets the record be erased over a half-written slot
finds implausible vectors there. -/
def NoDirtyRestart (past : List Event) (b : State) (i : Input) : Prop :=
  ∀ size, commanded b i = some (.requestDownload size) → reachesFlash i = true →
    midUpdate past = true → blAppVectorsOk b.uds.flash.mem = false

/-- The command announces an image. -/
def announces : Command → Bool
  | .requestDownload _ => true
  | _ => false

/-- The condition in terms that can be decided. -/
theorem no_dirty_restart_iff (past : List Event) (b : State) (i : Input) :
    NoDirtyRestart past b i ↔ ((commanded b i).any announces = true → reachesFlash i = true →
      midUpdate past = true → blAppVectorsOk b.uds.flash.mem = false) := by
  constructor
  · intro clean asked
    cases cmd : commanded b i with
    | none =>
      rw [cmd] at asked
      cases asked
    | some c =>
      cases c with
      | requestDownload size => exact clean size cmd
      | transferData seq data =>
        rw [cmd] at asked
        cases asked
      | checkMemory sub version crc =>
        rw [cmd] at asked
        cases asked
  · intro clean size cmd
    refine clean ?_
    rw [cmd]
    rfl

instance (past : List Event) (b : State) (i : Input) : Decidable (NoDirtyRestart past b i) :=
  decidable_of_iff _ (no_dirty_restart_iff past b i).symm

/-- Memory and slot status, as the events change them. -/
def historyStep (h : Memory × Bool) (e : Event) : Memory × Bool :=
  (memoryStep h.1 e, midUpdateStep h.2 e)

/-- The history is the memory and whether an update is open. -/
theorem history_fold (h : Memory × Bool) (events : List Event) :
    events.foldl historyStep h =
      (memoryAfter h.1 events, events.foldl midUpdateStep h.2) := by
  induction events generalizing h with
  | nil => rfl
  | cons e rest ih =>
    rw [List.foldl_cons, ih]
    rfl

/-- The gate refuses, or the slot is whole. -/
def Guarded (h : Memory × Bool) : Prop :=
  h.2 = false ∨ Updating h.1 ∨ (blMetaAbsent h.1 = true ∧ blAppVectorsOk h.1 = false)

/-- A guarded history is safe from the gate. -/
theorem guarded_safe (h : Memory × Bool) (guarded : Guarded h) :
    ¬ (bootGate false h.1 = .jump ∧ h.2 = true) := by
  rintro ⟨jumps, mid⟩
  rcases guarded with whole | updating | ⟨absent, no_vectors⟩
  · rw [whole] at mid
    cases mid
  · rw [updating_stays h.1 updating] at jumps
    cases jumps
  · have vectors_ok := (absent_gate h.1 absent).mp jumps
    rw [no_vectors] at vectors_ok
    cases vectors_ok

/-! ## The invariant -/

/-- What every run keeps: the events account for the memory, no fault is
pending, the gate is guarded, and an open transfer means a marked record. -/
structure Inv (mem : Memory) (past : List Event) (b : State) : Prop where
  regular : Regular b
  faults : b.uds.flash.faults = []
  account : b.uds.flash.mem = memoryAfter mem past
  guarded : Guarded (memoryAfter mem past, midUpdate past)
  marked : b.uds.xfer.active = true → Updating b.uds.flash.mem

/-- Quiet events change neither the memory nor whether an update is open. -/
theorem quiet_history (h : Memory × Bool) (e : Event) (quiet : Quiet e) : historyStep h e = h := by
  cases e with
  | flash prim => cases quiet
  | checked version => cases quiet
  | _ => rfl

/-- An event that is no primitive and no check changes neither. -/
theorem plain_history (h : Memory × Bool) (e : Event)
    (plain : (∀ prim, e ≠ .flash prim) ∧ ∀ version, e ≠ .checked version) :
    historyStep h e = h := by
  cases e with
  | flash prim => exact absurd rfl (plain.1 prim)
  | checked version => exact absurd rfl (plain.2 version)
  | _ => rfl

/-- Primitives below the record keep a marked history marked. -/
theorem updating_throughout (h : Memory × Bool) (lo : Nat) (prims : List NorFlash.Event)
    (confined : ∀ e ∈ prims, e.done = true → Within lo metaBase e.op) (updating : Updating h.1) :
    Throughout historyStep (fun h => Updating h.1) h (prims.map .flash) := by
  refine throughout_of_kept _ _ h _ updating ?_
  intro h e member kept
  obtain ⟨prim, inside, rfl⟩ := List.mem_map.mp member
  exact within_keeps_updating h.1 prim lo (confined prim inside) kept

/-- Every event of a download request leaves the gate guarded, if the vectors of
a half-written slot are implausible once the record may be erased. -/
theorem download_throughout (h : Memory × Bool) (saved : UInt32) (size n : Nat)
    (fits : size ≤ appSlotSize) (guarded : Guarded h)
    (no_vectors : 0 < n → h.2 = true → blAppVectorsOk h.1 = false) :
    Throughout historyStep Guarded h
      ((doneEvents ((downloadOps saved size).take n)).map .flash) := by
  refine throughout_of_prefixes _ _ h _ ?_
  intro k inside
  have length : k ≤ n := by
    simp only [doneEvents, List.length_map, List.length_take] at inside
    omega
  have front : ((doneEvents ((downloadOps saved size).take n)).map Event.flash).take k =
      (doneEvents ((downloadOps saved size).take k)).map .flash := by
    rw [doneEvents, doneEvents, ← List.map_take, ← List.map_take, List.take_take,
      Nat.min_eq_left length]
  rw [front, history_fold, memory_after_flash]
  rcases Nat.lt_or_ge k 2 with few | many
  · rcases Nat.lt_or_ge k 1 with zero | one
    · have none_done : k = 0 := by omega
      subst none_done
      exact guarded
    · -- only the erase of the record was done
      have erased : k = 1 := by omega
      subst erased
      have image : replay stmFlash h.1 (doneEvents ((downloadOps saved size).take 1)) =
          metaImage h.1 (updatingMeta saved) 0 :=
        replay_meta_ops h.1 (updatingMeta saved) 0 (by omega)
      have status : List.foldl midUpdateStep h.2
          ((doneEvents ((downloadOps saved size).take 1)).map Event.flash) = h.2 := by
        have first : (downloadOps saved size).take 1 = [.erase metaPage] := rfl
        have outside : touchesSlot (.erase metaPage) = false := by decide
        rw [first]
        simp [doneEvents, midUpdateStep, outside]
      rw [image, status]
      cases mid : h.2 with
      | false => exact Or.inl rfl
      | true =>
        refine Or.inr (Or.inr ⟨meta_image_absent _ _, ?_⟩)
        have vectors : blAppVectorsOk (metaImage h.1 (updatingMeta saved) 0) =
            blAppVectorsOk h.1 := by
          obtain ⟨app, _, record, _⟩ := slot_values
          exact bl_app_vectors_congr fun a _ high =>
            meta_image_elsewhere _ _ 0 a (by omega)
        rw [vectors]
        exact no_vectors (by omega) mid
  · exact Or.inr (Or.inl (download_memory h.1 saved size k fits many))

/-- Plain events before and after leave the guard to the primitives. -/
theorem command_throughout (h : Memory × Bool) (i : Input) (c : Command)
    (prims : List NorFlash.Event) (response : List UInt8)
    (start : Guarded h) (checked : Guarded ((checkedEvents (some c)).foldl historyStep h))
    (during : Throughout historyStep Guarded ((checkedEvents (some c)).foldl historyStep h)
      (prims.map .flash)) :
    Throughout historyStep Guarded h (commandEvents i c prims response) := by
  have first : historyStep h (.received (delivered i)) = h := rfl
  have before : Throughout historyStep Guarded h
      (.received (delivered i) :: checkedEvents (some c)) := by
    refine ⟨start, ?_⟩
    rw [first]
    cases c with
    | checkMemory sub version crc => exact ⟨start, checked⟩
    | _ => exact start
  refine throughout_append _ _ h _ _ (throughout_append _ _ h _ _ before during) ?_
  refine throughout_of_kept _ _ _ _ ?_ ?_
  · rw [List.foldl_append]
    exact throughout_prefix _ _ _ _ during _ (List.prefix_refl _)
  · intro h e member kept
    rw [plain_history h e (answer_events_plain i response e member)]
    exact kept

/-- From the invariant, a step that meets the condition is guarded after each of
its events. -/
theorem step_throughout (mem : Memory) (past : List Event) (b : State) (i : Input)
    (inv : Inv mem past b) (cond : NoDirtyRestart past b i) :
    Throughout historyStep Guarded (memoryAfter mem past, midUpdate past) (step b i).2 := by
  have start := inv.guarded
  cases cmd : commanded b i with
  | none =>
    obtain ⟨_, quiet⟩ := step_rests b i cmd
    refine throughout_of_kept _ _ _ _ start ?_
    intro h e member kept
    rw [quiet_history h e (quiet e member)]
    exact kept
  | some c =>
    have fits := commanded_fits b i c cmd inv.regular.bounded
    cases c with
    | requestDownload size =>
      obtain ⟨ops, ok, rfl, _, _, events, _⟩ :=
        step_download b i size cmd inv.regular.standard inv.regular.bounded
      obtain ⟨n, done, _, cut⟩ := reached_done i
        (downloadOps (blMetaRollbackCounter b.uds.flash.mem) size)
      rw [events, inv.faults, done]
      refine command_throughout _ i _ _ _ start start ?_
      cases reaches : reachesFlash i with
      | true =>
        refine download_throughout _ _ size n fits.2 start ?_
        intro _ mid
        rw [← inv.account]
        exact cond size cmd reaches mid
      | false =>
        have zero : n = 0 := by
          cases i with
          | cut now r addr primitives =>
            rw [cut now r addr primitives rfl]
            simpa [reachesFlash] using reaches
          | _ => simp [reachesFlash, commanded] at reaches cmd
        subst zero
        exact start
    | transferData seq data =>
      obtain ⟨prims, ok, confined, _, _, events, _⟩ :=
        step_transfer b i seq data cmd inv.regular.standard inv.regular.bounded
      have marked : Updating (memoryAfter mem past) := by
        rw [← inv.account]
        exact inv.marked fits.1
      rw [events]
      refine command_throughout _ i _ _ _ start start ?_
      refine throughout_mono _ _ _ _ _ (fun h updating => Or.inr (Or.inl updating)) ?_
      refine updating_throughout _ (appBase + b.uds.xfer.written) _ ?_ marked
      intro e member
      exact confined e (reached_subset i prims member)
    | checkMemory sub version crc =>
      obtain ⟨ops, ok, rfl, _, _, events, _⟩ :=
        step_check_memory b i sub version crc cmd inv.regular.standard
      have whole : Guarded ((checkedEvents (some (.checkMemory sub version crc))).foldl historyStep
          (memoryAfter mem past, midUpdate past)) := Or.inl rfl
      rw [events]
      refine command_throughout _ i _ _ _ start whole ?_
      -- the record is rewritten under a slot that was just accepted
      refine throughout_mono _ (fun h => h.2 = false) _ _ _ (fun h whole => Or.inl whole) ?_
      refine throughout_of_kept _ _ _ _ rfl ?_
      intro h e member kept
      obtain ⟨prim, inside, rfl⟩ := List.mem_map.mp member
      have outside := meta_ops_outside _ _
        (attempted_op _ _ _ (reached_subset i _ inside))
      simp [historyStep, midUpdateStep, kept, outside]

/-- The history goes on from where it was. -/
theorem history_append (mem : Memory) (past events : List Event) :
    events.foldl historyStep (memoryAfter mem past, midUpdate past) =
      (memoryAfter mem (past ++ events), midUpdate (past ++ events)) := by
  rw [history_fold, memory_after_append, midUpdate, midUpdate, List.foldl_append]

/-- Without faults a whole request ran its whole sequence. -/
theorem complete_run (ops : List Op) : completed ops.length ([] : List Bool) = ops.length :=
  completed_nil ops.length

/-- The invariant holds at power-up. -/
theorem power_up_inv (mem : Memory) (flag : Bool) (now ready : Nat) :
    Inv mem [] (powerUp (Device.standard stmFlash mem []) flag now ready) := by
  have regular := power_up_regular (Device.standard stmFlash mem []) flag now ready rfl
  obtain ⟨flash, xfer⟩ := boot_fresh (Device.standard stmFlash mem []) flag now ready
  refine ⟨regular, ?_, ?_, Or.inl rfl, ?_⟩
  · rw [powerUp, flash]
    rfl
  · rw [powerUp, flash]
    rfl
  · rw [powerUp, xfer]
    simp

/-- A step that meets the condition keeps the invariant. -/
theorem step_inv (mem : Memory) (past : List Event) (b : State) (i : Input)
    (inv : Inv mem past b) (cond : NoDirtyRestart past b i) :
    Inv mem (past ++ (step b i).2) (step b i).1 := by
  have regular := step_regular b i inv.regular
  have guarded : Guarded (memoryAfter mem (past ++ (step b i).2),
      midUpdate (past ++ (step b i).2)) := by
    rw [← history_append]
    exact throughout_prefix _ _ _ _ (step_throughout mem past b i inv cond) _
      (List.prefix_refl _)
  obtain ⟨account, drained⟩ := step_account b i inv.regular
  have faults := drained inv.faults
  rw [inv.account, ← memory_after_append] at account
  refine ⟨regular, faults, account, guarded, ?_⟩
  intro active
  cases cmd : commanded b i with
  | none =>
    obtain ⟨rests, _⟩ := step_rests b i cmd
    rw [rests.mem]
    apply inv.marked
    rcases rests.xfer with gone | ⟨_, same | ⟨closed, _⟩⟩
    · rw [gone] at active
      cases active
    · rw [← same]
      exact active
    · rw [closed] at active
      exact active
  | some c =>
    have fits := commanded_fits b i c cmd inv.regular.bounded
    cases c with
    | requestDownload size =>
      obtain ⟨ops, ok, rfl, whole, outcome, events, leaves⟩ :=
        step_download b i size cmd inv.regular.standard inv.regular.bounded
      cases i with
      | request now r addr =>
        obtain ⟨n, done, all, _⟩ := reached_done (.request now r addr)
          (downloadOps (blMetaRollbackCounter b.uds.flash.mem) size)
        rw [outcome.mem, inv.faults, done, all now r addr rfl]
        exact download_marks b.uds.flash.mem (blMetaRollbackCounter b.uds.flash.mem) size fits.2
      | cut now r addr primitives =>
        have gone : (step b (.cut now r addr primitives)).1.uds.xfer = {} := leaves
        rw [gone] at active
        cases active
      | _ => cases cmd
    | transferData seq data =>
      obtain ⟨prims, ok, confined, _, outcome, events, leaves⟩ :=
        step_transfer b i seq data cmd inv.regular.standard inv.regular.bounded
      have kept := updating_throughout (b.uds.flash.mem, false) (appBase + b.uds.xfer.written)
        (reached i prims) (fun e member => confined e (reached_subset i prims member))
        (inv.marked fits.1)
      have last := throughout_prefix _ _ _ _ kept _ (List.prefix_refl _)
      rw [history_fold, memory_after_flash] at last
      rw [outcome.mem]
      exact last
    | checkMemory sub version crc =>
      obtain ⟨ops, ok, rfl, whole, outcome, events, leaves⟩ :=
        step_check_memory b i sub version crc cmd inv.regular.standard
      have success : ok = true := by
        rw [whole, inv.faults, complete_run]
        exact decide_eq_true rfl
      rw [success] at leaves
      cases i with
      | request now r addr =>
        rw [leaves.1] at active
        cases active
      | cut now r addr primitives =>
        have gone : (step b (.cut now r addr primitives)).1.uds.xfer = {} := leaves
        rw [gone] at active
        cases active
      | _ => cases cmd

/-- The record erase of a download request over a half-written slot with
plausible vectors is a point where a cold boot jumps. -/
theorem dirty_restart_bricks (mem : Memory) (past : List Event) (b : State) (i : Input)
    (size : Nat) (inv : Inv mem past b) (cmd : commanded b i = some (.requestDownload size))
    (reaches : reachesFlash i = true) (mid : midUpdate past = true)
    (vectors_ok : blAppVectorsOk b.uds.flash.mem = true) :
    ∃ p, p <+: (step b i).2 ∧ Bricked mem (past ++ p) := by
  obtain ⟨ops, ok, rfl, _, _, events, _⟩ :=
    step_download b i size cmd inv.regular.standard inv.regular.bounded
  obtain ⟨n, done, all, cut⟩ := reached_done i
    (downloadOps (blMetaRollbackCounter b.uds.flash.mem) size)
  obtain ⟨rest, first⟩ : ∃ rest, downloadOps (blMetaRollbackCounter b.uds.flash.mem) size =
      .erase metaPage :: rest := ⟨_, rfl⟩
  have started : ∃ more, reached i (attempted
      (downloadOps (blMetaRollbackCounter b.uds.flash.mem) size) []) =
        ⟨.erase metaPage, true⟩ :: more := by
    rw [done]
    cases i with
    | request now r addr =>
      rw [all now r addr rfl, first]
      exact ⟨_, rfl⟩
    | cut now r addr primitives =>
      obtain ⟨k, positive⟩ : ∃ k, n = k + 1 := by
        have some_primitive : 0 < primitives := by simpa [reachesFlash] using reaches
        exact ⟨n - 1, by rw [cut now r addr primitives rfl]; omega⟩
      rw [positive, first, List.take_succ_cons]
      exact ⟨_, rfl⟩
    | _ => cases cmd
  obtain ⟨more, reached_first⟩ := started
  generalize (if ok then requestDownloadResponse else failure udsSidRequestDownload) = response
    at events
  refine ⟨[.received (delivered i), .flash ⟨.erase metaPage, true⟩], ?_, ?_, ?_⟩
  · rw [events, inv.faults, reached_first]
    refine ⟨more.map .flash ++ answerEvents i response, ?_⟩
    simp only [commandEvents, checkedEvents, List.map_cons, List.cons_append, List.nil_append]
  · have image : memoryAfter mem (past ++
        [.received (delivered i), .flash ⟨.erase metaPage, true⟩]) =
          metaImage b.uds.flash.mem (updatingMeta 0) 0 := by
      rw [memory_after_append, ← inv.account]
      exact replay_meta_ops b.uds.flash.mem (updatingMeta 0) 0 (by omega)
    have vectors : blAppVectorsOk (metaImage b.uds.flash.mem (updatingMeta 0) 0) =
        blAppVectorsOk b.uds.flash.mem := by
      obtain ⟨app, _, record, _⟩ := slot_values
      exact bl_app_vectors_congr fun a _ high => meta_image_elsewhere _ _ 0 a (by omega)
    rw [image, absent_gate _ (meta_image_absent _ _), vectors]
    exact vectors_ok
  · have outside : touchesSlot (.erase metaPage) = false := by decide
    rw [midUpdate] at mid
    simp [midUpdate, midUpdateStep, mid]

/-! ## Cold boots along a run -/

/-- Over any flash and any run of requests, ticks, boots and power cuts, no cut
point leaves a half-written slot that the next cold boot jumps into, exactly when
no download request erases the record over a half-written slot with plausible
vectors.

Proof: under the invariant, a step is guarded after each of its events when it
meets the condition; one that misses it is caught right after the record erase. -/
theorem cold_boot_safe_iff (mem : Memory) (flag : Bool) (now ready : Nat) (inputs : List Input) :
    (∀ p, p <+: trace step (powerUp (Device.standard stmFlash mem []) flag now ready) inputs →
      ¬ Bricked mem p) ↔
    Along step NoDirtyRestart [] (powerUp (Device.standard stmFlash mem []) flag now ready)
      inputs := by
  have start : ¬ Bricked mem [] := fun bricked => by cases bricked.2
  have prefixes := prefixes_iff_along step (fun p => ¬ Bricked mem p) []
    (powerUp (Device.standard stmFlash mem []) flag now ready) inputs start
  simp only [List.nil_append] at prefixes
  rw [prefixes]
  refine (along_iff_of_invariant step NoDirtyRestart _ (Inv mem) (step_inv mem) ?_ []
    (powerUp (Device.standard stmFlash mem []) flag now ready) inputs
    (power_up_inv mem flag now ready)).symm
  intro past b i inv
  constructor
  · intro cond p inside
    have guarded := throughout_prefix _ _ _ _ (step_throughout mem past b i inv cond) p inside
    rw [history_append] at guarded
    rintro ⟨jumps, mid⟩
    exact guarded_safe _ guarded ⟨jumps, mid⟩
  · intro safe size cmd reaches mid
    by_contra vectors_ok
    obtain ⟨p, inside, bricked⟩ := dirty_restart_bricks mem past b i size inv cmd reaches mid
      (by simpa using vectors_ok)
    exact safe p inside bricked

/-- Unlock, download the vectors of an eight-byte image, and ask for the download
again; power is lost once the record is erased. -/
def dirtyRestart : List Input :=
  [.request 2000 ⟨[0x27, 0x01], by decide⟩ .physical,
   .request 2000 ⟨[0x27, 0x02, 0xEF, 0x62], by decide⟩ .physical,
   .request 2000 ⟨[0x34, 0x14, 0x08, 0x00, 0x70, 0x00, 0x08], by decide⟩ .physical,
   .request 2000 ⟨[0x36, 0x01, 0x00, 0x80, 0x00, 0x20, 0x01, 0x71, 0x00, 0x08], by decide⟩
     .physical,
   .cut 2000 ⟨[0x34, 0x14, 0x08, 0x00, 0x70, 0x00, 0x08], by decide⟩ .physical 1]

/-- After the repeated download request a cold boot jumps into eight bytes of an
update. -/
theorem dirty_restart_jumps : ¬ ∀ p,
    p <+: trace step (powerUp (Device.standard stmFlash (fun _ => 0xFF) []) true 0 0)
      dirtyRestart → ¬ Bricked (fun _ => 0xFF) p := by
  intro safe
  refine safe _ (List.prefix_refl _) ⟨?_, ?_⟩ <;> decide +kernel

end ObdSimulator.Bootloader
