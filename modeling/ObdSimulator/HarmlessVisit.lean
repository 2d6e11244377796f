import ObdSimulator.Bootloader
import ObdSimulator.BurstErrors

/-!
# A visit to the bootloader that flashes nothing

The application hands over to the bootloader for an update that may never come.
Without an accepted RequestDownload there is no transfer, so no request reaches
the flash, and the flash stays as the gate would have found it. The loop then
boots the application again from the Default session, but by a rule of its own:
the gate also jumps over a blank meta page with plausible vectors, the loop only
over a valid image. A visit is harmless exactly when the meta page is not blank,
or when no iteration gets to the rule in the Default session.
-/

namespace ObdSimulator.Bootloader

open NorFlash BlUds

/-- No RequestDownload passes the checks of its parameters. -/
def NoDownload (_ : List Event) (b : State) (i : Input) : Prop :=
  ∀ size, commanded b i ≠ some (.requestDownload size)

/-- The reset handshake ends in a reset. -/
def ResetDue (b : State) (now : Nat) : Prop :=
  b.uds.resetPending = true ∧ b.resetAt ≠ 0 ∧ tickSub now b.resetAt < 2 ^ 31

/-- A loop iteration gets to the self-heal rule in the Default session. -/
def ReachesSelfHeal (b : State) : Input → Prop
  | .check now => b.mode = .server ∧ b.uds.session.sessionType = .default ∧ ¬ResetDue b now
  | _ => False

/-- An iteration that gets there boots the application. -/
def SelfHeals (b : State) (i : Input) : Prop := ReachesSelfHeal b i → (step b i).1.mode = .app

/-! ## Without a transfer nothing reaches the flash -/

/-- Without a transfer no block is accepted. -/
theorem no_transfer_block (x : Transfer) (request : List UInt8) (idle : x.active = false) :
    ∃ code, checkTransferData x request = .error code := by
  unfold checkTransferData
  simp only [idle, true_or, if_true]
  exact ⟨_, rfl⟩

/-- Without a transfer no check of the memory is accepted. -/
theorem no_transfer_routine (s : Server) (request : List UInt8) (idle : s.xfer.active = false) :
    ∃ code, checkRoutineControl s request = .error code := by
  unfold checkRoutineControl
  simp only [idle, true_or, if_true]
  split
  · exact ⟨_, rfl⟩
  · split
    · exact ⟨_, rfl⟩
    · split
      · exact ⟨_, rfl⟩
      · exact ⟨_, rfl⟩

/-- Without a transfer the only command there can be is a download. -/
theorem idle_command (s : Server) (request : List UInt8) (addr : AddrType)
    (idle : s.xfer.active = false) :
    command s request addr = none ∨
      ∃ size, command s request addr = some (.requestDownload size) := by
  obtain ⟨blocked, block⟩ := no_transfer_block s.xfer request idle
  obtain ⟨refused, routine⟩ := no_transfer_routine s request idle
  unfold command
  simp only [block, routine]
  split
  · exact Or.inl rfl
  · split
    · cases checkRequestDownload request with
      | error code => exact Or.inl rfl
      | ok size => exact Or.inr ⟨size, rfl⟩
    · split
      · exact Or.inl rfl
      · split
        · exact Or.inl rfl
        · exact Or.inl rfl

/-- Without a transfer no request but an announcement reaches the flash. -/
theorem idle_commanded (past : List Event) (b : State) (i : Input)
    (idle : b.uds.xfer.active = false) (calm : NoDownload past b i) : commanded b i = none := by
  have quiet (request : List UInt8) (addr : AddrType)
      (served : commanded b i = command b.uds request addr) : commanded b i = none := by
    rcases idle_command b.uds request addr idle with none_ | ⟨size, some_⟩
    · exact served.trans none_
    · exact absurd (served.trans some_) (calm size)
  cases i with
  | request now r addr =>
    by_cases server : b.mode = .server
    · exact quiet r.1 addr (if_pos server)
    · exact if_neg server
  | cut now r addr primitives =>
    by_cases server : b.mode = .server
    · exact quiet r.1 addr (if_pos server)
    · exact if_neg server
  | boot => rfl
  | tick => rfl
  | check => rfl

/-- The flash as the visit found it, and no transfer. -/
structure Untouched (mem : Memory) (b : State) : Prop where
  mem : b.uds.flash.mem = mem
  idle : b.uds.xfer.active = false

/-- A start touches neither the flash nor a transfer. -/
theorem boot_untouched (flash : Device) (flag : Bool) (now ready : Nat) :
    Untouched flash.mem (boot flash flag now ready) := by
  obtain ⟨kept, xfer⟩ := boot_fresh flash flag now ready
  exact ⟨by rw [kept], by rw [xfer]⟩

/-- No step without a download touches the flash. -/
theorem step_untouched (mem : Memory) (past : List Event) (b : State) (i : Input)
    (before : Untouched mem b) (calm : NoDownload past b i) : Untouched mem (step b i).1 := by
  have rests := (step_rests b i (idle_commanded past b i before.idle calm)).1
  refine ⟨rests.mem.trans before.mem, ?_⟩
  rcases rests.xfer with cleared | ⟨_, same | ⟨_, active, _⟩⟩
  · rw [cleared]
  · rw [same, before.idle]
  · rw [before.idle] at active
    cases active

/-! ## The two boot decisions -/

/-- What is blank is not valid. -/
theorem absent_not_valid (mem : Memory) (absent : blMetaAbsent mem = true) :
    blAppCrcOk mem = false := by
  have magic := meta_absent_magic mem absent
  have other : (blMeta mem).magic ≠ blMetaMagic := by
    rw [magic]
    decide
  simp [blAppCrcOk, other]

/-- Where the gate jumps, the image is valid exactly when the meta page is not
blank. -/
theorem gate_valid_iff (mem : Memory) (bootable : bootGate false mem = .jump) :
    blAppCrcOk mem = true ↔ blMetaAbsent mem = false := by
  cases absent : blMetaAbsent mem with
  | true => simp [absent_not_valid mem absent]
  | false =>
    simp only [bootGate, Bool.false_eq_true, if_false, absent] at bootable
    cases valid : blAppCrcOk mem with
    | true => simp
    | false => simp [valid] at bootable

/-- The self-heal rule boots a valid image and no other. -/
theorem self_heal_iff (b : State) (now : Nat) (reaches : ReachesSelfHeal b (.check now)) :
    (step b (.check now)).1.mode = .app ↔ blAppCrcOk b.uds.flash.mem = true := by
  obtain ⟨server, inDefault, running⟩ := reaches
  have session : diagSessionGet b.uds.session = .default := inDefault
  simp only [step, server, checkStep, session, and_true]
  -- dropping a transfer touches neither the handshake nor the flash
  have kept : ∀ dropped : Prop, ∀ _ : Decidable dropped,
      (if dropped then resetTransfer b.uds else b.uds).resetPending = b.uds.resetPending ∧
        (if dropped then resetTransfer b.uds else b.uds).flash = b.uds.flash := by
    intro dropped _
    split <;> exact ⟨rfl, rfl⟩
  obtain ⟨pending, flash⟩ := kept (SessionType.default ≠ b.prevSession) inferInstance
  generalize (if SessionType.default ≠ b.prevSession then resetTransfer b.uds else b.uds) = uds
    at pending flash
  rw [if_neg (by rw [pending]; exact running)]
  simp only [pending]
  split
  · simp only [flash, true_and]
    split
    · rename_i valid
      simp [valid]
    · rename_i invalid
      simp [invalid]
  · simp only [flash, true_and]
    split
    · rename_i valid
      simp [valid]
    · rename_i invalid
      simp [invalid]

/-- Over bootable flash an iteration that gets there boots the application unless the
record is absent. -/
theorem self_heals_iff (b : State) (i : Input) (bootable : bootGate false b.uds.flash.mem = .jump) :
    SelfHeals b i ↔ blMetaAbsent b.uds.flash.mem = false ∨ ¬ReachesSelfHeal b i := by
  by_cases reaches : ReachesSelfHeal b i
  · cases i with
    | check now =>
      have heals := self_heal_iff b now reaches
      rw [gate_valid_iff _ bootable] at heals
      simp [SelfHeals, reaches, heals]
    | _ => exact absurd reaches id
  · simp [SelfHeals, reaches]

/-- Over a flash that the gate boots, a visit without a download leaves the flash
as it is and boots the application from every iteration that gets to the rule in
the Default session, exactly when the meta page is not blank or no iteration gets
there. -/
theorem harmless_visit_iff (flash : Device) (now ready : Nat) (inputs : List Input)
    (bootable : bootGate false flash.mem = .jump)
    (calm : Run.Along step NoDownload [] (boot flash true now ready) inputs) :
    Run.Along step
        (fun _ b i => (step b i).1.uds.flash.mem = flash.mem ∧ SelfHeals b i)
        [] (boot flash true now ready) inputs ↔
      blMetaAbsent flash.mem = false ∨
        Run.Along step (fun _ b i => ¬ReachesSelfHeal b i)
          [] (boot flash true now ready) inputs := by
  have start := boot_untouched flash true now ready
  have agree : ∀ past b i, Untouched flash.mem b → NoDownload past b i →
      (((step b i).1.uds.flash.mem = flash.mem ∧ SelfHeals b i) ↔
        (blMetaAbsent flash.mem = false ∨ ¬ReachesSelfHeal b i)) := by
    intro past b i before calm
    have after := (step_untouched flash.mem past b i before calm).mem
    have heals := self_heals_iff b i (by rw [before.mem]; exact bootable)
    rw [before.mem] at heals
    simp only [after, true_and, heals]
  rw [Run.along_congr step NoDownload _ _ (fun _ => Untouched flash.mem)
    (step_untouched flash.mem) agree [] _ inputs start calm]
  cases absent : blMetaAbsent flash.mem with
  | false =>
    simp only [true_or, iff_true]
    exact Run.along_of_forall _ _ (fun _ _ _ => trivial) _ _ _
  | true =>
    simp only [Bool.true_eq_false, false_or]

/-- A blank meta page, and vectors that point into RAM and the slot. -/
def developmentFlash : Memory := fun a =>
  if a = appBase + 1 then 0x80 else if a = appBase + 3 then 0x20
  else if a = appBase + 4 then 0x01 else if a = appBase + 5 then 0x71
  else if a = appBase + 7 then 0x08
  else if appBase ≤ a ∧ a < appBase + 8 then 0x00 else 0xFF

/-- The application of a development board is not booted again: the session times
out, and the loop stays in the server. -/
theorem development_board_stays :
    ¬ ∀ (flash : Device) (now ready : Nat) (inputs : List Input),
      bootGate false flash.mem = .jump →
      Run.Along step NoDownload [] (boot flash true now ready) inputs →
      Run.Along step
        (fun _ b i => (step b i).1.uds.flash.mem = flash.mem ∧ SelfHeals b i)
        [] (boot flash true now ready) inputs := by
  intro claimed
  have harmless := claimed (Device.standard stmFlash developmentFlash []) 0 0
    [.tick 5000 5000, .check 5000] (by decide +kernel)
    ⟨by simp [NoDownload, commanded], by simp [NoDownload, commanded], trivial⟩
  have boots := harmless.2.1.2 ⟨by decide +kernel, by decide +kernel, fun due =>
    absurd due.1 (by decide +kernel)⟩
  exact absurd boots (by decide +kernel)

/-- A board with a valid image. -/
def validBoard : Device := Device.standard stmFlash (BurstErrors.oneByteImage 0x5A) []

/-- The tester keeps the session alive once, and then leaves it to time out. -/
def timedOutVisit : List Input :=
  [.request 3000 ⟨[0x3E, 0x00], by decide⟩ .physical, .tick 3000 3000, .check 3000,
    .tick 8000 8000, .check 8000]

/-- The visit leaves the flash alone, gets to the self-heal rule in the Default session, and
ends in the application. -/
theorem harmless_visit_iff_keep_alive :
    Run.Along step
        (fun _ b i => (step b i).1.uds.flash.mem = validBoard.mem ∧ SelfHeals b i) []
        (boot validBoard true 0 0) timedOutVisit ∧
      ReachesSelfHeal (Run.final step (boot validBoard true 0 0) (timedOutVisit.take 4))
        (.check 8000) ∧
      (Run.final step (boot validBoard true 0 0) timedOutVisit).mode = .app := by
  have calm : Run.Along step NoDownload [] (boot validBoard true 0 0) timedOutVisit := by
    have asked : commanded (boot validBoard true 0 0)
        (.request 3000 ⟨[0x3E, 0x00], by decide⟩ .physical) = none := by decide +kernel
    refine ⟨?_, by simp [NoDownload, commanded], by simp [NoDownload, commanded],
      by simp [NoDownload, commanded], by simp [NoDownload, commanded], trivial⟩
    intro size download
    rw [asked] at download
    cases download
  have reached : ReachesSelfHeal
      (Run.final step (boot validBoard true 0 0) (timedOutVisit.take 4)) (.check 8000) := by
    refine ⟨by decide +kernel, by decide +kernel, ?_⟩
    rintro ⟨pending, _⟩
    exact absurd pending (by decide +kernel)
  have harmless := (harmless_visit_iff validBoard 0 0 timedOutVisit (by decide +kernel) calm).mpr
    (Or.inl (by decide +kernel))
  have last := harmless.2.2.2.2.1
  exact ⟨harmless, reached, last.2 reached⟩

end ObdSimulator.Bootloader
