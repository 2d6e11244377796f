import ObdSimulator.BlMain
import ObdSimulator.BurstErrors

/-!
# A server that is left alone

A tester that goes away in the middle of a visit leaves the flash server in its session.
The loop of `bl_main.c` goes on: other nodes may still send, the session times out, and
the check at the end of the iteration starts the application if its image is valid. Over
any other flash the server waits.
-/

namespace ObdSimulator.BlMain

open BlUds NorFlash BurstErrors

/-- The frame completes no request: it belongs to somebody else, or to a message that
stays unfinished. -/
def Silent (_ : List IsoTp.Event) (w : IsoTp.World Node) : IsoTp.Input Work → Prop
  | .frame hal f => IsoTp.completing w.quiet.link hal f = none
  | _ => True

instance (past : List IsoTp.Event) (w : IsoTp.World Node) : ∀ i, Decidable (Silent past w i)
  | .frame _ _ => inferInstanceAs (Decidable (_ = _))
  | .tick _ _ | .work _ _ | .registerStreamSink _ => isTrue trivial

/-- The iteration, its times as the tick counter shows them. -/
def Iteration.shown (it : Iteration) : Iteration where
  frames := it.frames.map fun p => (p.1 % tickModulus, p.2)
  isoTpNow := it.isoTpNow % tickModulus
  isoTpStamp := it.isoTpStamp % tickModulus
  sessionNow := it.sessionNow % tickModulus
  sessionStamp := it.sessionStamp % tickModulus
  checkNow := it.checkNow % tickModulus

/-- The server waits: its session is Default, or was last used at the stated time. No
reset has been asked for. -/
structure Waits (last : Nat) (b : Bootloader.State) : Prop where
  server : b.mode = .server
  running : b.uds.resetPending = false
  stamp : b.uds.session.sessionType ≠ .default →
    b.uds.session.lastActivityTick = last % tickModulus

/-- The session is Default when the iteration gets to its check. -/
def DefaultBy (last : Nat) (b : Bootloader.State) (time : Nat) : Prop :=
  b.uds.session.sessionType = .default ∨ last + diagS3TimeoutMs ≤ time

/-! ## One iteration -/

variable {past : List IsoTp.Event} {w : IsoTp.World Node} {inputs : List (IsoTp.Input Work)} in
/-- Whether a frame completes a request is not a matter of the events so far. -/
theorem silent_later (silent : Run.Along (IsoTp.step blUpper) Silent past w inputs) :
    Run.Along (IsoTp.step blUpper) Silent [] w inputs := by
  refine Run.along_past (IsoTp.step blUpper) Silent ?_ past [] w inputs silent
  intro _ _ _ i met
  cases i <;> exact met

/-- An iteration without a request is its session tick and its check. -/
theorem silent_frames (w : IsoTp.World Node) (frames : List (Nat × CanFrame))
    (silent : Run.Along (IsoTp.step blUpper) Silent [] w
      (frames.map fun p => .frame p.1 p.2)) :
    (Run.final (IsoTp.step blUpper) w (frames.map fun p => .frame p.1 p.2)).upper = w.upper := by
  induction frames generalizing w with
  | nil => rfl
  | cons p frames ih =>
    have kept : (IsoTp.step blUpper w (.frame p.1 p.2)).1.upper = w.upper := by
      change (IsoTp.isoTpProcessFrame blUpper w.quiet p.1 p.2).upper = w.upper
      rw [IsoTp.process_frame_upper blUpper w.quiet p.1 p.2]
      have none_complete : IsoTp.completing w.quiet.link p.1 p.2 = none := silent.1
      simp only [none_complete]
      rfl
    exact (ih _ (silent_later silent.2)).trans kept

/-- An iteration without frames is a turn of the session timer and a check. -/
theorem silent_iteration (w : IsoTp.World Node) (it : Iteration)
    (silent : Run.Along (IsoTp.step blUpper) Silent [] w it.inputs) :
    (Run.final (IsoTp.step blUpper) w it.inputs).upper.state =
      (Bootloader.step (Bootloader.step w.upper.state (.tick it.sessionNow it.sessionStamp)).1
        (.check it.checkNow)).1 := by
  obtain ⟨frames, _⟩ := (Run.along_append _ _ _ _ _ _).mp silent
  have upper := silent_frames w it.frames frames
  rw [Iteration.inputs, Run.final_append]
  change (Bootloader.step (Bootloader.step
    (Run.final (IsoTp.step blUpper) w (it.frames.map fun p => .frame p.1 p.2)).upper.state
      (.tick it.sessionNow it.sessionStamp)).1 (.check it.checkNow)).1 = _
  rw [upper]

/-- The tick sees the session expire when its time is up. -/
theorem expired_iff (last time : Nat) (b : Bootloader.State) (waits : Waits last b)
    (outside : b.uds.session.sessionType ≠ .default) (from_last : last ≤ time)
    (recent : time < last + tickModulus) :
    diagSessionExpired b.uds.session (time % tickModulus) = true ↔
      last + diagS3TimeoutMs ≤ time := by
  have measured : tickSub (time % tickModulus) (last % tickModulus) = time - last := by
    rw [tickSub, Clock.sub_samples tickModulus last time (by decide) from_last]
    exact Nat.mod_eq_of_lt (by omega)
  simp only [diagSessionExpired, waits.stamp outside, measured, Bool.and_eq_true, bne_iff_ne, ne_eq,
    outside, not_false_eq_true, decide_eq_true_eq, true_and]
  omega

/-- The check starts a valid image in the Default session and changes no session. -/
theorem check_waits (last now : Nat) (b : Bootloader.State) (waits : Waits last b) :
    let after := Bootloader.checkStep b now
    after.uds.flash.mem = b.uds.flash.mem ∧
      (b.uds.session.sessionType = .default ∧ blAppCrcOk b.uds.flash.mem = true →
        after.mode = .app) ∧
      (¬ (b.uds.session.sessionType = .default ∧ blAppCrcOk b.uds.flash.mem = true) →
        Waits last after ∧ after.uds.session = b.uds.session) := by
  obtain ⟨server, running, stamp⟩ := waits
  simp only [Bootloader.checkStep]
  -- dropping a transfer leaves the session, the handshake and the flash alone
  have kept : ∀ dropped : Prop, ∀ _ : Decidable dropped,
      (if dropped then resetTransfer b.uds else b.uds).resetPending = b.uds.resetPending ∧
        (if dropped then resetTransfer b.uds else b.uds).flash = b.uds.flash ∧
        (if dropped then resetTransfer b.uds else b.uds).session = b.uds.session := by
    intro dropped _
    split <;> exact ⟨rfl, rfl, rfl⟩
  obtain ⟨pending, flash, session⟩ := kept (diagSessionGet b.uds.session ≠ b.prevSession ∧
    diagSessionGet b.uds.session = .default) inferInstance
  generalize (if diagSessionGet b.uds.session ≠ b.prevSession ∧
    diagSessionGet b.uds.session = .default then resetTransfer b.uds else b.uds) = uds
    at pending flash session
  simp only [pending, running, Bool.false_eq_true, false_and, if_false, flash]
  by_cases starts : diagSessionGet b.uds.session = .default ∧ blAppCrcOk b.uds.flash.mem = true
  · simp only [if_pos starts]
    exact ⟨by rw [flash], fun _ => trivial, fun waits => absurd starts waits⟩
  · simp only [if_neg starts]
    refine ⟨by rw [flash], fun valid => absurd valid starts, fun _ => ⟨⟨server, ?_, ?_⟩, session⟩⟩
    · exact pending.trans running
    · rw [session]
      exact stamp

/-- What an iteration at a time makes of a server that waits. -/
theorem iteration_waits (last time stamp now : Nat) (b : Bootloader.State) (waits : Waits last b)
    (from_last : last ≤ time) (recent : time < last + tickModulus) :
    let after := (Bootloader.step (Bootloader.step b (.tick (time % tickModulus) stamp)).1
      (.check now)).1
    after.uds.flash.mem = b.uds.flash.mem ∧
      (DefaultBy last b time ∧ blAppCrcOk b.uds.flash.mem = true → after.mode = .app) ∧
      (¬ (DefaultBy last b time ∧ blAppCrcOk b.uds.flash.mem = true) → Waits last after ∧
        (after.uds.session.sessionType = .default ↔ DefaultBy last b time)) := by
  have server := waits.server
  -- the session that the tick leaves
  let session := diagSessionTick b.uds.session (time % tickModulus) stamp
  let ticked : Bootloader.State := { b with uds := { b.uds with session } }
  have left : (ticked.uds.session.sessionType = .default ↔ DefaultBy last b time) ∧
      (ticked.uds.session.sessionType ≠ .default → ticked.uds.session = b.uds.session) := by
    simp only [ticked, session, diagSessionTick, DefaultBy]
    by_cases outside : b.uds.session.sessionType = .default
    · have idle : diagSessionExpired b.uds.session (time % tickModulus) = false := by
        simp [diagSessionExpired, outside]
      simp [idle, outside]
    · have expires := expired_iff last time b waits outside from_last recent
      by_cases expired : diagSessionExpired b.uds.session (time % tickModulus) = true
      · simp [expired, expires.mp expired]
      · have early : ¬ last + diagS3TimeoutMs ≤ time := fun late => expired (expires.mpr late)
        simp [expired, outside, early]
  have still : Waits last ticked := by
    refine ⟨server, waits.running, fun outside => ?_⟩
    rw [left.2 outside]
    exact waits.stamp (left.2 outside ▸ outside)
  have checked := check_waits last now ticked still
  have ticks : (Bootloader.step b (.tick (time % tickModulus) stamp)).1 = ticked := by
    simp only [Bootloader.step, server, ticked, session]
  have checks : (Bootloader.step ticked (.check now)).1 = Bootloader.checkStep ticked now := by
    have serving : ticked.mode = .server := server
    simp only [Bootloader.step, serving]
  simp only [ticks, checks]
  rw [left.1] at checked
  refine ⟨checked.1, checked.2.1, fun waiting => ?_⟩
  obtain ⟨after, same⟩ := checked.2.2 waiting
  exact ⟨after, by rw [same]; exact left.1⟩

/-! ## The loop -/

/-- Outside the server an iteration does nothing. -/
theorem stopped_rounds (b : Bootloader.State) (stopped : b.mode = .app) (time stamp now : Nat) :
    (Bootloader.step (Bootloader.step b (.tick time stamp)).1 (.check now)).1 = b := by
  simp only [Bootloader.step, stopped]

/-- Once the application runs, silent iterations leave everything as it is. -/
theorem started_stays (w : IsoTp.World Node) (iterations : List Iteration)
    (silent : Run.Along (IsoTp.step blUpper) Silent [] w
      (iterations.flatMap Iteration.inputs)) (started : w.upper.state.mode = .app) :
    (superloop w iterations).upper.state = w.upper.state := by
  induction iterations generalizing w with
  | nil => rfl
  | cons it iterations ih =>
    rw [List.flatMap_cons, Run.along_append] at silent
    obtain ⟨first, later⟩ := silent
    have same := silent_iteration w it first
    rw [stopped_rounds w.upper.state started] at same
    have rest := ih _ (silent_later later) (by rw [same]; exact started)
    rw [superloop, List.flatMap_cons, Run.final_append]
    exact rest.trans same

/-- Some iteration gets to its check in the Default session. -/
def DefaultWithin (last : Nat) (b : Bootloader.State) (iterations : List Iteration) : Prop :=
  ∃ it ∈ iterations, DefaultBy last b it.sessionNow

/-- No reset has been asked for, and the iterations lie within one turn of the tick
counter from the last activity. While nobody makes a request the loop leaves the flash
alone, and it starts the application exactly when the image is valid and the Default
session has been reached: at once in the Default session, else with the first iteration
from the end of the timeout on. Otherwise the server goes on to wait. -/
theorem abandoned_server_starts_iff (last : Nat) (w : IsoTp.World Node)
    (iterations : List Iteration) (waits : Waits last w.upper.state)
    (silent : Run.Along (IsoTp.step blUpper) Silent [] w
      ((iterations.map Iteration.shown).flatMap Iteration.inputs))
    (recent : ∀ it ∈ iterations, last ≤ it.sessionNow ∧ it.sessionNow < last + tickModulus) :
    let b := (superloop w (iterations.map Iteration.shown)).upper.state
    b.uds.flash.mem = w.upper.state.uds.flash.mem ∧ (b.mode = .app ∨ b.mode = .server) ∧
      (b.mode = .app ↔ blAppCrcOk w.upper.state.uds.flash.mem = true ∧
        DefaultWithin last w.upper.state iterations) := by
  induction iterations generalizing w with
  | nil =>
    refine ⟨rfl, Or.inr waits.server, ?_⟩
    constructor
    · intro started
      exact absurd (started.symm.trans waits.server) (by decide)
    · rintro ⟨_, it, member, _⟩
      cases member
  | cons it iterations ih =>
    rw [List.map_cons, List.flatMap_cons, Run.along_append] at silent
    obtain ⟨first, later⟩ := silent
    have later := silent_later later
    obtain ⟨from_last, soon⟩ := recent it List.mem_cons_self
    have reached := silent_iteration w it.shown first
    have made := iteration_waits last it.sessionNow it.shown.sessionStamp it.shown.checkNow
      w.upper.state waits from_last soon
    simp only [superloop, List.map_cons, List.flatMap_cons, Run.final_append]
    generalize Run.final (IsoTp.step blUpper) w it.shown.inputs = w' at later reached
    change w'.upper.state = (Bootloader.step (Bootloader.step w.upper.state
      (.tick (it.sessionNow % tickModulus) it.shown.sessionStamp)).1
        (.check it.shown.checkNow)).1 at reached
    rw [← reached] at made
    obtain ⟨mem, starts, goes_on⟩ := made
    by_cases now : DefaultBy last w.upper.state it.sessionNow ∧
        blAppCrcOk w.upper.state.uds.flash.mem = true
    · have started := starts now
      have stays := started_stays w' (iterations.map Iteration.shown) later started
      rw [superloop] at stays
      rw [stays]
      refine ⟨mem, Or.inl started, ?_⟩
      exact iff_of_true started ⟨now.2, it, List.mem_cons_self, now.1⟩
    · obtain ⟨waits', session⟩ := goes_on now
      obtain ⟨mem', modes, heals⟩ := ih w' waits' later
        fun other member => recent other (List.mem_cons_of_mem it member)
      refine ⟨mem'.trans mem, modes, heals.trans ?_⟩
      rw [mem]
      constructor
      · rintro ⟨valid, other, member, default | late⟩
        · exact absurd ⟨session.mp default, valid⟩ now
        · exact ⟨valid, other, List.mem_cons_of_mem it member, Or.inr late⟩
      · rintro ⟨valid, other, member, by_then⟩
        rcases List.mem_cons.mp member with rfl | member
        · exact absurd ⟨by_then, valid⟩ now
        · rcases by_then with default | late
          · exact absurd ⟨Or.inl default, valid⟩ now
          · exact ⟨valid, other, member, Or.inr late⟩

/-- A visit to a board with a valid image, left alone for its timeout. -/
theorem abandoned_visit_ends :
    (superloop (start [] (Device.standard stmFlash (oneByteImage 0x5A) []) true 0 0)
      ([⟨[], 10, 10, 10, 10, 10⟩, ⟨[], 5000, 5000, 5000, 5000, 5000⟩].map
        Iteration.shown)).upper.state.mode = .app := by
  have left : Waits 0
      (start [] (Device.standard stmFlash (oneByteImage 0x5A) []) true 0 0).upper.state := by
    refine ⟨by decide +kernel, by decide +kernel, fun _ => by decide +kernel⟩
  have valid : blAppCrcOk (oneByteImage 0x5A) = true := by decide +kernel
  refine (abandoned_server_starts_iff 0 _ _ left ?_ ?_).2.2.mpr ⟨valid, ?_⟩
  · decide +kernel
  · decide
  · exact ⟨_, List.mem_cons_of_mem _ List.mem_cons_self, Or.inr (Nat.le_refl _)⟩

end ObdSimulator.BlMain
