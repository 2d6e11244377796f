import ObdSimulator.FlashTool

/-!
# The flash tool succeeds

On a bus on which nothing goes wrong the tool does flash the image. Nothing is lost and
no wait given up, the device is not reset, and neither its reception nor its session
times out; only the order in which the tester, the device and its loops take their turns
is open. The device is a server then which answers every request from the state the
last one left, and the sequence of the tool goes through.
-/

namespace ObdSimulator.BlUds

open NorFlash

/-! ## The log of the flash -/

variable {s s' : Server}

/-- Whether a server is open does not depend on the log of its flash. -/
theorem Open.alike (opened : Open s) (same : s.Alike s') : Open s' := by
  obtain ⟨flash, rfl, alike⟩ := same
  exact ⟨opened.session, opened.unlocked, alike.accepts.trans opened.standard,
    alike.faults.trans opened.faults⟩

/-- Whether a server is in a transfer does not depend on the log of its flash. -/
theorem Transferring.alike {size : Nat} {saved : UInt32} {done : List UInt8}
    (transferring : Transferring s size saved done) (same : s.Alike s') :
    Transferring s' size saved done := by
  have opened := transferring.openGate.alike same
  obtain ⟨flash, rfl, mem, _, _⟩ := same
  refine ⟨opened, transferring.xfer, transferring.saved, transferring.fits, ?_, ?_⟩
  · rw [mem]
    exact transferring.stored
  · rw [mem]
    exact transferring.erased

/-- Whether a transfer is closed does not depend on the log of its flash. -/
theorem Closed.alike {saved : UInt32} {image : List UInt8} (closed : Closed s saved image)
    (same : s.Alike s') : Closed s' saved image := by
  have opened := closed.openGate.alike same
  obtain ⟨flash, rfl, mem, _, _⟩ := same
  refine ⟨opened, closed.active, closed.closed, closed.written, closed.saved, ?_⟩
  rw [mem]
  exact closed.stored

end ObdSimulator.BlUds

namespace ObdSimulator.Ecu

open BlUds (Server)

/-! ## The server that runs -/

/-- The flash server is in the programming session, and no reset is due. -/
structure Node.Serving (n : Node) : Prop where
  server : n.mode = .server
  session : diagSessionGet n.uds.session = .programming
  running : n.uds.resetPending = false

/-- In the programming session an iteration of the loop changes nothing. -/
theorem check_serving (b : Bootloader.State) (now : Nat)
    (session : diagSessionGet b.uds.session = .programming)
    (running : b.uds.resetPending = false) :
    Bootloader.checkStep b now = { b with prevSession := .programming } := by
  simp [Bootloader.checkStep, session, running]

/-- What the loop of the server does to it while its session lasts. -/
theorem loader_serving (n : Node) (serving : n.Serving) (now : Nat) (k : BlMain.Work)
    (lasts : ∀ stamp, k = .sessionTick stamp → diagSessionExpired n.uds.session now = false) :
    (BlMain.blUpper.work n.bl now k).1.state.uds = n.uds ∧
      (BlMain.blUpper.work n.bl now k).1.state.mode = .server := by
  have server : n.bl.state.mode = .server := serving.server
  cases k with
  | sessionTick stamp =>
    have still : diagSessionExpired n.bl.state.uds.session now = false := lasts stamp rfl
    have same : diagSessionTick n.bl.state.uds.session now stamp = n.bl.state.uds.session := by
      rw [diagSessionTick, if_neg (by rw [still]; decide)]
    simp only [BlMain.blUpper, BlMain.Work.input, Bootloader.step, server, same]
    exact ⟨rfl, trivial⟩
  | check =>
    simp only [BlMain.blUpper, BlMain.Work.input, Bootloader.step, server,
      check_serving _ now serving.session serving.running]
    exact ⟨rfl, trivial⟩

/-- Only the server itself decides whether it is serving. -/
theorem Node.Serving.of_same {n n' : Node} (serving : n.Serving) (uds : n'.uds = n.uds)
    (mode : n'.mode = .server) : n'.Serving :=
  ⟨mode, by rw [uds]; exact serving.session, by rw [uds]; exact serving.running⟩

end ObdSimulator.Ecu

namespace ObdSimulator.TesterBus

open Bytes NorFlash Tester Calls BlUds
open IsoTp (World queuedFrames)
open Ecu (Node ecuUpper)
open Relation

/-! ## An undisturbed device -/

/-- The device is not started again, waits for the next frame of a request, and keeps
its session. -/
def Undisturbed (w : World Node) : Other → Prop
  | .tick now _ => w.link.ctx.rxState = .waitCf →
      IsoTp.elapsed now w.link.ctx.lastRxTick < IsoTp.isoTpRxTimeoutMs
  | .work hal (.loader (.sessionTick _) _) => diagSessionExpired w.upper.uds.session hal = false
  | .work _ _ => True
  | .reset _ => False
  | .powerCycle _ _ => False

/-- The loops leave the server that runs as it is. -/
theorem work_serving (n : Node) (serving : n.Serving) (hal : Nat) (k : Ecu.Work)
    (lasts : ∀ stamp start, k = .loader (.sessionTick stamp) start →
      diagSessionExpired n.uds.session hal = false) :
    (n.work hal k).1.uds = n.uds ∧ (n.work hal k).1.Serving := by
  have server := serving.server
  cases k with
  | loader k start =>
    obtain ⟨uds, mode⟩ := Ecu.loader_serving n serving hal k fun stamp same =>
      lasts stamp start (by rw [same])
    have stays : (({ n with bl := (BlMain.blUpper.work n.bl hal k).1 } : Node).jumped start) =
        { n with bl := (BlMain.blUpper.work n.bl hal k).1 } := by
      refine if_neg ?_
      intro app
      rw [Node.mode] at app
      rw [mode] at app
      cases app
    simp only [Node.work, server, stays]
    exact ⟨uds, serving.of_same uds mode⟩
  | main k =>
    simp only [Node.work, server]
    exact ⟨trivial, serving⟩
  | store sram => exact ⟨rfl, serving.of_same rfl server⟩

/-- What does not disturb the server leaves it as it is. -/
theorem undisturbed_serving (w : World Node) (o : Other) (serving : w.upper.Serving)
    (undisturbed : Undisturbed w o) :
    (Ecu.step w o.input).1.upper.uds = w.upper.uds ∧ (Ecu.step w o.input).1.upper.Serving := by
  have on : w.upper.mode ≠ .off := by
    rw [serving.server]
    decide
  cases o with
  | tick now hal =>
    have same : (Ecu.step w (Other.tick now hal).input).1.upper = w.upper :=
      Ecu.call_upper w (.tick now hal) on
    rw [same]
    exact ⟨rfl, serving⟩
  | work hal k =>
    have after : (Ecu.step w (Other.work hal k).input).1.upper = (w.upper.work hal k).1 :=
      (Ecu.step_work_upper w hal k).trans (Ecu.call_upper w (.work hal k) on)
    rw [after]
    refine work_serving w.upper serving hal k ?_
    rintro stamp start rfl
    exact undisturbed
  | reset start => exact undisturbed.elim
  | powerCycle start sram => exact undisturbed.elim

/-- What holds of the server stays true of it. -/
theorem serving_stable (assertion : Server → Prop) :
    Stable (ecu Undisturbed) fun n => n.Serving ∧ assertion n.uds := by
  rintro _ _ ⟨serving, holds⟩ ⟨w, o, rfl, undisturbed, _, rfl⟩
  obtain ⟨uds, still⟩ := undisturbed_serving w o serving undisturbed
  refine ⟨still, ?_⟩
  rw [uds]
  exact holds

/-! ## Its answers -/

/-- A flash call is answered by the server, which goes on serving. -/
theorem dispatch_serving (n : Node) (serving : n.Serving) (c : Call) (flash : FlashCall c)
    (hal : Nat) (buffer : List UInt8) (stored : buffer.take c.payload.length = c.payload) :
    let served := ecuUpper.dispatch n hal buffer c.payload.length .physical
    (udsDispatchRequest n.uds hal c.payload .physical).1.Alike served.state.uds ∧
      served.state.Serving ∧
      served.response = (udsDispatchRequest n.uds hal c.payload .physical).2.response := by
  intro served
  obtain ⟨uds, alike, state, _, response⟩ :=
    Ecu.dispatch_server n hal buffer c.payload.length .physical serving.server
  rw [stored] at alike response
  have filled : c.payload ≠ [] := List.length_pos_iff.mp flash.filled
  obtain ⟨session, running⟩ := dispatch_flash_keeps n.uds hal c.payload
    (by rw [flash.service]; exact flash.flash) filled
  have uds' : served.state.uds = uds := congrArg Bootloader.State.uds state
  rw [uds']
  refine ⟨alike, ⟨?_, ?_, ?_⟩, response⟩
  · rw [Ecu.dispatch_mode]
    exact serving.server
  · obtain ⟨_, rfl, _⟩ := alike
    rw [uds', session]
    exact serving.session
  · obtain ⟨_, rfl, _⟩ := alike
    rw [uds', running]
    exact serving.running

/-- What a call of a flash service gets is what the server answers. -/
theorem serving_answered (n n' : Node) (serving : n.Serving) (c : Call) (flash : FlashCall c)
    (reply : Tester.Reply) (answered : (ecu Undisturbed).answers n c n' reply) :
    ∃ hal, (udsDispatchRequest n.uds hal c.payload .physical).1.Alike n'.uds ∧ n'.Serving ∧
      (Positive (udsDispatchRequest n.uds hal c.payload .physical).2.response →
        reply.positive = true) := by
  obtain ⟨hal, buffer, stored, rfl, rfl⟩ := answered
  obtain ⟨alike, still, response⟩ := dispatch_serving n serving c flash hal buffer stored
  refine ⟨hal, alike, still, ?_⟩
  intro positive
  have filled : c.payload ≠ [] := List.length_pos_iff.mp flash.filled
  have named := response_named n.uds hal c.payload filled positive
  rw [← response, flash.service] at named
  have code : (c.sid + udsResponseSidOffset).toNat = c.sid.toNat + 0x40 := by
    have among : ∀ sid ∈ flashSids, (sid + udsResponseSidOffset).toNat = sid.toNat + 0x40 := by
      decide +kernel
    exact among c.sid flash.flash
  rw [replyOf, if_pos (by rw [named, code])]
  rfl

/-- An undisturbed device answers all calls of the flash services. -/
theorem undisturbed_host :
    Host False (ecu Undisturbed) Node.Serving FlashCall Undisturbed where
  on n serving := Or.inr (by rw [serving.server]; decide)
  sized c flash := ⟨flash.filled, flash.fits⟩
  cut loses := loses.elim
  serve n c hal buffer serving flash stored := by
    intro served
    obtain ⟨_, still, _⟩ := dispatch_serving n serving c flash hal buffer stored
    have sends := server_sends n c hal buffer flash.toProper stored serving.server
    have answers := sends.filled serving.server (by rw [flash.service]; exact flash.shown)
    exact ⟨still, sends_replied c n hal buffer flash.toProper stored served rfl sends
      (Or.inr answers)⟩
  work w o serving calm undisturbed := by
    intro r
    obtain ⟨_, still⟩ := undisturbed_serving w o serving undisturbed
    have drifts : (ecu Undisturbed).drifts w.upper r.1.upper :=
      ⟨w, o, rfl, undisturbed, calm.held, rfl⟩
    cases o with
    | tick now hal =>
      obtain ⟨_, silent, calm', reception⟩ := tick_silent w now hal calm
      refine ⟨still, drifts, silent, calm', Or.inl (reception.resolve_right ?_)⟩
      rintro ⟨_, waits, late⟩
      exact absurd (undisturbed waits) (Nat.not_lt_of_le late)
    | work hal k =>
      have settled := Ecu.stopped_settled w.upper (by rw [serving.server]; decide)
      obtain ⟨silent, calm', reception⟩ := loop_silent w hal k settled calm
      refine ⟨still, drifts, silent, calm', Or.inl (reception.resolve_right ?_)⟩
      rintro ⟨_, _, starts⟩
      have server : (Ecu.step w (.work hal k)).1.upper.mode = .server := still.server
      rw [server] at starts
      cases starts
    | reset start => exact undisturbed.elim
    | powerCycle start sram => exact undisturbed.elim

/-! ## The sequence of the tool -/

/-- A positive reply, and what holds then. -/
def Grants (assertion : Server → Prop) (reply : Tester.Reply) (n : Node) : Prop :=
  reply.positive = true ∧ n.Serving ∧ assertion n.uds

/-- What a reply grants holds until the next call. -/
theorem grants_stable (assertion : Server → Prop) (reply : Tester.Reply) :
    Stable (ecu Undisturbed) (Grants assertion reply) :=
  fun n n' granted drift => ⟨granted.1, serving_stable assertion n n' granted.2 drift⟩

/-- One call: what the server does with the request is what the tool gets. -/
theorem ensures_call (before : Server → Prop) {after : Server → Prop} (c : Call)
    (flash : FlashCall c) (n : Node) (serving : n.Serving) (holds : before n.uds)
    (served : ∀ s hal, before s →
      Positive (udsDispatchRequest s hal c.payload .physical).2.response ∧
        ∀ s', (udsDispatchRequest s hal c.payload .physical).1.Alike s' → after s') :
    Ensures (ecu Undisturbed) (Grants after) (Program.question c) n := by
  refine Ensures.question (serving_stable before) (grants_stable after) ⟨serving, holds⟩ ?_
  rintro n n' reply ⟨serving, holds⟩ answered
  obtain ⟨hal, alike, still, replied⟩ := serving_answered n n' serving c flash reply answered
  obtain ⟨positive, goes⟩ := served n.uds hal holds
  exact ⟨replied positive, still, goes n'.uds alike⟩

/-- The blocks up to here are stored, and the server expects the one of this number. -/
structure Part (size : Nat) (version : UInt32) (seq : Nat) (done : List UInt8) (s : Server) :
    Prop where
  transferring : ∃ saved, saved ≤ version ∧ Transferring s size saved done
  expects : s.xfer.blockSeq = UInt8.ofNat seq

/-- An announced image opens a transfer. -/
theorem download_granted (image : List UInt8) (version : UInt32) (filled : 0 < image.length)
    (fits : image.length ≤ appSlotSize) (n : Node) (serving : n.Serving)
    (opened : Open n.uds) (floor : blMetaRollbackCounter n.uds.flash.mem ≤ version) :
    Ensures (ecu Undisturbed) (Grants (Part image.length version 1 []))
      (Tester.requestDownload image.length) n := by
  rw [request_download_payload]
  refine ensures_call (fun s => Open s ∧ blMetaRollbackCounter s.flash.mem ≤ version) _
    (download_call image.length) n serving ⟨opened, floor⟩ ?_
  rintro s hal ⟨opened, floor⟩
  obtain ⟨_, slot_size, _, _⟩ := slot_values
  obtain ⟨positive, transferring, seq⟩ := download_opens s hal 4 image.length opened
    (by decide) (by decide) (by omega) filled fits
  refine ⟨positive, ?_⟩
  intro s' same
  refine ⟨⟨_, floor, transferring.alike same⟩, ?_⟩
  obtain ⟨_, rfl, _⟩ := same
  exact seq

/-- The loop over the blocks stores them all.

Proof: induction on the blocks. All but the last one are whole doublewords, so each
starts on the grid. -/
theorem transfer_loop_granted (size : Nat) (version : UInt32) (seq : Nat)
    (blocks : List (List UInt8)) (sized : ∀ block ∈ blocks, 0 < block.length ∧ block.length ≤ 248)
    (whole : ∀ block ∈ blocks.dropLast, block.length = 248) (done : List UInt8)
    (aligned : blocks ≠ [] → done.length % 8 = 0)
    (room : done.length + blocks.flatten.length ≤ size) (n : Node) (serving : n.Serving)
    (part : Part size version seq done n.uds) :
    Ensures (ecu Undisturbed)
      (Grants fun s => ∃ seq, Part size version seq (done ++ blocks.flatten) s)
      (transferLoop seq blocks) n := by
  induction blocks generalizing seq done n with
  | nil =>
    rw [List.flatten_nil, List.append_nil]
    exact Ensures.done (grants_stable _ _) ⟨rfl, serving, seq, part⟩
  | cons block rest ih =>
    have length := sized block List.mem_cons_self
    rw [List.flatten_cons, List.length_append] at room
    have first : Ensures (ecu Undisturbed) (Grants (Part size version (seq + 1) (done ++ block)))
        (call (0x36 :: UInt8.ofNat seq :: block) 0x36) n := by
      refine ensures_call (Part size version seq done) _ (block_call _ block length.2) n serving
        part ?_
      rintro s hal ⟨⟨saved, floor, transferring⟩, expects⟩
      obtain ⟨positive, stored, next⟩ := block_stored s hal size saved done block transferring
        (aligned (List.cons_ne_nil _ _)) length.1 (by omega)
      rw [expects] at positive stored next
      refine ⟨positive, ?_⟩
      intro s' same
      refine ⟨⟨saved, floor, stored.alike same⟩, ?_⟩
      obtain ⟨_, rfl, _⟩ := same
      refine next.trans ?_
      rw [UInt8.ofNat_add]
      rfl
    rw [transferLoop]
    refine first.bind ?_
    rintro reply n ⟨positive, serving, part⟩
    rw [if_pos positive, List.flatten_cons, ← List.append_assoc]
    refine ih (seq + 1) (fun b member => sized b (List.mem_cons_of_mem block member)) ?_ _ ?_ ?_ n
      serving part
    · intro b member
      cases rest with
      | nil => cases member
      | cons second rest => exact whole b (List.mem_cons_of_mem block member)
    · intro more
      have full : block.length = 248 := by
        refine whole block ?_
        rw [List.dropLast_cons_of_ne_nil more]
        exact List.mem_cons_self
      rw [List.length_append, full]
      have grid := aligned (List.cons_ne_nil _ _)
      omega
    · rw [List.length_append]
      omega

/-- With all bytes received the exit is granted and closes the transfer. -/
theorem exit_granted (image : List UInt8) (version : UInt32) (n : Node) (serving : n.Serving)
    (stored : ∃ seq, Part image.length version seq image n.uds) :
    Ensures (ecu Undisturbed) (Grants fun s => ∃ saved, saved ≤ version ∧ Closed s saved image)
      (call [0x37] 0x37) n := by
  refine ensures_call (fun s => ∃ seq, Part image.length version seq image s) _ exit_call n serving
    stored ?_
  rintro s hal ⟨seq, ⟨saved, floor, transferring⟩, _⟩
  obtain ⟨positive, closed⟩ := exit_closes s hal image.length saved image transferring
  exact ⟨positive, fun s' same => ⟨saved, floor, closed.alike same⟩⟩

/-- The check of an image that was stored whole is granted, and the image is programmed.
-/
theorem check_memory_granted (image : List UInt8) (version : UInt32) (filled : 0 < image.length)
    (fits : image.length ≤ appSlotSize) (n : Node) (serving : n.Serving)
    (closed : ∃ saved, saved ≤ version ∧ Closed n.uds saved image) :
    Ensures (ecu Undisturbed) (Grants fun s => Programmed s.flash.mem image version)
      (Tester.checkMemory version (zlibCrc32 image)) n := by
  refine ensures_call (fun s => ∃ saved, saved ≤ version ∧ Closed s saved image) _
    (check_memory_call version _) n serving closed ?_
  rintro s hal ⟨saved, floor, closed⟩
  obtain ⟨positive, programmed⟩ := check_programs s hal saved version image closed filled fits floor
  refine ⟨positive, ?_⟩
  rintro _ ⟨flash, rfl, mem, _, _⟩
  rw [mem]
  exact programmed

/-- A part of the tool that gets its positive reply is followed by the next. -/
theorem granted_bind {assertion : Server → Prop} {post : Bool → Node → Prop}
    {part : Test Tester.Reply} {rest : Test Bool} {n : Node}
    (first : Ensures (ecu Undisturbed) (Grants assertion) part n)
    (second : ∀ n, n.Serving → assertion n.uds → Ensures (ecu Undisturbed) post rest n) :
    Ensures (ecu Undisturbed) post
      (part >>= fun reply => if (!reply.positive) = true then pure false else rest) n := by
  refine first.bind ?_
  rintro reply n ⟨positive, serving, holds⟩
  rw [positive]
  exact second n serving holds

/-- The tool reports success over the programmed image. -/
def Succeeds (image : List UInt8) (version : UInt32) (ok : Bool) (n : Node) : Prop :=
  ok = true ∧ n.Serving ∧ Programmed n.uds.flash.mem image version

/-- From an open server on the whole cycle succeeds. -/
theorem flash_full_cycle_succeeds (image : List UInt8) (version : UInt32)
    (filled : 0 < image.length) (fits : image.length ≤ appSlotSize) (n : Node)
    (serving : n.Serving) (opened : Open n.uds)
    (floor : blMetaRollbackCounter n.uds.flash.mem ≤ version) :
    Ensures (ecu Undisturbed) (Succeeds image version) (flashFullCycle image version) n := by
  unfold flashFullCycle
  refine granted_bind (download_granted image version filled fits n serving opened floor) ?_
  intro n serving part
  have blocks : Ensures (ecu Undisturbed)
      (Grants fun s => ∃ seq, Part image.length version seq
        ([] ++ (Chunks.chunks maxBlock image).flatten) s) (transferBlocks image) n :=
    transfer_loop_granted image.length version 1 _ (Chunks.chunks_sized maxBlock image)
      (Chunks.chunks_full maxBlock image) [] (fun _ => rfl)
      (by rw [Chunks.chunks_flatten]; exact Nat.le_of_eq (Nat.zero_add _)) n serving part
  rw [List.nil_append, Chunks.chunks_flatten] at blocks
  refine granted_bind blocks fun n serving stored => ?_
  refine granted_bind (exit_granted image version n serving stored) fun n serving closed => ?_
  refine (check_memory_granted image version filled fits n serving closed).bind ?_
  rintro reply n ⟨positive, serving, programmed⟩
  refine Ensures.done ?_ ⟨positive, serving, programmed⟩
  exact fun n n' holds drift =>
    ⟨holds.1, serving_stable (fun s => Programmed s.flash.mem image version) n n' holds.2 drift⟩

/-! ## Success -/

/-- From any state of the device in which the flash server is unlocked in the programming
session, no reset is due and the transmit queue takes every frame, over a flash without
faults: however the tester, the device and its loops take
their turns, as long as nothing goes wrong and each goes on sooner or later, the tester
reports success, and the image is in the flash and bootable.

Proof: the phases of the calls always allow a next step, and the tester, which can only
go on finitely often, comes to its end. -/
theorem flash_tool_succeeds (faults : List Bool) (flash : NorFlash.Device) (start : Ecu.Startup)
    (sram : Memory) (inputs : List Ecu.Input) (w : World Node)
    (reached : w = Run.final Ecu.step (Ecu.powerUp faults flash start sram) inputs)
    (server : w.upper.mode = .server) (running : w.upper.uds.resetPending = false)
    (opened : Open w.upper.uds) (queue : w.link.faults = [])
    (image : List UInt8) (version : UInt32) (filled : 0 < image.length)
    (fits : image.length ≤ appSlotSize)
    (floor : blMetaRollbackCounter w.upper.uds.flash.mem ≤ version) (moves : ℕ → Move)
    (clean : ∀ n, Fits False Undisturbed (Dialogue.stateAt ecuServer
      ⟨onBus (flashFullCycle image version), [], w, []⟩ moves n) (moves n))
    (fair : Dialogue.Fair ecuServer ⟨onBus (flashFullCycle image version), [], w, []⟩ moves) :
    ∃ n, (Dialogue.stateAt ecuServer ⟨onBus (flashFullCycle image version), [], w, []⟩
        moves n).client = .done true ∧
      Programmed (Dialogue.stateAt ecuServer ⟨onBus (flashFullCycle image version), [], w, []⟩
        moves n).server.upper.uds.flash.mem image version := by
  obtain ⟨inOrder, ready⟩ := Ecu.reached_in_order faults flash start sram inputs
  have idle := Ecu.reached_idle faults flash start sram inputs
  rw [← reached] at inOrder ready idle
  have serving : w.upper.Serving := ⟨server, opened.session, running⟩
  have ensures := flash_full_cycle_succeeds image version filled fits w.upper serving opened floor
  have orderly : Orderly False FlashCall (Always (Succeeds image version))
      (flashFullCycle image version) :=
    flash_full_cycle_orderly (fun loses => loses.elim) image version
  have stage : Stage False (ecu Undisturbed) Node.Serving FlashCall (Succeeds image version)
      ⟨onBus (flashFullCycle image version), [], w, []⟩ :=
    Or.inr ⟨serving, ⟨idle server, inOrder, ready, Or.inr queue⟩, .between _ w ensures orderly⟩
  obtain ⟨n, ok, done, success, _, programmed⟩ :=
    fair_run_value undisturbed_host _ stage moves clean fair
  rw [success] at done
  exact ⟨n, done, programmed⟩

/-- The tester and the device take turns. -/
theorem turns_flash_ten_bytes : ∃ n, (Dialogue.stateAt ecuServer
      ⟨onBus (flashFullCycle tenBytes 3), [], unlockedEcu, []⟩
      (Dialogue.turns ⟨2000, none⟩) n).client = .done true ∧
    Programmed (Dialogue.stateAt ecuServer
      ⟨onBus (flashFullCycle tenBytes 3), [], unlockedEcu, []⟩
      (Dialogue.turns ⟨2000, none⟩) n).server.upper.uds.flash.mem
      tenBytes 3 := by
  have regular := Ecu.reached_regular [] BlMain.erasedFlash ⟨0, 0, 0, 0⟩ (fun _ => 0)
    unlockedInputs rfl
  have opened : Open unlockedEcu.upper.uds :=
    ⟨by decide +kernel, by decide +kernel, regular.standard, by decide +kernel⟩
  refine flash_tool_succeeds [] BlMain.erasedFlash ⟨0, 0, 0, 0⟩ (fun _ => 0) unlockedInputs
    unlockedEcu rfl (by decide +kernel) (by decide +kernel) opened (by decide +kernel) _ 3
    (by decide) (by decide) (by decide +kernel) _ ?_ (Dialogue.turns_fair ecuServer _ _)
  intro n
  unfold Dialogue.turns
  split
  · trivial
  · exact Or.inr rfl

end ObdSimulator.TesterBus
