import ObdSimulator.RollbackFloor

/-!
# A bootable image is what was transferred and checked

Without power loss, a VALID record always describes the last image CheckMemory
accepted: the slot holds the concatenated data of the blocks answered since the
last download answer before it, the record holds their length and CRC, and its
version is not below any accepted one. The slot is modified only under the
UPDATING marker, which a later download request has to set first.
-/

namespace ObdSimulator.Bootloader

open NorFlash BlUds Run

/-- Power is not lost during an input. -/
def uninterrupted : Input → Bool
  | .cut _ _ _ _ => false
  | _ => true

/-! ## The history -/

/-- The data transferred since the last download answer, and the image the last
CheckMemory accepted. -/
structure Transferred where
  image : List UInt8 := []
  accepted : Option (List UInt8) := none
deriving DecidableEq

/-- A confirmed announcement starts over, and a confirmed block is added. -/
def transferredStep (t : Transferred) : Event → Transferred
  | .answered request response =>
    if Bytes.byte response 0 = 0x74 then { t with image := [] }
    else if Bytes.byte response 0 = 0x76 then { t with image := t.image ++ request.drop 2 }
    else if Bytes.byte response 0 = 0x71 then { t with accepted := some t.image }
    else t
  | _ => t

/-- The bytes of the blocks that were confirmed since the last announcement. -/
def transferred (events : List Event) : Transferred := events.foldl transferredStep {}

/-- What a VALID record says about the last accepted image. -/
def ValidImage (past : List Event) (b : State) : Prop :=
  ∀ image, (transferred past).accepted = some image → Valid b.uds.flash.mem →
    readBytes b.uds.flash.mem appBase (blMeta b.uds.flash.mem).size.toNat = image ∧
    (blMeta b.uds.flash.mem).crc32 = zlibCrc32 image ∧
    ∀ request response, .answered request response ∈ past → Bytes.byte response 0 = 0x71 →
      (requestVersion request).toNat ≤ (blMeta b.uds.flash.mem).version.toNat

/-- Since the last positive CheckMemory answer no download request arrived. -/
def sealedStep (closed : Bool) : Event → Bool
  | .answered _ response => if Bytes.byte response 0 = 0x71 then true else closed
  | .received request => if Bytes.byte request 0 = udsSidRequestDownload then false else closed
  | _ => closed

/-- Memory and seal, as the events change them. -/
def sealStep (h : Memory × Bool) (e : Event) : Memory × Bool :=
  (memoryStep h.1 e, sealedStep h.2 e)

/-- A primitive that changes the slot finds the marker set and the seal broken. -/
def SlotOpened (h : Memory × Bool) : Event → Prop
  | .flash e => e.done = true → touchesSlot e.op = true → Updating h.1 ∧ h.2 = false
  | _ => True

/-- Every primitive that changes the slot comes under the UPDATING marker, and
after a download request that is later than the last accepted image. -/
def SlotProtected (mem : Memory) (past : List Event) : Prop :=
  ∀ before e after, past = before ++ .flash e :: after → e.done = true →
    touchesSlot e.op = true → Updating (memoryAfter mem before) ∧
      ∀ front request response back, before = front ++ .answered request response :: back →
        Bytes.byte response 0 = 0x71 →
          ∃ download, .received download ∈ back ∧
            Bytes.byte download 0 = udsSidRequestDownload

/-- The history is the memory and whether the slot is sealed. -/
theorem seal_fold (h : Memory × Bool) (events : List Event) :
    events.foldl sealStep h = (memoryAfter h.1 events, events.foldl sealedStep h.2) := by
  induction events generalizing h with
  | nil => rfl
  | cons e rest ih =>
    rw [List.foldl_cons, ih]
    rfl

/-- A broken seal means a download request arrived after the answer. -/
theorem unsealed_download (back : List Event) (opened : back.foldl sealedStep true = false) :
    ∃ download, Event.received download ∈ back ∧
      Bytes.byte download 0 = udsSidRequestDownload := by
  induction back with
  | nil => cases opened
  | cons e rest ih =>
    by_cases still : sealedStep true e = true
    · rw [List.foldl_cons, still] at opened
      obtain ⟨download, member, service⟩ := ih opened
      exact ⟨download, List.mem_cons_of_mem _ member, service⟩
    · cases e with
      | received request =>
        by_cases service : Bytes.byte request 0 = udsSidRequestDownload
        · exact ⟨request, List.mem_cons_self, service⟩
        · simp [sealedStep, service] at still
      | answered request response => simp [sealedStep] at still
      | _ => simp [sealedStep] at still

/-- Checking every event is checking the whole history. -/
theorem protected_of_each (mem : Memory) (past : List Event)
    (each : Each sealStep SlotOpened (mem, false) past) : SlotProtected mem past := by
  intro before e after split done touched
  rw [split] at each
  have opened := each_split _ _ _ _ _ _ each done touched
  rw [seal_fold] at opened
  refine ⟨opened.1, ?_⟩
  intro front request response back here positive
  apply unsealed_download
  have tail := opened.2
  rw [here, List.foldl_append, List.foldl_cons] at tail
  simpa [sealedStep, positive] using tail

/-! ## The invariant -/

/-- What the record, the slot and the transfer have to do with the history. -/
structure ImageInv (mem : Memory) (past : List Event) (b : State) : Prop where
  floor : FloorInv (counter mem) past b
  faults : b.uds.flash.faults = []
  account : b.uds.flash.mem = memoryAfter mem past
  /-- An open transfer has stored exactly the data answered so far. -/
  transfer : b.uds.xfer.active = true → Updating b.uds.flash.mem ∧
    past.foldl sealedStep false = false ∧
    b.uds.xfer.written = (transferred past).image.length ∧
    readBytes b.uds.flash.mem appBase b.uds.xfer.written = (transferred past).image
  valid : ∀ image, (transferred past).accepted = some image → Valid b.uds.flash.mem →
    readBytes b.uds.flash.mem appBase (blMeta b.uds.flash.mem).size.toNat = image ∧
    (blMeta b.uds.flash.mem).crc32 = blCrc32 image
  opened : Each sealStep SlotOpened (mem, false) past

/-- What was transferred goes on from where it was. -/
theorem transferred_append (past events : List Event) :
    transferred (past ++ events) = events.foldl transferredStep (transferred past) := by
  simp [transferred]

/-- A record is in one state. -/
theorem not_valid_of_updating (mem : Memory) (updating : Updating mem) : ¬ Valid mem := by
  intro valid
  have same := valid.2
  rw [updating.2] at same
  exact absurd same (by decide)

/-- Events that answer nothing leave the transferred data alone. -/
theorem transferred_kept (t : Transferred) (events : List Event)
    (other : ∀ e ∈ events, ∀ request response, e = .answered request response →
      Bytes.byte response 0 ∉ downloadAnswers) : events.foldl transferredStep t = t := by
  induction events generalizing t with
  | nil => rfl
  | cons e rest ih =>
    have here : transferredStep t e = t := by
      cases e with
      | answered request response =>
        have answer := other _ List.mem_cons_self request response rfl
        simp only [downloadAnswers, List.mem_cons, List.not_mem_nil, or_false, not_or] at answer
        simp [transferredStep, answer]
      | _ => rfl
    rw [List.foldl_cons, here]
    exact ih t (fun f member => other f (List.mem_cons_of_mem _ member))

/-- A commanded request changes the transferred data by its answer. -/
theorem transferred_command (t : Transferred) (now : Nat) (r : Request) (addr : AddrType)
    (c : Command) (prims : List NorFlash.Event) (response : List UInt8) :
    (commandEvents (.request now r addr) c prims response).foldl transferredStep t =
      transferredStep t (.answered r.1 response) := by
  have before : (Event.received r.1 :: checkedEvents (some c) ++ prims.map Event.flash).foldl
      transferredStep t = t := by
    refine transferred_kept t _ ?_
    rintro e member request reply rfl
    rcases List.mem_append.mp member with front | flash
    · rcases List.mem_cons.mp front with same | checked
      · cases same
      · cases c <;> simp [checkedEvents] at checked
    · simp at flash
  have after (t : Transferred) : (defaultEvents response).foldl transferredStep t = t := by
    refine transferred_kept t _ ?_
    rintro e member request reply rfl
    exact default_events_quiet response _ member
  rw [commandEvents, List.foldl_append]
  simp only [delivered, answerEvents, List.foldl_cons, after]
  rw [List.cons_append] at before
  rw [List.foldl_cons] at before
  simpa using congrArg (fun t => transferredStep t (.answered r.1 response)) before

/-- Without a positive CheckMemory answer a broken seal stays broken. -/
theorem unsealed_kept (events : List Event)
    (other : ∀ e ∈ events, ∀ request response, e = .answered request response →
      Bytes.byte response 0 ≠ 0x71) : events.foldl sealedStep false = false := by
  induction events with
  | nil => rfl
  | cons e rest ih =>
    have here : sealedStep false e = false := by
      cases e with
      | answered request response =>
        simp [sealedStep, other _ List.mem_cons_self request response rfl]
      | received request => simp [sealedStep]
      | _ => rfl
    rw [List.foldl_cons, here]
    exact ih (fun f member => other f (List.mem_cons_of_mem _ member))

/-! ## Steps -/

/-- Without faults and cuts no rewrite is torn. -/
theorem nominal_untorn (start : Nat) (past : List Event) (b : State) (i : Input)
    (clean : b.uds.flash.faults = []) (whole : uninterrupted i = true) :
    Untorn start past b i := by
  have all : doneCount i 4 b.uds.flash.faults = 4 := by
    rw [clean]
    cases i with
    | cut now r addr primitives => cases whole
    | _ => rfl
  intro c _ _
  rw [all]
  exact ⟨by simp, by simp⟩

/-- Bytes below the range of the primitives stay. -/
theorem within_keeps_bytes (mem : Memory) (prims : List NorFlash.Event) (lo start n : Nat)
    (confined : ∀ e ∈ prims, e.done = true → Within lo metaBase e.op) (below : start + n ≤ lo) :
    readBytes (replay stmFlash mem prims) start n = readBytes mem start n := by
  induction prims generalizing mem with
  | nil => rfl
  | cons e rest ih =>
    rw [replay_cons, ih _ (fun f member => confined f (List.mem_cons_of_mem _ member))]
    apply read_bytes_congr
    intro a _ high
    cases done : e.done with
    | false => simp [NorFlash.Event.apply, done]
    | true =>
      apply apply_untouched
      intro touched
      have above := (confined e List.mem_cons_self done a touched).1
      omega

/-- Events without primitives open nothing. -/
theorem each_plain (h : Memory × Bool) (events : List Event)
    (plain : ∀ e ∈ events, ∀ prim, e ≠ .flash prim) : Each sealStep SlotOpened h events := by
  refine each_of_forall _ _ h events ?_
  intro h e member
  cases e with
  | flash prim => exact absurd rfl (plain _ member prim)
  | _ => trivial

/-- The seal before the primitives of a commanded step. -/
def commandSeal (i : Input) (closed : Bool) : Bool :=
  if Bytes.byte (delivered i) 0 = udsSidRequestDownload then false else closed

/-- A commanded step opens the slot if its primitives do. -/
theorem each_command (h : Memory × Bool) (i : Input) (c : Command) (prims : List NorFlash.Event)
    (response : List UInt8)
    (during : Each sealStep SlotOpened (h.1, commandSeal i h.2) (prims.map .flash)) :
    Each sealStep SlotOpened h (commandEvents i c prims response) := by
  have front : ∀ e ∈ Event.received (delivered i) :: checkedEvents (some c),
      ∀ prim, e ≠ .flash prim := by
    intro e member prim
    rcases List.mem_cons.mp member with rfl | checked
    · simp
    · exact checked_events_plain _ e checked prim
  have start : (Event.received (delivered i) :: checkedEvents (some c)).foldl sealStep h =
      (h.1, commandSeal i h.2) := by
    cases c <;> rfl
  rw [commandEvents, each_append, each_append, start]
  refine ⟨⟨each_plain h _ front, during⟩, each_plain _ _ ?_⟩
  exact fun e member => (answer_events_plain i response e member).1

/-- The primitives of a record rewrite do not touch the slot. -/
theorem each_meta (h : Memory × Bool) (m : BlMeta) (prims : List NorFlash.Event)
    (record : ∀ e ∈ prims, e.op ∈ metaOps m) :
    Each sealStep SlotOpened h (prims.map .flash) := by
  refine each_of_forall _ _ h _ ?_
  intro h e member
  obtain ⟨prim, inside, rfl⟩ := List.mem_map.mp member
  intro _ touched
  rw [meta_ops_outside m prim.op (record prim inside)] at touched
  cases touched

/-- Under the marker and a broken seal, primitives of the slot are all right. -/
theorem each_slot (h : Memory × Bool) (lo : Nat) (prims : List NorFlash.Event)
    (confined : ∀ e ∈ prims, e.done = true → Within lo metaBase e.op) (updating : Updating h.1)
    (opened : h.2 = false) : Each sealStep SlotOpened h (prims.map .flash) := by
  refine each_of_kept _ _ (fun h => Updating h.1 ∧ h.2 = false) h _ ⟨updating, opened⟩ ?_ ?_
  · rintro h e member ⟨marked, unsealed⟩
    obtain ⟨prim, inside, rfl⟩ := List.mem_map.mp member
    exact ⟨within_keeps_updating h.1 prim lo (confined prim inside) marked, unsealed⟩
  · rintro h e member ⟨marked, unsealed⟩
    obtain ⟨prim, inside, rfl⟩ := List.mem_map.mp member
    exact fun _ _ => ⟨marked, unsealed⟩

/-- A whole download request: the marker first, then the slot. -/
theorem each_download (h : Memory × Bool) (saved : UInt32) (size : Nat)
    (fits : size ≤ appSlotSize) (opened : h.2 = false) :
    Each sealStep SlotOpened h ((doneEvents (downloadOps saved size)).map .flash) := by
  have marker : Updating (replay stmFlash h.1 (doneEvents (metaOps (updatingMeta saved)))) := by
    have image := replay_meta_ops h.1 (updatingMeta saved) 3 (by omega)
    rw [List.take_of_length_le (by rw [meta_ops_length])] at image
    rw [image]
    exact meta_image_marker h.1 (updatingMeta saved) 3 (by omega) (by omega)
  rw [downloadOps, doneEvents, List.map_append, ← doneEvents, ← doneEvents, List.map_append,
    each_append]
  refine ⟨each_meta h (updatingMeta saved) _ ?_, each_slot _ appBase _ ?_ ?_ ?_⟩
  · intro e member
    obtain ⟨op, inside, rfl⟩ := List.mem_map.mp member
    exact inside
  · intro e member _
    obtain ⟨op, inside, rfl⟩ := List.mem_map.mp member
    exact erase_ops_within size fits op inside
  · rw [seal_fold, memory_after_flash]
    exact marker
  · rw [seal_fold]
    refine Eq.trans ?_ opened
    rw [List.foldl_map]
    exact List.foldl_fixed' (fun _ => rfl) _

/-- An answer that accepts nothing keeps a broken seal. -/
theorem unsealed_command (i : Input) (c : Command) (prims : List NorFlash.Event)
    (response : List UInt8) (other : Bytes.byte response 0 ≠ 0x71) (closed : Bool)
    (opened : commandSeal i closed = false) :
    (commandEvents i c prims response).foldl sealedStep closed = false := by
  have start : (Event.received (delivered i) :: checkedEvents (some c)).foldl sealedStep closed =
      false := by
    cases c <;> exact opened
  rw [commandEvents, List.foldl_append, List.foldl_append, start]
  have during : (prims.map Event.flash).foldl sealedStep false = false := by
    refine unsealed_kept _ ?_
    rintro e member request reply rfl
    simp at member
  rw [during]
  refine unsealed_kept _ ?_
  rintro e member request reply rfl
  cases i with
  | request now r addr =>
    rcases List.mem_cons.mp member with same | later
    · cases same
      exact other
    · exact fun positive => default_events_quiet response _ later (by rw [positive]; decide)
  | _ => cases member

/-- Without a failing primitive every list is done. -/
theorem complete_response {ok : Bool} {ops : List Op} {faults : List Bool}
    (whole : ok = decide (completed ops.length faults = ops.length)) (clean : faults = []) :
    ok = true := by
  rw [whole, clean, completed_nil]
  exact decide_eq_true rfl

/-- What each commanded request does to the image invariant's own part. -/
structure ImageStep (mem : Memory) (past : List Event) (b b' : State) (events : List Event) :
    Prop where
  transfer : b'.uds.xfer.active = true → Updating b'.uds.flash.mem ∧
    events.foldl sealedStep (past.foldl sealedStep false) = false ∧
    b'.uds.xfer.written = (events.foldl transferredStep (transferred past)).image.length ∧
    readBytes b'.uds.flash.mem appBase b'.uds.xfer.written =
      (events.foldl transferredStep (transferred past)).image
  valid : ∀ image, (events.foldl transferredStep (transferred past)).accepted = some image →
    Valid b'.uds.flash.mem →
    readBytes b'.uds.flash.mem appBase (blMeta b'.uds.flash.mem).size.toNat = image ∧
    (blMeta b'.uds.flash.mem).crc32 = blCrc32 image
  opened : Each sealStep SlotOpened (memoryAfter mem past, past.foldl sealedStep false) events

/-- An announcement keeps the invariant: the record says UPDATING before the first erase of the
slot. -/
theorem download_image (mem : Memory) (past : List Event) (b : State) (now : Nat) (r : Request)
    (addr : AddrType) (size : Nat) (inv : ImageInv mem past b)
    (cmd : commanded b (.request now r addr) = some (.requestDownload size)) :
    ImageStep mem past b (step b (.request now r addr)).1 (step b (.request now r addr)).2 := by
  have fits := commanded_fits b _ _ cmd inv.floor.regular.bounded
  have service : Bytes.byte r.1 0 = udsSidRequestDownload := commanded_sid b _ _ cmd
  obtain ⟨ops, ok, rfl, whole, outcome, events, leaves⟩ := step_download b (.request now r addr)
    size cmd inv.floor.regular.standard inv.floor.regular.bounded
  have success := complete_response whole inv.faults
  rw [success, if_pos rfl] at events leaves
  rw [inv.faults, attempted_nil, reached_request] at outcome events
  have marked : Updating (step b (.request now r addr)).1.uds.flash.mem := by
    rw [outcome.mem]
    exact download_marks _ _ size fits.2
  have broken (closed : Bool) : commandSeal (.request now r addr) closed = false := if_pos service
  refine ⟨fun _ => ⟨marked, ?_, ?_, ?_⟩, ?_, ?_⟩
  · rw [events]
    exact unsealed_command _ _ _ _ (by decide) _ (broken _)
  · rw [events, transferred_command, leaves.1]
    rfl
  · rw [events, transferred_command, leaves.1]
    rfl
  · exact fun image _ valid => absurd valid (not_valid_of_updating _ marked)
  · rw [events]
    refine each_command _ _ _ _ _ ?_
    exact each_download _ _ size fits.2 (broken _)

/-- A block keeps it: what is confirmed is in the slot behind the earlier blocks. -/
theorem transfer_image (mem : Memory) (past : List Event) (b : State) (now : Nat) (r : Request)
    (addr : AddrType) (seq : UInt8) (data : List UInt8) (inv : ImageInv mem past b)
    (cmd : commanded b (.request now r addr) = some (.transferData seq data)) :
    ImageStep mem past b (step b (.request now r addr)).1 (step b (.request now r addr)).2 := by
  obtain ⟨active, _, _, named, some_data, room⟩ :=
    commanded_fits b _ _ cmd inv.floor.regular.bounded
  have service : Bytes.byte r.1 0 = udsSidTransferData := commanded_sid b _ _ cmd
  obtain ⟨prims, ok, confined, stored, outcome, events, leaves⟩ := step_transfer b
    (.request now r addr) seq data cmd inv.floor.regular.standard inv.floor.regular.bounded
  obtain ⟨updating, unsealed, count, bytes⟩ := inv.transfer active
  rw [reached_request] at outcome events
  have marked : Updating (step b (.request now r addr)).1.uds.flash.mem := by
    rw [Updating, outcome.mem, within_keeps_meta _ _ _ confined]
    exact updating
  have broken : commandSeal (.request now r addr) (past.foldl sealedStep false) = false := by
    rw [unsealed]
    exact if_neg (by rw [delivered, service]; decide)
  have other := block_answer_other ok seq
  have grown : ((step b (.request now r addr)).2.foldl transferredStep (transferred past)).image =
      (transferred past).image ++ if ok then data else [] := by
    rw [events, transferred_command]
    cases ok with
    | false => simp [transferredStep, failure, nrc, Bytes.byte]
    | true =>
      have answer : Bytes.byte [udsSidTransferData + udsResponseSidOffset, seq] 0 = 0x76 := rfl
      simp [transferredStep, answer, named, delivered]
  refine ⟨fun _ => ⟨marked, ?_, ?_, ?_⟩, ?_, ?_⟩
  · rw [events]
    exact unsealed_command _ _ _ _ other _ broken
  · rw [grown, leaves.1]
    cases ok with
    | false => simpa using count
    | true => simp [count]
  · rw [grown, leaves.1, outcome.mem]
    cases ok with
    | false =>
      simp only [Bool.false_eq_true, if_false, List.append_nil]
      rw [within_keeps_bytes _ _ _ appBase b.uds.xfer.written confined (Nat.le_refl _)]
      exact bytes
    | true =>
      obtain ⟨_, image⟩ := stored rfl
      have block := read_bytes_program b.uds.flash.mem (appBase + b.uds.xfer.written)
        (padded data (doublewords data.length)) 0 data.length (by
          simp [padded])
      simp only [if_true, image]
      rw [read_bytes_add, read_bytes_program_elsewhere _ _ _ _ _ (Or.inl (Nat.le_refl _)), bytes]
      simpa [padded] using block
  · exact fun image _ valid => absurd valid (not_valid_of_updating _ marked)
  · rw [events]
    refine each_command _ _ _ _ _ (each_slot _ _ _ confined ?_ broken)
    rw [← inv.account]
    exact updating

/-- The check keeps it: the record becomes VALID only over the transferred image. -/
theorem check_memory_image (mem : Memory) (past : List Event) (b : State) (now : Nat) (r : Request)
    (addr : AddrType) (sub : UInt8) (version crc : UInt32) (inv : ImageInv mem past b)
    (cmd : commanded b (.request now r addr) = some (.checkMemory sub version crc)) :
    ImageStep mem past b (step b (.request now r addr)).1 (step b (.request now r addr)).2 := by
  obtain ⟨active, _, _, _, _, checked⟩ := commanded_fits b _ _ cmd inv.floor.regular.bounded
  obtain ⟨ops, ok, rfl, whole, outcome, events, leaves⟩ := step_check_memory b
    (.request now r addr) sub version crc cmd inv.floor.regular.standard
  obtain ⟨_, _, _, bytes⟩ := inv.transfer active
  have success := complete_response whole inv.faults
  rw [success, if_pos rfl] at events leaves
  rw [inv.faults, attempted_nil, reached_request] at outcome events
  have image : (step b (.request now r addr)).1.uds.flash.mem =
      metaImage b.uds.flash.mem (validMeta version crc b.uds.xfer.written) 3 := by
    have all := replay_meta_ops b.uds.flash.mem (validMeta version crc b.uds.xfer.written) 3
      (by omega)
    rw [List.take_of_length_le (by rw [meta_ops_length])] at all
    rw [outcome.mem, ← all]
  have record : blMeta (step b (.request now r addr)).1.uds.flash.mem =
      validMeta version crc b.uds.xfer.written := by rw [image, meta_image_whole]
  obtain ⟨app, slot, start, _⟩ := slot_values
  obtain ⟨inside, fits⟩ := inv.floor.regular.bounded
  have size : (UInt32.ofNat b.uds.xfer.written).toNat = b.uds.xfer.written := by
    rw [UInt32.toNat_ofNat', Nat.mod_eq_of_lt (by omega)]
  have kept : readBytes (step b (.request now r addr)).1.uds.flash.mem appBase
      b.uds.xfer.written = (transferred past).image := by
    rw [image, ← bytes]
    apply read_bytes_congr
    intro a _ high
    exact meta_image_elsewhere _ _ 3 a (by omega)
  have answered : ((step b (.request now r addr)).2.foldl transferredStep
      (transferred past)).accepted = some (transferred past).image := by
    rw [events, transferred_command]
    rfl
  refine ⟨?_, ?_, ?_⟩
  · intro still
    rw [leaves.1] at still
    cases still
  · intro last named _
    rw [answered] at named
    cases named
    rw [record]
    constructor
    · simp only [validMeta, size]
      exact kept
    · rw [validMeta, checked, bytes]
  · rw [events]
    refine each_command _ _ _ _ _ (each_meta _ (validMeta version crc b.uds.xfer.written) _ ?_)
    intro e member
    obtain ⟨op, inside, rfl⟩ := List.mem_map.mp member
    exact inside

/-- A step without a command keeps the transfer's account. -/
theorem rests_image (mem : Memory) (past : List Event) (b : State) (i : Input)
    (inv : ImageInv mem past b) (idle : commanded b i = none) :
    ImageStep mem past b (step b i).1 (step b i).2 := by
  obtain ⟨rests, quiet⟩ := step_rests b i idle
  have no_answer : ∀ e ∈ (step b i).2, ∀ request response, e = .answered request response →
      Bytes.byte response 0 ∉ downloadAnswers := by
    rintro e member request response rfl
    exact quiet _ member
  have same := transferred_kept (transferred past) (step b i).2 no_answer
  refine ⟨?_, ?_, ?_⟩
  · intro active
    obtain ⟨was_active, written⟩ : b.uds.xfer.active = true ∧
        (step b i).1.uds.xfer.written = b.uds.xfer.written := by
      rcases rests.xfer with gone | ⟨_, kept | ⟨closed, was_active, _⟩⟩
      · rw [gone] at active
        cases active
      · exact ⟨by rw [← kept]; exact active, by rw [kept]⟩
      · exact ⟨was_active, by rw [closed]⟩
    obtain ⟨updating, unsealed, count, bytes⟩ := inv.transfer was_active
    rw [same, rests.mem, written, unsealed]
    refine ⟨updating, ?_, count, bytes⟩
    refine unsealed_kept _ ?_
    rintro e member request response rfl positive
    exact quiet _ member (by rw [positive]; decide)
  · rw [same, rests.mem]
    exact inv.valid
  · refine each_plain _ _ ?_
    rintro e member prim rfl
    exact quiet _ member

/-- Uninterrupted steps keep the invariant. -/
theorem image_inv_step (mem : Memory) (past : List Event) (b : State) (i : Input)
    (inv : ImageInv mem past b) (whole : uninterrupted i = true) :
    ImageInv mem (past ++ (step b i).2) (step b i).1 := by
  have untorn := nominal_untorn (counter mem) past b i inv.faults whole
  have floor := floor_inv_step (counter mem) past b i inv.floor untorn
  obtain ⟨account, drained⟩ := step_account b i inv.floor.regular
  have faults := drained inv.faults
  rw [inv.account, ← memory_after_append] at account
  have image : ImageStep mem past b (step b i).1 (step b i).2 := by
    cases cmd : commanded b i with
    | none => exact rests_image mem past b i inv cmd
    | some c =>
      cases i with
      | request now r addr =>
        cases c with
        | requestDownload size => exact download_image mem past b now r addr size inv cmd
        | transferData seq data => exact transfer_image mem past b now r addr seq data inv cmd
        | checkMemory sub version crc =>
          exact check_memory_image mem past b now r addr sub version crc inv cmd
      | cut now r addr primitives => cases whole
      | _ => cases cmd
  refine ⟨floor, faults, account, ?_, ?_, ?_⟩
  · intro active
    rw [List.foldl_append, transferred_append]
    exact image.transfer active
  · rw [transferred_append]
    exact image.valid
  · rw [each_append, seal_fold]
    exact ⟨inv.opened, image.opened⟩

/-- A version answered positively is below the floor of the counter. -/
theorem answered_below_floor (start : Nat) (events : List Event) (request response : List UInt8)
    (member : .answered request response ∈ events) (positive : Bytes.byte response 0 = 0x71) :
    (requestVersion request).toNat ≤ floorAfter start events := by
  have grows (floor : Nat) (rest : List Event) : floor ≤ floorAfter floor rest := by
    induction rest generalizing floor with
    | nil => exact Nat.le_refl _
    | cons e rest ih =>
      refine Nat.le_trans ?_ (ih (floorStep floor e))
      cases e with
      | answered request response =>
        rw [floorStep]
        split
        · exact Nat.le_max_left _ _
        · exact Nat.le_refl _
      | _ => exact Nat.le_refl _
  obtain ⟨before, after, rfl⟩ := List.append_of_mem member
  rw [floor_after_append]
  refine Nat.le_trans ?_ (grows (floorStep (floorAfter start before) (.answered request response))
    after)
  rw [floorStep, if_pos positive]
  exact Nat.le_max_right _ _

/-- The rule about the image holds at power-up. -/
theorem power_up_image (mem : Memory) (flag : Bool) (now ready : Nat) :
    ImageInv mem [] (powerUp (Device.standard stmFlash mem []) flag now ready) := by
  obtain ⟨flash, xfer⟩ := boot_fresh (Device.standard stmFlash mem []) flag now ready
  refine ⟨power_up_floor mem [] flag now ready, ?_, ?_, ?_, by simp [transferred], trivial⟩
  · rw [powerUp, flash]
    rfl
  · rw [powerUp, flash]
    rfl
  · rw [powerUp, xfer]
    simp

/-! ## Images along a run -/

/-- Over any flash and any run without power loss, a VALID record describes the
last accepted image exactly, and the slot is only ever modified under the
UPDATING marker of a download request later than that acceptance. -/
theorem valid_image_transferred (mem : Memory) (flag : Bool) (now ready : Nat)
    (inputs : List Input) (whole : ∀ i ∈ inputs, uninterrupted i = true) :
    ValidImage
        (trace step (powerUp (Device.standard stmFlash mem []) flag now ready) inputs)
        (final step (powerUp (Device.standard stmFlash mem []) flag now ready) inputs) ∧
      SlotProtected mem
        (trace step (powerUp (Device.standard stmFlash mem []) flag now ready) inputs) := by
  have met : ∀ (past : List Event) (b : State) (inputs : List Input),
      (∀ i ∈ inputs, uninterrupted i = true) →
        Along step (fun _ _ i => uninterrupted i = true) past b inputs := by
    intro past b inputs
    induction inputs generalizing past b with
    | nil => exact fun _ => trivial
    | cons i rest ih =>
      intro every
      exact ⟨every i List.mem_cons_self,
        ih _ _ (fun j member => every j (List.mem_cons_of_mem _ member))⟩
  have inv := invariant_final step (fun _ _ i => uninterrupted i = true) (ImageInv mem)
    (image_inv_step mem) [] (powerUp (Device.standard stmFlash mem []) flag now ready) inputs
    (power_up_image mem flag now ready) (met _ _ _ whole)
  rw [List.nil_append] at inv
  refine ⟨?_, protected_of_each mem _ inv.opened⟩
  intro image accepted valid
  obtain ⟨bytes, crc⟩ := inv.valid image accepted valid
  refine ⟨bytes, ?_, ?_⟩
  · rw [crc, bl_crc32_zlib]
  · intro request response member positive
    have below := answered_below_floor (counter mem) _ request response member positive
    have kept := inv.floor.kept.1
    rw [counter_marked _ valid.1 (Or.inl valid.2)] at kept
    exact Nat.le_trans below kept

/-- Unlock, transfer an image of eight bytes, and have it checked as version one. -/
def checkedDownload : List Input :=
  [.request 2000 seedRequest .physical, .request 2000 keyRequest .physical,
   .request 2000 downloadRequest .physical,
   .request 2000 ⟨[0x36, 0x01, 0x31, 0x32, 0x33, 0x34, 0x35, 0x36, 0x37, 0x38],
     Nat.le_of_ble_eq_true rfl⟩ .physical,
   .request 2000 ⟨[0x37], Nat.le_of_ble_eq_true rfl⟩ .physical,
   .request 2000 ⟨[0x31, 0x01, 0x02, 0x03, 0, 0, 0, 1, 0x9A, 0xE0, 0xDA, 0xAF],
     Nat.le_of_ble_eq_true rfl⟩ .physical]

/-- The download is accepted, and the record left behind is VALID. -/
theorem checked_download_image :
    (transferred (trace step (powerUp (Device.standard stmFlash (fun _ => 0xFF) []) true 0 0)
      checkedDownload)).accepted = some [0x31, 0x32, 0x33, 0x34, 0x35, 0x36, 0x37, 0x38] ∧
    Valid (final step (powerUp (Device.standard stmFlash (fun _ => 0xFF) []) true 0 0)
      checkedDownload).uds.flash.mem ∧
    ValidImage
      (trace step (powerUp (Device.standard stmFlash (fun _ => 0xFF) []) true 0 0)
        checkedDownload)
      (final step (powerUp (Device.standard stmFlash (fun _ => 0xFF) []) true 0 0)
        checkedDownload) := by
  refine ⟨by decide +kernel, by decide +kernel, ?_⟩
  exact (valid_image_transferred (fun _ => 0xFF) true 0 0 checkedDownload (by decide)).1

end ObdSimulator.Bootloader
