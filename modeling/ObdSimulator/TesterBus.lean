import ObdSimulator.EcuRuns
import ObdSimulator.Lib.Calls
import ObdSimulator.TesterRequests

/-!
# The tester and the device on one bus

A test of the tester runs against the device, each with its own side of the transport.
Frames may be lost, the tester may wait too long, and the device may be reset, switched
off and on, or lose power in the middle of a request, unless nothing goes wrong; what
the tester gets then is what the device answered, or nothing.

A test is orderly if it ends where it gets no reply. The phase of a test is how far its
current call came: which frames are under way, and what the transport of the device
holds of the request.
-/

namespace ObdSimulator.TesterBus

open Bytes Tester Calls
open IsoTp (World Receiving queuedFrames isoTpMaxMessageSize)
open Dialogue (Leftover sendAll)
open Ecu (Node ecuUpper)
open AppMain (Short)

/-! ## The system -/

/-- The inputs of the device that are not frames. -/
inductive Other where
  | tick (now hal : Nat)
  | work (hal : Nat) (k : Ecu.Work)
  | reset (start : Ecu.Startup)
  | powerCycle (start : Ecu.Startup) (sram : NorFlash.Memory)

/-- The rest of the device's work as an input of the device. -/
def Other.input : Other → Ecu.Input
  | .tick now hal => .tick now hal
  | .work hal k => .work hal k
  | .reset start => .reset start
  | .powerCycle start sram => .powerCycle start sram

/-- The tick at which a frame arrives, and the flash primitives after which power fails
then, if it does. -/
structure Arrival where
  hal : Nat
  cut : Option Nat := none

/-- A frame of the tester as an input of the device. -/
def Arrival.input (k : Arrival) (f : TxFrame) : Ecu.Input :=
  match k.cut with
  | none => .frame k.hal (heard f)
  | some primitives => .cut k.hal (heard f) primitives

/-- The device as the tester sees it: frames in, frames out. -/
def ecuServer : Dialogue.Server (World Node) Arrival Other TxFrame TxFrame where
  serve w k f := ((Ecu.step w (k.input f)).1, queuedFrames (Ecu.step w (k.input f)).2)
  work w o := ((Ecu.step w o.input).1, queuedFrames (Ecu.step w o.input).2)

/-- The tester, the device, and the frames between them. -/
abbrev System (α : Type) := Dialogue.State (World Node) TxFrame TxFrame α

/-- One of them acts, or the bus loses a frame. -/
abbrev Move := Dialogue.Move Arrival Other

/-! ## What the device is for a test -/

/-- What the tester's program may expect of the device. -/
abbrev Device := Service Node Call (fun _ => Reply)

/-- The frames of an answer: some the tester does not take, then the one that makes its
reply; or none it takes, where answers may be missing. -/
def Replied (lossy : Prop) (v : Device) (n : Node) (c : Call) (n' : Node)
    (frames : List TxFrame) : Prop :=
  (∃ pending last, frames = pending ++ [last] ∧ (∀ f ∈ pending, c.takes f = false) ∧
      c.takes last = true ∧ v.answers n c n' (parseUds (some last.wire) c.sid)) ∨
    (lossy ∧ ∀ f ∈ frames, c.takes f = false)

/-- The device is a service for the proper calls as long as it is fine: it answers them,
and what it does by itself is a drift that sends nothing. It loses a reception only
where something goes wrong. -/
structure Host (lossy : Prop) (v : Device) (fine : Node → Prop) (proper : Call → Prop)
    (allowed : World Node → Other → Prop) : Prop where
  on : ∀ n, fine n → lossy ∨ n.mode ≠ .off
  work : ∀ w o, fine w.upper → Calm lossy w.link → allowed w o →
    let r := Ecu.step w o.input
    fine r.1.upper ∧ v.drifts w.upper r.1.upper ∧ queuedFrames r.2 = [] ∧ Calm lossy r.1.link ∧
      (r.1.link.ctx.toRxContext = w.link.ctx.toRxContext ∨
        (lossy ∧ r.1.link.ctx.rxState ≠ .waitCf))
  cut : lossy → ∀ w hal f primitives, fine w.upper →
    fine (Ecu.step w (.cut hal f primitives)).1.upper
  serve : ∀ n c hal buffer, fine n → proper c →
    buffer.take c.payload.length = c.payload →
    let served := ecuUpper.dispatch n hal buffer c.payload.length .physical
    fine served.state ∧ (∀ m ∈ served.sent ++ [served.response], Short m) ∧
      Replied lossy v n c served.state (answerFrames (served.sent ++ [served.response]))
  sized : ∀ c, proper c → 0 < c.payload.length ∧ c.payload.length ≤ isoTpMaxMessageSize

/-! ## Phases of a call -/

variable {α : Type} {lossy : Prop} {v : Device} {fine : Node → Prop} {proper : Call → Prop}
  {allowed : World Node → Other → Prop} {post : α → Node → Prop}

/-- All calls are proper, and a test without a reply ends with a good value. -/
def Orderly (lossy : Prop) (proper : Call → Prop) (good : α → Prop) : Test α → Prop
  | .done _ => True
  | .ask c next => proper c ∧ (lossy → ∃ a, next .nothing = .done a ∧ good a) ∧
      ∀ reply, Orderly lossy proper good (next reply)

/-- The value meets the postcondition whatever the device does then. -/
def Always (post : α → Node → Prop) (a : α) : Prop := ∀ n, post a n

/-- One orderly test after another, which ends where the first one got no reply. -/
theorem Orderly.bind {β : Type} {good : α → Prop} {good' : β → Prop} {p : Test α}
    {f : α → Test β} (first : Orderly lossy proper good p)
    (ends : lossy → ∀ a, good a → ∃ b, f a = .done b ∧ good' b)
    (second : ∀ a, Orderly lossy proper good' (f a)) : Orderly lossy proper good' (p >>= f) := by
  induction p with
  | done a => exact second a
  | ask c next ih =>
    obtain ⟨proper, silent, rest⟩ := first
    refine ⟨proper, fun loses => ?_, fun reply => ih reply (rest reply)⟩
    obtain ⟨a, ended, good⟩ := silent loses
    obtain ⟨b, stops, good'⟩ := ends loses a good
    have after : (next .nothing >>= f) = f a := by
      rw [ended]
      rfl
    exact ⟨b, after.trans stops, good'⟩

/-- A weaker notion of proper calls serves as well. -/
theorem Orderly.mono {good : α → Prop} {proper' : Call → Prop} {p : Test α}
    (orderly : Orderly lossy proper good p) (weaker : ∀ c, proper c → proper' c) :
    Orderly lossy proper' good p := by
  induction p with
  | done a => trivial
  | ask c next ih =>
    obtain ⟨proper, silent, rest⟩ := orderly
    exact ⟨weaker c proper, silent, fun reply => ih reply (rest reply)⟩

/-- The tester waits for a response, and goes on with it. -/
def waiting (c : Call) (next : Reply → Test α) : Bus α :=
  .ask (.await c.takes) fun resp => onBus (next (parseUds (resp.map TxFrame.wire) c.sid))

/-- The tester goes on sending, if flow control came. -/
def goOn (c : Call) (next : Reply → Test α) : Option TxFrame → Bus α
  | none => waiting c next
  | some _ => sendAll (consecutiveFrames c.payload) (waiting c next)

/-- The tester waits for flow control. -/
def awaiting (c : Call) (next : Reply → Test α) : Bus α :=
  .ask (.await isFlowControl) (goOn c next)

/-- What follows a test follows its frames. -/
theorem send_all_bind {β : Type} (frames : List TxFrame) (rest : Bus β) (f : β → Bus α) :
    (sendAll frames rest).bind f = sendAll frames (rest.bind f) := by
  induction frames with
  | nil => rfl
  | cons frame frames ih => exact congrArg (Program.ask (.send frame)) (funext fun _ => ih)

/-- A call sends its first frame and waits. -/
theorem on_bus_ask (c : Call) (next : Reply → Test α) :
    onBus (.ask c next) =
      if c.payload.length ≤ 62 then
        .ask (.send (Tester.singleFrame c.payload)) fun _ => waiting c next
      else .ask (.send (Tester.firstFrame c.payload)) fun _ => awaiting c next := by
  change (c.run.bind fun reply => onBus (next reply)) = _
  unfold Call.run
  split
  · rfl
  · have continued : ∀ granted,
        (c.continueSend granted).bind (fun reply => onBus (next reply)) = goOn c next granted := by
      intro granted
      cases granted with
      | none => rfl
      | some fc => exact send_all_bind _ c.receive _
    exact congrArg (Program.ask (Dialogue.Talk.send (Tester.firstFrame c.payload)))
      (funext fun _ => congrArg (Program.ask (Dialogue.Talk.await isFlowControl))
        (funext continued))

/-- The request of the call goes to nothing, and only `nothing` can come of it. -/
structure Hopeless (lossy : Prop) (proper : Call → Prop) (post : α → Node → Prop) (c : Call)
    (next : Reply → Test α) : Prop where
  loses : lossy
  orderly : Orderly lossy proper (Always post) (.ask c next)

/-- How far the current call came, by the client, the frames to the device, the device
and the frames from it. -/
inductive Phase (lossy : Prop) (v : Device) (proper : Call → Prop) (post : α → Node → Prop) :
    Bus α → List TxFrame → World Node → List TxFrame → Prop
  | between (p : Test α) (w : World Node) (ensures : Ensures v post p w.upper)
      (orderly : Orderly lossy proper (Always post) p) :
      Phase lossy v proper post (onBus p) [] w []
  /-- The only frame of a short request is under way. -/
  | single (c : Call) (next : Reply → Test α) (toServer : List TxFrame) (w : World Node)
      (ensures : Ensures v post (.ask c next) w.upper)
      (orderly : Orderly lossy proper (Always post) (.ask c next)) (short : c.payload.length ≤ 62)
      (left : Leftover lossy toServer [Tester.singleFrame c.payload]) :
      Phase lossy v proper post (waiting c next) toServer w []
  | first (c : Call) (next : Reply → Test α) (toServer : List TxFrame) (w : World Node)
      (ensures : Ensures v post (.ask c next) w.upper)
      (orderly : Orderly lossy proper (Always post) (.ask c next)) (long : 62 < c.payload.length)
      (left : Leftover lossy toServer [Tester.firstFrame c.payload]) :
      Phase lossy v proper post (awaiting c next) toServer w []
  /-- The First Frame arrived, and flow control is under way. -/
  | granted (c : Call) (next : Reply → Test α) (w : World Node) (toClient : List TxFrame)
      (ensures : Ensures v post (.ask c next) w.upper)
      (orderly : Orderly lossy proper (Always post) (.ask c next)) (long : 62 < c.payload.length)
      (left : Leftover lossy toClient [flowControl])
      (reception : (Receiving c.payload 1 w.link.ctx.toRxContext ∧ w.link.ctx.rxReceived = 62) ∨
        (lossy ∧ w.link.ctx.rxState ≠ .waitCf)) :
      Phase lossy v proper post (awaiting c next) [] w toClient
  /-- Some Consecutive Frames are under way, some still to send, and the device waits for
  the first of them all. -/
  | consecutive (c : Call) (next : Reply → Test α) (position : Nat)
      (toServer sent unsent : List TxFrame) (w : World Node)
      (ensures : Ensures v post (.ask c next) w.upper)
      (orderly : Orderly lossy proper (Always post) (.ask c next))
      (split : sent ++ unsent = remaining c.payload position w.link.ctx.rxReceived)
      (left : Leftover lossy toServer sent)
      (receiving : Receiving c.payload position w.link.ctx.toRxContext)
      (received : 62 ≤ w.link.ctx.rxReceived) :
      Phase lossy v proper post (sendAll unsent (waiting c next)) toServer w []
  /-- The First Frame is lost with the device. -/
  | lost (c : Call) (next : Reply → Test α) (w : World Node)
      (hopeless : Hopeless lossy proper post c next) :
      Phase lossy v proper post (awaiting c next) [] w []
  /-- Consecutive Frames without a reception. -/
  | broken (c : Call) (next : Reply → Test α) (toServer unsent : List TxFrame) (w : World Node)
      (hopeless : Hopeless lossy proper post c next)
      (consecutive : ∀ f ∈ toServer ++ unsent, Consecutive f)
      (idle : w.link.ctx.rxState ≠ .waitCf) :
      Phase lossy v proper post (sendAll unsent (waiting c next)) toServer w []
  /-- The tester did not wait for flow control. -/
  | abandoned (c : Call) (next : Reply → Test α) (toServer : List TxFrame) (w : World Node)
      (hopeless : Hopeless lossy proper post c next) (long : 62 < c.payload.length)
      (left : Leftover lossy toServer [Tester.firstFrame c.payload]) :
      Phase lossy v proper post (waiting c next) toServer w []
  /-- No frame that comes is a response. -/
  | unanswered (c : Call) (next : Reply → Test α) (w : World Node) (toClient : List TxFrame)
      (hopeless : Hopeless lossy proper post c next)
      (useless : ∀ f ∈ toClient, c.takes f = true → parseUds (some f.wire) c.sid = .nothing) :
      Phase lossy v proper post (waiting c next) [] w toClient
  /-- The device answered. -/
  | answered (c : Call) (next : Reply → Test α) (w : World Node)
      (toClient pending : List TxFrame) (last : TxFrame)
      (ensures : Ensures v post (next (parseUds (some last.wire) c.sid)) w.upper)
      (orderly : Orderly lossy proper (Always post) (.ask c next))
      (left : Leftover lossy toClient (pending ++ [last]))
      (skipped : ∀ f ∈ pending, c.takes f = false) (taken : c.takes last = true) :
      Phase lossy v proper post (waiting c next) [] w toClient

/-- The test has a value that is good whatever the device does. -/
def Ended (lossy : Prop) (post : α → Node → Prop) (client : Bus α) : Prop :=
  lossy ∧ ∃ a, client = .done a ∧ ∀ n, post a n

/-- The invariant of the system. -/
def Stage (lossy : Prop) (v : Device) (fine : Node → Prop) (proper : Call → Prop)
    (post : α → Node → Prop) (s : System α) : Prop :=
  Ended lossy post s.client ∨
    (fine s.server.upper ∧ Calm lossy s.server.link ∧
      Phase lossy v proper post s.client s.toServer s.server s.toClient)

/-! ## The tester -/

/-- Without a reply the test is at its end. -/
theorem Orderly.gave_up {c : Call} {next : Reply → Test α}
    (orderly : Orderly lossy proper (Always post) (.ask c next)) (loses : lossy) :
    Ended lossy post (onBus (next .nothing)) := by
  obtain ⟨a, ended, good⟩ := orderly.2.1 loses
  exact ⟨loses, a, by rw [ended]; rfl, good⟩

/-- A frame the wait takes is parsed into the reply. -/
theorem waiting_taken (c : Call) (next : Reply → Test α) (w : World Node) (f : TxFrame)
    (rest : List TxFrame) (taken : c.takes f = true) :
    Dialogue.State.act ⟨waiting c next, [], w, f :: rest⟩ =
      ⟨onBus (next (parseUds (some f.wire) c.sid)), [], w, rest⟩ :=
  Dialogue.act_taken [] w c.takes _ f rest taken

/-- A frame the wait does not take is dropped. -/
theorem waiting_passed (c : Call) (next : Reply → Test α) (w : World Node) (f : TxFrame)
    (rest : List TxFrame) (passed : c.takes f = false) :
    Dialogue.State.act ⟨waiting c next, [], w, f :: rest⟩ = ⟨waiting c next, [], w, rest⟩ :=
  Dialogue.act_passed [] w c.takes _ f rest passed

/-- Flow control lets the remaining frames go. -/
theorem awaiting_taken (c : Call) (next : Reply → Test α) (w : World Node) :
    Dialogue.State.act ⟨awaiting c next, [], w, [flowControl]⟩ =
      ⟨sendAll (consecutiveFrames c.payload) (waiting c next), [], w, []⟩ :=
  Dialogue.act_taken [] w isFlowControl _ flowControl [] flow_control_taken

/-- Between two calls the tester sends the first frame of the next. -/
theorem between_act (p : Test α) (w : World Node) (ensures : Ensures v post p w.upper)
    (orderly : Orderly lossy proper (Always post) p) :
    let s := Dialogue.State.act ⟨onBus p, [], w, []⟩
    Phase lossy v proper post s.client s.toServer s.server s.toClient := by
  cases p with
  | done a => exact .between (.done a) w ensures orderly
  | ask c next =>
    rw [on_bus_ask]
    by_cases short : c.payload.length ≤ 62
    · rw [if_pos short]
      exact .single c next _ w ensures orderly short (.whole _)
    · rw [if_neg short]
      exact .first c next _ w ensures orderly (Nat.lt_of_not_le short) (.whole _)

/-- With flow control granted, the tester takes it or goes on waiting. -/
theorem granted_act (c : Call) (next : Reply → Test α) (w : World Node) (toClient : List TxFrame)
    (ensures : Ensures v post (.ask c next) w.upper)
    (orderly : Orderly lossy proper (Always post) (.ask c next)) (long : 62 < c.payload.length)
    (left : Leftover lossy toClient [flowControl])
    (reception : (Receiving c.payload 1 w.link.ctx.toRxContext ∧ w.link.ctx.rxReceived = 62) ∨
      (lossy ∧ w.link.ctx.rxState ≠ .waitCf)) :
    let s := Dialogue.State.act ⟨awaiting c next, [], w, toClient⟩
    Phase lossy v proper post s.client s.toServer s.server s.toClient := by
  cases toClient with
  | nil => exact .granted c next w [] ensures orderly long left reception
  | cons f rest =>
    obtain ⟨rfl, rfl⟩ := left.one
    rw [awaiting_taken]
    rcases reception with ⟨receiving, received⟩ | ⟨loses, idle⟩
    · refine .consecutive c next 1 [] [] (consecutiveFrames c.payload) w ensures orderly ?_
        (.whole []) receiving (Nat.le_of_eq received.symm)
      rw [received, List.nil_append, consecutive_frames_remaining]
    · refine .broken c next [] (consecutiveFrames c.payload) w ⟨loses, orderly⟩ ?_ idle
      rw [List.nil_append, consecutive_frames_remaining]
      exact remaining_consecutive c.payload 1 62

/-- The tester passes over the frames it does not take, and takes the last one. -/
theorem answered_act (c : Call) (next : Reply → Test α) (w : World Node)
    (toClient pending : List TxFrame) (last : TxFrame)
    (ensures : Ensures v post (next (parseUds (some last.wire) c.sid)) w.upper)
    (orderly : Orderly lossy proper (Always post) (.ask c next))
    (left : Leftover lossy toClient (pending ++ [last]))
    (skipped : ∀ f ∈ pending, c.takes f = false) (taken : c.takes last = true) :
    let s := Dialogue.State.act ⟨waiting c next, [], w, toClient⟩
    Phase lossy v proper post s.client s.toServer s.server s.toClient := by
  cases toClient with
  | nil => exact .answered c next w [] pending last ensures orderly left skipped taken
  | cons f rest =>
    obtain ⟨before, after, whole, later, _⟩ := left.first
    rcases List.eq_nil_or_concat after with rfl | ⟨after, x, rfl⟩
    · obtain ⟨_, only⟩ := List.append_inj' whole rfl
      obtain ⟨rfl, _⟩ := List.cons.inj only
      have none_left := later.of_nil
      subst none_left
      rw [waiting_taken c next w last [] taken]
      exact .between _ w ensures (orderly.2.2 _)
    · rw [List.concat_eq_append] at whole later
      rw [← List.cons_append, ← List.append_assoc] at whole
      obtain ⟨rfl, only⟩ := List.append_inj' whole rfl
      obtain ⟨rfl, _⟩ := List.cons.inj only
      have passed := skipped f (List.mem_append_right before List.mem_cons_self)
      rw [waiting_passed c next w f rest passed]
      refine .answered c next w rest after last ensures orderly later ?_ taken
      exact fun g member =>
        skipped g (List.mem_append_right before (List.mem_cons_of_mem f member))

/-- A tester that nothing useful can reach goes on waiting. -/
theorem unanswered_act (c : Call) (next : Reply → Test α) (w : World Node)
    (toClient : List TxFrame) (hopeless : Hopeless lossy proper post c next)
    (useless : ∀ f ∈ toClient, c.takes f = true → parseUds (some f.wire) c.sid = .nothing) :
    let s := Dialogue.State.act ⟨waiting c next, [], w, toClient⟩
    Ended lossy post s.client ∨
      Phase lossy v proper post s.client s.toServer s.server s.toClient := by
  cases toClient with
  | nil => exact Or.inr (.unanswered c next w [] hopeless useless)
  | cons f rest =>
    cases taken : c.takes f with
    | true =>
      have nothing := useless f List.mem_cons_self taken
      rw [waiting_taken c next w f rest taken, nothing]
      refine Or.inl ?_
      exact hopeless.orderly.gave_up hopeless.loses
    | false =>
      rw [waiting_passed c next w f rest taken]
      exact Or.inr (.unanswered c next w rest hopeless
        fun g member => useless g (List.mem_cons_of_mem f member))

/-- The tester's next action keeps the phases. -/
theorem act_phase (s : System α)
    (phase : Phase lossy v proper post s.client s.toServer s.server s.toClient) :
    Ended lossy post s.act.client ∨
      Phase lossy v proper post s.act.client s.act.toServer s.act.server s.act.toClient := by
  obtain ⟨client, toServer, w, toClient⟩ := s
  cases phase with
  | between p _ ensures orderly => exact Or.inr (between_act p w ensures orderly)
  | single c next _ _ ensures orderly short left =>
    exact Or.inr (.single c next toServer w ensures orderly short left)
  | first c next _ _ ensures orderly long left =>
    exact Or.inr (.first c next toServer w ensures orderly long left)
  | granted c next _ _ ensures orderly long left reception =>
    exact Or.inr (granted_act c next w toClient ensures orderly long left reception)
  | consecutive c next position _ sent unsent _ ensures orderly split left receiving received =>
    cases unsent with
    | nil =>
      exact Or.inr (.consecutive c next position toServer sent [] w ensures orderly split left
        receiving received)
    | cons f rest =>
      refine Or.inr (.consecutive c next position (toServer ++ [f]) (sent ++ [f]) rest w ensures
        orderly ?_ (left.append (.whole [f])) receiving received)
      rw [List.append_assoc]
      exact split
  | lost c next _ hopeless => exact Or.inr (.lost c next w hopeless)
  | broken c next _ unsent _ hopeless consecutive idle =>
    cases unsent with
    | nil => exact Or.inr (.broken c next toServer [] w hopeless consecutive idle)
    | cons f rest =>
      refine Or.inr (.broken c next (toServer ++ [f]) rest w hopeless ?_ idle)
      rw [List.append_assoc]
      exact consecutive
  | abandoned c next _ _ hopeless long left =>
    exact Or.inr (.abandoned c next toServer w hopeless long left)
  | unanswered c next _ _ hopeless useless =>
    exact unanswered_act c next w toClient hopeless useless
  | answered c next _ _ pending last ensures orderly left skipped taken =>
    exact Or.inr (answered_act c next w toClient pending last ensures orderly left skipped taken)

/-- A tester between two calls has no wait to give up. -/
theorem on_bus_waits_not (p : Test α) (toServer : List TxFrame) (w : World Node)
    (toClient : List TxFrame) :
    Dialogue.State.giveUp ⟨onBus p, toServer, w, toClient⟩ = ⟨onBus p, toServer, w, toClient⟩ := by
  cases p with
  | done a => rfl
  | ask c next =>
    rw [on_bus_ask]
    split
    · rfl
    · rfl

/-- A wait that is given up ends the call, or the wait for flow control. -/
theorem give_up_phase (loses : lossy) (s : System α)
    (phase : Phase lossy v proper post s.client s.toServer s.server s.toClient) :
    Ended lossy post s.giveUp.client ∨
      Phase lossy v proper post s.giveUp.client s.giveUp.toServer s.giveUp.server
        s.giveUp.toClient := by
  obtain ⟨client, toServer, w, toClient⟩ := s
  cases phase with
  | between p _ ensures orderly =>
    rw [on_bus_waits_not]
    exact Or.inr (.between p w ensures orderly)
  | single c next _ _ ensures orderly short left => exact Or.inl (orderly.gave_up loses)
  | first c next _ _ ensures orderly long left =>
    exact Or.inr (.abandoned c next toServer w ⟨loses, orderly⟩ long left)
  | granted c next _ _ ensures orderly long left reception =>
    refine Or.inr (.unanswered c next w toClient ⟨loses, orderly⟩ ?_)
    intro f member _
    rw [List.mem_singleton.mp (left.1.subset member)]
    exact parse_flow_control c.sid
  | consecutive c next position _ sent unsent _ ensures orderly split left receiving received =>
    cases unsent with
    | nil => exact Or.inl (orderly.gave_up loses)
    | cons f rest =>
      exact Or.inr (.consecutive c next position toServer sent (f :: rest) w ensures orderly split
        left receiving received)
  | lost c next _ hopeless =>
    exact Or.inr (.unanswered c next w [] hopeless (List.forall_mem_nil _))
  | broken c next _ unsent _ hopeless consecutive idle =>
    cases unsent with
    | nil => exact Or.inl (hopeless.orderly.gave_up loses)
    | cons f rest => exact Or.inr (.broken c next toServer (f :: rest) w hopeless consecutive idle)
  | abandoned c next _ _ hopeless long left => exact Or.inl (hopeless.orderly.gave_up loses)
  | unanswered c next _ _ hopeless useless => exact Or.inl (hopeless.orderly.gave_up loses)
  | answered c next _ _ pending last ensures orderly left skipped taken =>
    exact Or.inl (orderly.gave_up loses)

/-! ## The device -/

/-- The frames of a reception that ended are all Consecutive Frames. -/
theorem reception_consecutive (c : Call) (position received : Nat)
    (toServer sent unsent : List TxFrame)
    (split : sent ++ unsent = remaining c.payload position received)
    (left : Leftover lossy toServer sent) : ∀ f ∈ toServer ++ unsent, Consecutive f := by
  intro f member
  apply remaining_consecutive c.payload position received f
  rw [← split]
  rcases List.mem_append.mp member with arrives | later
  · exact List.mem_append_left unsent (left.1.subset arrives)
  · exact List.mem_append_right sent later

/-- What the device does by itself is a drift, and at most it ends a reception. -/
theorem drift_phase (client : Bus α) (toServer toClient : List TxFrame) (w w' : World Node)
    (phase : Phase lossy v proper post client toServer w toClient)
    (drift : v.drifts w.upper w'.upper)
    (reception : w'.link.ctx.toRxContext = w.link.ctx.toRxContext ∨
      (lossy ∧ w'.link.ctx.rxState ≠ .waitCf)) :
    Phase lossy v proper post client toServer w' toClient := by
  cases phase with
  | between p _ ensures orderly => exact .between p w' (ensures.drift drift) orderly
  | single c next _ _ ensures orderly short left =>
    exact .single c next toServer w' (ensures.drift drift) orderly short left
  | first c next _ _ ensures orderly long left =>
    exact .first c next toServer w' (ensures.drift drift) orderly long left
  | granted c next _ _ ensures orderly long left waits =>
    refine .granted c next w' toClient (ensures.drift drift) orderly long left ?_
    rcases reception with same | ended
    · rw [same]
      exact waits
    · exact Or.inr ended
  | consecutive c next position _ sent unsent _ ensures orderly split left receiving received =>
    rcases reception with same | ⟨loses, ended⟩
    · have count : w'.link.ctx.rxReceived = w.link.ctx.rxReceived :=
        congrArg IsoTp.RxContext.rxReceived same
      rw [← same] at receiving
      rw [← count] at split received
      exact .consecutive c next position toServer sent unsent w' (ensures.drift drift) orderly
        split left receiving received
    · exact .broken c next toServer unsent w' ⟨loses, orderly⟩
        (reception_consecutive c position _ toServer sent unsent split left) ended
  | lost c next _ hopeless => exact .lost c next w' hopeless
  | broken c next _ unsent _ hopeless consecutive idle =>
    refine .broken c next toServer unsent w' hopeless consecutive ?_
    rcases reception with same | ⟨_, ended⟩
    · have state : w'.link.ctx.rxState = w.link.ctx.rxState :=
        congrArg IsoTp.RxContext.rxState same
      rw [state]
      exact idle
    · exact ended
  | abandoned c next _ _ hopeless long left =>
    exact .abandoned c next toServer w' hopeless long left
  | unanswered c next _ _ hopeless useless => exact .unanswered c next w' toClient hopeless useless
  | answered c next _ _ pending last ensures orderly left skipped taken =>
    exact .answered c next w' toClient pending last (ensures.drift drift) orderly left skipped taken

/-- What becomes of a frame: it finds the device off, or power fails with it, or the
transport of the device takes it. -/
theorem arrival_cases (host : Host lossy v fine proper allowed) (w : World Node) (k : Arrival)
    (f : TxFrame) (whole : lossy ∨ k.cut = none) (good : fine w.upper) :
    (lossy ∧ Ecu.step w (k.input f) = (w, [])) ∨
      (lossy ∧ ∃ w', Ecu.step w (k.input f) = (w', []) ∧ fine w'.upper ∧ Calm lossy w'.link ∧
        w'.link.ctx.rxState ≠ .waitCf) ∨
      Ecu.step w (k.input f) = IsoTp.step ecuUpper w (.frame k.hal (heard f)) := by
  cases cut : k.cut with
  | none =>
    have input : k.input f = .frame k.hal (heard f) := by rw [Arrival.input, cut]
    rw [input]
    change (lossy ∧ Ecu.call w _ = _) ∨ (lossy ∧ ∃ w', Ecu.call w _ = _ ∧ _) ∨ Ecu.call w _ = _
    by_cases off : w.upper.mode = .off
    · have loses : lossy := (host.on w.upper good).resolve_right fun on => on off
      exact Or.inl ⟨loses, by rw [Ecu.call, if_pos off]⟩
    · exact Or.inr (Or.inr (by rw [Ecu.call, if_neg off]))
  | some primitives =>
    have loses : lossy := whole.resolve_right (by rw [cut]; exact Option.some_ne_none _)
    have input : k.input f = .cut k.hal (heard f) primitives := by rw [Arrival.input, cut]
    have still := host.cut loses w k.hal (heard f) primitives good
    rw [input]
    rw [Ecu.step] at still ⊢
    cases asked : Ecu.request w k.hal (heard f) with
    | none => exact Or.inl ⟨loses, rfl⟩
    | some c =>
      rw [asked] at still
      refine Or.inr (Or.inl ⟨loses, _, rfl, still, ?_, ?_⟩)
      · exact ⟨rfl, ⟨[], IsoTp.fresh_held⟩, IsoTp.fresh_ready, Or.inl loses⟩
      · intro waits
        cases waits

/-- The phase a move of the device leaves, with what it keeps. -/
def Leads (lossy : Prop) (v : Device) (fine : Node → Prop) (proper : Call → Prop)
    (post : α → Node → Prop) (client : Bus α) (toServer : List TxFrame) (w : World Node)
    (toClient : List TxFrame) : Prop :=
  fine w.upper ∧ Calm lossy w.link ∧ Phase lossy v proper post client toServer w toClient

/-- A request that was dispatched is answered, or no answer to it comes. -/
theorem dispatched_leads (host : Host lossy v fine proper allowed) (c : Call)
    (next : Reply → Test α) (w : World Node) (hal : Nat) (i : IsoTp.Input Ecu.Work)
    (ensures : Ensures v post (.ask c next) w.upper)
    (orderly : Orderly lossy proper (Always post) (.ask c next)) (good : fine w.upper)
    (calm : Calm lossy w.link)
    (answered : Answered lossy ecuUpper w c.payload hal (IsoTp.step ecuUpper w i)) :
    Leads lossy v fine proper post (waiting c next) [] (IsoTp.step ecuUpper w i).1
      (queuedFrames (IsoTp.step ecuUpper w i).2) := by
  obtain ⟨buffer, stored, upper, sends⟩ := answered.answers
  obtain ⟨still, short, replied⟩ := host.serve w.upper c hal buffer good orderly.1 stored
  obtain ⟨tx, queue, left⟩ := sends short
  rw [← upper] at still replied
  refine ⟨still, step_calm ecuUpper w i calm tx queue, ?_⟩
  rcases replied with ⟨pending, last, frames, skipped, taken, reply⟩ | ⟨loses, passed⟩
  · rw [frames] at left
    exact .answered c next _ _ pending last (ensures.reply reply) orderly left skipped taken
  · refine .unanswered c next _ _ ⟨loses, orderly⟩ ?_
    intro f member taken
    rw [passed f (left.1.subset member)] at taken
    cases taken

/-- What serving the oldest frame leads to. -/
def Serves (lossy : Prop) (v : Device) (fine : Node → Prop) (proper : Call → Prop)
    (post : α → Node → Prop) (client : Bus α) (rest : List TxFrame)
    (toClient : List TxFrame) (r : World Node × List IsoTp.Event) : Prop :=
  Leads lossy v fine proper post client rest r.1 (toClient ++ queuedFrames r.2)

/-- The device answers the Single Frame of a short call. -/
theorem single_serves (host : Host lossy v fine proper allowed) (c : Call)
    (next : Reply → Test α) (w : World Node) (k : Arrival) (whole : lossy ∨ k.cut = none)
    (ensures : Ensures v post (.ask c next) w.upper)
    (orderly : Orderly lossy proper (Always post) (.ask c next)) (short : c.payload.length ≤ 62)
    (good : fine w.upper) (calm : Calm lossy w.link) :
    Serves lossy v fine proper post (waiting c next) [] []
      (Ecu.step w (k.input (Tester.singleFrame c.payload))) := by
  rcases arrival_cases host w k (Tester.singleFrame c.payload) whole good with
    ⟨loses, missed⟩ | ⟨loses, w', cut, still, calm', _⟩ | arrived
  · rw [missed]
    exact ⟨good, calm, .single c next [] w ensures orderly short (.lost _ loses)⟩
  · rw [cut]
    exact ⟨still, calm', .unanswered c next w' [] ⟨loses, orderly⟩ (List.forall_mem_nil _)⟩
  · rw [arrived]
    exact dispatched_leads host c next w k.hal _ ensures orderly good calm
      (single_frame_asked ecuUpper w k.hal c.payload (host.sized c orderly.1).1 short calm)

/-- The device grants the First Frame of a long call, or loses it. -/
theorem first_serves (host : Host lossy v fine proper allowed) (c : Call)
    (next : Reply → Test α) (w : World Node) (k : Arrival) (whole : lossy ∨ k.cut = none)
    (ensures : Ensures v post (.ask c next) w.upper)
    (orderly : Orderly lossy proper (Always post) (.ask c next)) (long : 62 < c.payload.length)
    (good : fine w.upper) (calm : Calm lossy w.link) :
    Serves lossy v fine proper post (awaiting c next) [] []
      (Ecu.step w (k.input (Tester.firstFrame c.payload))) := by
  rcases arrival_cases host w k (Tester.firstFrame c.payload) whole good with
    ⟨loses, missed⟩ | ⟨loses, w', cut, still, calm', _⟩ | arrived
  · rw [missed]
    exact ⟨good, calm, .first c next [] w ensures orderly long (.lost _ loses)⟩
  · rw [cut]
    exact ⟨still, calm', .lost c next w' ⟨loses, orderly⟩⟩
  · obtain ⟨upper, receiving, received, left, calm'⟩ := first_frame_asked ecuUpper w k.hal
      c.payload long (host.sized c orderly.1).2 calm
    rw [arrived]
    rw [← upper] at ensures good
    exact ⟨good, calm', .granted c next _ _ ensures orderly long left
      (Or.inl ⟨receiving, received⟩)⟩

/-- A First Frame the tester does not wait for is still granted, and the grant is no
response. -/
theorem abandoned_serves (host : Host lossy v fine proper allowed) (c : Call)
    (next : Reply → Test α) (w : World Node) (k : Arrival) (whole : lossy ∨ k.cut = none)
    (hopeless : Hopeless lossy proper post c next) (long : 62 < c.payload.length)
    (good : fine w.upper) (calm : Calm lossy w.link) :
    Serves lossy v fine proper post (waiting c next) [] []
      (Ecu.step w (k.input (Tester.firstFrame c.payload))) := by
  rcases arrival_cases host w k (Tester.firstFrame c.payload) whole good with
    ⟨loses, missed⟩ | ⟨_, w', cut, still, calm', _⟩ | arrived
  · rw [missed]
    exact ⟨good, calm, .abandoned c next [] w hopeless long (.lost _ loses)⟩
  · rw [cut]
    exact ⟨still, calm', .unanswered c next w' [] hopeless (List.forall_mem_nil _)⟩
  · obtain ⟨upper, _, _, left, calm'⟩ := first_frame_asked ecuUpper w k.hal
      c.payload long (host.sized c hopeless.orderly.1).2 calm
    rw [arrived]
    rw [← upper] at good
    refine ⟨good, calm', .unanswered c next _ _ hopeless ?_⟩
    intro f member _
    rw [List.mem_singleton.mp (left.1.subset member)]
    exact parse_flow_control c.sid

/-- A Consecutive Frame behind a gap leads nowhere. -/
theorem broken_serves (host : Host lossy v fine proper allowed) (c : Call)
    (next : Reply → Test α) (w : World Node) (k : Arrival) (whole : lossy ∨ k.cut = none)
    (f : TxFrame) (rest unsent : List TxFrame) (hopeless : Hopeless lossy proper post c next)
    (consecutive : ∀ g ∈ f :: rest ++ unsent, Consecutive g)
    (idle : w.link.ctx.rxState ≠ .waitCf) (good : fine w.upper) (calm : Calm lossy w.link) :
    Serves lossy v fine proper post (sendAll unsent (waiting c next)) rest []
      (Ecu.step w (k.input f)) := by
  have later : ∀ g ∈ rest ++ unsent, Consecutive g :=
    fun g member => consecutive g (List.mem_cons_of_mem f member)
  rcases arrival_cases host w k f whole good with
    ⟨_, missed⟩ | ⟨_, w', cut, still, calm', ended⟩ | arrived
  · rw [missed]
    exact ⟨good, calm, .broken c next rest unsent w hopeless later idle⟩
  · rw [cut]
    exact ⟨still, calm', .broken c next rest unsent w' hopeless later ended⟩
  · obtain ⟨sized, kind, mine⟩ := consecutive f List.mem_cons_self
    obtain ⟨upper, ended, silent, calm'⟩ := stray_frame_asked ecuUpper w k.hal (heard f) sized kind
      mine calm fun waits => absurd waits idle
    rw [arrived, Serves, silent]
    rw [← upper] at good
    exact ⟨good, calm', .broken c next rest unsent _ hopeless later ended⟩

/-- A Consecutive Frame in order continues the call or completes it. -/
theorem consecutive_serves (host : Host lossy v fine proper allowed) (c : Call)
    (next : Reply → Test α) (w : World Node) (k : Arrival) (whole : lossy ∨ k.cut = none)
    (position : Nat) (f : TxFrame) (rest sent unsent : List TxFrame)
    (ensures : Ensures v post (.ask c next) w.upper)
    (orderly : Orderly lossy proper (Always post) (.ask c next))
    (split : sent ++ unsent = remaining c.payload position w.link.ctx.rxReceived)
    (left : Leftover lossy (f :: rest) sent)
    (receiving : Receiving c.payload position w.link.ctx.toRxContext)
    (received : 62 ≤ w.link.ctx.rxReceived) (good : fine w.upper) (calm : Calm lossy w.link) :
    Serves lossy v fine proper post (sendAll unsent (waiting c next)) rest []
      (Ecu.step w (k.input f)) := by
  have fits := (host.sized c orderly.1).2
  have consecutive := reception_consecutive c position _ (f :: rest) sent unsent split left
  have later : ∀ g ∈ rest ++ unsent, Consecutive g :=
    fun g member => consecutive g (List.mem_cons_of_mem f member)
  rcases arrival_cases host w k f whole good with
    ⟨loses, missed⟩ | ⟨loses, w', cut, still, calm', ended⟩ | arrived
  · rw [missed]
    exact ⟨good, calm, .consecutive c next position rest sent unsent w ensures orderly split
      (left.tail loses) receiving received⟩
  · rw [cut]
    exact ⟨still, calm', .broken c next rest unsent w' ⟨loses, orderly⟩ later ended⟩
  rw [arrived]
  rcases next_or_stray c.payload position w.link.ctx.toRxContext fits received receiving f rest sent
      unsent split left with ⟨rfl, sent', split', left'⟩ | ⟨loses, wrong, _⟩
  · rcases next_frame_asked ecuUpper w k.hal c.payload position fits calm receiving with
      ⟨upper, receiving', moved, _, silent, calm'⟩ | ⟨last, answered⟩
    · rw [Serves, silent]
      rw [← upper] at ensures good
      rw [← moved] at split'
      exact ⟨good, calm', .consecutive c next (position + 1) rest sent' unsent _ ensures orderly
        split' left' receiving' (by omega)⟩
    · rw [remaining_nil c.payload (position + 1) _ last] at split'
      obtain ⟨rfl, rfl⟩ := List.append_eq_nil_iff.mp split'
      have none_left := left'.of_nil
      subst none_left
      exact dispatched_leads host c next w k.hal _ ensures orderly good calm answered
  · obtain ⟨sized, kind, mine⟩ := consecutive f List.mem_cons_self
    obtain ⟨upper, ended, silent, calm'⟩ := stray_frame_asked ecuUpper w k.hal (heard f) sized kind
      mine calm fun _ => wrong
    rw [Serves, silent]
    rw [← upper] at good
    exact ⟨good, calm', .broken c next rest unsent _ ⟨loses, orderly⟩ later ended⟩

/-- The device takes a frame. -/
theorem serve_phase (host : Host lossy v fine proper allowed) (client : Bus α) (f : TxFrame)
    (rest toClient : List TxFrame) (w : World Node) (k : Arrival) (whole : lossy ∨ k.cut = none)
    (good : fine w.upper) (calm : Calm lossy w.link)
    (phase : Phase lossy v proper post client (f :: rest) w toClient) :
    Serves lossy v fine proper post client rest toClient (Ecu.step w (k.input f)) := by
  cases phase with
  | single c next _ _ ensures orderly short left =>
    obtain ⟨rfl, rfl⟩ := left.one
    exact single_serves host c next w k whole ensures orderly short good calm
  | first c next _ _ ensures orderly long left =>
    obtain ⟨rfl, rfl⟩ := left.one
    exact first_serves host c next w k whole ensures orderly long good calm
  | consecutive c next position _ sent unsent _ ensures orderly split left receiving received =>
    exact consecutive_serves host c next w k whole position f rest sent unsent ensures orderly split
      left receiving received good calm
  | broken c next _ unsent _ hopeless consecutive idle =>
    exact broken_serves host c next w k whole f rest unsent hopeless consecutive idle good calm
  | abandoned c next _ _ hopeless long left =>
    obtain ⟨rfl, rfl⟩ := left.one
    exact abandoned_serves host c next w k whole hopeless long good calm

/-! ## Losses -/

/-- A lost frame of the tester leaves the exchange in its phase. -/
theorem lose_request_phase (loses : lossy) (client : Bus α) (toServer toClient : List TxFrame)
    (w : World Node) (i : Nat) (phase : Phase lossy v proper post client toServer w toClient) :
    Phase lossy v proper post client (toServer.eraseIdx i) w toClient := by
  cases phase with
  | between p _ ensures orderly => exact .between p w ensures orderly
  | single c next _ _ ensures orderly short left =>
    exact .single c next _ w ensures orderly short (left.erase loses i)
  | first c next _ _ ensures orderly long left =>
    exact .first c next _ w ensures orderly long (left.erase loses i)
  | granted c next _ _ ensures orderly long left reception =>
    exact .granted c next w toClient ensures orderly long left reception
  | consecutive c next position _ sent unsent _ ensures orderly split left receiving received =>
    exact .consecutive c next position _ sent unsent w ensures orderly split (left.erase loses i)
      receiving received
  | lost c next _ hopeless => exact .lost c next w hopeless
  | broken c next _ unsent _ hopeless consecutive idle =>
    refine .broken c next _ unsent w hopeless ?_ idle
    intro f member
    rcases List.mem_append.mp member with arrives | later
    · exact consecutive f (List.mem_append_left unsent (List.mem_of_mem_eraseIdx arrives))
    · exact consecutive f (List.mem_append_right toServer later)
  | abandoned c next _ _ hopeless long left =>
    exact .abandoned c next _ w hopeless long (left.erase loses i)
  | unanswered c next _ _ hopeless useless => exact .unanswered c next w toClient hopeless useless
  | answered c next _ _ pending last ensures orderly left skipped taken =>
    exact .answered c next w toClient pending last ensures orderly left skipped taken

/-- A lost frame of the device leaves the exchange in its phase. -/
theorem lose_reply_phase (loses : lossy) (client : Bus α) (toServer toClient : List TxFrame)
    (w : World Node) (i : Nat) (phase : Phase lossy v proper post client toServer w toClient) :
    Phase lossy v proper post client toServer w (toClient.eraseIdx i) := by
  cases phase with
  | between p _ ensures orderly => exact .between p w ensures orderly
  | single c next _ _ ensures orderly short left =>
    exact .single c next _ w ensures orderly short left
  | first c next _ _ ensures orderly long left =>
    exact .first c next _ w ensures orderly long left
  | granted c next _ _ ensures orderly long left reception =>
    exact .granted c next w _ ensures orderly long (left.erase loses i) reception
  | consecutive c next position _ sent unsent _ ensures orderly split left receiving received =>
    exact .consecutive c next position _ sent unsent w ensures orderly split left receiving received
  | lost c next _ hopeless => exact .lost c next w hopeless
  | broken c next _ unsent _ hopeless consecutive idle =>
    exact .broken c next _ unsent w hopeless consecutive idle
  | abandoned c next _ _ hopeless long left => exact .abandoned c next _ w hopeless long left
  | unanswered c next _ _ hopeless useless =>
    exact .unanswered c next w _ hopeless fun f member =>
      useless f (List.mem_of_mem_eraseIdx member)
  | answered c next _ _ pending last ensures orderly left skipped taken =>
    exact .answered c next w _ pending last ensures orderly (left.erase loses i) skipped taken

/-! ## Runs -/

/-- The moves that may happen: waits that are given up, losses and power cuts only where
something goes wrong. -/
def Fits (lossy : Prop) (allowed : World Node → Other → Prop) (s : System α) : Move → Prop
  | .act => True
  | .serve k => lossy ∨ k.cut = none
  | .work o => allowed s.server o
  | .giveUp | .loseRequest _ | .loseReply _ => lossy

/-- A tester that has reported does nothing further. -/
theorem ended_step (s : System α) (m : Move) (ended : Ended lossy post s.client) :
    Ended lossy post (Dialogue.step ecuServer s m).client := by
  obtain ⟨client, toServer, w, toClient⟩ := s
  obtain ⟨loses, a, done, good⟩ := ended
  have value : client = .done a := done
  subst value
  refine ⟨loses, a, ?_, good⟩
  cases m with
  | serve k =>
    cases toServer with
    | nil => rfl
    | cons f rest => rfl
  | _ => rfl

/-- Every move keeps the exchange in one of its stages. -/
theorem stage_step (host : Host lossy v fine proper allowed) (s : System α) (m : Move)
    (stage : Stage lossy v fine proper post s) (fits : Fits lossy allowed s m) :
    Stage lossy v fine proper post (Dialogue.step ecuServer s m) := by
  rcases stage with ended | ⟨good, calm, phase⟩
  · exact Or.inl (ended_step s m ended)
  cases m with
  | act =>
    have same := Dialogue.act_server s
    rcases act_phase s phase with ended | next
    · exact Or.inl ended
    · refine Or.inr ⟨?_, ?_, next⟩
      · rw [Dialogue.step, same]
        exact good
      · rw [Dialogue.step, same]
        exact calm
  | giveUp =>
    have same := Dialogue.give_up_server s
    rcases give_up_phase fits s phase with ended | next
    · exact Or.inl ended
    · refine Or.inr ⟨?_, ?_, next⟩
      · rw [Dialogue.step, same]
        exact good
      · rw [Dialogue.step, same]
        exact calm
  | serve k =>
    obtain ⟨client, toServer, w, toClient⟩ := s
    cases toServer with
    | nil => exact Or.inr ⟨good, calm, phase⟩
    | cons f rest =>
      exact Or.inr (serve_phase host client f rest toClient w k fits good calm phase)
  | work o =>
    obtain ⟨still, drift, silent, calm', reception⟩ := host.work s.server o good calm fits
    refine Or.inr ⟨still, calm', ?_⟩
    have replies : s.toClient ++ queuedFrames (Ecu.step s.server o.input).2 = s.toClient := by
      rw [silent, List.append_nil]
    have next := drift_phase s.client s.toServer s.toClient s.server _ phase drift reception
    rw [← replies] at next
    exact next
  | loseRequest i =>
    exact Or.inr ⟨good, calm,
      lose_request_phase fits s.client s.toServer s.toClient s.server i phase⟩
  | loseReply i =>
    exact Or.inr ⟨good, calm, lose_reply_phase fits s.client s.toServer s.toClient s.server i phase⟩

/-- What the device does by itself it does in silence. -/
theorem fits_silent (host : Host lossy v fine proper allowed) (s : System α) (m : Move)
    (good : fine s.server.upper) (calm : Calm lossy s.server.link) (fits : Fits lossy allowed s m) :
    Dialogue.Silent ecuServer s m := by
  cases m with
  | work o => exact (host.work s.server o good calm fits).2.2.1
  | _ => trivial

/-- A waiting tester has not reported. -/
theorem waiting_not_done (c : Call) (next : Reply → Test α) (unsent : List TxFrame) (a : α) :
    sendAll unsent (waiting c next) ≠ .done a := by
  intro done
  cases unsent with
  | nil => cases done
  | cons f rest => cases done

/-- A tester has reported when its program has. -/
theorem on_bus_done (p : Test α) (a : α) (done : onBus p = .done a) : p = .done a := by
  cases p with
  | done b =>
    have same : b = a := Program.done.inj done
    rw [same]
  | ask c next =>
    rw [on_bus_ask] at done
    split at done
    · cases done
    · cases done

/-- What it reports meets the postcondition. -/
theorem phase_value (client : Bus α) (toServer toClient : List TxFrame) (w : World Node)
    (phase : Phase lossy v proper post client toServer w toClient) (a : α)
    (done : client = .done a) : post a w.upper := by
  cases phase with
  | between p _ ensures orderly =>
    rw [on_bus_done p a done] at ensures
    exact ensures.value
  | consecutive c next position _ sent unsent _ ensures orderly split left receiving received =>
    exact absurd done (waiting_not_done c next unsent a)
  | broken c next _ unsent _ hopeless consecutive idle =>
    exact absurd done (waiting_not_done c next unsent a)
  | _ => cases done

/-- A finished test has a value that meets its postcondition. -/
theorem stage_value (s : System α) (stage : Stage lossy v fine proper post s) (a : α)
    (done : s.client = .done a) : post a s.server.upper := by
  rcases stage with ⟨_, b, same, good⟩ | ⟨_, _, phase⟩
  · have value : b = a := Program.done.inj (same.symm.trans done)
    rw [← value]
    exact good _
  · exact phase_value s.client s.toServer s.toClient s.server phase a done

/-- A tester with a call to make can send. -/
theorem on_bus_sends (c : Call) (next : Reply → Test α) (toServer toClient : List TxFrame)
    (w : World Node) :
    Dialogue.State.CanAct (⟨onBus (.ask c next), toServer, w, toClient⟩ : System α) := by
  rw [on_bus_ask]
  split
  · trivial
  · trivial

/-- Where nothing gets lost there is always something to do until the test is done. -/
theorem phase_able (client : Bus α) (toServer toClient : List TxFrame) (w : World Node)
    (phase : Phase False v proper post client toServer w toClient) :
    Dialogue.Finished (⟨client, toServer, w, toClient⟩ : System α) ∨
      ∃ m : Move, Dialogue.Progresses (⟨client, toServer, w, toClient⟩ : System α) m := by
  have none_lost {left all : List TxFrame} (leftover : Leftover False left all) : left = all :=
    leftover.2.resolve_left id
  have serves (some_frame : toServer ≠ []) :
      ∃ m : Move, Dialogue.Progresses (⟨client, toServer, w, toClient⟩ : System α) m :=
    ⟨.serve ⟨0, none⟩, some_frame⟩
  cases phase with
  | between p _ ensures orderly =>
    cases p with
    | done a => exact Or.inl ⟨a, rfl⟩
    | ask c next => exact Or.inr ⟨.act, on_bus_sends c next [] [] w⟩
  | single c next _ _ ensures orderly short left =>
    refine Or.inr (serves ?_)
    rw [none_lost left]
    exact List.cons_ne_nil _ _
  | first c next _ _ ensures orderly long left =>
    refine Or.inr (serves ?_)
    rw [none_lost left]
    exact List.cons_ne_nil _ _
  | granted c next _ _ ensures orderly long left reception =>
    refine Or.inr ⟨.act, ?_⟩
    change toClient ≠ []
    rw [none_lost left]
    exact List.cons_ne_nil _ _
  | consecutive c next position _ sent unsent _ ensures orderly split left receiving received =>
    cases unsent with
    | nil =>
      refine Or.inr (serves ?_)
      rw [List.append_nil, remaining_cons c.payload position _ receiving.left] at split
      rw [none_lost left, split]
      exact List.cons_ne_nil _ _
    | cons f rest => exact Or.inr ⟨.act, trivial⟩
  | lost c next _ hopeless => exact hopeless.loses.elim
  | broken c next _ unsent _ hopeless consecutive idle => exact hopeless.loses.elim
  | abandoned c next _ _ hopeless long left => exact hopeless.loses.elim
  | unanswered c next _ _ hopeless useless => exact hopeless.loses.elim
  | answered c next _ _ pending last ensures orderly left skipped taken =>
    refine Or.inr ⟨.act, ?_⟩
    change toClient ≠ []
    rw [none_lost left]
    exact List.append_ne_nil_of_right_ne_nil pending (List.cons_ne_nil last [])

/-- An orderly test on a bus on which anything may go wrong: if it finishes, its value
meets the postcondition. -/
theorem run_value (host : Host True v fine proper fun _ _ => True) (s : System α)
    (start : Stage True v fine proper post s) (moves : List Move) (a : α)
    (done : (Dialogue.run ecuServer s moves).client = .done a) :
    post a (Dialogue.run ecuServer s moves).server.upper := by
  refine stage_value _ (Dialogue.run_invariant ecuServer (Stage True v fine proper post) ?_ s moves
    start) a done
  intro s m stage
  refine stage_step host s m stage ?_
  cases m with
  | act => trivial
  | giveUp => trivial
  | serve k => exact Or.inl trivial
  | work o => trivial
  | loseRequest i => trivial
  | loseReply i => trivial

/-- On a bus on which nothing goes wrong, a test that sooner or later goes on where it can
finishes, with a value that meets the postcondition. -/
theorem fair_run_value (host : Host False v fine proper allowed) (s : System α)
    (start : Stage False v fine proper post s) (moves : ℕ → Move)
    (clean : ∀ n, Fits False allowed (Dialogue.stateAt ecuServer s moves n) (moves n))
    (fair : Dialogue.Fair ecuServer s moves) :
    ∃ n a, (Dialogue.stateAt ecuServer s moves n).client = .done a ∧
      post a (Dialogue.stateAt ecuServer s moves n).server.upper := by
  have staged (n : ℕ) : Stage False v fine proper post (Dialogue.stateAt ecuServer s moves n) :=
    Dialogue.state_at_invariant ecuServer (Stage False v fine proper post) (Fits False allowed)
      (stage_step host) s moves start clean n
  have phased (n : ℕ) := (staged n).resolve_left fun ended => ended.1
  obtain ⟨n, a, done⟩ := Dialogue.fair_run_finishes ecuServer s moves
    (fun n => fits_silent host _ (moves n) (phased n).1 (phased n).2.1 (clean n))
    fair (fun n => phase_able _ _ _ _ (phased n).2.2)
  exact ⟨n, a, done, stage_value _ (staged n) a done⟩

end ObdSimulator.TesterBus
