import ObdSimulator.Bootloader
import ObdSimulator.IsoTp

/-!
# The loop of the bootloader

`main` in `bl_main.c` drains the receive ring into the ISO-TP transport, runs
both ticks, and then compares the session with that of the iteration before to
end a programming attempt. The flash server is the layer above the transport; it
keeps a history of its own.
-/

namespace ObdSimulator.BlMain

open Bytes BlUds

/-! ## What a request does to an attempt -/

/-- The session a request enters. -/
def sessionRequest (request : List UInt8) : Option SessionType :=
  if byte request 0 = udsSidDiagSessionCtrl ∧ 2 ≤ request.length then
    SessionType.ofByte (subFunction (byte request 1))
  else none

/-- The first bytes of the answers that continue or end a transfer. -/
def transferAnswers : List UInt8 := [0x76, 0x77, 0x71]

/-- The effect of a request on the session and on the transfer. -/
structure Attempt (s s' : Server) (request response : List UInt8) : Prop where
  session : s'.session.sessionType = (sessionRequest request).getD s.session.sessionType
  entered : response = sessionResponse 0x01 ↔ sessionRequest request = some .default
  continues : byte response 0 ∈ transferAnswers →
    s.xfer.active = true ∧ s.session.sessionType = .programming
  active : s'.xfer.active = true → s.xfer.active = true ∨ byte response 0 = 0x74

/-- An answer of another service, and the transfer at most closed. -/
theorem attempt_other (s s' : Server) (request response : List UInt8)
    (session : s'.session.sessionType = s.session.sessionType)
    (active : s'.xfer.active = s.xfer.active) (none_asked : sessionRequest request = none)
    (answer : byte response 0 ≠ 0x50) (plain : byte response 0 ∉ transferAnswers) :
    Attempt s s' request response where
  session := by
    rw [none_asked]
    exact session
  entered := by
    constructor
    · intro same
      rw [same] at answer
      exact absurd rfl answer
    · intro asked
      rw [none_asked] at asked
      cases asked
  continues := fun member => absurd member plain
  active := fun opened => Or.inl (active ▸ opened)

/-- A refusal that changes neither the session nor the transfer attempts nothing. -/
theorem attempt_refused (s s' : Server) (request : List UInt8) (sid code : UInt8)
    (session : s'.session.sessionType = s.session.sessionType)
    (active : s'.xfer.active = s.xfer.active) (none_asked : sessionRequest request = none) :
    Attempt s s' request (nrc sid code) :=
  attempt_other s s' request _ session active none_asked (by simp [nrc, byte])
    (by simp [nrc, byte, transferAnswers])

/-- Only 0x10 asks for a session. -/
theorem not_session_request (request : List UInt8)
    (other : byte request 0 ≠ udsSidDiagSessionCtrl) : sessionRequest request = none :=
  if_neg fun asked => other asked.1

/-- 0x10 enters the session it confirms, and nothing else moves. -/
theorem session_control_attempt (s : Server) (now : Nat) (request : List UInt8)
    (service : byte request 0 = udsSidDiagSessionCtrl) :
    Attempt s (handleSessionControl s now request).1 request
      (handleSessionControl s now request).2.response := by
  unfold handleSessionControl
  simp only
  split
  · rename_i short
    exact attempt_refused s s request _ _ rfl rfl (if_neg fun asked => absurd asked.2 (by omega))
  · rename_i long
    have asked : sessionRequest request = SessionType.ofByte (subFunction (byte request 1)) :=
      if_pos ⟨service, by omega⟩
    generalize subFunction (byte request 1) = sub at asked ⊢
    split
    · rename_i outside
      refine attempt_refused s s request _ _ rfl rfl (asked.trans ?_)
      have first : sub ≠ 0x01 := by rintro rfl; revert outside; decide
      have second : sub ≠ 0x02 := by rintro rfl; revert outside; decide
      have third : sub ≠ 0x03 := by rintro rfl; revert outside; decide
      rw [SessionType.ofByte, if_neg first, if_neg second, if_neg third]
    · cases named : SessionType.ofByte sub with
      | none =>
        simp only [diagSessionSetSession, named, Option.map_none]
        exact attempt_refused s s request _ _ rfl rfl (asked.trans named)
      | some t =>
        simp only [diagSessionSetSession, named, Option.map_some]
        rw [named] at asked
        refine ⟨?_, ?_, ?_, fun opened => Or.inl opened⟩
        · rw [asked]
          rfl
        · rw [asked]
          unfold SessionType.ofByte at named
          by_cases first : sub = 0x01
          · rw [if_pos first] at named
            rw [first]
            exact ⟨fun _ => named.symm, fun _ => rfl⟩
          · rw [if_neg first] at named
            constructor
            · intro same
              have here := congrArg (fun bytes => byte bytes 1) same
              exact absurd here first
            · intro same
              cases same
              split at named
              · cases named
              · split at named
                · cases named
                · cases named
        · intro member
          exact absurd member (by simp [sessionResponse, byte, transferAnswers]; decide)

/-- 0x11 moves neither the session nor the transfer. -/
theorem ecu_reset_attempt (s : Server) (request : List UInt8)
    (none_asked : sessionRequest request = none) :
    Attempt s (handleEcuReset s request).1 request (handleEcuReset s request).2.response := by
  unfold handleEcuReset
  simp only
  split
  · exact attempt_refused s s request _ _ rfl rfl none_asked
  · split
    · exact attempt_refused s s request _ _ rfl rfl none_asked
    · exact attempt_other s _ request _ rfl rfl none_asked (by simp [byte]; decide)
        (by simp [byte, transferAnswers]; decide)

/-- 0x27 moves neither the session nor the transfer. -/
theorem security_access_attempt (s : Server) (now : Nat) (request : List UInt8)
    (none_asked : sessionRequest request = none) :
    Attempt s (handleSecurityAccess s now request).1 request
      (handleSecurityAccess s now request).2.response := by
  have gate_session := check_gate_session s.session now
  unfold handleSecurityAccess
  simp only
  split
  · exact attempt_refused s s request _ _ rfl rfl none_asked
  · split
    · split
      · rename_i session gated
        rw [gated] at gate_session
        exact attempt_refused s _ request _ _ gate_session rfl none_asked
      · rename_i session gated
        rw [gated] at gate_session
        exact attempt_refused s _ request _ _ gate_session rfl none_asked
      · rename_i session gated
        rw [gated] at gate_session
        exact attempt_other s _ request _ gate_session rfl none_asked (by simp [byte]; decide)
          (by simp [byte, transferAnswers]; decide)
    · split
      · exact attempt_refused s s request _ _ rfl rfl none_asked
      · have key_session := verify_key_session s.session now
          ((byte request 2).toUInt16 <<< 8 ||| (byte request 3).toUInt16)
        split
        · rename_i session verified
          rw [verified] at key_session
          exact attempt_other s _ request _ key_session rfl none_asked (by simp [byte]; decide)
            (by simp [byte, transferAnswers]; decide)
        · rename_i session verified
          rw [verified] at key_session
          exact attempt_refused s _ request _ _ key_session rfl none_asked
        · rename_i session verified
          rw [verified] at key_session
          exact attempt_refused s _ request _ _ key_session rfl none_asked
        · rename_i session verified
          rw [verified] at key_session
          exact attempt_refused s _ request _ _ key_session rfl none_asked

/-- 0x3E moves neither the session nor the transfer. -/
theorem tester_present_attempt (s : Server) (request : List UInt8)
    (none_asked : sessionRequest request = none) :
    Attempt s (handleTesterPresent s request).1 request
      (handleTesterPresent s request).2.response := by
  unfold handleTesterPresent
  simp only
  split
  · exact attempt_refused s s request _ _ rfl rfl none_asked
  · split
    · exact attempt_refused s s request _ _ rfl rfl none_asked
    · exact attempt_other s s request _ rfl rfl none_asked (by simp [byte]; decide)
        (by simp [byte, transferAnswers]; decide)

/-- 0x28 and 0x85 move neither the session nor the transfer. -/
theorem noop_control_attempt (s : Server) (sid : UInt8) (request : List UInt8)
    (noop : sid = udsSidCommunicationControl ∨ sid = udsSidControlDtcSetting)
    (none_asked : sessionRequest request = none) :
    Attempt s (handleNoopControl s sid request).1 request
      (handleNoopControl s sid request).2.response := by
  unfold handleNoopControl
  split
  · exact attempt_refused s s request _ _ rfl rfl none_asked
  · refine attempt_other s s request _ rfl rfl none_asked ?_ ?_
    · rcases noop with rfl | rfl
      · simp [byte]
        decide
      · simp [byte]
        decide
    · rcases noop with rfl | rfl
      · simp [byte, transferAnswers]
        decide
      · simp [byte, transferAnswers]
        decide

/-- An answer of a flash service: the transfer it needs was active. -/
theorem attempt_flash (s s' : Server) (request response : List UInt8)
    (session : s'.session.sessionType = s.session.sessionType)
    (none_asked : sessionRequest request = none) (answer : byte response 0 ≠ 0x50)
    (active : s.xfer.active = true) (programming : s.session.sessionType = .programming) :
    Attempt s s' request response where
  session := by
    rw [none_asked]
    exact session
  entered := by
    constructor
    · intro same
      rw [same] at answer
      exact absurd rfl answer
    · intro asked
      rw [none_asked] at asked
      cases asked
  continues := fun _ => ⟨active, programming⟩
  active := fun _ => Or.inl active

/-- 0x34 opens a transfer only when it confirms one. -/
theorem request_download_attempt (s : Server) (request : List UInt8)
    (none_asked : sessionRequest request = none) :
    Attempt s (handleRequestDownload s request).1 request
      (handleRequestDownload s request).2.response := by
  unfold handleRequestDownload
  cases checkRequestDownload request with
  | error code => exact attempt_refused s s request _ _ rfl rfl none_asked
  | ok size =>
    simp only [requestDownload]
    split
    · exact attempt_refused s _ request _ _ rfl rfl none_asked
    · split
      · exact attempt_refused s _ request _ _ rfl rfl none_asked
      · have other : requestDownloadResponse ≠ sessionResponse 0x01 := by decide
        have plain : byte requestDownloadResponse 0 ∉ transferAnswers := by decide
        refine ⟨by rw [none_asked]; rfl, ⟨fun same => absurd same other, ?_⟩, ?_,
          fun _ => Or.inr rfl⟩
        · intro asked
          rw [none_asked] at asked
          cases asked
        · intro member
          exact absurd member plain

/-- 0x36 confirms a block only of an open transfer. -/
theorem transfer_data_attempt (s : Server) (request : List UInt8)
    (none_asked : sessionRequest request = none)
    (programming : s.session.sessionType = .programming) :
    Attempt s (handleTransferData s request).1 request
      (handleTransferData s request).2.response := by
  unfold handleTransferData
  cases checked : checkTransferData s.xfer request with
  | error code => exact attempt_refused s s request _ _ rfl rfl none_asked
  | ok block =>
    have active : s.xfer.active = true := by
      unfold checkTransferData at checked
      simp only at checked
      split at checked
      · cases checked
      · rename_i opened
        simp only [not_or, Bool.not_eq_false] at opened
        exact opened.1
    simp only [transferData]
    split
    · exact attempt_refused s _ request _ _ rfl rfl none_asked
    · exact attempt_flash s _ request _ rfl none_asked (by simp [byte]; decide) active programming

/-- 0x37 confirms the exit only of an open transfer. -/
theorem transfer_exit_attempt (s : Server) (request : List UInt8)
    (none_asked : sessionRequest request = none)
    (programming : s.session.sessionType = .programming) :
    Attempt s (handleRequestTransferExit s request).1 request
      (handleRequestTransferExit s request).2.response := by
  unfold handleRequestTransferExit
  split
  · exact attempt_refused s s request _ _ rfl rfl none_asked
  · rename_i opened
    simp only [not_or, Bool.not_eq_false] at opened
    exact attempt_flash s _ request _ rfl none_asked (by simp [byte]; decide) opened.1 programming

/-- 0x31 confirms an image only of an open transfer. -/
theorem routine_control_attempt (s : Server) (request : List UInt8)
    (none_asked : sessionRequest request = none)
    (programming : s.session.sessionType = .programming) :
    Attempt s (handleRoutineControl s request).1 request
      (handleRoutineControl s request).2.response := by
  unfold handleRoutineControl
  cases checked : checkRoutineControl s request with
  | error code => exact attempt_refused s s request _ _ rfl rfl none_asked
  | ok accepted =>
    obtain ⟨version, crc⟩ := accepted
    have active := (check_routine_control s request version crc checked).1
    simp only [checkMemory]
    split
    · exact attempt_refused s _ request _ _ rfl rfl none_asked
    · exact attempt_flash s _ request _ rfl none_asked
        (by simp [checkMemoryResponse, byte]; decide) active programming

/-- The gate lets these through in Programming only. -/
theorem gated_attempt (s : Server) (sid : UInt8) (request : List UInt8) (handler : Server × Reply)
    (none_asked : sessionRequest request = none)
    (handled : s.session.sessionType = .programming →
      Attempt s handler.1 request handler.2.response) :
    Attempt s (gated s sid handler).1 request (gated s sid handler).2.response := by
  unfold gated
  split
  · exact attempt_refused s s request _ _ rfl rfl none_asked
  · rename_i opened
    apply handled
    unfold gateFlashServices at opened
    split at opened
    · cases opened
    · rename_i programming
      exact not_not.mp programming

/-- Every service of the switch has this effect on the session and on the transfer. -/
theorem serve_attempt (s : Server) (now : Nat) (request : List UInt8) :
    Attempt s (serve s now request).1 request (serve s now request).2.response := by
  by_cases session : byte request 0 = udsSidDiagSessionCtrl
  · have served : serve s now request = handleSessionControl s now request := by
      simp only [serve, session, if_true]
    rw [served]
    exact session_control_attempt s now request session
  · have none_asked := not_session_request request session
    unfold serve
    simp only [if_neg session]
    split
    · exact ecu_reset_attempt s request none_asked
    split
    · exact security_access_attempt s now request none_asked
    split
    · exact tester_present_attempt s request none_asked
    split
    case isTrue noop => exact noop_control_attempt s _ request noop none_asked
    split
    · exact gated_attempt s _ request _ none_asked fun _ =>
        request_download_attempt s request none_asked
    split
    · exact gated_attempt s _ request _ none_asked (transfer_data_attempt s request none_asked)
    split
    · exact gated_attempt s _ request _ none_asked (transfer_exit_attempt s request none_asked)
    split
    · exact gated_attempt s _ request _ none_asked (routine_control_attempt s request none_asked)
    exact attempt_refused s s request _ _ rfl rfl none_asked

/-- Every request has it, whichever way it is addressed. -/
theorem serve_request_attempt (s : Server) (now : Nat) (request : List UInt8) (addr : AddrType) :
    let served := serveRequest s now request addr
    (admitted request addr = true → Attempt s served.1 request served.2.response) ∧
      (admitted request addr = false → served = (s, {})) := by
  intro served
  constructor
  · intro reaches
    have same : served = serve (stamped s now) now request := by
      simp [served, serveRequest, reaches, stamped]
    rw [same]
    obtain ⟨session, entered, continues, active⟩ := serve_attempt (stamped s now) now request
    exact ⟨session, entered, continues, active⟩
  · intro stopped
    simp [served, serveRequest, stopped]

/-! ## The loop -/

/-- The flash server as the layer above the transport, with what it did so far. -/
structure Node where
  state : Bootloader.State
  log : List Bootloader.Event := []

/-- The work of the loop beside the transport: the session timer and the check at its
end. -/
inductive Work where
  /-- `DiagSession_Tick`, with the tick a return to Default stamps. -/
  | sessionTick (stamp : Nat)
  /-- The rest of an iteration: session change, reset handshake, self-heal. -/
  | check

/-- The work of the loop as an input of the bootloader's machine. -/
def Work.input (now : Nat) : Work → Bootloader.Input
  | .sessionTick stamp => .tick now stamp
  | .check => .check now

/-- The bootloader above the transport. -/
def blUpper : IsoTp.Upper Node Work where
  dispatch n now buffer len addr :=
    match n.state.mode with
    | .server =>
      let request := buffer.take len
      let (state, events) := Bootloader.serveStep n.state now request addr
      let reply := (udsDispatchRequest n.state.uds now request addr).2
      { state := ⟨state, n.log ++ events⟩, sent := reply.sent, response := reply.response }
    | _ => { state := n }
  work n now k :=
    let (state, events) := Bootloader.step n.state (k.input now)
    (⟨state, n.log ++ events⟩, [])

/-- One iteration: the frames in the receive ring with the ticks they are taken
at, and the ticks of what follows. -/
structure Iteration where
  frames : List (Nat × CanFrame)
  isoTpNow : Nat
  isoTpStamp : Nat
  sessionNow : Nat
  sessionStamp : Nat
  checkNow : Nat

/-- The calls of one iteration, in the order of the loop. -/
def Iteration.inputs (it : Iteration) : List (IsoTp.Input Work) :=
  it.frames.map (fun p => .frame p.1 p.2) ++
    [.tick it.isoTpNow it.isoTpStamp, .work it.sessionNow (.sessionTick it.sessionStamp),
      .work it.checkNow .check]

/-- The node before its first iteration. -/
def start (faults : List Bool) (flash : NorFlash.Device) (flag : Bool) (now ready : Nat) :
    IsoTp.World Node :=
  IsoTp.isoTpInit true faults { state := Bootloader.boot flash flag now ready }

/-- The loop for some iterations. -/
def superloop (w : IsoTp.World Node) (iterations : List Iteration) : IsoTp.World Node :=
  Run.final (IsoTp.step blUpper) w (iterations.flatMap Iteration.inputs)

/-! ## The end of an attempt -/

/-- The last attempt was ended by a return to Default, and none was started since. -/
def ends (ended : Bool) : Bootloader.Event → Bool
  | .enteredDefault => true
  | .answered _ response => if byte response 0 = 0x74 then false else ended
  | _ => ended

/-- An attempt that was ended is not continued. -/
def Kept (ended : Bool) : Bootloader.Event → Prop
  | .answered _ response => byte response 0 ∈ transferAnswers → ended = false
  | _ => True

instance decidableKept (ended : Bool) : ∀ e, Decidable (Kept ended e)
  | .answered _ response => inferInstanceAs (Decidable (byte response 0 ∈ transferAnswers → _))
  | .received _ | .checked _ | .flash _ | .enteredDefault => isTrue trivial

/-- A change of session will be seen at the end of the iteration: Default is
entered only if the last iteration did not end there, and not left. -/
def Seen (b : Bootloader.State) : Option SessionType → Prop
  | none => True
  | some t => if t = .default then b.prevSession ≠ .default
      else b.uds.session.sessionType ≠ .default

instance decidableSeen (b : Bootloader.State) : ∀ t, Decidable (Seen b t)
  | none => isTrue trivial
  | some t => inferInstanceAs (Decidable (if t = .default then _ else _))

/-- With a transfer open, a request leaves its change of session to be seen. -/
def Orderly (b : Bootloader.State) (request : List UInt8) (addr : AddrType) : Prop :=
  b.mode = .server → b.uds.xfer.active = true → admitted request addr = true →
    Seen b (sessionRequest request)

/-- What a frame completes is orderly. -/
def OrderlyRequest (b : Bootloader.State) : Option IsoTp.RxContext → Prop
  | none => True
  | some c => Orderly b (c.rxBuffer.take c.rxTotalSize) c.rxAddrType

instance decidableOrderlyRequest (b : Bootloader.State) : ∀ c, Decidable (OrderlyRequest b c)
  | none => isTrue trivial
  | some _ => inferInstanceAs (Decidable (_ → _ → _ → Seen b _))

/-- An input whose change of session will be seen. -/
def OrderlyInput (_ : List IsoTp.Event) (w : IsoTp.World Node) : IsoTp.Input Work → Prop
  | .frame hal f => OrderlyRequest w.upper.state (IsoTp.completing w.quiet.link hal f)
  | .work now (.sessionTick _) =>
      w.upper.state.mode = .server → w.upper.state.uds.xfer.active = true →
        diagSessionExpired w.upper.state.uds.session now = true → Seen w.upper.state (some .default)
  | _ => True

instance decidableOrderlyInput (past : List IsoTp.Event) (w : IsoTp.World Node) :
    ∀ i, Decidable (OrderlyInput past w i)
  | .frame hal f => decidableOrderlyRequest w.upper.state (IsoTp.completing w.quiet.link hal f)
  | .work _ (.sessionTick _) => inferInstanceAs (Decidable (_ → _ → _ → Seen w.upper.state _))
  | .work _ .check => isTrue trivial
  | .tick _ _ => isTrue trivial
  | .registerStreamSink _ => isTrue trivial

/-- After the end of an attempt the transfer is closed, or will be at the end of
the iteration. -/
def Ended (ended : Bool) (b : Bootloader.State) : Prop :=
  ended = true → b.mode = .server → b.uds.xfer.active = false ∨
    (b.uds.session.sessionType = .default ∧ b.prevSession ≠ .default)

/-- An event that neither ends, starts nor continues an attempt. -/
def Plain (e : Bootloader.Event) : Prop := ∀ ended, ends ended e = ended ∧ Kept ended e

/-- Events that neither end an attempt nor belong to one keep the rule. -/
theorem plain_events (ended : Bool) (events : List Bootloader.Event)
    (plain : ∀ e ∈ events, Plain e) :
    Run.Each ends Kept ended events ∧ events.foldl ends ended = ended := by
  induction events with
  | nil => exact ⟨trivial, rfl⟩
  | cons e rest ih =>
    obtain ⟨same, kept⟩ := plain e List.mem_cons_self ended
    obtain ⟨later, last⟩ := ih fun e member => plain e (List.mem_cons_of_mem _ member)
    rw [Run.Each, List.foldl_cons, same]
    exact ⟨⟨kept, later⟩, last⟩

/-- The check of the loop makes only such events. -/
theorem checked_events_plain (c : Option Command) : ∀ e ∈ Bootloader.checkedEvents c, Plain e := by
  intro e member ended
  cases c with
  | none => cases member
  | some c =>
    cases c with
    | checkMemory _ version _ =>
      rw [List.mem_singleton.mp member]
      exact ⟨rfl, trivial⟩
    | requestDownload => cases member
    | transferData => cases member

/-- What counts in the events of a request is its answer. -/
theorem serve_step_answer (b : Bootloader.State) (now : Nat) (request : List UInt8)
    (addr : AddrType) (ended : Bool) :
    let response := (serveRequest (Bootloader.fresh b.uds) now request addr).2.response
    let events := (Bootloader.serveStep b now request addr).2
    let answer := .answered request response :: Bootloader.defaultEvents response
    (Run.Each ends Kept ended events ↔ Run.Each ends Kept ended answer) ∧
      events.foldl ends ended = answer.foldl ends ended := by
  intro response events answer
  let served := serveRequest (Bootloader.fresh b.uds) now request addr
  obtain ⟨front, front_def⟩ : ∃ front, front =
      .received request :: Bootloader.checkedEvents (command b.uds request addr) ++
        served.1.flash.log.map .flash := ⟨_, rfl⟩
  have split : events = front ++ answer := by
    rw [front_def]
    rfl
  have plain : ∀ e ∈ front, Plain e := by
    intro e member
    rw [front_def] at member
    rcases List.mem_append.mp member with early | flash
    · rcases List.mem_cons.mp early with rfl | checked
      · exact fun _ => ⟨rfl, trivial⟩
      · exact checked_events_plain _ e checked
    · obtain ⟨prim, _, rfl⟩ := List.mem_map.mp flash
      exact fun _ => ⟨rfl, trivial⟩
  obtain ⟨kept, same⟩ := plain_events ended front plain
  rw [split, Run.each_append, List.foldl_append, same]
  exact ⟨⟨fun both => both.2, fun last => ⟨kept, last⟩⟩, rfl⟩

/-- An orderly request keeps the end of an attempt. -/
theorem serve_step_ends (b : Bootloader.State) (now : Nat) (request : List UInt8)
    (addr : AddrType) (ended : Bool) (server : b.mode = .server)
    (orderly : Orderly b request addr) (before : Ended ended b) :
    let after := Bootloader.serveStep b now request addr
    Run.Each ends Kept ended after.2 ∧ Ended (after.2.foldl ends ended) after.1 := by
  intro after
  obtain ⟨each, fold⟩ := serve_step_answer b now request addr ended
  rw [each, fold]
  obtain ⟨attempt, stopped⟩ :=
    serve_request_attempt (Bootloader.fresh b.uds) now request addr
  have state : after.1 = { b with
      uds := (serveRequest (Bootloader.fresh b.uds) now request addr).1 } := rfl
  rw [state]
  generalize serveRequest (Bootloader.fresh b.uds) now request addr = served at attempt stopped ⊢
  obtain ⟨s', reply⟩ := served
  by_cases reaches : admitted request addr = true
  · obtain ⟨session, entered, continues, active⟩ := attempt reaches
    have kept : byte reply.response 0 ∈ transferAnswers → ended = false := by
      intro positive
      cases stopped : ended with
      | false => rfl
      | true =>
        obtain ⟨opened, programming⟩ := continues positive
        rcases before stopped server with closed | ⟨default, _⟩
        · exact absurd (opened.symm.trans closed) (by decide)
        · exact absurd (programming.symm.trans default) (by decide)
    by_cases default : reply.response = sessionResponse 0x01
    · -- the session is Default now; an open transfer waits for the end of the iteration
      have asked := entered.mp default
      have events : Bootloader.defaultEvents reply.response = [.enteredDefault] := if_pos default
      rw [events]
      refine ⟨⟨kept, trivial, trivial⟩, ?_⟩
      intro _ _
      have now_default : s'.session.sessionType = .default := by
        rw [session, asked]
        rfl
      cases opened : s'.xfer.active with
      | false => exact Or.inl rfl
      | true =>
        refine Or.inr ⟨now_default, ?_⟩
        rcases active opened with was | started
        · have seen := orderly server was reaches
          rw [asked] at seen
          exact seen
        · rw [default] at started
          exact absurd started (by decide)
    · have events : Bootloader.defaultEvents reply.response = [] := if_neg default
      rw [events]
      refine ⟨⟨kept, trivial⟩, ?_⟩
      intro stopped _
      have none_started : byte reply.response 0 ≠ 0x74 := by
        intro started
        simp only [List.foldl_cons, List.foldl_nil, ends, if_pos started] at stopped
        cases stopped
      simp only [List.foldl_cons, List.foldl_nil, ends, if_neg none_started] at stopped
      cases opened : s'.xfer.active with
      | false => exact Or.inl rfl
      | true =>
        have was : b.uds.xfer.active = true := (active opened).resolve_right none_started
        rcases before stopped server with closed | ⟨was_default, previous⟩
        · exact absurd (was.symm.trans closed) (by decide)
        · refine Or.inr ⟨?_, previous⟩
          cases asked : sessionRequest request with
          | none =>
            rw [session, asked]
            exact was_default
          | some t =>
            have seen := orderly server was reaches
            rw [asked] at seen
            by_cases to_default : t = .default
            · rw [to_default] at asked
              exact absurd (entered.mpr asked) default
            · rw [Seen, if_neg to_default] at seen
              exact absurd was_default seen
  · obtain ⟨rfl, rfl⟩ := Prod.mk.inj (stopped (Bool.eq_false_iff.mpr reaches))
    have silent : Bootloader.defaultEvents [] = [] := rfl
    have no_answer : byte [] 0 ∉ transferAnswers := by decide
    rw [silent]
    exact ⟨⟨fun member => absurd member no_answer, trivial⟩, before⟩

/-- The end of an iteration closes the transfer of an attempt that ended in it. -/
theorem check_step_ends (b : Bootloader.State) (now : Nat) (ended : Bool)
    (server : b.mode = .server) (before : Ended ended b) :
    Ended ended (Bootloader.checkStep b now) := by
  have uds : (Bootloader.checkStep b now).uds =
      if diagSessionGet b.uds.session ≠ b.prevSession ∧ diagSessionGet b.uds.session = .default
      then resetTransfer b.uds else b.uds := by
    unfold Bootloader.checkStep
    simp only
    generalize (if diagSessionGet b.uds.session ≠ b.prevSession ∧
      diagSessionGet b.uds.session = .default then resetTransfer b.uds else b.uds) = uds
    split
    · rfl
    · split
      · split
        · rfl
        · rfl
      · split
        · rfl
        · rfl
  intro stopped _
  rw [uds]
  split
  · exact Or.inl rfl
  · rename_i unchanged
    rcases before stopped server with closed | ⟨default, previous⟩
    · exact Or.inl closed
    · refine absurd ⟨?_, default⟩ unchanged
      intro same
      exact previous (same.symm.trans default)

/-- The session tick ends an attempt as an orderly request does. -/
theorem tick_step_ends (b : Bootloader.State) (now stamp : Nat) (ended : Bool)
    (server : b.mode = .server) (before : Ended ended b)
    (orderly : b.uds.xfer.active = true → diagSessionExpired b.uds.session now = true →
      b.prevSession ≠ .default) :
    let after := Bootloader.step b (.tick now stamp)
    Run.Each ends Kept ended after.2 ∧ Ended (after.2.foldl ends ended) after.1 := by
  simp only [Bootloader.step, server]
  by_cases expired : diagSessionExpired b.uds.session now = true
  · rw [if_pos expired]
    refine ⟨⟨trivial, trivial⟩, ?_⟩
    intro _ _
    cases opened : b.uds.xfer.active with
    | false => exact Or.inl rfl
    | true =>
      refine Or.inr ⟨?_, orderly opened expired⟩
      simp only [diagSessionTick, if_pos expired]
      rfl
  · rw [if_neg expired]
    refine ⟨trivial, ?_⟩
    intro stopped running
    simp only [diagSessionTick, if_neg expired]
    exact before stopped server

/-- The check ends the attempt of a session that has returned to Default. -/
theorem check_ends (b : Bootloader.State) (now : Nat) (ended : Bool) (server : b.mode = .server)
    (before : Ended ended b) :
    let after := Bootloader.step b (.check now)
    Run.Each ends Kept ended after.2 ∧ Ended (after.2.foldl ends ended) after.1 := by
  simp only [Bootloader.step, server]
  exact ⟨trivial, check_step_ends b now ended server before⟩

/-- Outside the server nothing is done. -/
theorem stopped_ends (b : Bootloader.State) (now : Nat) (k : Work) (ended : Bool)
    (stopped : b.mode ≠ .server) (before : Ended ended b) :
    let after := Bootloader.step b (k.input now)
    Run.Each ends Kept ended after.2 ∧ Ended (after.2.foldl ends ended) after.1 := by
  have idle : Bootloader.step b (k.input now) = (b, []) := by
    cases mode : b.mode with
    | server => exact absurd mode stopped
    | app => cases k <;> simp only [Work.input, Bootloader.step, mode]
    | off => cases k <;> simp only [Work.input, Bootloader.step, mode]
  rw [idle]
  exact ⟨trivial, before⟩

/-! ## Runs of the loop -/

/-- The history so far kept the end of every attempt, and the state does. -/
def Node.Holds (n : Node) : Prop :=
  Run.Each ends Kept false n.log ∧ Ended (n.log.foldl ends false) n.state

/-- Events of one step that keep the end of every attempt, appended to the history. -/
theorem holds_append (n : Node) (state : Bootloader.State) (events : List Bootloader.Event)
    (holds : n.Holds)
    (next : Run.Each ends Kept (n.log.foldl ends false) events ∧
      Ended (events.foldl ends (n.log.foldl ends false)) state) :
    Node.Holds { state, log := n.log ++ events } := by
  constructor
  · rw [Run.each_append]
    exact ⟨holds.1, next.1⟩
  · rw [List.foldl_append]
    exact next.2

/-- An orderly input keeps what the rule needs. -/
theorem step_holds (past : List IsoTp.Event) (w : IsoTp.World Node) (i : IsoTp.Input Work)
    (holds : w.upper.Holds) (orderly : OrderlyInput past w i) :
    (IsoTp.step blUpper w i).1.upper.Holds := by
  cases i with
  | frame hal f =>
    change (IsoTp.isoTpProcessFrame blUpper w.quiet hal f).upper.Holds
    rw [IsoTp.process_frame_upper blUpper w.quiet hal f]
    change OrderlyRequest w.upper.state (IsoTp.completing w.quiet.link hal f) at orderly
    cases completed : IsoTp.completing w.quiet.link hal f with
    | none => exact holds
    | some c =>
      rw [completed] at orderly
      change (blUpper.dispatch w.upper hal c.rxBuffer c.rxTotalSize c.rxAddrType).state.Holds
      by_cases server : w.upper.state.mode = .server
      · have served := serve_step_ends w.upper.state hal (c.rxBuffer.take c.rxTotalSize)
          c.rxAddrType _ server orderly holds.2
        simp only [blUpper, server]
        exact holds_append w.upper _ _ holds served
      · have idle : (blUpper.dispatch w.upper hal c.rxBuffer c.rxTotalSize c.rxAddrType).state =
            w.upper := by
          cases mode : w.upper.state.mode with
          | server => exact absurd mode server
          | app => simp only [blUpper, mode]
          | off => simp only [blUpper, mode]
        rw [idle]
        exact holds
  | work hal k =>
    refine holds_append w.upper _ _ holds ?_
    by_cases server : w.upper.state.mode = .server
    · cases k with
      | sessionTick stamp =>
        exact tick_step_ends w.upper.state hal stamp _ server holds.2 (orderly server)
      | check => exact check_ends w.upper.state hal _ server holds.2
    · exact stopped_ends w.upper.state hal k _ server holds.2
  | tick now hal => exact holds
  | registerStreamSink sink => exact holds

/-- In a run of the loop whose changes of session are orderly, an attempt that a
return to Default has ended is not continued: until a new 0x34 is answered
positively, no 0x36, 0x37 or 0x31 is.

Proof: an ended attempt has its transfer closed, or is in Default with the change
still to be seen by the check at the end of the iteration. -/
theorem ended_attempt_stays_ended (faults : List Bool) (flash : NorFlash.Device) (flag : Bool)
    (now ready : Nat) (iterations : List Iteration)
    (orderly : Run.Along (IsoTp.step blUpper) OrderlyInput [] (start faults flash flag now ready)
      (iterations.flatMap Iteration.inputs)) :
    Run.Each ends Kept false (superloop (start faults flash flag now ready) iterations).upper.log :=
  (Run.invariant_final (IsoTp.step blUpper) OrderlyInput (fun _ w => w.upper.Holds) step_holds []
    (start faults flash flag now ready) _ ⟨trivial, nofun⟩ orderly).1

/-- A request in one frame. -/
def singleFrameRequest (request : List UInt8) : Nat × CanFrame :=
  (2000, rxFifo0Message canIdPhysicalReq (fdcanBytesToDlc (request.length + 1))
    (UInt8.ofNat request.length :: request))

/-- An iteration at one tick. -/
def loopIteration (requests : List (List UInt8)) : Iteration :=
  ⟨requests.map singleFrameRequest, 2000, 2000, 2000, 2000, 2000⟩

/-- An erased board, for the witnesses. -/
def erasedFlash : NorFlash.Device := NorFlash.Device.standard stmFlash (fun _ => 0xFF) []

/-- The server over an erased flash, entered through the hand-off flag. -/
def erasedStart : IsoTp.World Node := start [] erasedFlash true 0 0

/-- The unlock of a board whose tick is at zero. -/
def unlockRequests : List (List UInt8) := [[0x27, 0x01], [0x27, 0x02, 0xEF, 0x62]]

/-- The announcement of eight bytes. -/
def announceRequest : List UInt8 := [0x34, 0x14, 0x08, 0x00, 0x70, 0x00, 0x08]

/-- A return to Default that the iteration sees: the next block is refused. -/
def orderlyLoop : List Iteration :=
  [loopIteration (unlockRequests ++ [announceRequest, [0x10, 0x01]]),
    loopIteration ([[0x10, 0x02]] ++ unlockRequests ++ [[0x36, 0x01, 0x11]])]

/-- The requests of the orderly loop, all in one iteration. -/
def hurriedLoop : List Iteration :=
  [loopIteration (unlockRequests ++ [announceRequest, [0x10, 0x01], [0x10, 0x02]] ++
    unlockRequests ++ [[0x36, 0x01, 0x11]])]

/-- A loop that goes round between the requests, and an attempt that stays ended. -/
theorem orderly_loop_stays_ended :
    Run.Along (IsoTp.step blUpper) OrderlyInput [] erasedStart
        (orderlyLoop.flatMap Iteration.inputs) ∧
      Run.Each ends Kept false (superloop erasedStart orderlyLoop).upper.log := by
  have orderly : Run.Along (IsoTp.step blUpper) OrderlyInput [] erasedStart
      (orderlyLoop.flatMap Iteration.inputs) := by decide +kernel
  exact ⟨orderly, ended_attempt_stays_ended [] erasedFlash true 0 0 orderlyLoop orderly⟩

/-- In one iteration a return to Default and back is not seen, and the transfer
goes on. -/
theorem hurried_loop_continues : ¬ ∀ iterations,
    Run.Each ends Kept false (superloop erasedStart iterations).upper.log := by
  intro kept
  exact absurd (kept hurriedLoop) (by decide +kernel)

end ObdSimulator.BlMain
