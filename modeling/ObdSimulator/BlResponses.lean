import ObdSimulator.BlUds

/-!
# The responses of the flash server

Every request that reaches the service switch is answered, with at most eight bytes,
and only a download is answered twice. Neither the response nor what the server does
depends on the log of the flash, so the server that runs and the one the machine of
the bootloader steps with a fresh log answer alike.
-/

namespace ObdSimulator

open NorFlash Bytes

/-! ## The flash driver -/

/-- Equal results, on devices that differ in their logs only. -/
def Matches (out out' : Device × Bool) : Prop := out.1.Alike out'.1 ∧ out'.2 = out.2

/-- The two outcomes taken apart, with the result they share. -/
theorem Matches.both {out out' : Device × Bool} (both : Matches out out') :
    ∃ d d' ok, out = (d, ok) ∧ out' = (d', ok) ∧ d.Alike d' := by
  obtain ⟨d, ok⟩ := out
  obtain ⟨d', ok'⟩ := out'
  obtain ⟨alike, same⟩ := both
  exact ⟨d, d', ok, rfl, congrArg (Prod.mk d') same, alike⟩

/-- The erase loop stops at the same page on both devices. -/
theorem erase_loop_matches (d d' : Device) (alike : d.Alike d') (page pages : Nat) :
    Matches (otaFlashEraseLoop d page pages) (otaFlashEraseLoop d' page pages) := by
  induction pages generalizing d d' page with
  | zero => exact ⟨alike, rfl⟩
  | succ pages ih =>
    obtain ⟨last, last', done, first, second, after⟩ :=
      Matches.both (alike.perform stmFlash (.erase page) true)
    simp only [otaFlashEraseLoop, Device.erase, first, second]
    cases done with
    | false => exact ⟨after, rfl⟩
    | true => exact ih last last' after (page + 1)

/-- An erase is refused or run alike. -/
theorem erase_matches (d d' : Device) (alike : d.Alike d') (addr size : Nat) :
    Matches (otaFlashErase d addr size) (otaFlashErase d' addr size) := by
  unfold otaFlashErase
  split
  · exact erase_loop_matches d d' alike _ _
  · exact ⟨alike, rfl⟩

/-- The write loop programs the same doublewords and stops at the same one. -/
theorem write_loop_matches (d d' : Device) (alike : d.Alike d') (addr : Nat) (data : List UInt8)
    (words : Nat) :
    Matches (otaFlashWriteLoop d addr data words) (otaFlashWriteLoop d' addr data words) := by
  induction words generalizing d d' addr data with
  | zero => exact ⟨alike, rfl⟩
  | succ words ih =>
    have rule : d'.accepts d'.mem addr = d.accepts d.mem addr := by
      rw [alike.accepts, alike.mem]
    obtain ⟨last, last', done, first, second, after⟩ := Matches.both
      (alike.perform stmFlash (.program addr (paddedChunk (data.take 8))) (d.accepts d.mem addr))
    simp only [otaFlashWriteLoop, Device.program, rule, first, second]
    cases done with
    | false => exact ⟨after, rfl⟩
    | true => exact ih last last' after _ _

/-- A write is refused or run alike. -/
theorem write_matches (d d' : Device) (alike : d.Alike d') (addr : Nat) (data : List UInt8) :
    Matches (otaFlashWrite d addr data) (otaFlashWrite d' addr data) := by
  unfold otaFlashWrite
  split
  · exact write_loop_matches d d' alike _ _ _
  · exact ⟨alike, rfl⟩

/-- The rewriting of the metadata page, an erase and a write, does not look at the log. -/
theorem meta_write_matches (d d' : Device) (alike : d.Alike d') (m : BlMeta) :
    Matches (blMetaWrite d m) (blMetaWrite d' m) := by
  obtain ⟨last, last', done, first, second, after⟩ :=
    (erase_matches d d' alike metaBase 2048).both
  simp only [blMetaWrite, first, second]
  cases done with
  | false => exact ⟨after, rfl⟩
  | true => exact write_matches last last' after metaBase (metaBuffer m)

end ObdSimulator

namespace ObdSimulator.BlUds

open NorFlash Bytes

/-! ## The handlers -/

/-- A server over a device that differs in its log only. -/
def Server.Alike (s s' : Server) : Prop := ∃ flash, s' = { s with flash } ∧ s.flash.Alike flash

/-- A response that is not itself a responsePending. -/
def Final (response : List UInt8) : Prop :=
  byte response 0 = 0x7F → byte response 2 ≠ nrcResponsePending

/-- The messages before the response are those of a download, and the response is a
positive or a negative one of the service, short, and the last. -/
structure Brief (sid : UInt8) (r : Reply) : Prop where
  sent : r.sent = [] ∨
    (sid = udsSidRequestDownload ∧ r.sent = [nrc udsSidRequestDownload nrcResponsePending])
  filled : 0 < r.response.length
  few : r.response.length ≤ 8
  final : Final r.response
  named : byte r.response 0 = 0x7F ∨ byte r.response 0 = sid + udsResponseSidOffset

/-- Two servers that differ in the logs of their flash only, after the same request. -/
structure Answers (sid : UInt8) (out out' : Server × Reply) : Prop where
  servers : out.1.Alike out'.1
  reply : out'.2 = out.2
  brief : Brief sid out.2

/-- A positive response of a few bytes; no service byte but 0x3F could make it look
negative. -/
theorem brief_plain (sid : UInt8) (rest : List UInt8) (few : rest.length ≤ 7)
    (positive : sid + udsResponseSidOffset ≠ 0x7F) :
    Brief sid { response := (sid + udsResponseSidOffset) :: rest } where
  sent := Or.inl rfl
  filled := Nat.succ_pos _
  few := Nat.succ_le_succ few
  final negative := absurd negative positive
  named := Or.inr rfl

/-- Every code but 0x78 ends the exchange. -/
theorem final_nrc (sid code : UInt8) (other : code ≠ nrcResponsePending) : Final (nrc sid code) :=
  fun _ => other

/-- A negative response has three bytes. -/
theorem brief_nrc (sid code : UInt8) (other : code ≠ nrcResponsePending) :
    Brief sid { response := nrc sid code } where
  sent := Or.inl rfl
  filled := Nat.succ_pos 2
  few := Nat.le_of_ble_eq_true rfl
  final := final_nrc sid code other
  named := Or.inl rfl

variable {flash : Device}

/-- A handler that leaves the flash alone. -/
theorem Answers.plain (sid : UInt8) (s : Server) (same : s.flash.Alike flash)
    (rest : List UInt8) (few : rest.length ≤ 7) (positive : sid + udsResponseSidOffset ≠ 0x7F) :
    Answers sid (s, { response := (sid + udsResponseSidOffset) :: rest })
      ({ s with flash }, { response := (sid + udsResponseSidOffset) :: rest }) :=
  ⟨⟨flash, rfl, same⟩, rfl, brief_plain sid rest few positive⟩

/-- A refusal looks at neither device, whatever its code. -/
theorem Answers.refused (sid : UInt8) (s : Server) (same : s.flash.Alike flash) (code : UInt8)
    (other : code ≠ nrcResponsePending) :
    Answers sid (s, { response := nrc sid code })
      ({ s with flash }, { response := nrc sid code }) :=
  ⟨⟨flash, rfl, same⟩, rfl, brief_nrc sid code other⟩

/-! The response codes of the checks. -/

/-- The gate never refuses with 0x78. -/
theorem gate_code (session : DiagSession) (code : UInt8)
    (closed : gateFlashServices session = some code) : code ≠ nrcResponsePending := by
  unfold gateFlashServices at closed
  split at closed
  · cases closed
    decide
  · split at closed
    · cases closed
      decide
    · cases closed

/-- The checks of 0x34 never refuse with 0x78. -/
theorem check_request_download_code (request : List UInt8) (code : UInt8)
    (refused : checkRequestDownload request = .error code) : code ≠ nrcResponsePending := by
  unfold checkRequestDownload at refused
  simp only at refused
  split at refused
  · cases refused
    decide
  split at refused
  · cases refused
    decide
  split at refused
  · cases refused
    decide
  split at refused
  · cases refused
    decide
  cases refused

/-- The checks of 0x36 never refuse with 0x78. -/
theorem check_transfer_data_code (x : Transfer) (request : List UInt8) (code : UInt8)
    (refused : checkTransferData x request = .error code) : code ≠ nrcResponsePending := by
  unfold checkTransferData at refused
  simp only at refused
  split at refused
  · cases refused
    decide
  split at refused
  · cases refused
    decide
  split at refused
  · cases refused
    decide
  cases refused

/-- The checks of 0x31 never refuse with 0x78. -/
theorem check_routine_control_code (s : Server) (request : List UInt8) (code : UInt8)
    (refused : checkRoutineControl s request = .error code) : code ≠ nrcResponsePending := by
  unfold checkRoutineControl at refused
  simp only at refused
  split at refused
  · cases refused
    decide
  split at refused
  · cases refused
    decide
  split at refused
  · cases refused
    decide
  split at refused
  · cases refused
    decide
  split at refused
  · cases refused
    decide
  split at refused
  · cases refused
    decide
  cases refused

section Handlers

variable (s : Server) (same : s.flash.Alike flash) (now : Nat) (request : List UInt8)

include same

/-- 0x10 looks at the session only. -/
theorem session_control_answers : Answers udsSidDiagSessionCtrl (handleSessionControl s now request)
    (handleSessionControl { s with flash } now request) := by
  unfold handleSessionControl
  simp only
  split
  · exact .refused _ s same _ (by decide)
  · split
    · exact .refused _ s same _ (by decide)
    · cases diagSessionSetSession s.session now (subFunction (byte request 1)) with
      | none => exact .refused _ s same _ (by decide)
      | some session =>
        exact .plain _ { s with session } same _ (Nat.le_of_ble_eq_true rfl) (by decide)

/-- 0x11 looks at nothing but its sub-function. -/
theorem ecu_reset_answers : Answers udsSidEcuReset (handleEcuReset s request)
    (handleEcuReset { s with flash } request) := by
  unfold handleEcuReset
  simp only
  split
  · exact .refused _ s same _ (by decide)
  · split
    · exact .refused _ s same _ (by decide)
    · exact .plain _ { s with resetPending := true } same _ (Nat.le_of_ble_eq_true rfl)
        (by decide)

/-- 0x27 looks at the session only. -/
theorem security_access_answers : Answers udsSidSecurityAccess (handleSecurityAccess s now request)
    (handleSecurityAccess { s with flash } now request) := by
  unfold handleSecurityAccess
  simp only
  split
  · exact .refused _ s same _ (by decide)
  · split
    · generalize diagSessionCheckSecurityGate s.session now = outcome
      obtain ⟨session, gate⟩ := outcome
      cases gate with
      | delay => exact .refused _ { s with session } same _ (by decide)
      | locked => exact .refused _ { s with session } same _ (by decide)
      | ok =>
        exact .plain _ { s with session := (diagSessionGenerateSeed session now).1 } same _
          (Nat.le_of_ble_eq_true rfl) (by decide)
    · split
      · exact .refused _ s same _ (by decide)
      · generalize diagSessionVerifyKey s.session now _ = outcome
        obtain ⟨session, result⟩ := outcome
        cases result with
        | ok => exact .plain _ { s with session } same _ (Nat.le_of_ble_eq_true rfl) (by decide)
        | exceededAttempts => exact .refused _ { s with session } same _ (by decide)
        | delayNotExpired => exact .refused _ { s with session } same _ (by decide)
        | invalid => exact .refused _ { s with session } same _ (by decide)

/-- 0x3E looks at nothing but its sub-function. -/
theorem tester_present_answers : Answers udsSidTesterPresent (handleTesterPresent s request)
    (handleTesterPresent { s with flash } request) := by
  unfold handleTesterPresent
  simp only
  split
  · exact .refused _ s same _ (by decide)
  · split
    · exact .refused _ s same _ (by decide)
    · exact .plain _ s same _ (Nat.le_of_ble_eq_true rfl) (by decide)

/-- 0x28 and 0x85 are accepted and do nothing in the bootloader. -/
theorem noop_control_answers (sid : UInt8)
    (noop : sid = udsSidCommunicationControl ∨ sid = udsSidControlDtcSetting) :
    Answers sid (handleNoopControl s sid request)
      (handleNoopControl { s with flash } sid request) := by
  unfold handleNoopControl
  split
  · exact .refused _ s same _ (by decide)
  · refine .plain _ s same _ (Nat.le_of_ble_eq_true rfl) ?_
    rcases noop with rfl | rfl
    · decide
    · decide

/-- 0x34 erases and marks the metadata, with the same outcome on both devices, and
answers twice when it is let through. -/
theorem request_download_answers : Answers udsSidRequestDownload (handleRequestDownload s request)
    (handleRequestDownload { s with flash } request) := by
  unfold handleRequestDownload
  cases checked : checkRequestDownload request with
  | error code => exact .refused _ s same _ (check_request_download_code request code checked)
  | ok size =>
    have brief (response : List UInt8) (answer : Brief udsSidRequestDownload { response }) :
        Brief udsSidRequestDownload
          ⟨[nrc udsSidRequestDownload nrcResponsePending], response⟩ :=
      ⟨Or.inr ⟨rfl, rfl⟩, answer.filled, answer.few, answer.final, answer.named⟩
    have failed := brief _
      (brief_nrc udsSidRequestDownload nrcGeneralProgrammingFailure (by decide))
    have opened := brief requestDownloadResponse
      (brief_plain udsSidRequestDownload _ (Nat.le_of_ble_eq_true rfl) (by decide))
    obtain ⟨d, d', marked, first, second, alike⟩ := (meta_write_matches s.flash flash same
      (updatingMeta (blMetaRollbackCounter s.flash.mem))).both
    simp only [requestDownload, same.mem, first, second]
    cases marked with
    | false => exact ⟨⟨d', rfl, alike⟩, rfl, failed⟩
    | true =>
      obtain ⟨e, e', erased, third, fourth, alike'⟩ := (erase_matches d d' alike appBase size).both
      simp only [third, fourth]
      cases erased with
      | false => exact ⟨⟨e', rfl, alike'⟩, rfl, failed⟩
      | true => exact ⟨⟨e', rfl, alike'⟩, rfl, opened⟩

/-- 0x36 answers after the block is written, alike on both devices. -/
theorem transfer_data_answers : Answers udsSidTransferData (handleTransferData s request)
    (handleTransferData { s with flash } request) := by
  unfold handleTransferData
  simp only
  cases checked : checkTransferData s.xfer request with
  | error code => exact .refused _ s same _ (check_transfer_data_code s.xfer request code checked)
  | ok block =>
    obtain ⟨seq, data⟩ := block
    obtain ⟨d, d', stored, first, second, alike⟩ :=
      (write_matches s.flash flash same (u32 (appBase + s.xfer.written)) data).both
    simp only [transferData, first, second]
    cases stored with
    | false => exact ⟨⟨d', rfl, alike⟩, rfl, brief_nrc _ _ (by decide)⟩
    | true =>
      exact ⟨⟨d', rfl, alike⟩, rfl,
        brief_plain _ _ (Nat.le_of_ble_eq_true rfl) (by decide)⟩

/-- 0x37 looks at the transfer only. -/
theorem transfer_exit_answers : Answers udsSidRequestTransferExit
    (handleRequestTransferExit s request) (handleRequestTransferExit { s with flash } request) := by
  unfold handleRequestTransferExit
  split
  · exact .refused _ s same _ (by decide)
  · exact .plain _ { s with xfer := { s.xfer with closed := true } } same _
      (Nat.le_of_ble_eq_true rfl) (by decide)

/-- The checks of 0x31 look at no device. -/
theorem check_routine_control_alike :
    checkRoutineControl { s with flash } request = checkRoutineControl s request := by
  simp only [checkRoutineControl, same.mem]

/-- The CRC is computed over the memory, which the devices share. -/
theorem routine_control_answers : Answers udsSidRoutineControl (handleRoutineControl s request)
    (handleRoutineControl { s with flash } request) := by
  unfold handleRoutineControl
  rw [check_routine_control_alike s same request]
  cases checked : checkRoutineControl s request with
  | error code => exact .refused _ s same _ (check_routine_control_code s request code checked)
  | ok accepted =>
    obtain ⟨version, crc⟩ := accepted
    obtain ⟨d, d', marked, first, second, alike⟩ :=
      (meta_write_matches s.flash flash same (validMeta version crc s.xfer.written)).both
    simp only [checkMemory, first, second]
    cases marked with
    | false => exact ⟨⟨d', rfl, alike⟩, rfl, brief_nrc _ _ (by decide)⟩
    | true =>
      exact ⟨⟨d', rfl, alike⟩, rfl,
        brief_plain _ _ (Nat.le_of_ble_eq_true rfl) (by decide)⟩

/-- A refusal by the gate is an answer too. -/
theorem gated_answers (sid : UInt8) (handled handled' : Server × Reply)
    (answers : Answers sid handled handled') :
    Answers sid (gated s sid handled) (gated { s with flash } sid handled') := by
  unfold gated
  simp only
  cases gate : gateFlashServices s.session with
  | none => exact answers
  | some code => exact .refused sid s same code (gate_code s.session code gate)

/-- Every request is answered, and the log decides nothing. -/
theorem serve_answers :
    Answers (byte request 0) (serve s now request) (serve { s with flash } now request) := by
  unfold serve
  simp only
  split
  case isTrue service =>
    rw [service]
    exact session_control_answers s same now request
  split
  case isTrue service =>
    rw [service]
    exact ecu_reset_answers s same request
  split
  case isTrue service =>
    rw [service]
    exact security_access_answers s same now request
  split
  case isTrue service =>
    rw [service]
    exact tester_present_answers s same request
  split
  case isTrue noop => exact noop_control_answers s same request _ noop
  split
  case isTrue service =>
    rw [service]
    exact gated_answers s same _ _ _ (request_download_answers s same request)
  split
  case isTrue service =>
    rw [service]
    exact gated_answers s same _ _ _ (transfer_data_answers s same request)
  split
  case isTrue service =>
    rw [service]
    exact gated_answers s same _ _ _ (transfer_exit_answers s same request)
  split
  case isTrue service =>
    rw [service]
    exact gated_answers s same _ _ _ (routine_control_answers s same request)
  exact .refused _ s same _ (by decide)

end Handlers

/-- A request that reaches the service switch. -/
theorem serve_request_answers (s : Server) (same : s.flash.Alike flash) (now : Nat)
    (request : List UInt8) (addr : AddrType) (reaches : admitted request addr = true) :
    Answers (byte request 0) (serveRequest s now request addr)
      (serveRequest { s with flash } now request addr) := by
  simp only [serveRequest, if_pos reaches]
  exact serve_answers { s with session := diagSessionResetS3Timeout s.session now } same now
    request

/-- The dispatcher on two servers that differ in the log: the same reply, and servers
that still differ in nothing else. -/
theorem serve_request_alike (s : Server) (same : s.flash.Alike flash) (now : Nat)
    (request : List UInt8) (addr : AddrType) :
    (serveRequest s now request addr).1.Alike (serveRequest { s with flash } now request addr).1 ∧
      (serveRequest { s with flash } now request addr).2 =
        (serveRequest s now request addr).2 := by
  cases reaches : admitted request addr with
  | true =>
    have answers := serve_request_answers s same now request addr reaches
    exact ⟨answers.servers, answers.reply⟩
  | false =>
    have ignored : ¬ admitted request addr = true := by rw [reaches]; decide
    simp only [serveRequest, if_neg ignored]
    exact ⟨⟨flash, rfl, same⟩, trivial⟩

/-- What is sent for a request on the physical address. -/
theorem dispatch_brief (s : Server) (now : Nat) (request : List UInt8) (filled : request ≠ []) :
    let reply := (udsDispatchRequest s now request .physical).2
    (reply.sent = [] ∨ (byte request 0 = udsSidRequestDownload ∧
        reply.sent = [nrc udsSidRequestDownload nrcResponsePending])) ∧
      reply.response.length ≤ 8 ∧ Final reply.response ∧
      (byte request 0 ∉ suppressibleSids ∨ byte request 1 &&& 0x80 = 0 →
        0 < reply.response.length) := by
  have reaches : admitted request .physical = true := by
    simp [admitted, filled]
  have brief := (serve_request_answers s (.refl s.flash) now request .physical reaches).brief
  have reply : (udsDispatchRequest s now request .physical).2 =
      if suppressed request (serveRequest s now request .physical).2.response then
        { (serveRequest s now request .physical).2 with response := [] }
      else (serveRequest s now request .physical).2 := rfl
  rw [reply]
  split
  · rename_i quiet
    refine ⟨brief.sent, Nat.zero_le _, ?_, ?_⟩
    · intro negative
      cases negative
    · intro plain
      simp only [suppressed, Bool.and_eq_true, bne_iff_ne, List.contains_eq_mem,
        decide_eq_true_eq] at quiet
      rcases plain with other | clear
      · exact absurd quiet.2 other
      · exact absurd clear quiet.1.2
  · exact ⟨brief.sent, brief.few, brief.final, fun _ => brief.filled⟩

/-- Whatever is sent for a request has at most eight bytes. -/
theorem dispatch_few (s : Server) (now : Nat) (request : List UInt8) (addr : AddrType) :
    let reply := (udsDispatchRequest s now request addr).2
    ∀ message ∈ reply.sent ++ [reply.response], message.length ≤ 8 := by
  have served : ∀ message ∈ (serveRequest s now request addr).2.sent ++
      [(serveRequest s now request addr).2.response], message.length ≤ 8 := by
    cases reaches : admitted request addr with
    | false =>
      have ignored : ¬ admitted request addr = true := by rw [reaches]; decide
      simp [serveRequest, if_neg ignored]
    | true =>
      have brief := (serve_request_answers s (.refl s.flash) now request addr reaches).brief
      intro message member
      rcases List.mem_append.mp member with before | last
      · rcases brief.sent with none_sent | ⟨_, pending⟩
        · rw [none_sent] at before
          cases before
        · rw [pending] at before
          rw [List.mem_singleton.mp before]
          exact Nat.le_of_ble_eq_true rfl
      · rw [List.mem_singleton.mp last]
        exact brief.few
  have reply : (udsDispatchRequest s now request addr).2 =
      if suppressed request (serveRequest s now request addr).2.response then
        { (serveRequest s now request addr).2 with response := [] }
      else (serveRequest s now request addr).2 := rfl
  simp only [reply]
  split
  · intro message member
    rcases List.mem_append.mp member with before | last
    · exact served message (List.mem_append_left _ before)
    · rw [List.mem_singleton.mp last]
      exact Nat.zero_le _
  · exact served

/-- A response that is not a refusal names its service. -/
theorem response_named (s : Server) (now : Nat) (request : List UInt8) (filled : request ≠ [])
    (positive : Positive (udsDispatchRequest s now request .physical).2.response) :
    byte (udsDispatchRequest s now request .physical).2.response 0 =
      byte request 0 + udsResponseSidOffset := by
  have reaches : admitted request .physical = true := by
    simp [admitted, filled]
  have brief := (serve_request_answers s (.refl s.flash) now request .physical reaches).brief
  have reply : (udsDispatchRequest s now request .physical).2 =
      if suppressed request (serveRequest s now request .physical).2.response then
        { (serveRequest s now request .physical).2 with response := [] }
      else (serveRequest s now request .physical).2 := rfl
  rw [reply] at positive ⊢
  split at positive
  · exact absurd rfl positive.1
  · rename_i shown
    rw [if_neg shown]
    exact brief.named.resolve_left positive.2

/-! ## The flash services -/

/-- The services behind the gate, which alone reach the flash. -/
def flashSids : List UInt8 :=
  [udsSidRequestDownload, udsSidTransferData, udsSidRequestTransferExit, udsSidRoutineControl]

/-- The session and the reset of the server are as they were. -/
def Keeps (s s' : Server) : Prop := s'.session = s.session ∧ s'.resetPending = s.resetPending

/-- What a service keeps it keeps behind the gate. -/
theorem gated_keeps (s : Server) (sid : UInt8) (handled : Server × Reply)
    (keeps : Keeps s handled.1) : Keeps s (gated s sid handled).1 := by
  unfold gated
  cases gateFlashServices s.session with
  | none => exact keeps
  | some code => exact ⟨rfl, rfl⟩

/-- 0x34 writes the transfer and the flash. -/
theorem request_download_keeps (s : Server) (request : List UInt8) :
    Keeps s (handleRequestDownload s request).1 := by
  unfold handleRequestDownload
  cases checkRequestDownload request with
  | error code => exact ⟨rfl, rfl⟩
  | ok size =>
    simp only [requestDownload]
    generalize blMetaWrite s.flash _ = marking
    obtain ⟨d, marked⟩ := marking
    cases marked with
    | false => exact ⟨rfl, rfl⟩
    | true =>
      simp only
      generalize otaFlashErase d appBase size = erasing
      obtain ⟨e, erased⟩ := erasing
      cases erased with
      | false => exact ⟨rfl, rfl⟩
      | true => exact ⟨rfl, rfl⟩

/-- 0x36 writes the flash and the transfer. -/
theorem transfer_data_keeps (s : Server) (request : List UInt8) :
    Keeps s (handleTransferData s request).1 := by
  unfold handleTransferData
  cases checkTransferData s.xfer request with
  | error code => exact ⟨rfl, rfl⟩
  | ok block =>
    simp only [transferData]
    generalize otaFlashWrite s.flash _ block.2 = writing
    obtain ⟨d, stored⟩ := writing
    cases stored with
    | false => exact ⟨rfl, rfl⟩
    | true => exact ⟨rfl, rfl⟩

/-- 0x37 writes the transfer. -/
theorem transfer_exit_keeps (s : Server) (request : List UInt8) :
    Keeps s (handleRequestTransferExit s request).1 := by
  unfold handleRequestTransferExit
  split
  · exact ⟨rfl, rfl⟩
  · exact ⟨rfl, rfl⟩

/-- 0x31 writes the flash. -/
theorem routine_control_keeps (s : Server) (request : List UInt8) :
    Keeps s (handleRoutineControl s request).1 := by
  unfold handleRoutineControl
  cases checkRoutineControl s request with
  | error code => exact ⟨rfl, rfl⟩
  | ok accepted =>
    simp only [checkMemory]
    generalize blMetaWrite s.flash _ = marking
    obtain ⟨d, marked⟩ := marking
    cases marked with
    | false => exact ⟨rfl, rfl⟩
    | true => exact ⟨rfl, rfl⟩

/-- A flash service leaves the session and a pending reset as they are. -/
theorem serve_flash_keeps (s : Server) (now : Nat) (request : List UInt8)
    (service : byte request 0 ∈ flashSids) : Keeps s (serve s now request).1 := by
  simp only [flashSids, List.mem_cons, List.not_mem_nil, or_false] at service
  rcases service with download | transfer | exit | routine
  · have served : serve s now request =
        gated s udsSidRequestDownload (handleRequestDownload s request) := by
      simp only [serve, download]
      rfl
    rw [served]
    exact gated_keeps s _ _ (request_download_keeps s request)
  · have served : serve s now request =
        gated s udsSidTransferData (handleTransferData s request) := by
      simp only [serve, transfer]
      rfl
    rw [served]
    exact gated_keeps s _ _ (transfer_data_keeps s request)
  · have served : serve s now request =
        gated s udsSidRequestTransferExit (handleRequestTransferExit s request) := by
      simp only [serve, exit]
      rfl
    rw [served]
    exact gated_keeps s _ _ (transfer_exit_keeps s request)
  · have served : serve s now request =
        gated s udsSidRoutineControl (handleRoutineControl s request) := by
      simp only [serve, routine]
      rfl
    rw [served]
    exact gated_keeps s _ _ (routine_control_keeps s request)

/-- A flash service renews the session, and changes nothing else of it. -/
theorem dispatch_flash_keeps (s : Server) (now : Nat) (request : List UInt8)
    (service : byte request 0 ∈ flashSids) (filled : request ≠ []) :
    Keeps (stamped s now) (udsDispatchRequest s now request .physical).1 := by
  have reaches : admitted request .physical = true := by
    simp [admitted, filled]
  have served : (udsDispatchRequest s now request .physical).1 =
      (serve (stamped s now) now request).1 := by
    simp only [udsDispatchRequest, serveRequest, if_pos reaches]
    rfl
  rw [served]
  exact serve_flash_keeps (stamped s now) now request service

end ObdSimulator.BlUds
