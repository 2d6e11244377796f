import ObdSimulator.TesterTransport

/-!
# A request of the tester, whole or not at all

Frames of a request may get lost on their way, any of them. A tick may end a reception
that waits too long. What reaches the layer above is the request, once, or nothing: a
lost First Frame leaves the Consecutive Frames without a reception, and behind a lost
Consecutive Frame the numbers do not fit. The number has four bits, and a request that
fits the buffer has too few frames for it to come round.
-/

namespace ObdSimulator.Tester

open Bytes IsoTp
open Dialogue (Leftover)

universe u v
variable {σ : Type u} {κ : Type v} {lossy : Prop}

/-- The frames of a request, as `send_uds` builds them. -/
def requestFrames (payload : List UInt8) : List TxFrame :=
  if payload.length ≤ 62 then [singleFrame payload]
  else firstFrame payload :: consecutiveFrames payload

/-- The inputs are the arrivals of some frames, in order, and ticks between them. -/
inductive Delivers : List TxFrame → List (Input κ) → Prop
  | nil : Delivers [] []
  | tick (now hal : Nat) {frames : List TxFrame} {rest : List (Input κ)}
      (later : Delivers frames rest) : Delivers frames (.tick now hal :: rest)
  | frame (hal : Nat) (f : TxFrame) {frames : List TxFrame} {rest : List (Input κ)}
      (later : Delivers frames rest) : Delivers (f :: frames) (.frame hal (heard f) :: rest)

/-- No tick finds a reception overdue, unless something goes wrong. -/
def Prompt (lossy : Prop) (_ : List Event) (w : World σ) : Input κ → Prop
  | .tick now _ => w.link.ctx.rxState = .waitCf → lossy ∨
      elapsed now w.link.ctx.lastRxTick < isoTpRxTimeoutMs
  | _ => True

/-- The layer above was given the request. -/
def Asked (above : Upper σ κ) (w : World σ) (payload : List UInt8) (last : World σ) : Prop :=
  ∃ hal buffer, buffer.take payload.length = payload ∧
    last.upper = (above.dispatch w.upper hal buffer payload.length .physical).state

/-- The layer above was given the request, from all its frames, or nothing was. -/
def WholeOrNot (lossy whole : Prop) (above : Upper σ κ) (w : World σ) (payload : List UInt8)
    (last : World σ) : Prop :=
  (whole ∧ Asked above w payload last) ∨ (lossy ∧ last.upper = w.upper)

/-! ## After the last frame, and without a reception -/

/-- Ticks do not reach the layer above. -/
theorem ticks_upper (above : Upper σ κ) (w : World σ) (inputs : List (Input κ))
    (delivers : Delivers [] inputs) :
    (Run.final (step above) w inputs).upper = w.upper := by
  generalize none_left : ([] : List TxFrame) = frames at delivers
  induction delivers generalizing w with
  | nil => rfl
  | tick now hal later ih => exact ih _ none_left
  | frame hal f later ih => cases none_left

/-- A request that is answered at once has been asked once, whatever ticks follow. -/
theorem answered_asked (above : Upper σ κ) (w : World σ) (payload : List UInt8) (hal : Nat)
    (i : Input κ) (rest : List (Input κ))
    (answered : Answered lossy above w payload hal (step above w i))
    (delivers : Delivers [] rest) :
    Asked above w payload (Run.final (step above) w (i :: rest)) := by
  obtain ⟨buffer, stored, upper, _⟩ := answered.answers
  exact ⟨hal, buffer, stored, (ticks_upper above _ rest delivers).trans upper⟩

/-- A Consecutive Frame from the tester. -/
def Consecutive (frame : TxFrame) : Prop :=
  (heard frame).dlc ≠ 0 ∧ byte (heard frame).data 0 &&& 0xF0 = isoTpPciConsecutive ∧
    canAddrClassify (heard frame).canId = .physical

/-- What remains of a message are Consecutive Frames. -/
theorem remaining_consecutive (payload : List UInt8) (position received : Nat) :
    ∀ frame ∈ remaining payload position received, Consecutive frame := by
  intro frame member
  obtain ⟨i, found⟩ := List.mem_iff_getElem?.mp member
  obtain ⟨first, sized, mine, _⟩ := remaining_numbered payload position received i frame found
  exact ⟨sized, by rw [first]; exact consecutive_kind _, mine⟩

/-- Without a reception Consecutive Frames lead to nothing. -/
theorem strays_upper (above : Upper σ κ) (w : World σ) (frames : List TxFrame)
    (inputs : List (Input κ)) (delivers : Delivers frames inputs)
    (consecutive : ∀ frame ∈ frames, Consecutive frame) (calm : Calm True w.link)
    (idle : w.link.ctx.rxState ≠ .waitCf) :
    (Run.final (step above) w inputs).upper = w.upper := by
  induction delivers generalizing w with
  | nil => rfl
  | tick now hal later ih =>
    obtain ⟨upper, _, calm', same | ⟨ended, _⟩⟩ := tick_asked above w now hal calm
    · have still : (step above w (.tick now hal)).1.link.ctx.rxState ≠ .waitCf := by
        rw [same]
        exact idle
      exact (ih _ consecutive calm' still).trans upper
    · exact (ih _ consecutive calm' ended).trans upper
  | frame hal f later ih =>
    obtain ⟨sized, kind, mine⟩ := consecutive f List.mem_cons_self
    obtain ⟨upper, ended, _, calm'⟩ := stray_frame_asked above w hal (heard f) sized kind mine calm
      fun waiting => absurd waiting idle
    exact (ih _ (fun g member => consecutive g (List.mem_cons_of_mem _ member)) calm' ended).trans
      upper

/-! ## The two kinds of request -/

/-- A Single Frame arrives or does not. -/
theorem short_whole_or_not (above : Upper σ κ) (w : World σ) (payload : List UInt8)
    (filled : 0 < payload.length) (short : payload.length ≤ 62) (calm : Calm True w.link)
    (frames : List TxFrame) (left : Leftover lossy frames [singleFrame payload])
    (inputs : List (Input κ)) (delivers : Delivers frames inputs) :
    WholeOrNot lossy (frames = [singleFrame payload]) above w payload
      (Run.final (step above) w inputs) := by
  induction delivers generalizing w with
  | nil =>
    refine Or.inr ⟨?_, rfl⟩
    rcases left.nil with loses | empty
    · exact loses
    · cases empty
  | tick now hal later ih =>
    obtain ⟨upper, _, calm', _⟩ := tick_asked above w now hal calm
    rcases ih _ calm' left with ⟨whole, hal', buffer, stored, asked⟩ | ⟨loses, same⟩
    · exact Or.inl ⟨whole, hal', buffer, stored, by rw [← upper]; exact asked⟩
    · exact Or.inr ⟨loses, same.trans upper⟩
  | frame hal f later ih =>
    have same := left.1.eq_of_length_le (Nat.succ_le_succ (Nat.zero_le _))
    obtain ⟨rfl, rfl⟩ := List.cons.inj same
    exact Or.inl ⟨rfl, answered_asked above w payload hal _ _
      (single_frame_asked above w hal payload filled short calm) later⟩

/-- Sequence numbers of nearby frames differ. -/
theorem number_differs (position later : Nat) (behind : 0 < later) (few : later < 16) :
    (isoTpPciConsecutive ||| UInt8.ofNat ((position + later) % 16)) &&& 0x0F ≠
      UInt8.ofNat (position % 16) := by
  rw [← sequence_low, low_nibble _ _ (by decide), sequence_low]
  intro same
  have numbers := congrArg UInt8.toNat same
  simp only [UInt8.toNat_ofNat'] at numbers
  omega

/-- Of the frames sent so far, the first one that arrives is the one that is due, or one
that was sent later: its number then does not fit. -/
theorem next_or_stray (payload : List UInt8) (position : Nat) (c : RxContext)
    (fits : payload.length ≤ isoTpMaxMessageSize) (received : 62 ≤ c.rxReceived)
    (receiving : Receiving payload position c) (frame : TxFrame)
    (frames sent unsent : List TxFrame)
    (split : sent ++ unsent = remaining payload position c.rxReceived)
    (left : Leftover lossy (frame :: frames) sent) :
    (frame = consecutiveFrame (UInt8.ofNat (position % 16))
        ((payload.drop c.rxReceived).take 63) ∧
      ∃ sent', sent' ++ unsent = remaining payload (position + 1) (c.rxReceived + 63) ∧
        Leftover lossy frames sent') ∨
    (lossy ∧ byte (heard frame).data 0 &&& 0x0F ≠ c.rxExpectedSeq ∧
      ∀ f ∈ (frame :: frames) ++ unsent, Consecutive f) := by
  have missing := receiving.left
  obtain ⟨before, after, whole, later, none_lost⟩ := left.first
  cases before with
  | nil =>
    rw [whole, remaining_cons payload position c.rxReceived missing] at split
    obtain ⟨due, rest⟩ := List.cons.inj split
    exact Or.inl ⟨due, after, rest, later⟩
  | cons g before =>
    have lost : lossy := none_lost.resolve_right (List.cons_ne_nil _ before)
    have found : (remaining payload position c.rxReceived)[before.length + 1]? = some frame := by
      rw [← split, whole, List.cons_append, List.cons_append, List.getElem?_cons_succ]
      simp
    obtain ⟨first, _, _, inside⟩ := remaining_numbered payload position _ _ frame found
    refine Or.inr ⟨lost, ?_, ?_⟩
    · have size : payload.length ≤ 512 := fits
      have few : before.length + 1 < 16 := by omega
      rw [first, receiving.sequence]
      exact number_differs position (before.length + 1) (Nat.succ_pos _) few
    · intro f member
      apply remaining_consecutive payload position c.rxReceived f
      rw [← split]
      rcases List.mem_append.mp member with arrived | later
      · exact List.mem_append_left unsent (left.1.subset arrived)
      · exact List.mem_append_right sent later

/-- The remaining frames complete the message if none is lost; otherwise the gap ends
the reception. -/
theorem reception_whole_or_not (above : Upper σ κ) (w : World σ) (payload : List UInt8)
    (fits : payload.length ≤ isoTpMaxMessageSize) (position : Nat) (calm : Calm True w.link)
    (receiving : Receiving payload position w.link.ctx.toRxContext)
    (received : 62 ≤ w.link.ctx.rxReceived) (frames : List TxFrame)
    (left : Leftover lossy frames (remaining payload position w.link.ctx.rxReceived))
    (inputs : List (Input κ)) (delivers : Delivers frames inputs) (past : List Event)
    (prompt : Run.Along (step above) (Prompt lossy) past w inputs) :
    WholeOrNot lossy (frames = remaining payload position w.link.ctx.rxReceived) above w payload
      (Run.final (step above) w inputs) := by
  induction delivers generalizing w position past with
  | nil =>
    refine Or.inr ⟨?_, rfl⟩
    rcases left.nil with loses | empty
    · exact loses
    · rw [remaining_cons payload position _ receiving.left] at empty
      cases empty
  | tick now hal later ih =>
    obtain ⟨upper, _, calm', same | ⟨ended, waiting, late⟩⟩ := tick_asked above w now hal calm
    · have buffered : (step above w (.tick now hal)).1.link.ctx.rxReceived =
          w.link.ctx.rxReceived := congrArg RxContext.rxReceived same
      rw [← same] at receiving
      rw [← buffered] at received left ⊢
      rcases ih _ position calm' receiving received left _ prompt.2 with
        ⟨whole, hal', buffer, stored, asked⟩ | ⟨loses, still⟩
      · exact Or.inl ⟨whole, hal', buffer, stored, by rw [← upper]; exact asked⟩
      · exact Or.inr ⟨loses, still.trans upper⟩
    · have loses : lossy := (prompt.1 waiting).resolve_right (Nat.not_lt.mpr late)
      refine Or.inr ⟨loses, (strays_upper above _ _ _ later ?_ calm' ended).trans upper⟩
      exact fun f member => remaining_consecutive payload position _ f (left.1.subset member)
  | frame hal f later ih =>
    rcases next_or_stray payload position w.link.ctx.toRxContext fits received receiving f _ _ []
      (List.append_nil _) left with ⟨rfl, sent', whole', rest⟩ | ⟨lost, wrong, consecutive⟩
    · rw [List.append_nil] at whole'
      rw [whole'] at rest
      have sent := remaining_cons payload position w.link.ctx.rxReceived receiving.left
      rcases next_frame_asked above w hal payload position fits calm receiving with
        ⟨upper, next, moved, _, _, calm'⟩ | ⟨last, answered⟩
      · rw [← moved] at rest
        rcases ih _ (position + 1) calm' next (by omega) rest _ prompt.2 with
          ⟨whole, hal', buffer, stored, asked⟩ | ⟨loses, still⟩
        · refine Or.inl ⟨?_, hal', buffer, stored, by rw [← upper]; exact asked⟩
          rw [sent, whole, moved]
        · exact Or.inr ⟨loses, still.trans upper⟩
      · have nothing := remaining_nil payload (position + 1) _ last
        rw [nothing] at rest sent
        have none_left := rest.of_nil
        subst none_left
        exact Or.inl ⟨sent.symm, answered_asked above w payload hal _ _ answered later⟩
    · rw [List.append_nil] at consecutive
      obtain ⟨sized, kind, mine⟩ := consecutive f List.mem_cons_self
      obtain ⟨upper, ended, _, calm'⟩ := stray_frame_asked above w hal (heard f) sized kind mine
        calm fun _ => wrong
      refine Or.inr ⟨lost, (strays_upper above _ _ _ later ?_ calm' ended).trans upper⟩
      exact fun g member => consecutive g (List.mem_cons_of_mem _ member)

/-- A segmented message arrives as a whole or not at all. -/
theorem long_whole_or_not (above : Upper σ κ) (w : World σ) (payload : List UInt8)
    (long : 62 < payload.length) (fits : payload.length ≤ isoTpMaxMessageSize)
    (calm : Calm True w.link) (idle : w.link.ctx.rxState ≠ .waitCf) (frames : List TxFrame)
    (left : Leftover lossy frames (firstFrame payload :: consecutiveFrames payload))
    (inputs : List (Input κ)) (delivers : Delivers frames inputs) (past : List Event)
    (prompt : Run.Along (step above) (Prompt lossy) past w inputs) :
    WholeOrNot lossy (frames = firstFrame payload :: consecutiveFrames payload) above w payload
      (Run.final (step above) w inputs) := by
  induction delivers generalizing w past with
  | nil =>
    refine Or.inr ⟨?_, rfl⟩
    rcases left.nil with loses | empty
    · exact loses
    · cases empty
  | tick now hal later ih =>
    obtain ⟨upper, _, calm', waits⟩ := tick_asked above w now hal calm
    have still : (step above w (.tick now hal)).1.link.ctx.rxState ≠ .waitCf := by
      rcases waits with same | ⟨ended, _⟩
      · rw [same]
        exact idle
      · exact ended
    rcases ih _ calm' still left _ prompt.2 with
      ⟨whole, hal', buffer, stored, asked⟩ | ⟨loses, same⟩
    · exact Or.inl ⟨whole, hal', buffer, stored, by rw [← upper]; exact asked⟩
    · exact Or.inr ⟨loses, same.trans upper⟩
  | frame hal f later ih =>
    obtain ⟨before, after, sent, rest, none_lost⟩ := left.first
    cases before with
    | nil =>
      obtain ⟨rfl, rfl⟩ := List.cons.inj sent
      obtain ⟨upper, receiving, received, _, calm'⟩ :=
        first_frame_asked above w hal payload long fits calm
      rw [consecutive_frames_remaining, ← received] at rest
      rcases reception_whole_or_not above _ payload fits 1 calm' receiving
        (Nat.le_of_eq received.symm) _ rest _ later _ prompt.2 with
        ⟨whole, hal', buffer, stored, asked⟩ | ⟨loses, same⟩
      · refine Or.inl ⟨?_, hal', buffer, stored, by rw [← upper]; exact asked⟩
        rw [whole, received, ← consecutive_frames_remaining]
      · exact Or.inr ⟨loses, same.trans upper⟩
    | cons g before =>
      obtain ⟨rfl, behind⟩ := List.cons.inj sent
      have lost : lossy := none_lost.resolve_right (List.cons_ne_nil _ before)
      refine Or.inr ⟨lost, strays_upper above w _ _ (.frame hal f later) ?_ calm idle⟩
      intro g member
      refine remaining_consecutive payload 1 62 g ?_
      rw [← consecutive_frames_remaining, behind]
      refine List.mem_append_right before ?_
      rcases List.mem_cons.mp member with rfl | inside
      · exact List.mem_cons_self
      · exact List.mem_cons_of_mem _ (rest.1.subset inside)

/-! ## From any state -/

/-- Whatever was received before, a transport that transmits nothing is calm. -/
theorem reached_calm (above : Upper σ κ) (stream : Bool) (faults : List Bool) (upper : σ)
    (inputs : List (Input κ))
    (idle : (Run.final (step above) (isoTpInit stream faults upper) inputs).link.ctx.txState =
      .idle) :
    Calm True (Run.final (step above) (isoTpInit stream faults upper) inputs).link := by
  have kept : (∃ past, Held past
        (Run.final (step above) (isoTpInit stream faults upper) inputs).link.ctx.toRxContext) ∧
      Ready
        (Run.final (step above) (isoTpInit stream faults upper) inputs).link.ctx.toRxContext := by
    refine Run.final_of_kept (step above) (fun w => (∃ past, Held past w.link.ctx.toRxContext) ∧
      Ready w.link.ctx.toRxContext) ?_ _ inputs ?_
    · rintro w i ⟨⟨past, held⟩, ready⟩
      have reception := step_reception above w i ready.dispatched
      exact ⟨⟨_, step_held past _ _ _ i held reception⟩, reception.ready ready⟩
    · exact ⟨⟨[], fresh_held⟩, fresh_ready⟩
  exact ⟨idle, kept.1, kept.2, Or.inl trivial⟩

/-- After any run that leaves the transport neither transmitting nor waiting, let some of
the frames of a request of the tester arrive, in their order, with ticks between them.
Then the layer above is given exactly the request, once and from all of its frames, or it
is given nothing; and nothing only where a frame is missing or a tick finds the reception
overdue.

Proof: induction on the arrivals. While all frames came, the transport is receiving the
request at the position of the next one; the first one that comes out of its place ends
the reception, and none of those behind it starts another. -/
theorem request_whole_or_not (above : Upper σ κ) (stream : Bool) (faults : List Bool) (upper : σ)
    (before : List (Input κ)) (payload : List UInt8) (filled : 0 < payload.length)
    (fits : payload.length ≤ isoTpMaxMessageSize) (frames : List TxFrame)
    (inputs : List (Input κ)) (delivers : Delivers frames inputs) :
    let w := Run.final (step above) (isoTpInit stream faults upper) before
    w.link.ctx.txState = .idle → w.link.ctx.rxState ≠ .waitCf →
    Leftover lossy frames (requestFrames payload) →
    Run.Along (step above) (Prompt lossy) [] w inputs →
    WholeOrNot lossy (frames = requestFrames payload) above w payload
      (Run.final (step above) w inputs) := by
  intro w idle waits left prompt
  have calm := reached_calm above stream faults upper before idle
  by_cases short : payload.length ≤ 62
  · rw [requestFrames, if_pos short] at left ⊢
    exact short_whole_or_not above w payload filled short calm frames left inputs delivers
  · rw [requestFrames, if_neg short] at left ⊢
    exact long_whole_or_not above w payload (Nat.lt_of_not_le short) fits calm waits frames left
      inputs delivers [] prompt

/-- A request in two frames, with a tick between them. -/
def twoFrames : List UInt8 := 0x22 :: List.replicate 69 0xF1

/-- A message of two frames, none of them lost. -/
theorem two_frames_whole :
    let w := Run.final (step AppMain.appUpper)
      (isoTpInit true [] ⟨UdsService.appInit 0 0, fun _ => 0xFF⟩) []
    WholeOrNot False (requestFrames twoFrames = requestFrames twoFrames) AppMain.appUpper w
      twoFrames (Run.final (step AppMain.appUpper) w
        [.frame 10 (heard (firstFrame twoFrames)), .tick 15 15,
          .frame 20 (heard (consecutiveFrame 1 (twoFrames.drop 62)))]) := by
  have sent : requestFrames twoFrames =
      [firstFrame twoFrames, consecutiveFrame 1 (twoFrames.drop 62)] := by decide +kernel
  refine request_whole_or_not AppMain.appUpper true [] ⟨UdsService.appInit 0 0, fun _ => 0xFF⟩ []
    twoFrames (by decide) (by decide) (requestFrames twoFrames) _ ?_ rfl (by decide) (.whole _) ?_
  · rw [sent]
    exact .frame 10 _ (.tick 15 15 (.frame 20 _ .nil))
  · exact ⟨trivial, fun _ => Or.inr (by decide +kernel), trivial, trivial⟩

end ObdSimulator.Tester
