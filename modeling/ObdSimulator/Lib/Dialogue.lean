import Mathlib.Data.Prod.Lex
import Mathlib.Order.WellFounded
import ObdSimulator.Lib.Program

/-!
# A client and a server over channels that lose messages

The client is a program that sends messages and waits for messages it wants. The
server takes one message at a time, answers with any number of messages and may do
other work in between. A first-in first-out channel goes in each direction; it may
lose a message at any place. A wait may be given up.

Either party makes progress by taking a message or by sending one. No run makes
progress without end: the program goes on to a part of itself, or one of the channels
gets shorter. So a run that always could make progress, and sooner or later does when
it can, comes to the end of the program.
-/

namespace ObdSimulator.Dialogue

/-! ## The client -/

/-- What a client asks of its side of the channels. -/
inductive Talk (M N : Type) where
  | send (m : M)
  /-- Take messages off the channel up to the first one that is wanted. -/
  | await (wanted : N → Bool)

/-- A wait ends with a message, or it is given up. -/
def Talk.Reply {M N : Type} : Talk M N → Type
  | .send _ => Unit
  | .await _ => Option N

/-- A client is a program whose questions are put to the channels. -/
abbrev Client (M N α : Type) := Program (Talk M N) Talk.Reply α

variable {M N α : Type}

/-- Send some messages, then go on. -/
def sendAll (messages : List M) (rest : Client M N α) : Client M N α :=
  messages.foldr (fun m rest => .ask (.send m) fun _ => rest) rest

/-! ## The system -/

/-- A server: what it does with a message in given circumstances, and its other
work. -/
structure Server (S K W M N : Type) where
  serve : S → K → M → S × List N
  work : S → W → S × List N

/-- The rest of the client's program, the server, and the messages under way between
them. -/
structure State (S M N α : Type) where
  client : Client M N α
  toServer : List M := []
  server : S
  toClient : List N := []

/-- One party acts, or a channel loses a message. -/
inductive Move (K W : Type) where
  /-- The client's next action, if it can take it. -/
  | act
  /-- The client waits no longer. -/
  | giveUp
  /-- The server takes the oldest message, if there is one. -/
  | serve (k : K)
  | work (w : W)
  | loseRequest (i : Nat)
  | loseReply (i : Nat)

variable {S K W : Type}

/-- A wanted message ends a wait, any other is dropped; with none there the client stays
where it is. -/
def State.act (s : State S M N α) : State S M N α :=
  match s.client with
  | .done _ => s
  | .ask (.send m) next => { s with client := next (), toServer := s.toServer ++ [m] }
  | .ask (.await wanted) next =>
    match s.toClient with
    | [] => s
    | n :: rest =>
      if wanted n then { s with client := next (some n), toClient := rest }
      else { s with toClient := rest }

/-- Only a wait can be given up. -/
def State.giveUp (s : State S M N α) : State S M N α :=
  match s.client with
  | .ask (.await _) next => { s with client := next none }
  | _ => s

/-- The server's answers join the messages under way. -/
def State.serve (server : Server S K W M N) (s : State S M N α) (k : K) : State S M N α :=
  match s.toServer with
  | [] => s
  | m :: rest =>
    { s with toServer := rest, server := (server.serve s.server k m).1,
             toClient := s.toClient ++ (server.serve s.server k m).2 }

/-- One move of the system. -/
def step (server : Server S K W M N) (s : State S M N α) : Move K W → State S M N α
  | .act => s.act
  | .giveUp => s.giveUp
  | .serve k => s.serve server k
  | .work w => { s with server := (server.work s.server w).1,
                        toClient := s.toClient ++ (server.work s.server w).2 }
  | .loseRequest i => { s with toServer := s.toServer.eraseIdx i }
  | .loseReply i => { s with toClient := s.toClient.eraseIdx i }

/-- The moves of a finite run, one after the other. -/
def run (server : Server S K W M N) (s : State S M N α) (moves : List (Move K W)) :
    State S M N α :=
  moves.foldl (step server) s

/-- The state after the first moves of an infinite run. -/
def stateAt (server : Server S K W M N) (s : State S M N α) (moves : ℕ → Move K W) :
    ℕ → State S M N α
  | 0 => s
  | n + 1 => step server (stateAt server s moves n) (moves n)

section Acts

variable (toServer : List M) (server : S) (toClient : List N) (wanted : N → Bool)

/-- The first wanted message ends the wait. -/
theorem act_taken (next : Option N → Client M N α) (n : N) (rest : List N)
    (taken : wanted n = true) :
    State.act ⟨.ask (.await wanted) next, toServer, server, n :: rest⟩ =
      ⟨next (some n), toServer, server, rest⟩ :=
  if_pos taken

/-- A message nobody wants is taken off the channel all the same. -/
theorem act_passed (next : Option N → Client M N α) (n : N) (rest : List N)
    (passed : wanted n = false) :
    State.act ⟨.ask (.await wanted) next, toServer, server, n :: rest⟩ =
      ⟨.ask (.await wanted) next, toServer, server, rest⟩ :=
  if_neg (Bool.eq_false_iff.mp passed)

end Acts

/-- A client's action leaves the server alone. -/
theorem act_server (s : State S M N α) : s.act.server = s.server := by
  obtain ⟨client, toServer, server, toClient⟩ := s
  cases client with
  | done v => rfl
  | ask q next =>
    cases q with
    | send m => rfl
    | await wanted =>
      cases toClient with
      | nil => rfl
      | cons n rest =>
        simp only [State.act]
        split
        · rfl
        · rfl

/-- Giving up leaves the server alone. -/
theorem give_up_server (s : State S M N α) : s.giveUp.server = s.server := by
  obtain ⟨client, toServer, server, toClient⟩ := s
  cases client with
  | done v => rfl
  | ask q next =>
    cases q with
    | send m => rfl
    | await wanted => rfl

/-- What every move keeps holds after a run. -/
theorem run_invariant (server : Server S K W M N) (inv : State S M N α → Prop)
    (kept : ∀ s m, inv s → inv (step server s m)) (s : State S M N α)
    (moves : List (Move K W)) (initial : inv s) : inv (run server s moves) := by
  induction moves generalizing s with
  | nil => exact initial
  | cons m rest ih => exact ih _ (kept s m initial)

/-- What every move that meets a condition keeps holds throughout an infinite run of
such moves. -/
theorem state_at_invariant (server : Server S K W M N) (inv : State S M N α → Prop)
    (cond : State S M N α → Move K W → Prop)
    (kept : ∀ s m, inv s → cond s m → inv (step server s m)) (s : State S M N α)
    (moves : ℕ → Move K W) (initial : inv s)
    (met : ∀ n, cond (stateAt server s moves n) (moves n)) (n : ℕ) :
    inv (stateAt server s moves n) := by
  induction n with
  | zero => exact initial
  | succ n ih => exact kept _ _ ih (met n)

/-- An infinite run from its `n`-th state on is an infinite run. -/
theorem state_at_add (server : Server S K W M N) (s : State S M N α) (moves : ℕ → Move K W)
    (n k : ℕ) :
    stateAt server s moves (n + k) =
      stateAt server (stateAt server s moves n) (fun i => moves (n + i)) k := by
  induction k with
  | zero => rfl
  | succ k ih =>
    rw [Nat.add_succ, stateAt, ih]
    rfl

/-! ## What is left of some messages -/

/-- Some of the messages may be missing; none are, unless the channel loses any. -/
def Leftover (lossy : Prop) (left all : List M) : Prop := left.Sublist all ∧ (lossy ∨ left = all)

variable {lossy : Prop}

/-- Nothing has been lost yet. -/
theorem Leftover.whole (all : List M) : Leftover lossy all all :=
  ⟨List.Sublist.refl all, Or.inr rfl⟩

/-- What is left of two lots of messages, sent one behind the other. -/
theorem Leftover.append {left all left' all' : List M} (front : Leftover lossy left all)
    (back : Leftover lossy left' all') : Leftover lossy (left ++ left') (all ++ all') := by
  refine ⟨front.1.append back.1, ?_⟩
  rcases front.2 with loses | same
  · exact Or.inl loses
  · rcases back.2 with loses | same'
    · exact Or.inl loses
    · exact Or.inr (by rw [same, same'])

/-- A lossy channel may lose a further message at any place. -/
theorem Leftover.erase {left all : List M} (leftover : Leftover lossy left all) (loses : lossy)
    (i : ℕ) : Leftover lossy (left.eraseIdx i) all :=
  ⟨(List.eraseIdx_sublist left i).trans leftover.1, Or.inl loses⟩

/-- Nothing is left of nothing. -/
theorem Leftover.of_nil {left : List M} (leftover : Leftover lossy left []) : left = [] :=
  List.sublist_nil.mp leftover.1

/-- What is left of one message. -/
theorem Leftover.one {m n : M} {rest : List M} (leftover : Leftover lossy (n :: rest) [m]) :
    n = m ∧ rest = [] := by
  have same := leftover.1.eq_of_length_le (Nat.succ_le_succ (Nat.zero_le _))
  exact List.cons.inj same

/-- A lossy channel may lose the oldest message. -/
theorem Leftover.tail {m : M} {left all : List M} (leftover : Leftover lossy (m :: left) all)
    (loses : lossy) : Leftover lossy left all :=
  ⟨(List.sublist_cons_self m left).trans leftover.1, Or.inl loses⟩

/-- When nothing is left, something was lost or nothing was sent. -/
theorem Leftover.nil {all : List M} (leftover : Leftover lossy [] all) : lossy ∨ all = [] :=
  leftover.2.imp_right Eq.symm

/-- A lossy channel may lose everything. -/
theorem Leftover.lost (all : List M) (loses : lossy) : Leftover lossy [] all :=
  ⟨List.nil_sublist all, Or.inl loses⟩

/-- The first message there was sent behind others only if those were lost. -/
theorem Leftover.first {m : M} {left all : List M} (leftover : Leftover lossy (m :: left) all) :
    ∃ before after, all = before ++ m :: after ∧ Leftover lossy left after ∧
      (lossy ∨ before = []) := by
  obtain ⟨inside, loses | same⟩ := leftover
  · obtain ⟨front, back, rfl, member, rest⟩ := List.cons_sublist_iff.mp inside
    obtain ⟨before, after, rfl⟩ := List.append_of_mem member
    refine ⟨before, after ++ back, by simp, ⟨?_, Or.inl loses⟩, Or.inl loses⟩
    exact rest.trans (List.sublist_append_right after back)
  · exact ⟨[], left, same.symm, .whole left, Or.inr rfl⟩

/-! ## Progress -/

/-- The client sends, or there is a message for it to take. -/
def State.CanAct (s : State S M N α) : Prop :=
  match s.client with
  | .done _ => False
  | .ask (.send _) _ => True
  | .ask (.await _) _ => s.toClient ≠ []

/-- A move that sends a message or takes one. -/
def Progresses (s : State S M N α) : Move K W → Prop
  | .act => s.CanAct
  | .serve _ => s.toServer ≠ []
  | _ => False

/-- The client has come to the end of its program. -/
def Finished (s : State S M N α) : Prop := ∃ v, s.client = .done v

/-- The value a client has come to. -/
def result : Client M N α → Option α
  | .done a => some a
  | .ask _ _ => none

/-- Only a finished client has a value. -/
theorem done_of_result (client : Client M N α) (a : α) (finished : result client = some a) :
    client = .done a := by
  cases client with
  | done b => exact congrArg Program.done (Option.some.inj finished)
  | ask q next => cases finished

/-- A program and what it goes on with after a reply. -/
def GoesOn {Q : Type} {R : Q → Type} (rest p : Program Q R α) : Prop :=
  ∃ q next reply, p = .ask q next ∧ rest = next reply

/-- No program goes on for ever, since each reply leads to a part of it. -/
theorem goes_on_wf {Q : Type} {R : Q → Type} :
    WellFounded (GoesOn : Program Q R α → Program Q R α → Prop) := by
  constructor
  intro p
  induction p with
  | done v =>
    constructor
    rintro _ ⟨q, next, reply, same, _⟩
    cases same
  | ask q next ih =>
    constructor
    rintro _ ⟨q', next', reply, same, rfl⟩
    cases same
    exact ih reply

/-- The rest of the program, then the messages under way. -/
def State.rank (s : State S M N α) : Client M N α × ℕ × ℕ :=
  (s.client, s.toServer.length, s.toClient.length)

/-- The program comes first, then the requests under way, then the replies. -/
def Below (r r' : Client M N α × ℕ × ℕ) : Prop :=
  Prod.Lex GoesOn (Prod.Lex (· < ·) (· < ·)) r r'

/-- Nothing descends for ever in that order. -/
theorem below_wf : WellFounded (Below : Client M N α × ℕ × ℕ → Client M N α × ℕ × ℕ → Prop) :=
  goes_on_wf.prod_lex (Nat.lt_wfRel.wf.prod_lex Nat.lt_wfRel.wf)

/-- A client that goes on is below, whatever it has sent. -/
theorem below_client (p p' : Client M N α) (requests requests' replies replies' : ℕ)
    (further : GoesOn p' p) : Below (p', requests', replies') (p, requests, replies) :=
  Prod.Lex.left _ _ further

/-- A request that is taken brings the rank down, however many replies it gets. -/
theorem below_requests (p : Client M N α) (requests requests' replies replies' : ℕ)
    (fewer : requests' < requests) : Below (p, requests', replies') (p, requests, replies) :=
  Prod.Lex.right _ (Prod.Lex.left _ _ fewer)

/-- A reply that is taken brings the rank down, where nothing else moved. -/
theorem below_replies (p : Client M N α) (requests replies replies' : ℕ)
    (fewer : replies' < replies) : Below (p, requests, replies') (p, requests, replies) :=
  Prod.Lex.right _ (Prod.Lex.right _ fewer)

/-- A client that can act brings the rank down. -/
theorem act_below (s : State S M N α) (can : s.CanAct) : Below s.act.rank s.rank := by
  obtain ⟨client, toServer, server, toClient⟩ := s
  cases client with
  | done v => cases can
  | ask q next =>
    cases q with
    | send m => exact below_client _ _ _ _ _ _ ⟨_, next, (), rfl, rfl⟩
    | await wanted =>
      cases toClient with
      | nil => exact absurd rfl can
      | cons n rest =>
        by_cases taken : wanted n = true
        · simp only [State.act, if_pos taken]
          exact below_client _ _ _ _ _ _ ⟨_, next, some n, rfl, rfl⟩
        · simp only [State.act, if_neg taken]
          exact below_replies _ _ _ _ (Nat.lt_succ_self _)

/-- Every move that makes progress lowers the rank. -/
theorem progress_below (server : Server S K W M N) (s : State S M N α) (m : Move K W)
    (progresses : Progresses s m) : Below (step server s m).rank s.rank := by
  cases m with
  | act => exact act_below s progresses
  | serve k =>
    obtain ⟨client, toServer, server', toClient⟩ := s
    cases toServer with
    | nil => exact absurd rfl progresses
    | cons m rest => exact below_requests _ _ _ _ _ (Nat.lt_succ_self _)
  | _ => cases progresses

/-- Losing a message shortens a channel, or there was none at that place. -/
theorem erase_idx_below {A : Type} (l : List A) (i : Nat) :
    (l.eraseIdx i).length = l.length ∨ (l.eraseIdx i).length < l.length :=
  Nat.eq_or_lt_of_le (List.length_eraseIdx_le l i)

/-- A move by which the server does not send of its own accord. -/
def Silent (server : Server S K W M N) (s : State S M N α) : Move K W → Prop
  | .work w => (server.work s.server w).2 = []
  | _ => True

/-- No silent move goes up. -/
theorem step_below (server : Server S K W M N) (s : State S M N α) (m : Move K W)
    (silent : Silent server s m) :
    (step server s m).rank = s.rank ∨ Below (step server s m).rank s.rank := by
  by_cases progresses : Progresses s m
  · exact Or.inr (progress_below server s m progresses)
  obtain ⟨client, toServer, server', toClient⟩ := s
  cases m with
  | act =>
    cases client with
    | done v => exact Or.inl rfl
    | ask q next =>
      cases q with
      | send m => exact absurd trivial progresses
      | await wanted =>
        have empty : toClient = [] := not_not.mp progresses
        subst empty
        exact Or.inl rfl
  | giveUp =>
    cases client with
    | done v => exact Or.inl rfl
    | ask q next =>
      cases q with
      | send m => exact Or.inl rfl
      | await wanted => exact Or.inr (below_client _ _ _ _ _ _ ⟨_, next, none, rfl, rfl⟩)
  | serve k =>
    have empty : toServer = [] := not_not.mp progresses
    subst empty
    exact Or.inl rfl
  | work w =>
    refine Or.inl ?_
    have nothing : (server.work server' w).2 = [] := silent
    simp only [step, State.rank, nothing, List.append_nil]
  | loseRequest i =>
    rcases erase_idx_below toServer i with same | fewer
    · refine Or.inl ?_
      simp only [step, State.rank, same]
    · exact Or.inr (below_requests _ _ _ _ _ fewer)
  | loseReply i =>
    rcases erase_idx_below toClient i with same | fewer
    · refine Or.inl ?_
      simp only [step, State.rank, same]
    · exact Or.inr (below_replies _ _ _ _ fewer)

/-- Along a run that stays silent the rank never goes up. -/
theorem state_at_below (server : Server S K W M N) (s : State S M N α) (moves : ℕ → Move K W)
    (silent : ∀ n, Silent server (stateAt server s moves n) (moves n)) (n : ℕ) :
    Relation.ReflTransGen Below (stateAt server s moves n).rank s.rank := by
  induction n with
  | zero => exact .refl
  | succ n ih =>
    rcases step_below server (stateAt server s moves n) (moves n) (silent n) with same | lower
    · rw [stateAt, same]
      exact ih
    · exact Relation.ReflTransGen.head lower ih

/-- A run of silent moves makes progress finitely often.

Proof: well-founded induction on the rank of its first state. After the first move
that makes progress the rank is lower, and the rest of the run is a run. -/
theorem progress_ends (server : Server S K W M N) (s : State S M N α) (moves : ℕ → Move K W)
    (silent : ∀ n, Silent server (stateAt server s moves n) (moves n)) :
    ∃ n, ∀ m, n ≤ m → ¬ Progresses (stateAt server s moves m) (moves m) := by
  obtain ⟨r, same⟩ : ∃ r, r = s.rank := ⟨_, rfl⟩
  induction r using below_wf.transGen.induction generalizing s moves with
  | h r ih =>
    subst same
    by_cases some_progress : ∃ m, Progresses (stateAt server s moves m) (moves m)
    · obtain ⟨m, progresses⟩ := some_progress
      have lower : Relation.TransGen Below (stateAt server s moves (m + 1)).rank s.rank :=
        Relation.TransGen.trans_left
          (.single (progress_below server (stateAt server s moves m) (moves m) progresses))
          (state_at_below server s moves silent m)
      have silent_later : ∀ i, Silent server (stateAt server (stateAt server s moves (m + 1))
          (fun i => moves (m + 1 + i)) i) (moves (m + 1 + i)) := by
        intro i
        rw [← state_at_add]
        exact silent (m + 1 + i)
      obtain ⟨n, ended⟩ := ih _ lower (stateAt server s moves (m + 1))
        (fun i => moves (m + 1 + i)) silent_later rfl
      refine ⟨m + 1 + n, ?_⟩
      intro k late
      obtain ⟨i, rfl⟩ := Nat.exists_eq_add_of_le (Nat.le_trans (Nat.le_add_right (m + 1) n) late)
      rw [state_at_add]
      exact ended i (Nat.le_of_add_le_add_left late)
    · exact ⟨0, fun m _ => fun progresses => some_progress ⟨m, progresses⟩⟩

/-- Where progress is possible, it is made sooner or later. -/
def Fair (server : Server S K W M N) (s : State S M N α) (moves : ℕ → Move K W) : Prop :=
  ∀ n, (∃ m : Move K W, Progresses (stateAt server s moves n) m) →
    ∃ k, n ≤ k ∧ Progresses (stateAt server s moves k) (moves k)

/-- A client that cannot act waits. -/
theorem act_stuck (s : State S M N α) (stuck : ¬ s.CanAct) : s.act = s := by
  obtain ⟨client, toServer, server, toClient⟩ := s
  cases client with
  | done v => rfl
  | ask q next =>
    cases q with
    | send m => exact absurd trivial stuck
    | await wanted =>
      have empty : toClient = [] := not_not.mp stuck
      subst empty
      rfl

/-- A server without a message does nothing. -/
theorem serve_nothing (server : Server S K W M N) (s : State S M N α) (k : K)
    (nothing : s.toServer = []) : s.serve server k = s := by
  simp only [State.serve, nothing]

/-- The client and the server take turns. -/
def turns (k : K) (n : ℕ) : Move K W := if n % 2 = 0 then .act else .serve k

/-- Where one of the two cannot go on, the other one is next. -/
theorem turns_fair (server : Server S K W M N) (s : State S M N α) (k : K) :
    Fair server s (turns k) := by
  rintro n ⟨m, progresses⟩
  by_cases even : n % 2 = 0
  · have here : (turns k n : Move K W) = .act := if_pos even
    by_cases can : (stateAt server s (turns k) n).CanAct
    · exact ⟨n, Nat.le_refl n, by rw [here]; exact can⟩
    · have next : (turns k (n + 1) : Move K W) = .serve k := if_neg (by omega)
      have same : stateAt server s (turns k) (n + 1) = stateAt server s (turns k) n := by
        rw [stateAt, here]
        exact act_stuck _ can
      refine ⟨n + 1, Nat.le_succ n, ?_⟩
      rw [next, same]
      cases m with
      | act => exact absurd progresses can
      | serve k' => exact progresses
      | _ => cases progresses
  · have here : (turns k n : Move K W) = .serve k := if_neg even
    by_cases some_request : (stateAt server s (turns k) n).toServer ≠ []
    · exact ⟨n, Nat.le_refl n, by rw [here]; exact some_request⟩
    · have next : (turns k (n + 1) : Move K W) = .act := if_pos (by omega)
      have same : stateAt server s (turns k) (n + 1) = stateAt server s (turns k) n := by
        rw [stateAt, here]
        exact serve_nothing server _ k (not_not.mp some_request)
      refine ⟨n + 1, Nat.le_succ n, ?_⟩
      rw [next, same]
      cases m with
      | act => exact progresses
      | serve k' => exact absurd progresses some_request
      | _ => cases progresses

/-- A fair run of silent moves that can always go on finishes. -/
theorem fair_run_finishes (server : Server S K W M N) (s : State S M N α) (moves : ℕ → Move K W)
    (silent : ∀ n, Silent server (stateAt server s moves n) (moves n))
    (fair : Fair server s moves) (able : ∀ n, Finished (stateAt server s moves n) ∨
      ∃ m : Move K W, Progresses (stateAt server s moves n) m) :
    ∃ n, Finished (stateAt server s moves n) := by
  obtain ⟨n, ended⟩ := progress_ends server s moves silent
  rcases able n with finished | possible
  · exact ⟨n, finished⟩
  · obtain ⟨k, late, progresses⟩ := fair n possible
    exact absurd progresses (ended k late)

end ObdSimulator.Dialogue
