import ObdSimulator.Lib.Program
import ObdSimulator.UdsService

/-!
# Handlers as programs over their buffers

A handler reads the request and writes the response by index, and copies raw
memory. Here these accesses are the questions of a program, so that a run has them
as its log. A response is written from the front: what is written so far is passed
on, and its length is the source's `pos`. A byte the source reads several times in
one condition is asked for once.
-/

namespace ObdSimulator

open Bytes NorFlash UdsService

/-- An access of a handler: `req[i]`, `resp[i] = b`, and a copy of raw memory. -/
inductive Access where
  | request (i : Nat)
  | response (i : Nat) (b : UInt8)
  | memory (addr size : Nat)
deriving DecidableEq, Repr

/-- What an access gives. -/
abbrev Access.Reply : Access → Type
  | .request _ => UInt8
  | .response _ _ => Unit
  | .memory _ _ => List UInt8

/-- A handler as a program whose questions are its accesses. -/
abbrev Handler := Program Access Access.Reply

/-- The receive buffer and the memory. -/
def buffers (mem : Memory) (req : List UInt8) : ∀ a : Access, a.Reply
  | .request i => byte req i
  | .response _ _ => ()
  | .memory addr size => readBytes mem addr size

/-- An access inside the request, inside the response buffer, or inside flash or SRAM. -/
def Access.Inside (reqLen : Nat) : Access → Prop
  | .request i => i < reqLen
  | .response i _ => i < udsMaxResponseSize
  | .memory addr size => memReadable addr size = true

instance (reqLen : Nat) : ∀ a : Access, Decidable (a.Inside reqLen)
  | .request i => inferInstanceAs (Decidable (i < reqLen))
  | .response i _ => inferInstanceAs (Decidable (i < udsMaxResponseSize))
  | .memory addr size => inferInstanceAs (Decidable (memReadable addr size = true))

/-- The handler comes to `v`, and no access of it is out of bounds. -/
abbrev Safe (mem : Memory) (req : List UInt8) (reqLen : Nat) {α : Type} (p : Handler α) (v : α) :
    Prop :=
  p.Meets (buffers mem req) (Access.Inside reqLen) (fun _ => True) v

/-- A safe handler whose response fits its buffer. -/
abbrev Reports (mem : Memory) (req : List UInt8) (reqLen : Nat) (p : Handler (List UInt8))
    (out : List UInt8) : Prop :=
  p.Meets (buffers mem req) (Access.Inside reqLen) (fun out => out.length ≤ udsMaxResponseSize) out

/-- A handler that keeps a state meets its rule on the request buffer, its reply included. -/
abbrev Replies (mem : Memory) (req : List UInt8) (reqLen : Nat) {σ : Type}
    (p : Handler (σ × List UInt8)) (out : σ × List UInt8) : Prop :=
  p.Meets (buffers mem req) (Access.Inside reqLen) (fun out => out.2.length ≤ udsMaxResponseSize)
    out

/-! ## Reads and writes -/

namespace Handler

/-- `request[i]`. -/
def reqByte (i : Nat) : Handler UInt8 := Program.question (Access.request i)

/-- Two bytes of the request as a word. -/
def reqWord (i : Nat) : Handler UInt16 := do
  let hi ← reqByte i
  let lo ← reqByte (i + 1)
  pure (word hi lo)

/-- A copy of `n` bytes of the request. -/
def reqBytes (i : Nat) : Nat → Handler (List UInt8)
  | 0 => pure []
  | n + 1 => do
    let b ← reqByte i
    let rest ← reqBytes (i + 1) n
    pure (b :: rest)

/-- Bytes copied from an address. -/
def memBytes (addr size : Nat) : Handler (List UInt8) := Program.question (Access.memory addr size)

/-- Consecutive writes to the response. -/
def puts (i : Nat) : List UInt8 → Handler Unit
  | [] => pure ()
  | b :: rest => do
    let _ ← Program.question (Access.response i b)
    puts (i + 1) rest

/-- The response goes on behind what is written of it. -/
def emit (out bytes : List UInt8) : Handler (List UInt8) := do
  let _ ← puts out.length bytes
  pure (out ++ bytes)

/-- A response in one piece. -/
def respond (bytes : List UInt8) : Handler (List UInt8) := emit [] bytes

/-- A response of a handler that keeps a state. -/
def answer {σ : Type} (s : σ) (bytes : List UInt8) : Handler (σ × List UInt8) := do
  let out ← respond bytes
  pure (s, out)

/-- The end of both dispatchers: the second byte of the request is read for a positive
response to a request of two bytes or more only. -/
def suppress {α : Type} (reqLen : Nat) (suppressible : Bool) (response : List UInt8)
    (out quiet : α) : Handler α :=
  if 0 < response.length ∧ byte response 0 ≠ 0x7F ∧ 2 ≤ reqLen then do
    let sub ← reqByte 1
    pure (if sub &&& 0x80 ≠ 0 ∧ suppressible = true then quiet else out)
  else pure out

end Handler

namespace Safe

open Handler

variable {mem : Memory} {req : List UInt8} {reqLen : Nat}

/-- A byte below the length may be read. -/
theorem reqByte {i : Nat} (inside : i < reqLen) :
    Safe mem req reqLen (Handler.reqByte i) (byte req i) :=
  Program.Meets.question (q := Access.request i) inside

/-- A word may be read if its second byte is below the length. -/
theorem reqWord {i : Nat} (inside : i + 1 < reqLen) :
    Safe mem req reqLen (Handler.reqWord i) (word (byte req i) (byte req (i + 1))) := by
  apply (reqByte (Nat.lt_of_succ_lt inside)).bind
  apply (reqByte inside).bind
  exact .done _

/-- A range that ends inside the request may be read, if the buffer holds the request. -/
theorem reqBytes {i n : Nat} (inside : i + n ≤ reqLen) (room : reqLen ≤ req.length) :
    Safe mem req reqLen (Handler.reqBytes i n) ((req.drop i).take n) := by
  induction n generalizing i with
  | zero => exact .done _
  | succ n ih =>
    have here : i < req.length := by omega
    have split : (req.drop i).take (n + 1) = byte req i :: (req.drop (i + 1)).take n := by
      rw [List.drop_eq_getElem_cons here, List.take_succ_cons, byte, ← List.getElem_eq_getD 0]
    rw [split]
    apply (reqByte (by omega)).bind
    apply (ih (by omega)).bind
    exact .done _

/-- Readable memory may be read. -/
theorem memBytes {addr size : Nat} (readable : memReadable addr size = true) :
    Safe mem req reqLen (Handler.memBytes addr size) (readBytes mem addr size) :=
  Program.Meets.question (q := Access.memory addr size) readable

/-- Bytes may be written up to the end of the response buffer. -/
theorem puts {i : Nat} {bytes : List UInt8} (fits : i + bytes.length ≤ udsMaxResponseSize) :
    Safe mem req reqLen (Handler.puts i bytes) () := by
  induction bytes generalizing i with
  | nil => exact .done _
  | cons b rest ih =>
    rw [List.length_cons] at fits
    have here : i < udsMaxResponseSize := by omega
    apply (Program.Meets.question (q := Access.response i b) here).bind
    exact ih (by omega)

/-- Bytes may be written behind those that are there, as long as they fit. -/
theorem emit {out bytes : List UInt8} (fits : out.length + bytes.length ≤ udsMaxResponseSize) :
    Reports mem req reqLen (Handler.emit out bytes) (out ++ bytes) := by
  apply (puts fits).bind
  apply Program.Meets.give
  rw [List.length_append]
  exact fits

/-- A whole response may be written if it fits the buffer. -/
theorem respond {bytes : List UInt8} (fits : bytes.length ≤ udsMaxResponseSize) :
    Reports mem req reqLen (Handler.respond bytes) bytes := by
  have whole : Reports mem req reqLen (Handler.emit [] bytes) ([] ++ bytes) :=
    emit (by simpa using fits)
  exact whole

/-- A handler may answer with any response that fits the buffer, whatever state it leaves. -/
theorem answer {σ : Type} {s : σ} {bytes : List UInt8} (fits : bytes.length ≤ udsMaxResponseSize) :
    Replies mem req reqLen (Handler.answer s bytes) (s, bytes) := by
  apply (respond fits).bind
  exact .give fits

/-- Nothing is sent. -/
theorem silent {σ : Type} (s : σ) : Replies mem req reqLen (pure (s, [])) (s, []) :=
  .give (Nat.zero_le _)

/-- Suppression, with all its conditions in one. -/
theorem suppress {α : Type} {good : α → Prop} {out quiet : α} (suppressible : Bool)
    (response : List UInt8) (sends : good out) (sends_none : good quiet) :
    (Handler.suppress reqLen suppressible response out quiet).Meets (buffers mem req)
      (Access.Inside reqLen) good
      (if decide (0 < response.length) && byte response 0 != 0x7F && decide (2 ≤ reqLen) &&
        (byte req 1 &&& 0x80 != 0) && suppressible then quiet else out) := by
  unfold Handler.suppress
  by_cases positive : 0 < response.length ∧ byte response 0 ≠ 0x7F ∧ 2 ≤ reqLen
  · have asked : (decide (0 < response.length) && byte response 0 != 0x7F && decide (2 ≤ reqLen) &&
        (byte req 1 &&& 0x80 != 0) && suppressible) = true ↔
        byte req 1 &&& 0x80 ≠ 0 ∧ suppressible = true := by
      simp [positive]
    rw [if_pos positive, if_congr asked rfl rfl]
    apply (reqByte (by omega)).bind
    apply Program.Meets.give
    split
    · exact sends_none
    · exact sends
  · have kept : (decide (0 < response.length) && byte response 0 != 0x7F && decide (2 ≤ reqLen) &&
        (byte req 1 &&& 0x80 != 0) && suppressible) = false := by
      rw [← Bool.not_eq_true]
      simp only [Bool.and_eq_true, decide_eq_true_eq, bne_iff_ne, not_and]
      intro some_bytes
      exact absurd ⟨some_bytes.1.1.1, some_bytes.1.1.2, some_bytes.1.2⟩ positive
    rw [if_neg positive, kept]
    exact .give sends

end Safe

end ObdSimulator
