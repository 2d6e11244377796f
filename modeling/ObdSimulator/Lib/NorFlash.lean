import ObdSimulator.Lib.Bytes

/-!
# NOR flash as a sequence of atomic primitives

Memory is changed by two primitives only: a page erase, which fills one page
with ones, and a word program, which writes one word. A device performs them one
at a time, may refuse a program by a rule of its own, and may fault on any
primitive; a primitive that is not done has no effect. The device logs every
primitive it was given.

Replaying a prefix of the log over the initial memory gives the memory an
interruption after that many primitives leaves behind.
-/

namespace ObdSimulator.NorFlash

/-- The whole address space, of which the array is a part. -/
abbrev Memory := Nat → UInt8

/-- Where the array starts, and the sizes of a page and of a program word. -/
structure Geometry where
  base : Nat
  pageSize : Nat
  wordSize : Nat

/-- First address of a page. -/
def Geometry.pageStart (g : Geometry) (page : Nat) : Nat := g.base + page * g.pageSize

/-- A page erase or a word program. -/
inductive Op where
  | erase (page : Nat)
  | program (addr : Nat) (word : List UInt8)
deriving DecidableEq

/-- The addresses a primitive may change. -/
def Op.Touches (g : Geometry) : Op → Nat → Prop
  | .erase page, a => g.pageStart page ≤ a ∧ a < g.pageStart page + g.pageSize
  | .program addr word, a => addr ≤ a ∧ a < addr + word.length

/-- The address a primitive is given. -/
def Op.first (g : Geometry) : Op → Nat
  | .erase page => g.pageStart page
  | .program addr _ => addr

/-- The effect of an erase. -/
def erasePage (g : Geometry) (mem : Memory) (page : Nat) : Memory := fun a =>
  if g.pageStart page ≤ a ∧ a < g.pageStart page + g.pageSize then 0xFF else mem a

/-- The effect of a program, over whatever was there. -/
def programWord (mem : Memory) (addr : Nat) (word : List UInt8) : Memory := fun a =>
  if addr ≤ a ∧ a < addr + word.length then word.getD (a - addr) 0xFF else mem a

/-- A primitive the device was given, and whether it was done. -/
structure Event where
  op : Op
  done : Bool
deriving DecidableEq

/-- The effect of a primitive that is done. -/
def effect (g : Geometry) (mem : Memory) : Op → Memory
  | .erase page => erasePage g mem page
  | .program addr word => programWord mem addr word

/-- A primitive that is not done has none. -/
def Event.apply (g : Geometry) (mem : Memory) (e : Event) : Memory :=
  if e.done then effect g mem e.op else mem

/-- Memory after a list of logged primitives. -/
def replay (g : Geometry) (mem : Memory) (events : List Event) : Memory :=
  events.foldl (Event.apply g) mem

/-- The memory, the device's rule for a program, the coming faults and the log. -/
structure Device where
  mem : Memory
  /-- The device's own rule for a word program at an address. -/
  accepts : Memory → Nat → Bool
  /-- Whether each coming primitive faults; no entry means it does not. -/
  faults : List Bool
  log : List Event

/-- Give the device one primitive. -/
def Device.perform (g : Geometry) (d : Device) (op : Op) (allowed : Bool) : Device × Bool :=
  let done := allowed && !d.faults.headD false
  ({ d with mem := Event.apply g d.mem ⟨op, done⟩, faults := d.faults.tail,
            log := d.log ++ [⟨op, done⟩] }, done)

/-- An erase is allowed everywhere. -/
def Device.erase (g : Geometry) (d : Device) (page : Nat) : Device × Bool :=
  d.perform g (.erase page) true

/-- A program is allowed where the device accepts it. -/
def Device.program (g : Geometry) (d : Device) (addr : Nat) (word : List UInt8) :
    Device × Bool :=
  d.perform g (.program addr word) (d.accepts d.mem addr)

/-- The usual rule for a program: the address is word aligned and the whole word
is still erased. -/
def writable (g : Geometry) (mem : Memory) (addr : Nat) : Bool :=
  addr % g.wordSize == 0 && (List.range g.wordSize).all (fun i => mem (addr + i) == 0xFF)

/-- The device refuses every program off the word grid. -/
def Device.Aligning (g : Geometry) (d : Device) : Prop :=
  ∀ mem addr, d.accepts mem addr = true → addr % g.wordSize = 0

/-- No fault is pending and programs follow the usual rule. -/
structure Device.Nominal (g : Geometry) (d : Device) : Prop where
  faults : d.faults = []
  accepts : d.accepts = writable g

/-- A device with the usual rule and given coming faults. -/
def Device.standard (g : Geometry) (mem : Memory) (faults : List Bool) : Device :=
  ⟨mem, writable g, faults, []⟩

/-- Every address of a range is erased. -/
def Erased (mem : Memory) (lo hi : Nat) : Prop := ∀ a, lo ≤ a → a < hi → mem a = 0xFF

/-- Bytes read from consecutive addresses. -/
def readBytes (mem : Memory) (addr n : Nat) : List UInt8 :=
  (List.range n).map (fun i => mem (addr + i))

/-! ## Effects and replay -/

/-- Without primitives the memory stays. -/
theorem replay_nil (g : Geometry) (mem : Memory) : replay g mem [] = mem := rfl

/-- Replaying goes on where it stopped. -/
theorem replay_append (g : Geometry) (mem : Memory) (before after : List Event) :
    replay g mem (before ++ after) = replay g (replay g mem before) after := by
  simp [replay]

/-- The first primitive comes first. -/
theorem replay_cons (g : Geometry) (mem : Memory) (e : Event) (rest : List Event) :
    replay g mem (e :: rest) = replay g (Event.apply g mem e) rest := rfl

/-- A primitive leaves every address outside its range alone. -/
theorem apply_untouched (g : Geometry) (mem : Memory) (e : Event) (a : Nat)
    (outside : ¬ e.op.Touches g a) : Event.apply g mem e a = mem a := by
  obtain ⟨op, done⟩ := e
  cases done with
  | false => rfl
  | true =>
    cases op with
    | erase page => simp only [Event.apply, effect, erasePage, if_true]; exact if_neg outside
    | program addr word =>
      simp only [Event.apply, effect, programWord, if_true]; exact if_neg outside

/-- An address that no primitive touches keeps its byte. -/
theorem replay_untouched (g : Geometry) (mem : Memory) (events : List Event) (a : Nat)
    (outside : ∀ e ∈ events, ¬ e.op.Touches g a) : replay g mem events a = mem a := by
  induction events generalizing mem with
  | nil => rfl
  | cons e rest ih =>
    rw [replay_cons, ih _ (fun f member => outside f (List.mem_cons_of_mem _ member)),
      apply_untouched g mem e a (outside e List.mem_cons_self)]

/-! ## Devices -/

/-- `d'` is `d` after the given primitives. -/
structure Device.Ran (g : Geometry) (d : Device) (events : List Event) (d' : Device) : Prop where
  mem : d'.mem = replay g d.mem events
  log : d'.log = d.log ++ events
  accepts : d'.accepts = d.accepts
  faults : d'.faults = d.faults.drop events.length

/-- A device that was given nothing. -/
theorem Device.Ran.refl (g : Geometry) (d : Device) : d.Ran g [] d :=
  ⟨rfl, by simp, rfl, by simp⟩

/-- Two lots of primitives, one after the other. -/
theorem Device.Ran.trans {g : Geometry} {d d' d'' : Device} {before after : List Event}
    (first : d.Ran g before d') (second : d'.Ran g after d'') :
    d.Ran g (before ++ after) d'' where
  mem := by rw [second.mem, first.mem, replay_append]
  log := by rw [second.log, first.log, List.append_assoc]
  accepts := second.accepts.trans first.accepts
  faults := by
    rw [second.faults, first.faults, List.drop_drop, List.length_append]

/-- What giving the device a primitive does: exactly that primitive is logged. -/
theorem Device.perform_ran (g : Geometry) (d : Device) (op : Op) (allowed : Bool) :
    d.Ran g [⟨op, (d.perform g op allowed).2⟩] (d.perform g op allowed).1 where
  mem := rfl
  log := rfl
  accepts := rfl
  faults := by simp [perform]

/-- The devices differ in their logs only. -/
structure Device.Alike (d d' : Device) : Prop where
  mem : d'.mem = d.mem
  accepts : d'.accepts = d.accepts
  faults : d'.faults = d.faults

/-- A device is like itself. -/
theorem Device.Alike.refl (d : Device) : d.Alike d := ⟨rfl, rfl, rfl⟩

/-- No primitive depends on the log. -/
theorem Device.Alike.perform {d d' : Device} (alike : d.Alike d') (g : Geometry) (op : Op)
    (allowed : Bool) :
    (d.perform g op allowed).1.Alike (d'.perform g op allowed).1 ∧
      (d'.perform g op allowed).2 = (d.perform g op allowed).2 := by
  obtain ⟨mem, accepts, faults⟩ := alike
  have result : (d'.perform g op allowed).2 = (d.perform g op allowed).2 := by
    simp only [Device.perform, faults]
  refine ⟨⟨?_, accepts, ?_⟩, result⟩
  · simp only [Device.perform, mem, faults]
  · simp only [Device.perform, faults]

/-- The rule as a statement about addresses. -/
theorem writable_iff (g : Geometry) (mem : Memory) (addr : Nat) :
    writable g mem addr = true ↔
      addr % g.wordSize = 0 ∧ Erased mem addr (addr + g.wordSize) := by
  have range : (∀ i < g.wordSize, mem (addr + i) = 0xFF) ↔
      Erased mem addr (addr + g.wordSize) := by
    constructor
    · intro each a low high
      have same : addr + (a - addr) = a := by omega
      rw [← same]
      exact each (a - addr) (by omega)
    · intro erased i inside
      exact erased (addr + i) (by omega) (by omega)
  simp [writable, range]

/-- The usual rule refuses what is off the grid. -/
theorem Device.aligning_of_standard {g : Geometry} {d : Device}
    (standard : d.accepts = writable g) : d.Aligning g := by
  intro mem addr accepted
  rw [standard] at accepted
  exact ((writable_iff g mem addr).mp accepted).1

/-- A device keeps its rule. -/
theorem Device.Aligning.ran {g : Geometry} {d d' : Device} {events : List Event}
    (aligning : d.Aligning g) (ran : d.Ran g events d') : d'.Aligning g := by
  rw [Device.Aligning, ran.accepts]
  exact aligning

/-! ## Reading back -/

/-- As many bytes are read as asked for. -/
@[simp] theorem read_bytes_length (mem : Memory) (addr n : Nat) :
    (readBytes mem addr n).length = n := by simp [readBytes]

/-- A range reads as its two parts, one behind the other. -/
theorem read_bytes_add (mem : Memory) (addr m n : Nat) :
    readBytes mem addr (m + n) = readBytes mem addr m ++ readBytes mem (addr + m) n := by
  simp [readBytes, List.range_add, Nat.add_assoc]

/-- A read depends on its range only. -/
theorem read_bytes_congr {mem mem' : Memory} {addr n : Nat}
    (same : ∀ a, addr ≤ a → a < addr + n → mem a = mem' a) :
    readBytes mem addr n = readBytes mem' addr n := by
  apply List.map_congr_left
  intro i member
  have inside := List.mem_range.mp member
  exact same _ (by omega) (by omega)

/-- Any part of a programmed word reads back. -/
theorem read_bytes_program (mem : Memory) (addr : Nat) (word : List UInt8) (off n : Nat)
    (inside : off + n ≤ word.length) :
    readBytes (programWord mem addr word) (addr + off) n = (word.drop off).take n := by
  apply List.ext_getElem
  · simp only [read_bytes_length, List.length_take, List.length_drop]
    omega
  · intro i left right
    have bound : i < n := by simpa using left
    have hit : addr ≤ addr + off + i ∧ addr + off + i < addr + word.length := by omega
    have index : addr + off + i - addr = off + i := by omega
    have stored : off + i < word.length := by omega
    simp [readBytes, programWord, hit, index, List.getD_eq_getElem?_getD,
      List.getElem?_eq_getElem stored]

/-- A program beside the range is not seen in it. -/
theorem read_bytes_program_elsewhere (mem : Memory) (addr : Nat) (word : List UInt8)
    (start n : Nat) (outside : start + n ≤ addr ∨ addr + word.length ≤ start) :
    readBytes (programWord mem addr word) start n = readBytes mem start n := by
  apply read_bytes_congr
  intro a low high
  have missed : ¬ (addr ≤ a ∧ a < addr + word.length) := by omega
  exact if_neg missed

/-- An erased range reads as ones. -/
theorem read_bytes_erased (mem : Memory) (start n : Nat) (erased : Erased mem start (start + n)) :
    readBytes mem start n = List.replicate n 0xFF := by
  apply List.ext_getElem (by simp)
  intro i left right
  have bound : i < n := by simpa using left
  simpa [readBytes] using erased (start + i) (by omega) (by omega)

/-- Adjacent words are programmed like one longer word. -/
theorem program_word_append (mem : Memory) (addr : Nat) (first second : List UInt8) :
    programWord (programWord mem addr first) (addr + first.length) second =
      programWord mem addr (first ++ second) := by
  funext a
  simp only [programWord, List.length_append, List.getD_eq_getElem?_getD]
  by_cases low : a < addr + first.length
  · have before : ¬ (addr + first.length ≤ a ∧ a < addr + first.length + second.length) := by omega
    rw [if_neg before]
    by_cases inside : addr ≤ a
    · have hit : addr ≤ a ∧ a < addr + first.length := ⟨inside, low⟩
      have hit' : addr ≤ a ∧ a < addr + (first.length + second.length) := by omega
      rw [if_pos hit, if_pos hit', List.getElem?_append_left (by omega)]
    · rw [if_neg (by omega), if_neg (by omega)]
  · have missed : ¬ (addr ≤ a ∧ a < addr + first.length) := by omega
    rw [if_neg missed]
    by_cases inside : a < addr + first.length + second.length
    · have index : a - addr - first.length = a - (addr + first.length) := by omega
      rw [if_pos (by omega), if_pos (by omega), List.getElem?_append_right (by omega), index]
    · rw [if_neg (by omega), if_neg (by omega)]

/-- A program changes the addresses of its word only. -/
theorem program_elsewhere (mem : Memory) (addr : Nat) (word : List UInt8) (a : Nat)
    (outside : a < addr ∨ addr + word.length ≤ a) : programWord mem addr word a = mem a := by
  have missed : ¬ (addr ≤ a ∧ a < addr + word.length) := by omega
  exact if_neg missed

/-- An erase changes the addresses of its page only. -/
theorem erase_elsewhere (g : Geometry) (mem : Memory) (page a : Nat)
    (outside : a < g.pageStart page ∨ g.pageStart page + g.pageSize ≤ a) :
    erasePage g mem page a = mem a := by
  have missed : ¬ (g.pageStart page ≤ a ∧ a < g.pageStart page + g.pageSize) := by omega
  exact if_neg missed

/-- Behind an erase its page is erased. -/
theorem erase_erased (g : Geometry) (mem : Memory) (page : Nat) :
    Erased (erasePage g mem page) (g.pageStart page) (g.pageStart page + g.pageSize) := by
  intro a low high
  exact if_pos ⟨low, high⟩

/-! ## Sequences that stop at the first failure -/

/-- Primitives given to a device that would accept them all: the sequence ends
with the first one that faults. -/
def attempted : List Op → List Bool → List Event
  | [], _ => []
  | op :: rest, faults =>
    if faults.headD false then [⟨op, false⟩] else ⟨op, true⟩ :: attempted rest faults.tail

/-- How many of `n` primitives are done before the first fault. -/
def completed : Nat → List Bool → Nat
  | 0, _ => 0
  | n + 1, faults => if faults.headD false then 0 else completed n faults.tail + 1

/-- The events of primitives that were all done. -/
def doneEvents (ops : List Op) : List Event := ops.map (fun op => ⟨op, true⟩)

/-- The primitives of events that are all done. -/
@[simp] theorem done_events_ops (ops : List Op) : (doneEvents ops).map Event.op = ops := by
  simp [doneEvents, Function.comp_def]

/-- `d'` is `d` after a sequence of primitives it would accept, and `ok` says
whether all of them were done. -/
structure Device.Attempts (g : Geometry) (d : Device) (ops : List Op) (d' : Device)
    (ok : Bool) : Prop where
  ran : d.Ran g (attempted ops d.faults) d'
  ok : ok = decide (completed ops.length d.faults = ops.length)

/-- No more primitives are done than were given. -/
theorem completed_le (n : Nat) (faults : List Bool) : completed n faults ≤ n := by
  induction n generalizing faults with
  | zero => exact Nat.le_refl 0
  | succ n ih =>
    have bound := ih faults.tail
    rw [completed]
    split <;> omega

/-- Where no fault is coming, all primitives are done. -/
theorem completed_nil (n : Nat) : completed n [] = n := by
  induction n with
  | zero => rfl
  | succ n ih => simp [completed, ih]

/-- A front part of a sequence is done up to its own length. -/
theorem completed_front (m n : Nat) (faults : List Bool) (front : m ≤ n) :
    min m (completed n faults) = completed m faults := by
  induction m generalizing n faults with
  | zero => simp [completed]
  | succ m ih =>
    obtain ⟨more, rfl⟩ : ∃ more, n = more + 1 := ⟨n - 1, by omega⟩
    rw [completed, completed]
    split
    · simp
    · rw [Nat.add_min_add_right, ih more faults.tail (by omega)]

/-- No more primitives are attempted than were given. -/
theorem attempted_length_le (ops : List Op) (faults : List Bool) :
    (attempted ops faults).length ≤ ops.length := by
  induction ops generalizing faults with
  | nil => exact Nat.le_refl 0
  | cons op rest ih =>
    rw [attempted]
    split
    · simp
    · exact Nat.succ_le_succ (ih faults.tail)

/-- Where no fault is coming, all primitives are attempted and done. -/
theorem attempted_nil (ops : List Op) : attempted ops [] = doneEvents ops := by
  induction ops with
  | nil => rfl
  | cons op rest ih => simp [attempted, ih, doneEvents]

/-- Every attempted primitive is one of the sequence. -/
theorem attempted_op (ops : List Op) (faults : List Bool) (e : Event)
    (member : e ∈ attempted ops faults) : e.op ∈ ops := by
  induction ops generalizing faults with
  | nil => simp [attempted] at member
  | cons op rest ih =>
    rw [attempted] at member
    split at member
    · rw [List.mem_singleton.mp member]
      exact List.mem_cons_self
    · rcases List.mem_cons.mp member with first | later
      · rw [first]
        exact List.mem_cons_self
      · exact List.mem_cons_of_mem _ (ih _ later)

/-- The attempted primitives are a front part of the sequence, all of it when no
fault stops them. -/
theorem attempted_front (ops : List Op) (faults : List Bool) :
    (attempted ops faults).map Event.op <+: ops ∧
      (completed ops.length faults = ops.length → attempted ops faults = doneEvents ops) := by
  induction ops generalizing faults with
  | nil => exact ⟨List.prefix_refl _, fun _ => rfl⟩
  | cons op rest ih =>
    obtain ⟨front, whole⟩ := ih faults.tail
    rw [attempted, List.length_cons, completed]
    by_cases fault : faults.headD false = true
    · rw [if_pos fault, if_pos fault]
      constructor
      · exact ⟨rest, rfl⟩
      · intro count
        omega
    · rw [if_neg fault, if_neg fault]
      constructor
      · exact List.cons_prefix_cons.mpr ⟨rfl, front⟩
      · intro count
        rw [whole (Nat.succ_injective count)]
        rfl

/-- The memory after the first `k` attempted primitives is the memory after
those of them that were done. -/
theorem replay_attempted (g : Geometry) (mem : Memory) (ops : List Op) (faults : List Bool)
    (k : Nat) : replay g mem ((attempted ops faults).take k) =
      replay g mem (doneEvents (ops.take (min k (completed ops.length faults)))) := by
  induction ops generalizing mem faults k with
  | nil => simp [attempted, doneEvents]
  | cons op rest ih =>
    cases k with
    | zero => simp [doneEvents]
    | succ k =>
      rw [attempted, List.length_cons, completed]
      by_cases fault : faults.headD false = true
      · rw [if_pos fault, if_pos fault, Nat.min_zero]
        simp [replay, Event.apply, doneEvents]
      · have count : min (k + 1) (completed rest.length faults.tail + 1) =
            min k (completed rest.length faults.tail) + 1 := by omega
        rw [if_neg fault, if_neg fault, List.take_succ_cons, replay_cons, ih, count,
          List.take_succ_cons, doneEvents, doneEvents, List.map_cons, replay_cons]

/-- Without a cut the whole sequence counts. -/
theorem Device.Attempts.mem {g : Geometry} {d d' : Device} {ops : List Op} {ok : Bool}
    (attempts : d.Attempts g ops d' ok) :
    d'.mem = replay g d.mem (doneEvents (ops.take (completed ops.length d.faults))) := by
  have all := replay_attempted g d.mem ops d.faults (max (attempted ops d.faults).length ops.length)
  have bound := completed_le ops.length d.faults
  rw [List.take_of_length_le (Nat.le_max_left _ _), Nat.min_eq_right (by omega)] at all
  rw [attempts.ran.mem, all]

/-- All of a sequence that was done counts. -/
theorem Device.Attempts.all {g : Geometry} {d d' : Device} {ops : List Op}
    (attempts : d.Attempts g ops d' true) : d'.mem = replay g d.mem (doneEvents ops) := by
  have full : completed ops.length d.faults = ops.length := of_decide_eq_true attempts.ok.symm
  rw [attempts.mem, full, List.take_length]

/-- Nothing is attempted, with success. -/
theorem Device.Attempts.refl (g : Geometry) (d : Device) : d.Attempts g [] d true :=
  ⟨Device.Ran.refl g d, rfl⟩

/-- What follows a fault is never attempted. -/
theorem attempted_append_stopped (ops more : List Op) (faults : List Bool)
    (short : completed ops.length faults ≠ ops.length) :
    attempted (ops ++ more) faults = attempted ops faults ∧
      completed (ops ++ more).length faults ≠ (ops ++ more).length := by
  induction ops generalizing faults with
  | nil => simp [completed] at short
  | cons op rest ih =>
    rw [List.length_cons, completed] at short
    rw [List.cons_append, List.length_cons, attempted, attempted, completed]
    by_cases fault : faults.headD false = true
    · rw [if_pos fault, if_pos fault, if_pos fault]
      exact ⟨rfl, by omega⟩
    · rw [if_neg fault] at short
      obtain ⟨front, still⟩ := ih faults.tail (by omega)
      rw [if_neg fault, if_neg fault, if_neg fault, front]
      exact ⟨rfl, by omega⟩

/-- After a whole sequence, what follows it meets the remaining faults. -/
theorem attempted_append_full (ops more : List Op) (faults : List Bool)
    (full : completed ops.length faults = ops.length) :
    attempted (ops ++ more) faults =
        attempted ops faults ++ attempted more (faults.drop ops.length) ∧
      (attempted ops faults).length = ops.length ∧
      completed (ops ++ more).length faults =
        ops.length + completed more.length (faults.drop ops.length) := by
  induction ops generalizing faults with
  | nil => simp [attempted]
  | cons op rest ih =>
    rw [List.length_cons, completed] at full
    by_cases fault : faults.headD false = true
    · rw [if_pos fault] at full
      omega
    · rw [if_neg fault] at full
      obtain ⟨events, length, count⟩ := ih faults.tail (by omega)
      have dropped : faults.drop (op :: rest).length = faults.tail.drop rest.length := by
        cases faults <;> simp
      rw [dropped, List.cons_append, List.length_cons, List.length_cons, attempted, attempted,
        if_neg fault, if_neg fault, events, completed, if_neg fault, count]
      refine ⟨rfl, ?_, ?_⟩
      · rw [List.length_cons, length]
      · omega

/-- A sequence that failed is the outcome of every longer one. -/
theorem Device.Attempts.stopped {g : Geometry} {d d' : Device} {ops : List Op}
    (attempts : d.Attempts g ops d' false) (more : List Op) :
    d.Attempts g (ops ++ more) d' false := by
  have short : completed ops.length d.faults ≠ ops.length := by simpa using attempts.ok
  obtain ⟨front, still⟩ := attempted_append_stopped ops more d.faults short
  exact ⟨by rw [front]; exact attempts.ran, (decide_eq_false still).symm⟩

/-- A sequence that succeeded goes on with what follows it. -/
theorem Device.Attempts.trans {g : Geometry} {d d' d'' : Device} {ops more : List Op} {ok : Bool}
    (first : d.Attempts g ops d' true) (second : d'.Attempts g more d'' ok) :
    d.Attempts g (ops ++ more) d'' ok := by
  have full : completed ops.length d.faults = ops.length := by simpa using first.ok
  obtain ⟨events, length, count⟩ := attempted_append_full ops more d.faults full
  have faults : d'.faults = d.faults.drop ops.length := by rw [first.ran.faults, length]
  constructor
  · rw [events, ← faults]
    exact first.ran.trans second.ran
  · rw [second.ok, count, faults, List.length_append]
    simp

/-- Without faults the whole sequence is done. -/
theorem Device.Attempts.clean {g : Geometry} {d d' : Device} {ops : List Op} {ok : Bool}
    (attempts : d.Attempts g ops d' ok) (clean : d.faults = []) :
    ok = true ∧ d.Ran g (doneEvents ops) d' := by
  have events : attempted ops d.faults = doneEvents ops := by rw [clean, attempted_nil]
  constructor
  · rw [attempts.ok, clean, completed_nil]
    exact decide_eq_true rfl
  · rw [← events]
    exact attempts.ran

/-- A primitive the device would accept is attempted. -/
theorem Device.perform_attempts (g : Geometry) (d : Device) (op : Op) :
    d.Attempts g [op] (d.perform g op true).1 (d.perform g op true).2 := by
  have ran := d.perform_ran g op true
  by_cases fault : d.faults.headD false = true
  · have outcome : (d.perform g op true).2 = false := by
      rw [Device.perform, fault]
      rfl
    rw [outcome] at ran ⊢
    constructor
    · rw [attempted, if_pos fault]
      exact ran
    · rw [List.length_singleton, completed, if_pos fault]
      rfl
  · have outcome : (d.perform g op true).2 = true := by
      rw [Device.perform, eq_false_of_ne_true fault]
      rfl
    rw [outcome] at ran ⊢
    constructor
    · rw [attempted, if_neg fault]
      exact ran
    · rw [List.length_singleton, completed, if_neg fault]
      rfl

/-! ## Front parts of a sequence -/

/-- `d'` is `d` after a front part of a sequence, whatever the device refused;
after all of it, all of it done, where `ok` holds. -/
def Device.Follows (g : Geometry) (d : Device) (ops : List Op) (d' : Device) (ok : Bool) : Prop :=
  ∃ events, d.Ran g events d' ∧ events.map Event.op <+: ops ∧
    (ok = true → events = doneEvents ops)

/-- Attempting a list follows it. -/
theorem Device.Attempts.follows {g : Geometry} {d d' : Device} {ops : List Op} {ok : Bool}
    (attempts : d.Attempts g ops d' ok) : d.Follows g ops d' ok := by
  obtain ⟨front, whole⟩ := attempted_front ops d.faults
  refine ⟨_, attempts.ran, front, ?_⟩
  intro success
  apply whole
  simpa [success] using attempts.ok

/-- A list that failed in its front fails as a whole. -/
theorem Device.Follows.stopped {g : Geometry} {d d' : Device} {ops : List Op} {ok : Bool}
    (follows : d.Follows g ops d' ok) (more : List Op) : d.Follows g (ops ++ more) d' false := by
  obtain ⟨events, ran, front, _⟩ := follows
  exact ⟨events, ran, front.trans (List.prefix_append ops more), by simp⟩

/-- A list that succeeded is followed by the next. -/
theorem Device.Follows.trans {g : Geometry} {d d' d'' : Device} {ops more : List Op} {ok : Bool}
    (first : d.Follows g ops d' true) (second : d'.Follows g more d'' ok) :
    d.Follows g (ops ++ more) d'' ok := by
  obtain ⟨before, ran, _, whole⟩ := first
  obtain ⟨after, further, front, complete⟩ := second
  have all : before.map Event.op = ops := by
    rw [whole rfl, done_events_ops]
  refine ⟨before ++ after, ran.trans further, ?_, ?_⟩
  · rw [List.map_append, all]
    exact (List.prefix_append_right_inj ops).mpr front
  · intro success
    rw [whole rfl, complete success]
    simp [doneEvents]

/-- `d'` is `d` after some primitives, one of which was not done where `ok` says
so. -/
def Device.Reports (d d' : Device) (ok : Bool) : Prop :=
  ∃ events, d'.log = d.log ++ events ∧ (ok = false → ∃ e ∈ events, e.done = false)

/-- Nothing is reported, with success. -/
theorem Device.Reports.refl (d : Device) : d.Reports d true := ⟨[], by simp, by simp⟩

/-- One primitive reports what it did. -/
theorem Device.perform_reports (g : Geometry) (d : Device) (op : Op) (allowed : Bool) :
    d.Reports (d.perform g op allowed).1 (d.perform g op allowed).2 :=
  ⟨_, rfl, fun failed => ⟨_, List.mem_singleton.mpr rfl, failed⟩⟩

/-- What is done behind a success decides the report. -/
theorem Device.Reports.trans {d d' d'' : Device} {ok : Bool} (first : d.Reports d' true)
    (second : d'.Reports d'' ok) : d.Reports d'' ok := by
  obtain ⟨before, log, _⟩ := first
  obtain ⟨after, log', failing⟩ := second
  refine ⟨before ++ after, by rw [log', log, List.append_assoc], ?_⟩
  intro failed
  obtain ⟨e, member, missed⟩ := failing failed
  exact ⟨e, List.mem_append_right before member, missed⟩

end ObdSimulator.NorFlash
