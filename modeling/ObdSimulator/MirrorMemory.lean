import ObdSimulator.FaultHistory
import ObdSimulator.ReportAgreement

/-!
# The mirror memory after any history

Clearing copies what is confirmed to the mirror memory, slot by slot. A slot whose
entry was not confirmed keeps its old bytes under code zero, which is what marks
it empty; there is no other mark. The counts and lists skip such slots. The
lookup compares codes only, so a request for code zero is answered from one.
-/

namespace ObdSimulator

open Bytes

/-! ## The moment of the last clear -/

/-- The fault manager and what it was when it was last cleared. -/
def observeClear : FaultManager × Option FaultManager → DtcOperation →
    FaultManager × Option FaultManager
  | (m, _), .input .clear => (m.operate (.input .clear), some m)
  | (m, before), operation => (m.operate operation, before)

/-- The fault manager at the moment of the last clear of a run from reset. -/
def atLastClear (operations : List DtcOperation) : Option FaultManager :=
  (operations.foldl observeClear ({}, none)).2

/-- The entry is exposed as a stored fault. -/
def DtcEntry.isConfirmed (d : DtcEntry) : Bool := d.state == .confirmed

/-- The entries confirmed at that moment, in table order. -/
def archived (operations : List DtcOperation) : List DtcEntry :=
  match atLastClear operations with
  | none => []
  | some before => before.table.filter (·.isConfirmed)

/-- A mirror slot that holds an entry. -/
def DtcEntry.mirrored (d : DtcEntry) : DtcMirrorEntry :=
  ⟨d.code, obd2DtcStatusByte d, d.occurrence⟩

/-- The observer runs the manager along. -/
theorem observe_clear_operate (m : FaultManager) (before : Option FaultManager)
    (operation : DtcOperation) : (observeClear (m, before) operation).1 = m.operate operation := by
  rcases operation with (_ | _ | _) | _ <;> rfl

/-- A table with the codes of the source has as many entries. -/
theorem sized_of_codes (m : FaultManager)
    (codes : m.table.map (·.code) = dtcTable.map (·.code)) : m.table.length = obd2DtcCount := by
  simpa [dtcTable, obd2DtcCount] using congrArg List.length codes

/-- What the slots hold: nothing before the first clear, then the archive of the
table that was cleared. -/
structure Mirrors (m : FaultManager) (before : Option FaultManager) : Prop where
  codes : m.table.map (·.code) = dtcTable.map (·.code)
  blank : before = none → m.mirror = List.replicate obd2DtcCount {}
  sized : m.mirror.length = obd2DtcCount
  cleared : ∀ b, before = some b → b.table.map (·.code) = dtcTable.map (·.code) ∧
    ∃ old, old.length = obd2DtcCount ∧ m.mirror = List.zipWith archive b.table old

/-- The mirror is empty before the first clear. -/
theorem mirrors_initial : Mirrors {} none where
  codes := rfl
  blank := fun _ => rfl
  sized := rfl
  cleared := by
    intro b before
    cases before

/-- Only a clear writes the mirror memory. -/
theorem operate_mirror (m : FaultManager) (operation : DtcOperation)
    (other : operation ≠ .input .clear) : (m.operate operation).mirror = m.mirror := by
  rcases operation with (st | on | _) | st
  · simp only [FaultManager.operate, FaultManager.accept, obd2DtcUpdate]
    split <;> rfl
  · rfl
  · exact absurd rfl other
  · rfl

/-- Every operation keeps the mirror what the last clear made it. -/
theorem mirrors_step (m : FaultManager) (before : Option FaultManager) (operation : DtcOperation)
    (mirrors : Mirrors m before) :
    Mirrors (observeClear (m, before) operation).1 (observeClear (m, before) operation).2 := by
  by_cases clears : operation = .input .clear
  · subst clears
    have length := sized_of_codes m mirrors.codes
    exact {
      codes := (operate_codes m _).trans mirrors.codes
      blank := fun never => absurd never (Option.some_ne_none m)
      sized := by
        change (List.zipWith archive m.table m.mirror).length = obd2DtcCount
        rw [List.length_zipWith, length, mirrors.sized, Nat.min_self]
      cleared := by
        intro b same
        obtain rfl : m = b := Option.some.inj same
        exact ⟨mirrors.codes, m.mirror, mirrors.sized, rfl⟩ }
  · have step : observeClear (m, before) operation = (m.operate operation, before) := by
      rcases operation with (st | on | _) | st
      · rfl
      · rfl
      · exact absurd rfl clears
      · rfl
    have kept := operate_mirror m operation clears
    rw [step]
    exact {
      codes := (operate_codes m operation).trans mirrors.codes
      blank := fun never => kept.trans (mirrors.blank never)
      sized := kept ▸ mirrors.sized
      cleared := fun b same => by
        rw [kept]
        exact mirrors.cleared b same }

/-- Along the run the ghost stays beside the fault manager itself. -/
theorem mirrors_run (operations : List DtcOperation) :
    Mirrors (operations.foldl FaultManager.operate {}) (atLastClear operations) := by
  have both : (operations.foldl observeClear ({}, none)).1 =
        operations.foldl FaultManager.operate {} ∧
      Mirrors (operations.foldl observeClear ({}, none)).1 (atLastClear operations) := by
    induction operations using List.reverseRecOn with
    | nil => exact ⟨rfl, mirrors_initial⟩
    | append_singleton operations operation ih =>
      obtain ⟨same, mirrors⟩ := ih
      simp only [atLastClear, List.foldl_append, List.foldl_cons, List.foldl_nil] at mirrors ⊢
      refine ⟨?_, mirrors_step _ _ operation mirrors⟩
      rw [observe_clear_operate, same]
  exact both.1 ▸ both.2

/-! ## What the slots say -/

/-- Archiving takes a confirmed entry as it is. -/
theorem archive_confirmed (d : DtcEntry) (e : DtcMirrorEntry) (confirmed : d.isConfirmed = true) :
    archive d e = d.mirrored :=
  if_pos (beq_iff_eq.mp confirmed)

/-- Archiving empties the place of an entry that is not confirmed. -/
theorem archive_other (d : DtcEntry) (e : DtcMirrorEntry) (other : d.isConfirmed = false) :
    archive d e = { e with code := 0 } :=
  if_neg (beq_eq_false_iff_ne.mp other)

/-- A lookup of a real code passes the empty slots. -/
theorem find_archive (table : List DtcEntry) (old : List DtcMirrorEntry) (code : UInt16)
    (sized : table.length = old.length) (real : code ≠ 0) :
    (List.zipWith archive table old).find? (·.code == code) =
      ((table.filter (·.isConfirmed)).find? (·.code == code)).map DtcEntry.mirrored := by
  induction table generalizing old with
  | nil => rfl
  | cons d rest ih =>
    cases old with
    | nil => simp at sized
    | cons e old =>
      have later := ih old (Nat.succ.inj sized)
      cases confirmed : d.isConfirmed with
      | true =>
        rw [List.zipWith_cons_cons, archive_confirmed d e confirmed,
          List.filter_cons_of_pos confirmed]
        by_cases here : d.code = code
        · simp [here, DtcEntry.mirrored]
        · simpa [here, DtcEntry.mirrored] using later
      | false =>
        rw [List.zipWith_cons_cons, archive_other d e confirmed,
          List.filter_cons_of_neg (Bool.eq_false_iff.mp confirmed)]
        simpa [real.symm] using later

/-- A lookup of code zero stops at the first empty slot. -/
theorem find_archive_zero (table : List DtcEntry) (old : List DtcMirrorEntry)
    (sized : table.length = old.length) (real : ∀ d ∈ table, d.code ≠ 0) :
    ((List.zipWith archive table old).find? (·.code == 0)).isSome ↔
      ∃ d ∈ table, d.isConfirmed = false := by
  induction table generalizing old with
  | nil => simp
  | cons d rest ih =>
    cases old with
    | nil => simp at sized
    | cons e old =>
      have later := ih old (Nat.succ.inj sized) fun d member =>
        real d (List.mem_cons_of_mem _ member)
      have code : d.code ≠ 0 := real d List.mem_cons_self
      cases confirmed : d.isConfirmed with
      | true =>
        rw [List.zipWith_cons_cons, archive_confirmed d e confirmed]
        simpa [DtcEntry.mirrored, code, confirmed] using later
      | false =>
        rw [List.zipWith_cons_cons, archive_other d e confirmed]
        simp [confirmed]

/-- The slots a mask selects are the archived entries it selects. -/
theorem filter_archive (table : List DtcEntry) (old : List DtcMirrorEntry) (mask : UInt8)
    (sized : table.length = old.length) (real : ∀ d ∈ table, d.code ≠ 0) :
    (List.zipWith archive table old).filter (mirrorMatch mask) =
      ((table.filter (·.isConfirmed)).filter fun d => statusMatch (obd2DtcStatusByte d) mask).map
        DtcEntry.mirrored := by
  induction table generalizing old with
  | nil => rfl
  | cons d rest ih =>
    cases old with
    | nil => simp at sized
    | cons e old =>
      have later := ih old (Nat.succ.inj sized) fun d member =>
        real d (List.mem_cons_of_mem _ member)
      have code : d.code ≠ 0 := real d List.mem_cons_self
      cases confirmed : d.isConfirmed with
      | true =>
        have same : mirrorMatch mask d.mirrored = statusMatch (obd2DtcStatusByte d) mask := by
          simp [mirrorMatch, DtcEntry.mirrored, code]
        rw [List.zipWith_cons_cons, archive_confirmed d e confirmed,
          List.filter_cons_of_pos confirmed, List.filter_cons, List.filter_cons, same]
        split <;> simp [later]
      | false =>
        have empty : mirrorMatch mask { e with code := 0 } = false := by simp [mirrorMatch]
        rw [List.zipWith_cons_cons, archive_other d e confirmed,
          List.filter_cons_of_neg (Bool.eq_false_iff.mp empty),
          List.filter_cons_of_neg (Bool.eq_false_iff.mp confirmed), later]

/-! ## The mirror memory of a run -/

/-- No code of the table is the mark of an empty place. -/
theorem real_of_codes (m : FaultManager) (codes : m.table.map (·.code) = dtcTable.map (·.code)) :
    ∀ d ∈ m.table, d.code ≠ 0 := by
  intro d member zero
  have listed : (0 : UInt16) ∈ dtcTable.map (·.code) :=
    codes ▸ zero ▸ List.mem_map_of_mem member
  exact absurd listed (by decide)

/-- The archived faults have codes of their own. -/
theorem archived_codes (operations : List DtcOperation) :
    ((archived operations).map (·.code)).Nodup ∧ ∀ d ∈ archived operations, d.code ≠ 0 := by
  unfold archived
  cases before : atLastClear operations with
  | none => exact ⟨List.nodup_nil, fun d member => absurd member List.not_mem_nil⟩
  | some b =>
    obtain ⟨codes, _⟩ := (mirrors_run operations).cleared b before
    have distinct : (b.table.map (·.code)).Nodup := by
      rw [codes]
      decide
    refine ⟨(List.filter_sublist.map _).nodup distinct, ?_⟩
    intro d member
    exact real_of_codes b codes d (List.mem_of_mem_filter member)

/-- A real code is found exactly among the archived entries. -/
theorem mirror_find (operations : List DtcOperation) (code : UInt16) (real : code ≠ 0) :
    obd2MirrorFindByCode (operations.foldl FaultManager.operate {}) code =
      ((archived operations).find? (·.code == code)).map DtcEntry.mirrored := by
  have mirrors := mirrors_run operations
  unfold obd2MirrorFindByCode archived
  cases before : atLastClear operations with
  | none =>
    rw [mirrors.blank before]
    simp [obd2DtcCount, List.replicate, real.symm]
  | some b =>
    obtain ⟨codes, old, sized, mirror⟩ := mirrors.cleared b before
    rw [mirror]
    exact find_archive b.table old code ((sized_of_codes b codes).trans sized.symm) real

/-- Every monitored entry was confirmed when the table was last cleared. -/
def AllConfirmedAtClear (operations : List DtcOperation) : Prop :=
  ∃ before, atLastClear operations = some before ∧ ∀ d ∈ before.table, d.state = .confirmed

/-- Code zero is found as long as a slot is empty. -/
theorem mirror_find_zero (operations : List DtcOperation) :
    (obd2MirrorFindByCode (operations.foldl FaultManager.operate {}) 0).isSome ↔
      ¬AllConfirmedAtClear operations := by
  have mirrors := mirrors_run operations
  unfold obd2MirrorFindByCode AllConfirmedAtClear
  cases before : atLastClear operations with
  | none =>
    rw [mirrors.blank before]
    simp [obd2DtcCount, List.replicate]
  | some b =>
    obtain ⟨codes, old, sized, mirror⟩ := mirrors.cleared b before
    rw [mirror, find_archive_zero b.table old ((sized_of_codes b codes).trans sized.symm)
      (real_of_codes b codes)]
    simp [DtcEntry.isConfirmed]

/-- Selecting from the mirror by a mask is selecting from what was archived. -/
theorem mirror_filter (operations : List DtcOperation) (mask : UInt8) :
    (operations.foldl FaultManager.operate {}).mirror.filter (mirrorMatch mask) =
      ((archived operations).filter fun d => statusMatch (obd2DtcStatusByte d) mask).map
        DtcEntry.mirrored := by
  have mirrors := mirrors_run operations
  unfold archived
  cases before : atLastClear operations with
  | none =>
    rw [mirrors.blank before]
    simp [obd2DtcCount, List.replicate, mirrorMatch]
  | some b =>
    obtain ⟨codes, old, sized, mirror⟩ := mirrors.cleared b before
    rw [mirror]
    exact filter_archive b.table old mask ((sized_of_codes b codes).trans sized.symm)
      (real_of_codes b codes)

/-- The request for the extended data of an archived DTC, of failure type zero. -/
def readMirrorDtc (m : FaultManager) (code : UInt16) (record : UInt8) : List UInt8 :=
  readDtc m (0x10 :: dtcPut3 code ++ [record])

/-- The extended data records there are, and the request for all of them. -/
def ExtDataRecord (record : UInt8) : Prop := record = dtcExtRecordOccurrence ∨ record = 0xFF

/-- The extended data of a mirror slot, under the code it was asked for. -/
def mirrorData (code : UInt16) (e : DtcMirrorEntry) : List UInt8 :=
  reportDtc 0x10 (dtcPut3 code ++ [e.status] ++
    if e.occurrence ≠ 0 then [dtcExtRecordOccurrence, e.occurrence] else [])

/-- The lookup decides the answer. -/
theorem read_mirror_dtc (m : FaultManager) (code : UInt16) (record : UInt8)
    (valid : ExtDataRecord record) :
    readMirrorDtc m code record =
      match obd2MirrorFindByCode m code with
      | none => refuseReadDtc nrcRequestOutOfRange
      | some e => mirrorData code e := by
  have plain : subFunction 0x10 = 0x10 := by decide
  have asked : ¬(record = 0 ∨ (record ≠ dtcExtRecordOccurrence ∧ record ≠ 0xFF)) := by
    rcases valid with rfl | rfl <;> decide
  have same : word (code >>> 8).toUInt8 code.toUInt8 = code := word_word_bytes code
  have served : readMirrorDtc m code record =
      reportExtDataByDtc m 0x10
        (udsSidReadDtcInformation :: 0x10 :: dtcPut3 code ++ [record]) 6 := by
    simp [readMirrorDtc, readDtc, handleReadDtcInformation, dtcPut3, wordBytes, byte, plain]
  rw [served]
  cases found : obd2MirrorFindByCode m code with
  | none => simp [reportExtDataByDtc, dtcPut3, wordBytes, byte, same, found]
  | some e =>
    simp [reportExtDataByDtc, dtcPut3, wordBytes, byte, same, found, asked, mirrorData]

/-- The mirror memory reports the given entries, as far as lookups of one code and
selections by status go. -/
structure MirrorLaw (m : FaultManager) (entries : List DtcEntry) (code : UInt16) : Prop where
  found : (obd2MirrorFindByCode m code).isSome ↔ ∃ d ∈ entries, d.code = code
  answered : ∀ record, ExtDataRecord record →
    (byte (readMirrorDtc m code record) 0 = udsSidReadDtcInformation + udsResponseSidOffset ↔
      ∃ d ∈ entries, d.code = code)
  content : ∀ d ∈ entries, d.code = code →
    obd2MirrorFindByCode m code = some ⟨code, obd2DtcStatusByte d, d.occurrence⟩ ∧
      ∀ record, ExtDataRecord record →
        readMirrorDtc m code record =
          mirrorData code ⟨code, obd2DtcStatusByte d, d.occurrence⟩
  selected : ∀ mask,
    listed 3 (readDtc m [0x0F, mask]) =
        some ((entries.filter fun d => statusMatch (obd2DtcStatusByte d) mask).map
          DtcEntry.listed) ∧
      countOf (readDtc m [0x11, mask]) =
        some (entries.filter fun d => statusMatch (obd2DtcStatusByte d) mask).length

/-- A positive answer is one the lookup has an entry for. -/
theorem mirror_answered_iff (m : FaultManager) (code : UInt16) (record : UInt8)
    (valid : ExtDataRecord record) :
    byte (readMirrorDtc m code record) 0 = udsSidReadDtcInformation + udsResponseSidOffset ↔
      (obd2MirrorFindByCode m code).isSome := by
  rw [read_mirror_dtc m code record valid]
  cases obd2MirrorFindByCode m code with
  | none =>
    have negative : byte (refuseReadDtc nrcRequestOutOfRange) 0 ≠
        udsSidReadDtcInformation + udsResponseSidOffset := by decide
    simp [negative]
  | some e =>
    have positive : byte (mirrorData code e) 0 =
        udsSidReadDtcInformation + udsResponseSidOffset := rfl
    simp [positive]

/-- The three readers of the mirror see what was archived, in its order. -/
theorem mirror_selected (operations : List DtcOperation) (mask : UInt8) :
    let m := operations.foldl FaultManager.operate {}
    let entries := (archived operations).filter fun d => statusMatch (obd2DtcStatusByte d) mask
    listed 3 (readDtc m [0x0F, mask]) = some (entries.map DtcEntry.listed) ∧
      countOf (readDtc m [0x11, mask]) = some entries.length := by
  intro m entries
  have sized : m.mirror.length = obd2DtcCount := (mirrors_run operations).sized
  have filtered : m.mirror.filter (mirrorMatch mask) = entries.map DtcEntry.mirrored :=
    mirror_filter operations mask
  rw [mirror_list_by_status_mask m mask sized, mirror_number_by_status_mask m mask sized,
    filtered, List.map_map, List.length_map]
  exact ⟨rfl, rfl⟩

/-- The lookup of a real code is the lookup among the archived entries, whose codes
differ. -/
theorem mirror_law_real (operations : List DtcOperation) (code : UInt16) (real : code ≠ 0) :
    MirrorLaw (operations.foldl FaultManager.operate {}) (archived operations) code := by
  have find := mirror_find operations code real
  have found : (obd2MirrorFindByCode (operations.foldl FaultManager.operate {}) code).isSome ↔
      ∃ d ∈ archived operations, d.code = code := by
    rw [find, Option.isSome_map, List.find?_isSome]
    simp
  have content : ∀ d ∈ archived operations, d.code = code →
      obd2MirrorFindByCode (operations.foldl FaultManager.operate {}) code =
        some ⟨code, obd2DtcStatusByte d, d.occurrence⟩ := by
    rintro d member rfl
    obtain ⟨e, hit⟩ := Option.isSome_iff_exists.mp
      (List.find?_isSome.mpr ⟨d, member, beq_self_eq_true d.code⟩ :
        ((archived operations).find? (·.code == d.code)).isSome = true)
    have same : e = d := List.inj_on_of_nodup_map (archived_codes operations).1
      (List.mem_of_find?_eq_some hit) member (by simpa using List.find?_some hit)
    rw [find, hit, same]
    rfl
  exact {
    found
    answered := fun record valid => (mirror_answered_iff _ code record valid).trans found
    content := fun d member same => by
      refine ⟨content d member same, ?_⟩
      intro record valid
      rw [read_mirror_dtc _ code record valid, content d member same]
    selected := mirror_selected operations }

/-- Code zero is no monitored code, and an empty slot answers for it. -/
theorem mirror_law_zero (operations : List DtcOperation) :
    MirrorLaw (operations.foldl FaultManager.operate {}) (archived operations) 0 ↔
      AllConfirmedAtClear operations := by
  have find := mirror_find_zero operations
  have absent : ¬∃ d ∈ archived operations, d.code = 0 := by
    rintro ⟨d, member, zero⟩
    exact (archived_codes operations).2 d member zero
  constructor
  · intro law
    by_contra empty
    exact absent (law.found.mp (find.mpr empty))
  · intro full
    have found : ¬(obd2MirrorFindByCode (operations.foldl FaultManager.operate {}) 0).isSome :=
      fun hit => find.mp hit full
    exact {
      found := iff_of_false found absent
      answered := fun record valid =>
        iff_of_false (fun positive => found ((mirror_answered_iff _ 0 record valid).mp positive))
          absent
      content := fun d member zero => absurd ⟨d, member, zero⟩ absent
      selected := mirror_selected operations }

/-- After any run of updates, setting changes, clears and demonstration faults the
mirror memory reports what was confirmed at the last clear, for every code but
zero. Code zero is reported as archived unless no slot is empty. -/
theorem mirror_is_last_archive_iff (operations : List DtcOperation) (code : UInt16) :
    MirrorLaw (operations.foldl FaultManager.operate {}) (archived operations) code ↔
      code ≠ 0 ∨ AllConfirmedAtClear operations := by
  by_cases real : code = 0
  · subst real
    simpa using mirror_law_zero operations
  · exact iff_of_true (mirror_law_real operations code real) (Or.inl real)

/-- Out of reset, before any clear, code zero is found. -/
theorem mirror_zero_found : ¬MirrorLaw ([].foldl FaultManager.operate {}) (archived []) 0 := by
  intro law
  obtain ⟨d, member, _⟩ := law.found.mp (by decide)
  exact absurd member List.not_mem_nil

end ObdSimulator
