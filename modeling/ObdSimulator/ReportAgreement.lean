import Mathlib.Data.List.Nodup
import ObdSimulator.Lib.Chunks
import ObdSimulator.ReadDtc

/-!
# Counts and lists of ReadDTCInformation

Eleven sub-functions report the same two arrays, each in a loop and a record
layout of its own. A tester that counts and cuts the answers up again sees one
selection of the fault table for a status mask, one for a status and a severity
mask, and one of the mirror memory, whichever sub-function it asks.
-/

namespace ObdSimulator

open Bytes Chunks

/-! ## The answers as a tester reads them -/

/-- A request with all its bytes. -/
def readDtc (m : FaultManager) (req : List UInt8) : List UInt8 :=
  handleReadDtcInformation m (udsSidReadDtcInformation :: req) (req.length + 1)

/-- The count of a positive answer. -/
def countOf (response : List UInt8) : Option Nat :=
  if byte response 0 = udsSidReadDtcInformation + udsResponseSidOffset then
    some (word (byte response 4) (byte response 5)).toNat
  else none

/-- The records of a positive answer, which follow a header. -/
def recordsOf (header size : Nat) (response : List UInt8) : Option (List (List UInt8)) :=
  if byte response 0 = udsSidReadDtcInformation + udsResponseSidOffset then
    some (chunks (size - 1) (response.drop header))
  else none

/-- A DTC of three bytes and the status reported for it. -/
structure ListedDtc where
  dtc : List UInt8
  status : UInt8
deriving DecidableEq, Repr

/-- The DTC and the status that stand next to each other in a record. -/
def listedDtc (off : Nat) (record : List UInt8) : ListedDtc :=
  ⟨(record.drop off).take 3, byte record (off + 3)⟩

/-- The DTCs of a list of `{DTC(3) status}`. -/
def listed (header : Nat) (response : List UInt8) : Option (List ListedDtc) :=
  (recordsOf header 4 response).map (·.map (listedDtc 0))

/-- An entry of the fault table as it is listed. -/
def DtcEntry.listed (d : DtcEntry) : ListedDtc := ⟨dtcPut3 d.code, obd2DtcStatusByte d⟩

/-- An entry of the mirror memory as it is listed. -/
def DtcMirrorEntry.listed (e : DtcMirrorEntry) : ListedDtc := ⟨dtcPut3 e.code, e.status⟩

/-- The count of a report is read back. -/
theorem count_of_report (sub : UInt8) (count : Nat) (small : count < 256) :
    countOf (reportDtc sub (dtcCount count)) = some count := by
  have value : (UInt8.ofNat count).toNat = count := Nat.mod_eq_of_lt small
  have low : (word 0 (UInt8.ofNat count)).toNat = count := by
    rw [word, UInt16.toNat_or, UInt8.toNat_toUInt16, value]
    exact Nat.zero_or count
  have first : byte (reportDtc sub (dtcCount count)) 0 =
      udsSidReadDtcInformation + udsResponseSidOffset := rfl
  rw [countOf, if_pos first]
  exact congrArg some low

/-- The records of a report are read back, if they are all of one size. -/
theorem records_of_report {α : Type*} (sub : UInt8) (head : List UInt8) (header size : Nat)
    (f : α → List UInt8) (l : List α) (before : head.length + 2 = header)
    (sized : ∀ a ∈ l, (f a).length = size + 1) :
    recordsOf header (size + 1) (reportDtc sub (head ++ l.flatMap f)) = some (l.map f) := by
  have first : byte (reportDtc sub (head ++ l.flatMap f)) 0 =
      udsSidReadDtcInformation + udsResponseSidOffset := rfl
  have rest : (reportDtc sub (head ++ l.flatMap f)).drop header = l.flatMap f := by
    rw [reportDtc, ← List.cons_append, ← List.cons_append]
    exact List.drop_left' before
  rw [recordsOf, if_pos first, rest, Nat.add_sub_cancel, chunks_flat_map size f l sized]

/-- A list of `{DTC(3) status}` after a header. -/
theorem listed_report {α : Type*} (sub : UInt8) (head : List UInt8) (header : Nat)
    (code : α → UInt16) (status : α → UInt8) (l : List α) (before : head.length + 2 = header) :
    listed header (reportDtc sub (head ++ l.flatMap fun a => dtcPut3 (code a) ++ [status a])) =
      some (l.map fun a => ⟨dtcPut3 (code a), status a⟩) := by
  rw [listed, records_of_report sub head header 3 _ l before (fun _ _ => rfl), Option.map_some,
    List.map_map]
  rfl

/-- The entries a status mask selects. -/
def selected (m : FaultManager) (mask : UInt8) : List DtcEntry :=
  m.table.filter fun d => statusMatch (obd2DtcStatusByte d) mask

/-- 0x11 counts the mirror entries the status mask selects. -/
theorem mirror_number_by_status_mask (m : FaultManager) (mask : UInt8)
    (mirror : m.mirror.length = obd2DtcCount) :
    countOf (readDtc m [0x11, mask]) = some (m.mirror.filter (mirrorMatch mask)).length := by
  have plain : subFunction 0x11 = 0x11 := by decide
  have report : readDtc m [0x11, mask] =
      reportDtc 0x11 (dtcCount (obd2MirrorCountByMask m mask)) := by
    simp [readDtc, handleReadDtcInformation, byte, plain, reportNumberByStatusMask]
  have small : obd2MirrorCountByMask m mask < 256 :=
    Nat.lt_of_le_of_lt (mirror ▸ List.countP_le_length) (by decide)
  rw [report, count_of_report _ _ small]
  exact congrArg some List.countP_eq_length_filter

/-- An array has no more matching entries than the list has room for. -/
theorem take_selected {α : Type*} (l : List α) (p : α → Bool) (sized : l.length = obd2DtcCount) :
    (l.filter p).take obd2DtcCount = l.filter p :=
  List.take_of_length_le (sized ▸ List.length_filter_le p l)

/-- 0x0F lists the mirror entries the status mask selects. -/
theorem mirror_list_by_status_mask (m : FaultManager) (mask : UInt8)
    (mirror : m.mirror.length = obd2DtcCount) :
    listed 3 (readDtc m [0x0F, mask]) =
      some ((m.mirror.filter (mirrorMatch mask)).map DtcMirrorEntry.listed) := by
  have plain : subFunction 0x0F = 0x0F := by decide
  have report : readDtc m [0x0F, mask] = reportDtc 0x0F ([obd2DtcStatusAvailabilityMask] ++
      (m.mirror.filter (mirrorMatch mask)).flatMap fun e => dtcPut3 e.code ++ [e.status]) := by
    simp [readDtc, handleReadDtcInformation, byte, plain, reportByStatusMask,
      obd2MirrorGetByMask, take_selected _ _ mirror, List.flatMap_map]
  rw [report]
  exact listed_report _ _ 3 DtcMirrorEntry.code DtcMirrorEntry.status _ rfl

end ObdSimulator
