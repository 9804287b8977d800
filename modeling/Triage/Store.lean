import Triage.Store.Row
import Triage.Table

/-!
This module contains the store of runs and records. A run can be saved again until it has ended, and keeps the
owner and the start that were saved first; a record can be saved again at any time. A record is refused if its
confidence is not a number.
-/

namespace Triage

/--
All runs and records, by their ids.
-/
structure Store where
  runs : Table Store.RunRow
  records : Table Store.RecordRow

namespace Store

def empty : Store := ⟨.empty, .empty⟩

/--
Save a run. If it has ended before, the store stays as it is and the answer is `false`.
-/
def saveRun (s : Store) (r : Run) : Bool × Store :=
  let row := RunRow.ofRun r
  match s.runs.get? r.id with
  | none => (true, { s with runs := s.runs.put r.id row })
  | some old =>
    if old.isOpen then (true, { s with runs := s.runs.put r.id (old.advance row) })
    else (false, s)

/--
Whether a record can be stored. A confidence that is not a number is taken for a missing one, which no row may have.
-/
def takes (r : Record) : Bool :=
  !r.confidence.isNaN

/--
Save a record. If it cannot be stored, the store stays as it is.
-/
def saveRecord (s : Store) (r : Record) : Store :=
  if takes r then
    let row := RecordRow.ofRecord r
    let row :=
      match s.records.get? r.id with
      | none => row
      | some old => old.replace row
    { s with records := s.records.put r.id row }
  else
    s

def run? (s : Store) (now : Timestamp) (id : String) : Except Error (Option Run) :=
  (s.runs.get? id).mapM (RunRow.toRun now id)

/--
The rows of the runs of a ticket, the latest first and at most `limit` of them.
-/
def latest (s : Store) (tenant ticket : String) (limit : UInt32) : List (String × RunRow) :=
  let mine := s.runs.rows.filter fun (_, row) => row.tenant == tenant && row.ticket == ticket
  (mine.mergeSort fun (_, a) (_, b) => decide (b.createdAt ≤ a.createdAt)).take limit.toNat

/--
The runs of a ticket, the latest first and at most `limit` of them.
-/
def runs? (s : Store) (now : Timestamp) (tenant ticket : String) (limit : UInt32) :
    Except Error (List Run) :=
  (s.latest tenant ticket limit).mapM fun (id, row) => row.toRun now id

/--
The record of an id, if it belongs to the tenant.
-/
def record? (s : Store) (now : Timestamp) (id tenant : String) : Option Record :=
  match s.records.get? id with
  | some row => if row.tenant = tenant then some (row.toRecord now id) else none
  | none => none

theorem saveRecord_of_refused (s : Store) {r : Record} (h : takes r = false) : s.saveRecord r = s := by
  unfold saveRecord
  rw [h]
  rfl

theorem get?_saveRecord (s : Store) {r : Record} (h : takes r = true) (id : String) :
    (s.saveRecord r).records.get? id =
      if id = r.id then
        some (match s.records.get? r.id with
          | none => .ofRecord r
          | some old => old.replace (.ofRecord r))
      else
        s.records.get? id := by
  unfold saveRecord
  rw [if_pos h]
  dsimp only
  rw [Table.get?_put]

theorem get?_saveRecord_of_ne (s : Store) {r : Record} {id : String} (hid : id ≠ r.id) :
    (s.saveRecord r).records.get? id = s.records.get? id := by
  cases h : takes r with
  | true => rw [get?_saveRecord s h, if_neg hid]
  | false => rw [saveRecord_of_refused s h]

@[simp]
theorem records_saveRun (s : Store) (r : Run) : (s.saveRun r).2.records = s.records := by
  unfold saveRun
  cases s.runs.get? r.id with
  | none => rfl
  | some old => cases h : old.isOpen <;> simp [h]

@[simp]
theorem runs_saveRecord (s : Store) (r : Record) : (s.saveRecord r).runs = s.runs := by
  unfold saveRecord
  split <;> rfl

end Store
end Triage
