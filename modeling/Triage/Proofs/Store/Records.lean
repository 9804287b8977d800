import Mathlib.Data.List.Induction
import Triage.Proofs.Store.History
import Triage.Store.Backend

/-!
This module contains the history of the records in a store: what saving records in any order and any number of times
leaves behind. A record that cannot be stored leaves nothing. Of each other one there is one row. Whose record it is and when
it was made is taken from the first save that is not refused, and all of its payload from the last one.
-/

namespace Triage
namespace Store

def saveRecords (s : Store) (rs : List Record) : Store :=
  rs.foldl saveRecord s

/--
The saves of a record that are not refused.
-/
def taken (saves : List Record) (id : String) : List Record :=
  saves.filter fun r => takes r && r.id == id

namespace RecordRow

/--
The row of a record after all its saves.
-/
def ofSaves? (saves : List Record) : Option RecordRow :=
  match saves.head?, saves.getLast? with
  | some first, some last => some ((ofRecord first).replace (ofRecord last))
  | _, _ => none

/--
What a row takes from the first save of a record and what it takes from the last one.
-/
structure Keeps (row : RecordRow) (first last : Record) : Prop where
  run : row.run = first.run
  tenant : row.tenant = first.tenant
  ticket : row.ticket = first.ticket
  createdAt : row.createdAt = first.createdAt.stored
  narrative : row.narrative = last.narrative
  rootCause : row.rootCause = last.rootCause
  resolution : row.resolution = last.resolution.compact
  confidence : row.confidence = storedNumber last.confidence
  intent : row.intent = last.intent
  sentiment : row.sentiment = last.sentiment
  openQuestions : row.openQuestions = last.openQuestions.compact
  riskTags : row.riskTags = last.riskTags.compact
  proposals : row.proposals = last.proposals.compact
  evidence : row.evidence = last.evidence.compact
  analysis : row.analysis = last.analysis.compact

theorem keeps_replace (first last : Record) : ((ofRecord first).replace (ofRecord last)).Keeps first last := by
  constructor <;> rfl

theorem ofSaves?_of_ne_nil {saves : List Record} (h : saves ≠ []) :
    ∃ first last, saves.head? = some first ∧ saves.getLast? = some last ∧
      ofSaves? saves = some ((ofRecord first).replace (ofRecord last)) := by
  obtain ⟨first, hfirst⟩ := Option.ne_none_iff_exists'.mp (mt List.head?_eq_none_iff.mp h)
  obtain ⟨last, hlast⟩ := Option.ne_none_iff_exists'.mp (mt List.getLast?_eq_none_iff.mp h)
  refine ⟨first, last, hfirst, hlast, ?_⟩
  unfold ofSaves?
  rw [hfirst, hlast]

theorem ofSaves?_concat (saves : List Record) (r : Record) :
    ofSaves? (saves ++ [r]) =
      some (match ofSaves? saves with
        | none => ofRecord r
        | some old => old.replace (ofRecord r)) := by
  cases saves with
  | nil => rfl
  | cons first rest =>
    obtain ⟨first', last, hfirst, -, hrow⟩ := ofSaves?_of_ne_nil (List.cons_ne_nil first rest)
    cases hfirst
    rw [hrow]
    unfold ofSaves?
    rw [List.getLast?_concat, List.cons_append, List.head?_cons]
    rfl

end RecordRow

/-! One save after the other. -/

theorem saveRecords_concat (s : Store) (rs : List Record) (r : Record) :
    s.saveRecords (rs ++ [r]) = (s.saveRecords rs).saveRecord r := by
  unfold saveRecords
  rw [List.foldl_append]
  rfl

theorem runs_saveRecords (s : Store) (rs : List Record) : (s.saveRecords rs).runs = s.runs := by
  induction rs using List.reverseRecOn with
  | nil => rfl
  | append_singleton rs r ih => rw [saveRecords_concat, runs_saveRecord, ih]

theorem nodup_names_saveRecord {s : Store} (h : s.records.names.Nodup) (r : Record) :
    (s.saveRecord r).records.names.Nodup := by
  unfold saveRecord
  split
  . exact Table.nodup_names_put h _ _
  . exact h

variable {runs : Table RunRow} {saves : List Record}

theorem mem_taken_iff {r : Record} {id : String} : r ∈ taken saves id ↔ r ∈ saves ∧ takes r = true ∧ r.id = id := by
  simp [taken]

theorem nodup_names_saveRecords (runs : Table RunRow) (saves : List Record) :
    (saveRecords ⟨runs, .empty⟩ saves).records.names.Nodup := by
  induction saves using List.reverseRecOn with
  | nil => exact List.nodup_nil
  | append_singleton saves r ih =>
    rw [saveRecords_concat]
    exact nodup_names_saveRecord ih r

/--
The row of a record is made of its own saves alone, in their order.
-/
theorem get?_saveRecords (runs : Table RunRow) (saves : List Record) (id : String) :
    (saveRecords ⟨runs, .empty⟩ saves).records.get? id = RecordRow.ofSaves? (taken saves id) := by
  -- The last save is the one that counts, so the saves are taken off at the end.
  induction saves using List.reverseRecOn with
  | nil => rfl
  | append_singleton saves r ih =>
    unfold taken at *
    rw [saveRecords_concat, List.filter_append, List.filter_singleton]
    by_cases hid : id = r.id
    . subst hid
      cases htakes : takes r with
      | true =>
        rw [get?_saveRecord _ htakes, if_pos rfl, ih, beq_self_eq_true]
        exact (RecordRow.ofSaves?_concat _ r).symm
      | false =>
        rw [saveRecord_of_refused _ htakes, ih]
        simp
    . rw [get?_saveRecord_of_ne _ hid, ih, beq_false_of_ne (Ne.symm hid)]
      simp

theorem mem_names_saveRecords {id : String} :
    id ∈ (saveRecords ⟨runs, .empty⟩ saves).records.names ↔ ∃ r ∈ saves, takes r = true ∧ r.id = id := by
  rw [← not_iff_not, ← Table.get?_eq_none_iff, get?_saveRecords]
  constructor
  . rintro hnone ⟨r, hr⟩
    obtain ⟨_, _, _, _, hsome⟩ := RecordRow.ofSaves?_of_ne_nil (List.ne_nil_of_mem (mem_taken_iff.mpr hr))
    rw [hsome] at hnone
    contradiction
  . intro hothers
    have hnil : taken saves id = [] := by
      rw [List.eq_nil_iff_forall_not_mem]
      exact fun r hr => hothers ⟨r, mem_taken_iff.mp hr⟩
    rw [hnil]
    rfl

theorem get?_saveRecords_of_mem {r : Record} (runs : Table RunRow) (hr : r ∈ saves) (htakes : takes r = true) :
    ∃ first last, (taken saves r.id).head? = some first ∧ (taken saves r.id).getLast? = some last ∧
      (saveRecords ⟨runs, .empty⟩ saves).records.get? r.id =
        some ((RecordRow.ofRecord first).replace (.ofRecord last)) := by
  rw [get?_saveRecords]
  exact RecordRow.ofSaves?_of_ne_nil (List.ne_nil_of_mem (mem_taken_iff.mpr ⟨hr, htakes, rfl⟩))

theorem count_names_saveRecords {r : Record} (runs : Table RunRow) (hr : r ∈ saves) (htakes : takes r = true) :
    (saveRecords ⟨runs, .empty⟩ saves).records.names.count r.id = 1 := by
  rw [(nodup_names_saveRecords runs saves).count, if_pos (mem_names_saveRecords.mpr ⟨r, hr, htakes, rfl⟩)]

/--
The record that is read of a row with the owner of one save and the payload of another one.
-/
theorem record?_of_get? {s : Store} {id : String} {first last : Record}
    (h : s.records.get? id = some ((RecordRow.ofRecord first).replace (.ofRecord last))) (now : Timestamp)
    (tenant : String) :
    s.record? now id tenant = if tenant = first.tenant then some {
      id := id
      run := first.run
      tenant := first.tenant
      ticket := first.ticket
      narrative := last.narrative
      rootCause := last.rootCause
      resolution := storedValue last.resolution.compact
      confidence := storedNumber last.confidence
      intent := last.intent
      sentiment := last.sentiment
      openQuestions := storedValue last.openQuestions.compact
      riskTags := storedValue last.riskTags.compact
      proposals := storedValue last.proposals.compact
      evidence := storedValue last.evidence.compact
      analysis := storedValue last.analysis.compact
      createdAt := storedTime now first.createdAt.stored } else none := by
  have howner : ((RecordRow.ofRecord first).replace (.ofRecord last)).tenant = first.tenant := rfl
  unfold record?
  rw [h]
  dsimp only
  rw [howner]
  simp only [eq_comm (a := first.tenant)]
  rfl

theorem exists_madeOf_of_replace {s : Store} {id : String} {first last : Record} (htakes : takes last = true)
    (h : s.records.get? id = some ((RecordRow.ofRecord first).replace (.ofRecord last))) (now : Timestamp) :
    ∃ r, s.record? now id first.tenant = some r ∧ r.id = id ∧ Record.MadeOf first last r := by
  refine ⟨_, (record?_of_get? h now first.tenant).trans (if_pos rfl), rfl, ?_⟩
  constructor
  . rfl
  . rfl
  . rfl
  . intro hyear
    dsimp only
    rw [storedTime_stored hyear]
  . rfl
  . rfl
  . intro hresolution
    dsimp only
    rw [storedValue_of_storable hresolution]
  . exact eq_storedNumber (takes_iff.mp htakes)
  . rfl
  . rfl
  all_goals
    intro hvalue
    dsimp only
    rw [storedValue_of_storable hvalue]

/--
The rows of records that are saved in turn. A save is refused exactly if the confidence is not a number, and then changes
nothing. Each record has one row. Whose it is and when it was made is what its first save says, and its payload is that of
its last save as a whole, where refused saves do not count. The tenant of the first save reads it, and nobody else. The runs
stay as they are.
-/
theorem saveRecords_history (runs : Table RunRow) (saves : List Record) :
    (∀ s r, (takes r = true → backend.saveRecord r s = (.ok (), s.saveRecord r)) ∧
      (takes r = false → backend.saveRecord r s = (.error refusal, s))) ∧
    (saveRecords ⟨runs, .empty⟩ saves).runs = runs ∧
    (∀ id, id ∈ (saveRecords ⟨runs, .empty⟩ saves).records.names ↔ ∃ r ∈ saves, takes r = true ∧ r.id = id) ∧
    ∀ r ∈ saves, takes r = true → ∃ first last row,
      (taken saves r.id).head? = some first ∧
      (taken saves r.id).getLast? = some last ∧
      (saveRecords ⟨runs, .empty⟩ saves).records.names.count r.id = 1 ∧
      (saveRecords ⟨runs, .empty⟩ saves).records.get? r.id = some row ∧
      row.Keeps first last ∧
      (∀ now tenant, (saveRecords ⟨runs, .empty⟩ saves).record? now r.id tenant =
        if tenant = first.tenant then some {
          id := r.id
          run := first.run
          tenant := first.tenant
          ticket := first.ticket
          narrative := last.narrative
          rootCause := last.rootCause
          resolution := storedValue last.resolution.compact
          confidence := storedNumber last.confidence
          intent := last.intent
          sentiment := last.sentiment
          openQuestions := storedValue last.openQuestions.compact
          riskTags := storedValue last.riskTags.compact
          proposals := storedValue last.proposals.compact
          evidence := storedValue last.evidence.compact
          analysis := storedValue last.analysis.compact
          createdAt := storedTime now first.createdAt.stored } else none) ∧
      ∀ now, ∃ read, (saveRecords ⟨runs, .empty⟩ saves).record? now r.id first.tenant = some read ∧ read.id = r.id ∧
        Record.MadeOf first last read := by
  refine ⟨?_, runs_saveRecords _ saves, fun _ => mem_names_saveRecords, ?_⟩
  . intro s r
    unfold backend
    dsimp only
    constructor
    . intro htakes
      rw [if_pos htakes]
    . intro hrefused
      rw [hrefused, saveRecord_of_refused s hrefused]
      rfl
  . intro r hr htakes
    obtain ⟨first, last, hfirst, hlast, hrow⟩ := get?_saveRecords_of_mem runs hr htakes
    have hstored : takes last = true := (mem_taken_iff.mp (List.mem_of_getLast? hlast)).2.1
    exact ⟨first, last, _, hfirst, hlast, count_names_saveRecords runs hr htakes, hrow, RecordRow.keeps_replace first last,
      record?_of_get? hrow, exists_madeOf_of_replace hstored hrow⟩

/--
A record that is saved again by another tenant for another ticket stays with the first one, with the later payload. A save
that is refused comes after both and does not count.
-/
theorem saveRecords_history_again :
    let first := Record.ofAnalysis "x" "acme" "7" [("intent", .string "billing"), ("risk_tags", .array [])] .epoch
    let other := Record.ofAnalysis "y" "globex" "8" [("intent", .string "other")] .epoch
    let last := Record.ofAnalysis "x" "globex" "8" [("intent", .string "complaint")] .epoch
    let refused := { Record.ofAnalysis "x" "acme" "7" [("intent", .string "lost")] .epoch with confidence := .nan }
    let s := saveRecords empty [first, other, last, refused]
    ∃ row, s.records.get? "x" = some row ∧
      row.tenant = "acme" ∧ row.ticket = "7" ∧ row.intent = some "complaint" ∧
      ((s.record? .epoch "x" "acme").bind (·.intent)) = some "complaint" ∧
      s.record? .epoch "x" "globex" = none ∧
      ∃ read, s.record? .epoch "x" "acme" = some read ∧ read.createdAt = Timestamp.epoch.toMicros ∧
        read.analysis = .object [("intent", .string "complaint")] := by
  intro first other last refused s
  obtain ⟨-, -, -, hrows⟩ := saveRecords_history .empty [first, other, last, refused]
  obtain ⟨first', last', row, hfirst, hlast, -, hrow, hkeeps, hread, hmade⟩ := hrows first (by simp) (by decide)
  have hfirst : first' = first := (Option.some.inj hfirst).symm
  have hlast : last' = last := (Option.some.inj hlast).symm
  subst hfirst hlast
  refine ⟨row, hrow, hkeeps.tenant, hkeeps.ticket, hkeeps.intent, ?_, ?_, ?_⟩
  . exact congrArg (Option.bind · Record.intent) (hread .epoch "acme")
  . exact hread .epoch "globex"
  . obtain ⟨read, hread, -, hmade⟩ := hmade .epoch
    refine ⟨read, hread, hmade.createdAt (by decide), hmade.analysis ?_⟩
    exact ⟨⟨List.pairwise_singleton _ _, trivial, trivial⟩, by decide, trivial, trivial⟩

/--
A save does not always leave a record, and a record is not always read with the point in time that it was saved with: the
first one is refused, and of the second one nanoseconds are lost.
-/
theorem saveRecords_not_exact :
    let refused := { Record.ofAnalysis "x" "acme" "7" [] .epoch with confidence := .nan }
    let fine := Record.ofAnalysis "y" "acme" "7" [] ⟨2024, 1, 1, 0, 0, 0, 123456789, by decide, by decide⟩
    let s := saveRecords empty [refused, fine]
    s.records.names.count refused.id ≠ 1 ∧
    ∃ read, s.record? .epoch fine.id fine.tenant = some read ∧ read.createdAt ≠ fine.createdAt := by
  intro refused fine s
  have hmem : fine ∈ [refused, fine] := by simp
  obtain ⟨first, last, hfirst, hlast, hrow⟩ := get?_saveRecords_of_mem .empty hmem rfl
  have hfirst : first = fine := (Option.some.inj hfirst).symm
  have hlast : last = fine := (Option.some.inj hlast).symm
  subst hfirst hlast
  obtain ⟨read, hread, -, hmade⟩ := exists_madeOf_of_replace rfl hrow .epoch
  refine ⟨by decide +kernel, read, hread, ?_⟩
  rw [hmade.createdAt (by decide)]
  decide

end Store
end Triage
