import Triage.Proofs.Store.Latest

/-!
This module contains the proof that runs and records are read as they have been written, up to the microsecond of their
points in time, and that the runs of a store can always be read.
-/

namespace Triage

namespace Store

theorem rereadNumber_storedNumber {x : Double} (h : x.isFinite = true) : rereadNumber (storedNumber x) = storedNumber x := by
  cases x with
  | nan => contradiction
  | signed negative rank bounded =>
    by_cases hrank : rank = 0
    . subst hrank
      cases negative <;> rfl
    . have hne : Binary.eq (.signed negative rank bounded) (0 : Double) = false := by
        have hzero : (0 : Double).key? = some 0 := rfl
        unfold Binary.eq Binary.compare
        rw [hzero]
        cases negative <;> simp [Binary.key?, hrank]
      unfold storedNumber
      rw [hne, if_neg Bool.false_ne_true]
      unfold rereadNumber Binary.ofRank
      have hpos : 0 < rank := Nat.pos_of_ne_zero hrank
      cases negative <;> simp [Binary.key?, Nat.min_eq_left bounded, hpos]

theorem toRun_ofRun {r : Run} (h : r.Storable) (now : Timestamp) :
    RunRow.toRun now r.id (RunRow.ofRun r) = .ok r.toMicros := by
  rw [← RunRow.advance_self (RunRow.ofRun r), RunRow.toRun_advance, storedValue_of_storable h.info,
    storedTime_stored h.createdAt, map_storedTime_stored h.completedAt]
  rfl

theorem toRecord_ofRecord {r : Record} (h : r.Storable) (now : Timestamp) :
    (RecordRow.ofRecord r).toRecord now r.id =
      { r with confidence := storedNumber r.confidence, createdAt := r.createdAt.toMicros } := by
  unfold RecordRow.toRecord RecordRow.ofRecord
  dsimp only
  rw [storedValue_of_storable h.resolution, storedValue_of_storable h.openQuestions,
    storedValue_of_storable h.riskTags, storedValue_of_storable h.proposals, storedValue_of_storable h.evidence,
    storedValue_of_storable h.analysis, storedTime_stored h.createdAt]

theorem key?_of_isFinite {x : Double} (h : x.isFinite = true) : x.key?.isSome = true := by
  cases x with
  | nan => contradiction
  | signed negative rank bounded => rfl

/--
What is stored is what is read. A run or a record that is new to a store is read as it has been written, whatever is saved
under other ids and however often the store is closed and opened again, and the runs of a store can always be read.
-/
theorem read_of_written {l : Location} {files files' : Files} {s₀ : Store} (hload : l.load files = .ok (s₀, files'))
    (events : List Event) (hevents : .reopen ∈ events → l.isTemporary = false) :
    (∀ (s : Store) (r : Run), r.Storable → s.runs.get? r.id = none →
      (∀ q, .request (.saveRun q) ∈ events → q.id ≠ r.id) →
      ∃ t last, l.course (s.saveRun r).2 files' events = .ok (t, last) ∧
        ∀ now, t.run? now r.id = .ok (some r.toMicros)) ∧
    (∀ (s : Store) (r : Record), r.Storable → s.records.get? r.id = none →
      (∀ q, .request (.saveRecord q) ∈ events → q.id ≠ r.id) →
      ∃ t last confidence, l.course (s.saveRecord r) files' events = .ok (t, last) ∧
        confidence.eq r.confidence = true ∧
        ∀ now, t.record? now r.id r.tenant = some { r with
          confidence := confidence
          createdAt := r.createdAt.toMicros }) ∧
    ∃ t last, l.course empty files' events = .ok (t, last) ∧
      ∀ now, (∀ id, ∃ r, t.run? now id = .ok r) ∧
        ∀ tenant ticket limit, ∃ rs, t.runs? now tenant ticket limit = .ok rs := by
  refine ⟨?_, ?_, ?_⟩
  . intro s r hr hfresh hothers
    obtain ⟨last, hcourse⟩ := Location.course_eq hload (s.saveRun r).2 events hevents
    refine ⟨_, last, hcourse, ?_⟩
    intro now
    have hrow : ((s.saveRun r).2.through events).runs.get? r.id = some (RunRow.ofRun r) := by
      rw [get?_runs_through hothers, saveRun_fresh hfresh]
      apply Table.get?_put_self
    unfold run?
    rw [hrow, Option.mapM_some, toRun_ofRun hr]
    rfl
  . intro s r hr hfresh hothers
    obtain ⟨last, hcourse⟩ := Location.course_eq hload (s.saveRecord r) events hevents
    refine ⟨_, last, storedNumber r.confidence, hcourse, eq_storedNumber (key?_of_isFinite hr.confidence), ?_⟩
    intro now
    have hrow : ((s.saveRecord r).through events).records.get? r.id = some (RecordRow.ofRecord r) := by
      apply get?_records_through _ _ hothers
      . unfold RecordRow.reread RecordRow.ofRecord
        dsimp only
        rw [rereadNumber_storedNumber hr.confidence]
      . rw [saveRecord_fresh (takes_iff.mpr (key?_of_isFinite hr.confidence)) hfresh]
        apply Table.get?_put_self
    have hread := toRecord_ofRecord hr now
    have howner : (RecordRow.ofRecord r).tenant = r.tenant := rfl
    unfold record?
    rw [hrow]
    dsimp only
    rw [if_pos howner, hread]
  . obtain ⟨last, hcourse⟩ := Location.course_eq hload empty events hevents
    refine ⟨_, last, hcourse, ?_⟩
    intro now
    exact ⟨exists_run? events now, exists_runs? events now⟩

/--
A run whose text has to be escaped is still there after another one has been saved, between two starts.
-/
theorem read_of_written_escaped :
    let l : Location := ⟨"data/analysis.db", 5⟩
    let half : Double := Binary.ofRatio false 1 2
    let info : Json := .object [("half", .number (.real half (by decide +kernel))), ("note", .string "\x00\"\n")]
    let r : Run := (Run.start "a" "acme" "7" .epoch).complete .confirm info .epoch
    let events : List Event := [.reopen, .request (.saveRun (Run.start "b" "acme" "7" .epoch)), .reopen]
    ∃ t last, l.course (empty.saveRun r).2 (Files.none.put ["data"] .directory) events = .ok (t, last) ∧
      ∀ now, t.run? now "a" = .ok (some r) := by
  intro l half info r events
  have hload : (Location.mk "data/analysis.db" 5).load .none = .ok (empty, Files.none.put ["data"] .directory) := by
    rfl
  have hinfo : info.Storable := by
    constructor
    . exact ⟨List.pairwise_pair.mpr (by decide), trivial, trivial, trivial⟩
    . decide
    . refine ⟨?_, trivial, trivial⟩
      change Json.parse? _ = some _
      decide +kernel
  have hstorable : r.Storable := by
    constructor
    . exact hinfo
    . exact (by decide : Timestamp.epoch.HasPlainYear)
    . rintro t ⟨rfl⟩
      exact (by decide : Timestamp.epoch.HasPlainYear)
  have hothers : ∀ q, .request (.saveRun q) ∈ events → q.id ≠ r.id := by
    intro q hq
    simp only [events, List.mem_cons, Event.request.injEq, Request.saveRun.injEq, List.not_mem_nil, or_false,
      reduceCtorEq, false_or] at hq
    rw [hq]
    decide
  have hepoch : Timestamp.epoch.toMicros = .epoch := by rfl
  have hmicros : r.toMicros = r := by simp [r, Run.toMicros, Run.complete, Run.start, hepoch]
  obtain ⟨t, last, hcourse, hread⟩ := (read_of_written hload events fun _ => rfl).1 empty r hstorable rfl hothers
  rw [hmicros] at hread
  exact ⟨t, last, hcourse, hread⟩

end Store
end Triage
