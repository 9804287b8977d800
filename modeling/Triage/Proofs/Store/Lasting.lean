import Triage.Proofs.Files
import Triage.Proofs.Pipeline.Audit
import Triage.Proofs.Store.Tenants
import Triage.Proofs.Store.Text
import Triage.Proofs.Timestamp.Chronology
import Triage.Store.Location

/-!
This module contains what becomes of a run and of a record in the course of a store: as long as nothing else is saved
under their ids they are read as they have been written, however often the store is opened again.
-/

namespace Triage
namespace Store

/--
What happens to a store: it is asked something, or it is closed and opened again.
-/
inductive Event where
  | request (q : Request)
  | reopen

/--
The run that is saved by an event.
-/
def Event.savedRun? : Event → Option Run
  | .request (.saveRun r) => some r
  | .request _ | .reopen => none

/--
The runs that are saved by events.
-/
def savedRuns (events : List Event) : List Run :=
  events.filterMap Event.savedRun?

/--
A store after an event. It is read from its text when it is opened again.
-/
def next (s : Store) : Event → Store
  | .request q => (s.serve q).2
  | .reopen => s.reread

def through (s : Store) (events : List Event) : Store :=
  events.foldl next s

namespace Location

variable {l : Location} {files files' : Files} {s₀ : Store}

/--
The course of a store that has a place among the files.
-/
def course (l : Location) (s : Store) (files : Files) : List Event → Except Obstacle (Store × Files)
  | [] => .ok (s, files)
  | .request q :: events => l.course (s.serve q).2 files events
  | .reopen :: events => do
    let (s, files) ← l.load (l.save s files)
    l.course s files events

theorem of_contents {text : String} (htemporary : l.isTemporary = false) (h : l.contents files = .ok text) :
    ∃ path, files.locate l.path = .ok path ∧ files.lookup? path ≠ some .directory := by
  unfold contents at h
  rw [if_neg (by simp [htemporary])] at h
  split at h
  . contradiction
  . next path hpath =>
    refine ⟨path, hpath, ?_⟩
    intro hdirectory
    rw [hdirectory] at h
    contradiction

theorem contents_of_text {path : List String} {text : String} (htemporary : l.isTemporary = false)
    (hpath : files.locate l.path = .ok path) (htext : files.lookup? path = some (.text text)) :
    l.contents files = .ok text := by
  unfold contents
  rw [if_neg (by simp [htemporary]), hpath]
  dsimp only
  rw [htext]

/--
Once a store has been loaded from its file, each store that is saved there is loaded again.
-/
theorem load_save (h : l.load files = .ok (s₀, files')) (htemporary : l.isTemporary = false) (s : Store) :
    l.load (l.save s files') = .ok (s.reread, l.save s files') := by
  unfold load at h
  split at h
  . contradiction
  . next made hmake =>
    split at h
    . contradiction
    . next hconnections =>
      split at h
      . contradiction
      . next text hcontents =>
        split at h
        . cases h
          obtain ⟨path, hpath, hne⟩ := of_contents htemporary hcontents
          obtain ⟨hlocate, hentry, hmade⟩ := Files.locate_write hpath hne (.text s.toText)
          unfold save load
          rw [if_neg (by simp [htemporary]), hmade]
          dsimp only
          rw [if_neg hconnections, contents_of_text htemporary hlocate hentry]
          dsimp only
          rw [ofText?_toText]
        . contradiction

theorem course_eq (h : l.load files = .ok (s₀, files')) (s : Store) (events : List Event)
    (hevents : .reopen ∈ events → l.isTemporary = false) :
    ∃ last, l.course s files' events = .ok (s.through events, last) := by
  induction events generalizing s files files' s₀ with
  | nil => exact ⟨files', rfl⟩
  | cons event events ih =>
    have hrest : .reopen ∈ events → l.isTemporary = false := fun hmem => hevents (List.mem_cons_of_mem event hmem)
    cases event with
    | request q => exact ih h (s.serve q).2 hrest
    | reopen =>
      have hload := load_save h (hevents List.mem_cons_self) s
      obtain ⟨last, hlast⟩ := ih hload s.reread hrest
      refine ⟨last, ?_⟩
      rw [course, hload]
      exact hlast

end Location

variable {s t : Store} {id : String}

theorem runs_saveRun_congr (h : s.runs = t.runs) (r : Run) : (s.saveRun r).2.runs = (t.saveRun r).2.runs := by
  unfold saveRun
  rw [h]
  split
  . rfl
  . split
    . rfl
    . exact h

/--
The runs of a store are those that have been saved, whatever else has happened.
-/
theorem runs_through (h : s.runs = t.runs) (events : List Event) :
    (s.through events).runs = (t.saveRuns (savedRuns events)).2.runs := by
  induction events generalizing s t with
  | nil => exact h
  | cons event events ih =>
    unfold through
    rw [List.foldl_cons]
    cases event with
    | request q =>
      cases q with
      | saveRun r => exact ih (runs_saveRun_congr h r)
      | saveRecord r =>
        apply ih
        unfold next serve
        dsimp only
        rw [runs_saveRecord, h]
      | run? now id => exact ih h
      | runs? now tenant ticket limit => exact ih h
      | record? now id tenant => exact ih h
    | reopen => exact ih h

/--
A row is made of the first save of its run and of the decisive one.
-/
theorem saves_of_get? {events : List Event} {row : RunRow} (h : (empty.through events).runs.get? id = some row) :
    ∃ first decisive, ((savedRuns events).filter (·.id = id)).head? = some first ∧
      row = (RunRow.ofRun first).advance (.ofRun decisive) := by
  rw [runs_through (t := empty) rfl, get?_saveRuns] at h
  unfold RunRow.ofSaves? at h
  split at h
  . next first decisive hfirst hdecisive =>
    cases h
    exact ⟨first, decisive, hfirst, rfl⟩
  . contradiction

theorem nodup_names_through (events : List Event) : (empty.through events).runs.names.Nodup := by
  rw [runs_through (t := empty) rfl]
  exact nodup_names_saveRuns nodup_names_empty _

theorem get?_runs_through {events : List Event} (hothers : ∀ r, .request (.saveRun r) ∈ events → r.id ≠ id) :
    (s.through events).runs.get? id = s.runs.get? id := by
  induction events generalizing s with
  | nil => rfl
  | cons event events ih =>
    have hrest : ∀ r, .request (.saveRun r) ∈ events → r.id ≠ id :=
      fun r hr => hothers r (List.mem_cons_of_mem event hr)
    have hnext : (s.next event).runs.get? id = s.runs.get? id := by
      cases event with
      | request q =>
        cases q with
        | saveRun r =>
          unfold next serve
          dsimp only
          rw [get?_saveRun, if_neg (Ne.symm (hothers r List.mem_cons_self))]
        | saveRecord r =>
          unfold next serve
          dsimp only
          rw [runs_saveRecord]
        | _ => rfl
      | reopen => rfl
    rw [← hnext]
    exact ih hrest

/--
A record that is read again from the text of the store as it is stays as long as nothing is saved under its id.
-/
theorem get?_records_through {events : List Event} {row : RecordRow} (hrow : row.reread = row)
    (h : s.records.get? id = some row) (hothers : ∀ r, .request (.saveRecord r) ∈ events → r.id ≠ id) :
    (s.through events).records.get? id = some row := by
  induction events generalizing s with
  | nil => exact h
  | cons event events ih =>
    have hrest : ∀ r, .request (.saveRecord r) ∈ events → r.id ≠ id :=
      fun r hr => hothers r (List.mem_cons_of_mem event hr)
    apply ih _ hrest
    cases event with
    | request q =>
      cases q with
      | saveRun r =>
        unfold next serve
        dsimp only
        rw [records_saveRun, h]
      | saveRecord r =>
        unfold next serve
        dsimp only
        rw [get?_saveRecord_of_ne s (Ne.symm (hothers r List.mem_cons_self)), h]
      | _ => exact h
    | reopen =>
      unfold next reread
      dsimp only
      rw [Table.get?_map, h, Option.map_some, hrow]

end Store
end Triage
