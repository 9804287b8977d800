import Triage.Proofs.Json.RoundTrip
import Triage.Proofs.Timestamp.Chronology
import Triage.Store

/-!
This module contains the runs and records that are the same when they are read from their rows, up to the microsecond of their
points in time.
-/

namespace Triage

/--
Whether a value is read again from its text: its members are in order, its containers are not nested too deeply, and its
numbers are read again from their texts.
-/
structure Json.Storable (v : Json) : Prop where
  canonical : v.Canonical
  containers : v.containers ≤ Json.depthLimit
  numbers : v.NumbersSurvive

/--
Whether a run is read again as it is, but for what its points in time have below a microsecond.
-/
structure Run.Storable (r : Run) : Prop where
  info : r.info.Storable
  createdAt : r.createdAt.HasPlainYear
  completedAt : ∀ t, r.completedAt = some t → t.HasPlainYear

structure Record.Storable (r : Record) : Prop where
  resolution : r.resolution.Storable
  openQuestions : r.openQuestions.Storable
  riskTags : r.riskTags.Storable
  proposals : r.proposals.Storable
  evidence : r.evidence.Storable
  analysis : r.analysis.Storable
  confidence : r.confidence.isFinite = true
  createdAt : r.createdAt.HasPlainYear

def Run.toMicros (r : Run) : Run :=
  { r with createdAt := r.createdAt.toMicros, completedAt := r.completedAt.map Timestamp.toMicros }

/--
What a run that is read has of the first save of the run, and what it has of the decisive one.
-/
structure Run.MadeOf (first decisive r : Run) : Prop where
  tenant : r.tenant = first.tenant
  ticket : r.ticket = first.ticket
  createdAt : first.createdAt.HasPlainYear → r.createdAt = first.createdAt.toMicros
  status : r.status = decisive.status
  gate : r.gate = decisive.gate
  info : decisive.info.Storable → r.info = decisive.info
  error : r.error = decisive.error
  completedAt : (∀ t, decisive.completedAt = some t → t.HasPlainYear) →
    r.completedAt = decisive.completedAt.map Timestamp.toMicros

/--
What a record that is read has of the first save of the record, and what it has of the last one.
-/
structure Record.MadeOf (first last r : Record) : Prop where
  run : r.run = first.run
  tenant : r.tenant = first.tenant
  ticket : r.ticket = first.ticket
  createdAt : first.createdAt.HasPlainYear → r.createdAt = first.createdAt.toMicros
  narrative : r.narrative = last.narrative
  rootCause : r.rootCause = last.rootCause
  resolution : last.resolution.Storable → r.resolution = last.resolution
  confidence : r.confidence.eq last.confidence = true
  intent : r.intent = last.intent
  sentiment : r.sentiment = last.sentiment
  openQuestions : last.openQuestions.Storable → r.openQuestions = last.openQuestions
  riskTags : last.riskTags.Storable → r.riskTags = last.riskTags
  proposals : last.proposals.Storable → r.proposals = last.proposals
  evidence : last.evidence.Storable → r.evidence = last.evidence
  analysis : last.analysis.Storable → r.analysis = last.analysis

namespace Store

theorem storedValue_of_storable {v : Json} (h : v.Storable) : storedValue v.compact = v := by
  unfold storedValue
  rw [Json.parse?_compact h.canonical h.containers h.numbers]
  rfl

theorem map_storedTime_stored {t? : Option Timestamp} (h : ∀ t, t? = some t → t.HasPlainYear) (now : Timestamp) :
    (t?.map fun t => storedTime now t.stored) = t?.map Timestamp.toMicros :=
  Option.map_congr fun t ht => storedTime_stored (h t ht) now

theorem takes_iff {r : Record} : takes r = true ↔ r.confidence.key?.isSome = true := by
  unfold takes
  cases r.confidence with
  | nan => simp [Binary.isNaN, Binary.key?]
  | signed negative rank bounded => simp [Binary.isNaN, Binary.key?]

theorem eq_storedNumber {x : Double} (h : x.key?.isSome = true) : (storedNumber x).eq x = true := by
  obtain ⟨k, hk⟩ := Option.isSome_iff_exists.mp h
  have hzero : (0 : Double).key? = some 0 := rfl
  unfold storedNumber
  split
  . next heq =>
    unfold Binary.eq Binary.compare at *
    rw [hk, hzero] at *
    simp_all
  . unfold Binary.eq Binary.compare
    rw [hk]
    simp

end Store
end Triage
