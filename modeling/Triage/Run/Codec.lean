import Triage.Analysis.Codec
import Triage.Run

/-!
This module contains the JSON form of runs and records.
-/

namespace Triage

open Json

namespace RunStatus

def toJson (s : RunStatus) : Json :=
  .string s.name

def ofJson? (v : Json) : Option RunStatus :=
  (Decode.name v).bind ofName?

end RunStatus

namespace Timestamp

def toJson (t : Timestamp) : Json :=
  .string t.text

def ofJson? (v : Json) : Option Timestamp :=
  v.string?.bind parse?

end Timestamp

namespace Run

def toJson (r : Run) : Json :=
  .object [
    ("id", .string r.id),
    ("tenant_id", .string r.tenant),
    ("ticket_id", .string r.ticket),
    ("status", r.status.toJson),
    ("gate", (r.gate.map Gate.toJson).getD .null),
    ("meta", r.info),
    ("error_message", ofString? r.error),
    ("created_at", r.createdAt.toJson),
    ("completed_at", (r.completedAt.map Timestamp.toJson).getD .null)]

def keys : List String :=
  ["id", "tenant_id", "ticket_id", "status", "gate", "meta", "error_message", "created_at",
    "completed_at"]

def ofJson? (v : Json) : Option Run := do
  let f ← Fields.ofJson? keys v
  return {
    id := ← f.required "id" Decode.string
    tenant := ← f.required "tenant_id" Decode.string
    ticket := ← f.required "ticket_id" Decode.string
    status := ← f.required "status" RunStatus.ofJson?
    gate := ← f.optional "gate" Gate.ofJson?
    info := ← f.required "meta" Decode.value
    error := ← f.optional "error_message" Decode.string
    createdAt := ← f.required "created_at" Timestamp.ofJson?
    completedAt := ← f.optional "completed_at" Timestamp.ofJson? }

end Run

namespace Record

def toJson (r : Record) : Json :=
  .object [
    ("id", .string r.id),
    ("run_id", .string r.run),
    ("tenant_id", .string r.tenant),
    ("ticket_id", .string r.ticket),
    ("narrative", .string r.narrative),
    ("root_cause", ofString? r.rootCause),
    ("resolution", r.resolution),
    ("confidence", ofDouble r.confidence),
    ("intent", ofString? r.intent),
    ("sentiment", ofString? r.sentiment),
    ("open_questions", r.openQuestions),
    ("risk_tags", r.riskTags),
    ("field_proposals", r.proposals),
    ("evidence", r.evidence),
    ("analysis", r.analysis),
    ("created_at", r.createdAt.toJson)]

def keys : List String :=
  ["id", "run_id", "tenant_id", "ticket_id", "narrative", "root_cause", "resolution", "confidence",
    "intent", "sentiment", "open_questions", "risk_tags", "field_proposals", "evidence", "analysis",
    "created_at"]

def ofJson? (v : Json) : Option Record := do
  let f ← Fields.ofJson? keys v
  return {
    id := ← f.required "id" Decode.string
    run := ← f.required "run_id" Decode.string
    tenant := ← f.required "tenant_id" Decode.string
    ticket := ← f.required "ticket_id" Decode.string
    narrative := ← f.required "narrative" Decode.string
    rootCause := ← f.optional "root_cause" Decode.string
    resolution := ← f.required "resolution" Decode.value
    confidence := ← f.required "confidence" Decode.double
    intent := ← f.optional "intent" Decode.string
    sentiment := ← f.optional "sentiment" Decode.string
    openQuestions := ← f.required "open_questions" Decode.value
    riskTags := ← f.required "risk_tags" Decode.value
    proposals := ← f.required "field_proposals" Decode.value
    evidence := ← f.required "evidence" Decode.value
    analysis := ← f.required "analysis" Decode.value
    createdAt := ← f.required "created_at" Timestamp.ofJson? }

end Record
end Triage
