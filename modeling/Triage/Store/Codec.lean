import Triage.Json.Fields
import Triage.Json.Writer
import Triage.Store

/-!
This module contains the text of a store, by which it lasts from one start of the program to the next.
-/

namespace Triage
namespace Store

open Json

/--
A number by its signed rank, which is exact.
-/
def ofRank (x : Double) : Json :=
  .number (.integer ((Integer.ofInt? (x.key?.getD 0)).getD default))

/--
The number of a signed rank.
-/
def rank? : Json → Option Double
  | .number (.integer n) => some (Binary.ofRank (decide (n.val < 0)) n.val.natAbs)
  | _ => none

namespace RunRow

def toJson (row : RunRow) : Json :=
  .object [
    ("tenant", .string row.tenant),
    ("ticket", .string row.ticket),
    ("status", .string row.status),
    ("gate", ofString? row.gate),
    ("info", .string row.info),
    ("error", ofString? row.error),
    ("created_at", .string row.createdAt),
    ("completed_at", ofString? row.completedAt)]

def ofJson? (v : Json) : Option RunRow := do
  let f ← Fields.ofJson?
    ["tenant", "ticket", "status", "gate", "info", "error", "created_at", "completed_at"] v
  return {
    tenant := ← f.required "tenant" Decode.string
    ticket := ← f.required "ticket" Decode.string
    status := ← f.required "status" Decode.string
    gate := ← f.optional "gate" Decode.string
    info := ← f.required "info" Decode.string
    error := ← f.optional "error" Decode.string
    createdAt := ← f.required "created_at" Decode.string
    completedAt := ← f.optional "completed_at" Decode.string }

end RunRow

namespace RecordRow

def toJson (row : RecordRow) : Json :=
  .object [
    ("run", .string row.run),
    ("tenant", .string row.tenant),
    ("ticket", .string row.ticket),
    ("narrative", .string row.narrative),
    ("root_cause", ofString? row.rootCause),
    ("resolution", .string row.resolution),
    ("confidence", ofRank row.confidence),
    ("intent", ofString? row.intent),
    ("sentiment", ofString? row.sentiment),
    ("open_questions", .string row.openQuestions),
    ("risk_tags", .string row.riskTags),
    ("proposals", .string row.proposals),
    ("evidence", .string row.evidence),
    ("analysis", .string row.analysis),
    ("created_at", .string row.createdAt)]

def ofJson? (v : Json) : Option RecordRow := do
  let f ← Fields.ofJson?
    ["run", "tenant", "ticket", "narrative", "root_cause", "resolution", "confidence", "intent",
      "sentiment", "open_questions", "risk_tags", "proposals", "evidence", "analysis", "created_at"] v
  return {
    run := ← f.required "run" Decode.string
    tenant := ← f.required "tenant" Decode.string
    ticket := ← f.required "ticket" Decode.string
    narrative := ← f.required "narrative" Decode.string
    rootCause := ← f.optional "root_cause" Decode.string
    resolution := ← f.required "resolution" Decode.string
    confidence := ← f.required "confidence" rank?
    intent := ← f.optional "intent" Decode.string
    sentiment := ← f.optional "sentiment" Decode.string
    openQuestions := ← f.required "open_questions" Decode.string
    riskTags := ← f.required "risk_tags" Decode.string
    proposals := ← f.required "proposals" Decode.string
    evidence := ← f.required "evidence" Decode.string
    analysis := ← f.required "analysis" Decode.string
    createdAt := ← f.required "created_at" Decode.string }

end RecordRow

/--
The form of a table: its rows in their order, each behind its name.
-/
def tableToJson {α : Type} (encode : α → Json) (t : Table α) : Json :=
  .array (t.rows.map fun (id, row) => .array [.string id, encode row])

def namedRow? {α : Type} (decode : Json → Option α) : Json → Option (String × α)
  | .array [.string id, row] => (decode row).map fun row => (id, row)
  | _ => none

def tableOfJson? {α : Type} (decode : Json → Option α) (v : Json) : Option (Table α) :=
  (Decode.list (namedRow? decode) v).map Table.mk

def toJson (s : Store) : Json :=
  .object [("runs", tableToJson RunRow.toJson s.runs), ("records", tableToJson RecordRow.toJson s.records)]

def ofJson? (v : Json) : Option Store := do
  let f ← Fields.ofJson? ["runs", "records"] v
  return {
    runs := ← f.required "runs" (tableOfJson? RunRow.ofJson?)
    records := ← f.required "records" (tableOfJson? RecordRow.ofJson?) }

def toText (s : Store) : String :=
  s.toJson.compact

/--
The store of a text. A text without any characters stands for the store that holds nothing.
-/
def ofText? (text : String) : Option Store :=
  if text.isEmpty then some empty else (Json.read? text).bind ofJson?

end Store
end Triage
