import Triage.Analysis
import Triage.Json.Fields

/-!
This module contains the JSON form of options and results.
-/

namespace Triage

open Json

namespace Gate

def toJson (g : Gate) : Json :=
  .string g.name

def ofJson? (v : Json) : Option Gate :=
  (Decode.name v).bind ofName?

end Gate

namespace Analysis

def Options.toJson (o : Options) : Json :=
  .object [
    ("skip_retrieval", .bool o.skipRetrieval),
    ("include_evidence", .bool o.includeEvidence),
    ("confidence_threshold", ofDouble o.confidenceThreshold),
    ("selected_fields", match o.selectedFields with
      | some names => .array (names.map .string)
      | none => .null),
    ("response_tone", .string o.responseTone)]

def Options.ofJson? (v : Json) : Option Options := do
  let f ← Fields.ofJson?
    ["skip_retrieval", "include_evidence", "confidence_threshold", "selected_fields", "response_tone"] v
  let d := Options.standard
  return {
    skipRetrieval := ← f.orDefault "skip_retrieval" Decode.bool d.skipRetrieval
    includeEvidence := ← f.orDefault "include_evidence" Decode.bool d.includeEvidence
    confidenceThreshold := ← f.orDefault "confidence_threshold" Decode.double d.confidenceThreshold
    selectedFields := ←
      f.orDefault "selected_fields" (Fields.nullable (Decode.list Decode.string)) d.selectedFields
    responseTone := ← f.orDefault "response_tone" Decode.string d.responseTone }

def TokenUsage.toJson (u : TokenUsage) : Json :=
  .object [("input", ofUInt64 u.input), ("output", ofUInt64 u.output)]

def TokenUsage.ofJson? (v : Json) : Option TokenUsage := do
  let f ← Fields.ofJson? ["input", "output"] v
  return {
    input := ← f.required "input" Decode.uint64
    output := ← f.required "output" Decode.uint64 }

def Meta.toJson (m : Meta) : Json :=
  .object <|
    [("llm_provider", .string m.provider), ("llm_model", .string m.model),
      ("prompt_version", .string m.promptVersion), ("latency_ms", ofUInt64 m.latencyMs),
      ("token_usage", m.tokenUsage.toJson), ("retrieval_count", ofUInt64 m.retrievalCount),
      ("created_at", .string m.createdAt), ("used_fallback", .bool m.usedFallback),
      ("attempts", ofUInt32 m.attempts)]
    ++ memberIf "output_schema_valid" (m.outputSchemaValid.map .bool)
    ++ memberIf "error" (m.error.map .string)

/--
The names of the fields of `Meta`, in their order.
-/
def Meta.keys : List String :=
  ["llm_provider", "llm_model", "prompt_version", "latency_ms", "token_usage", "retrieval_count",
    "created_at", "used_fallback", "attempts", "output_schema_valid", "error"]

def Meta.ofJson? (v : Json) : Option Meta := do
  let f ← Fields.ofJson? Meta.keys v
  return {
    provider := ← f.required "llm_provider" Decode.string
    model := ← f.required "llm_model" Decode.string
    promptVersion := ← f.required "prompt_version" Decode.string
    latencyMs := ← f.required "latency_ms" Decode.uint64
    tokenUsage := ← f.required "token_usage" TokenUsage.ofJson?
    retrievalCount := ← f.required "retrieval_count" Decode.uint64
    createdAt := ← f.required "created_at" Decode.string
    usedFallback := ← f.required "used_fallback" Decode.bool
    attempts := ← f.required "attempts" Decode.uint32
    outputSchemaValid := ← f.orDefault "output_schema_valid" (Fields.nullable Decode.bool) none
    error := ← f.orDefault "error" (Fields.nullable Decode.string) none }

def Result.toJson (r : Result) : Json :=
  .object <|
    [("analysis_id", .string r.id), ("analysis", .object r.analysis), ("gate", r.gate.toJson),
      ("meta", r.info.toJson), ("success", .bool r.success)]
    ++ memberIf "error" (r.error.map .string)

def Result.ofJson? (v : Json) : Option Result := do
  let f ← Fields.ofJson? ["analysis_id", "analysis", "gate", "meta", "success", "error"] v
  return {
    id := ← f.required "analysis_id" Decode.string
    analysis := ← f.required "analysis" Decode.object
    gate := ← f.required "gate" Gate.ofJson?
    info := ← f.required "meta" Meta.ofJson?
    success := ← f.required "success" Decode.bool
    error := ← f.orDefault "error" (Fields.nullable Decode.string) none }

end Analysis
end Triage
