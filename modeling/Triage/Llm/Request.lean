import Triage.Json.Fields

/-!
This module contains the requests to language models and the responses to them.
-/

namespace Triage
namespace Llm

open Json

/--
What a model is asked.
-/
structure Request where
  purpose : String
  system : String
  user : String
  temperature : Single
  /-- Whether the answer has to be a JSON object. -/
  jsonMode : Bool
  maxTokens : Option UInt32
  timeoutMs : Option UInt64
deriving DecidableEq

/--
The answer of a model and how it was come by.
-/
structure Response where
  content : String
  provider : String
  model : String
  latencyMs : UInt64
  /-- The number of positions of the route that were tried. -/
  attempts : UInt32
  usedFallback : Bool
deriving DecidableEq

def Response.toJson (r : Response) : Json :=
  .object [
    ("content", .string r.content),
    ("provider", .string r.provider),
    ("model", .string r.model),
    ("latency_ms", ofUInt64 r.latencyMs),
    ("attempts", ofUInt32 r.attempts),
    ("used_fallback", .bool r.usedFallback)]

def Response.ofJson? (v : Json) : Option Response := do
  let f ← Fields.ofJson?
    ["content", "provider", "model", "latency_ms", "attempts", "used_fallback"] v
  return {
    content := ← f.required "content" Decode.string
    provider := ← f.required "provider" Decode.string
    model := ← f.required "model" Decode.string
    latencyMs := ← f.required "latency_ms" Decode.uint64
    attempts := ← f.required "attempts" Decode.uint32
    usedFallback := ← f.required "used_fallback" Decode.bool }

end Llm
end Triage
