import Triage.Json.Fields
import Triage.Json.Skim

/-!
This module contains the completions that servers answer with.
-/

namespace Triage
namespace Llm

open Json

/--
One of the answers of a model.
-/
structure Choice where
  content : Option String
  finishReason : Option String
deriving DecidableEq

/--
The tokens that a server counts.
-/
structure TokenCount where
  prompt : Option UInt32
  completion : Option UInt32
  total : Option UInt32
deriving DecidableEq

/--
The answer of a server to a request.
-/
structure Completion where
  model : Option String
  choices : List Choice
  usage : Option TokenCount
deriving DecidableEq

def Choice.messageContent? (v : Json) : Option (Option String) := do
  let f ← Fields.ofJson? ["content"] v
  f.orDefault "content" (Fields.nullable Decode.string) none

def Choice.ofJson? (v : Json) : Option Choice := do
  let f ← Fields.ofJson? ["message", "finish_reason"] v
  return {
    content := ← f.required "message" Choice.messageContent?
    finishReason := ← f.orDefault "finish_reason" (Fields.nullable Decode.string) none }

def Choice.shape : Shape :=
  .record [("message", .record [("content", .single)]), ("finish_reason", .single)]

def TokenCount.ofJson? (v : Json) : Option TokenCount := do
  let f ← Fields.ofJson? ["prompt_tokens", "completion_tokens", "total_tokens"] v
  return {
    prompt := ← f.optional "prompt_tokens" Decode.uint32
    completion := ← f.optional "completion_tokens" Decode.uint32
    total := ← f.optional "total_tokens" Decode.uint32 }

def TokenCount.shape : Shape :=
  .record [("prompt_tokens", .single), ("completion_tokens", .single), ("total_tokens", .single)]

namespace Completion

def ofJson? (v : Json) : Option Completion := do
  let f ← Fields.ofJson? ["model", "choices", "usage"] v
  return {
    model := ← f.orDefault "model" (Fields.nullable Decode.string) none
    choices := ← f.required "choices" (Decode.list Choice.ofJson?)
    usage := ← f.orDefault "usage" (Fields.nullable TokenCount.ofJson?) none }

/--
What is wanted of the body of a reply.
-/
def shape : Shape :=
  .record [("model", .single), ("choices", .list Choice.shape), ("usage", TokenCount.shape)]

/--
The completion in the body of a reply. What is not wanted of the body is skipped.
-/
def read? (body : String) : Option Completion :=
  (skim? shape body).bind ofJson?

def firstContent? (c : Completion) : Option String :=
  c.choices.head?.bind Choice.content

end Completion
end Llm
end Triage
