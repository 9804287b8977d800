import Triage.Llm.Error
import Triage.Prompt.Error
import Triage.Schema.Error
import Triage.Store.Error

/-!
This module contains the failures of the program as a whole.
-/

namespace Triage

/--
Why the program fails.
-/
inductive Failure where
  | configuration (reason : String)
  | prompt (error : Prompt.Error)
  | llm (error : Llm.Error)
  | schema (error : Schema.Error)
  | store (error : Store.Error)
  /-- A model has answered with something else than an object. -/
  | answer (reason : String)
  | internal (reason : String)
deriving DecidableEq

def Failure.message : Failure → String
  | .configuration reason => "Configuration error: " ++ reason
  | .prompt error => "Prompt error: " ++ error.message
  | .llm error => "LLM error: " ++ error.message
  | .schema error => "Schema error: " ++ error.message
  | .store error => "Storage error: " ++ error.message
  | .answer reason => "Failed to parse LLM response: " ++ reason
  | .internal reason => "Internal error: " ++ reason

end Triage
