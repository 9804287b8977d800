import Triage.Llm.Provider

/-!
This module contains the reasons why a request to a language model fails.
-/

namespace Triage
namespace Llm

/--
Why an answer of a server is of no use.
-/
inductive BadAnswer where
  /-- An object was asked for and something else was sent. -/
  | notAnObject
  /-- The body is no completion. -/
  | malformedBody
  /-- The first choice has no text. -/
  | noContent
  /-- Some other reason that a provider gives. -/
  | other (reason : String)
deriving DecidableEq

def BadAnswer.message : BadAnswer → String
  | .notAnObject => "LLM JSON mode must return a JSON object"
  | .malformedBody => "Failed to parse response: <decode error>"
  | .noContent => "Response contained no message content"
  | .other reason => reason

/--
Why a request fails.
-/
inductive Error where
  /-- The provider did not answer in time. -/
  | timeout (provider : String) (purpose : String) (milliseconds : UInt64)
  /-- The route names a provider that is not registered. -/
  | unknownProvider (provider : String)
  /-- The route is empty. -/
  | emptyRoute (purpose : String)
  /-- The server refused the request. -/
  | api (status : UInt16) (body : String)
  /-- The server sent an answer of no use. -/
  | invalidResponse (reason : BadAnswer)
  /-- The request did not reach a server, or its answer did not come back. -/
  | transport
deriving DecidableEq

namespace Error

def message : Error → String
  | .timeout provider purpose milliseconds =>
    "Timeout provider=" ++ provider ++ " purpose=" ++ purpose ++ " after "
      ++ toString milliseconds.toNat ++ "ms"
  | .unknownProvider provider => "Unknown provider: " ++ provider
  | .emptyRoute purpose => "No providers in route for purpose: " ++ purpose
  | .api status body => "API error: " ++ toString status.toNat ++ " - " ++ body
  | .invalidResponse reason => "Invalid response: " ++ reason.message
  | .transport => "HTTP error: <transport error>"

/--
Whether a request failed because it took too long.
-/
def isTimeout : Error → Bool
  | .timeout .. => true
  | _ => false

end Error
end Llm
end Triage
