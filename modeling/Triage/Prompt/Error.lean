/-!
This module contains the reasons why a prompt cannot be used.
-/

namespace Triage
namespace Prompt

/--
Why a prompt cannot be used.
-/
inductive Error where
  /-- There is no file for the prompt. -/
  | notFound (id : String) (path : String)
  /-- The file holds no prompt. -/
  | malformed (id : String)
  /-- The file does not give a field that every prompt has. -/
  | missingField (id : String) (field : String)
  /-- A template of the prompt is malformed, or does not go with its context. -/
  | render (id : String)
  /-- The files of prompts cannot be read. -/
  | unreadable (reason : String)
deriving DecidableEq

def Error.message : Error → String
  | .notFound id path => "Prompt not found: " ++ id ++ " at " ++ path
  | .malformed id => "Failed to parse prompt " ++ id ++ ": <yaml error>"
  | .missingField id field => "Prompt " ++ id ++ " missing required field: " ++ field
  | .render id => "Failed to render prompt template " ++ id ++ ": <template error>"
  | .unreadable reason => "Failed to read prompt registry: " ++ reason

end Prompt
end Triage
