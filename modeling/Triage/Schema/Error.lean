/-!
This module contains the reasons why a value is refused by a schema, or why there is no schema to ask.
-/

namespace Triage
namespace Schema

/--
Why a value is not accepted.
-/
inductive Error where
  /-- There is no file for the schema. -/
  | notFound (name : String) (path : String)
  /-- The file holds no JSON. -/
  | malformed (name : String)
  /-- The file holds JSON that is no schema. -/
  | invalidSchema (name : String)
  /-- The value breaks rules of the schema. -/
  | invalid (name : String) (violations : List String)
deriving DecidableEq

namespace Error

def message : Error → String
  | .notFound name path => "Schema not found: " ++ name ++ " at " ++ path
  | .malformed name => "Failed to parse schema " ++ name ++ ": <schema error>"
  | .invalidSchema name => "Failed to parse schema " ++ name ++ ": Invalid JSON Schema: <schema error>"
  | .invalid name violations =>
    "Input validation failed against " ++ name ++ ": " ++ "; ".intercalate violations

def code : Error → String
  | .notFound .. => "SCHEMA_NOT_FOUND"
  | .malformed _ | .invalidSchema _ => "SCHEMA_PARSE_ERROR"
  | .invalid .. => "INVALID_INPUT_SCHEMA"

/--
Whether the fault lies with the schema and not with the value.
-/
def isMisconfiguration : Error → Bool
  | .invalid .. => false
  | _ => true

end Error
end Schema
end Triage
