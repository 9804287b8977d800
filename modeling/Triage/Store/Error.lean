/-!
This module contains the reasons why runs and records cannot be stored or read.
-/

namespace Triage
namespace Store

/--
Why a store does not do what it is asked.
-/
inductive Error where
  /-- The store cannot be opened. -/
  | connection (reason : String)
  /-- The store refuses a request. -/
  | query (reason : String)
  /-- The tables of the store cannot be made. -/
  | migration (reason : String)
  /-- The database below the store fails. -/
  | database (reason : String)
deriving DecidableEq

def Error.message : Error → String
  | .connection reason => "Database connection failed: " ++ reason
  | .query reason => "Query failed: " ++ reason
  | .migration reason => "Migration failed: " ++ reason
  | .database reason => "SQLx error: " ++ reason

end Store
end Triage
