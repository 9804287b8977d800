import Triage.Store

/-!
This module contains the backends that runs and records are kept in. A backend has a state of any kind and may
refuse any request; the store refuses the records that it cannot take, and no other request.
-/

namespace Triage
namespace Store

/--
What a backend with the state `τ` does when it is asked. `now` is the present point in time.
-/
structure Backend (τ : Type) where
  /-- Save a run. The answer is `false` if the run has ended before. -/
  saveRun : Run → τ → Except Error Bool × τ
  /-- Save a record. -/
  saveRecord : Record → τ → Except Error Unit × τ
  /-- The run of an id. -/
  run? : (now : Timestamp) → (id : String) → τ → Except Error (Option Run)
  /-- The runs of a ticket, the latest first. -/
  runs? : (now : Timestamp) → (tenant ticket : String) → (limit : UInt32) → τ → Except Error (List Run)
  /-- The record of an id, if it belongs to the tenant. -/
  record? : (now : Timestamp) → (id tenant : String) → τ → Except Error (Option Record)

/--
Why a record cannot be stored that has no confidence.
-/
def refusal : Error :=
  .database "error returned from database: (code: 1299) NOT NULL constraint failed: ticket_analyses.confidence"

def backend : Backend Store where
  saveRun r s := let (saved, s) := s.saveRun r; (.ok saved, s)
  saveRecord r s := (if takes r then .ok () else .error refusal, s.saveRecord r)
  run? now id s := s.run? now id
  runs? now tenant ticket limit s := s.runs? now tenant ticket limit
  record? now id tenant s := .ok (s.record? now id tenant)

def Backend.broken (e : Error) : Backend Unit where
  saveRun _ s := (.error e, s)
  saveRecord _ s := (.error e, s)
  run? _ _ _ := .error e
  runs? _ _ _ _ _ := .error e
  record? _ _ _ _ := .error e

end Store
end Triage
