import Triage.Pipeline

/-!
This module contains calls of pipelines, one after the other, where each one goes on with the state that the one before
it has left.
-/

namespace Triage
namespace Pipeline

variable {σ τ : Type}

/--
A pipeline, and what it is given in a call.
-/
structure Call (σ τ : Type) where
  pipeline : Pipeline σ τ
  files : Files
  job : Job

namespace Call

def report (c : Call σ τ) (s : State σ τ) : Report σ τ :=
  c.pipeline.analyze c.files c.job s

def after (s : State σ τ) (calls : List (Call σ τ)) : State σ τ :=
  calls.foldl (fun s c => (c.report s).state) s

end Call

/--
What a provider was asked, if this is the event.
-/
def Event.request? : Event → Option (Llm.Provider × Llm.Request)
  | .asked p r => some (p, r)
  | .savedRun _ | .savedRecord _ => none

def Report.requests (r : Report σ τ) : List (Llm.Provider × Llm.Request) :=
  r.events.filterMap Event.request?

theorem requests_conclude (p : Pipeline σ τ) (job : Job) (failure : Failure) (spentMs : Nat) (events : List Event)
    (s : State σ τ) : (p.conclude job failure spentMs events s).requests = events.filterMap Event.request? := by
  unfold Report.requests conclude
  dsimp only
  rw [List.filterMap_append]
  exact List.append_nil _

theorem requests_succeed (p : Pipeline σ τ) (files : Files) (job : Job) (schema : Option String) (finding : Finding)
    (events : List Event) (s : State σ τ) :
    (p.succeed files job schema finding events s).requests = events.filterMap Event.request? := by
  unfold Report.requests succeed
  dsimp only
  rw [List.filterMap_append]
  exact List.append_nil _

end Pipeline
end Triage
