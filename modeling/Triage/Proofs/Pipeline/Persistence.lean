import Triage.Proofs.Loading
import Triage.Proofs.Pipeline.Calls

/-!
This module contains what an archive means to an analysis: nothing. With any other archive the providers are asked the
same, and the result is the same but for its id and its times.
-/

namespace Triage
namespace Pipeline

variable {σ τ τ' : Type}

def withArchive (p : Pipeline σ τ) (a : Archive τ') : Pipeline σ τ' :=
  { p with archive := a }

def Job.at (job : Job) (id : String) (started finished : Timestamp) : Job :=
  { job with id := id, started := started, finished := finished }

/--
A result as it is before a schema judges it.
-/
def unjudged (r : Analysis.Result) : Analysis.Result :=
  { r with info := { r.info with outputSchemaValid := none } }

/--
What a schema says about a result, its id and its times included.
-/
def verdict (files : Files) (schemas : Schema.Validator) (r : Analysis.Result) (name : String) : Bool :=
  (schemas.accepts files name (unjudged r).toJson.canonical).1

/--
A result without its id, its times and the verdict of the schema.
-/
def unstamped (r : Analysis.Result) : Analysis.Result :=
  { r with id := "", info := { r.info with latencyMs := 0, createdAt := "", outputSchemaValid := none } }

/--
Two results that are the same but for their ids and their times, and for what the same schema says about these.
-/
structure SameResult (files : Files) (schemas : Schema.Validator) (r r' : Analysis.Result) : Prop where
  unstamped : unstamped r = unstamped r'
  verdicts : ∃ schema : Option String,
    r.info.outputSchemaValid = schema.map (verdict files schemas r) ∧
    r'.info.outputSchemaValid = schema.map (verdict files schemas r')

/--
Two states that are the same but for what is stored.
-/
structure SameButStored (s : State σ τ) (s' : State σ τ') : Prop where
  prompts : s.prompts = s'.prompts
  schemas : s.schemas = s'.schemas
  providers : s.providers = s'.providers

/--
Two reports that tell of the same but for the archives.
-/
structure SameCourse (files : Files) (schemas : Schema.Validator) (r : Report σ τ) (r' : Report σ τ') : Prop where
  result : SameResult files schemas r.result r'.result
  requests : r.requests = r'.requests
  state : SameButStored r.state r'.state

theorem unjudged_eq_of_stamps {r r' : Analysis.Result} (h : unstamped r = unstamped r') (hid : r.id = r'.id)
    (hcreated : r.info.createdAt = r'.info.createdAt) (hlatency : r.info.latencyMs = r'.info.latencyMs) :
    unjudged r = unjudged r' := by
  have hstamp (r : Analysis.Result) : unjudged r = { unstamped r with
      id := r.id
      info := { (unstamped r).info with latencyMs := r.info.latencyMs, createdAt := r.info.createdAt } } := rfl
  rw [hstamp r, hstamp r', h, hid, hcreated, hlatency]

theorem SameResult.eq_of_stamps {files : Files} {schemas : Schema.Validator} {r r' : Analysis.Result}
    (h : SameResult files schemas r r') (hid : r.id = r'.id) (hcreated : r.info.createdAt = r'.info.createdAt)
    (hlatency : r.info.latencyMs = r'.info.latencyMs) : r = r' := by
  have hunjudged : unjudged r = unjudged r' := unjudged_eq_of_stamps h.unstamped hid hcreated hlatency
  have hvalid : r.info.outputSchemaValid = r'.info.outputSchemaValid := by
    obtain ⟨schema, hverdict, hverdict'⟩ := h.verdicts
    rw [hverdict, hverdict']
    unfold verdict
    rw [hunjudged]
  have hjudge (r : Analysis.Result) : r = { unjudged r with
      info := { (unjudged r).info with outputSchemaValid := r.info.outputSchemaValid } } := rfl
  rw [hjudge r, hjudge r', hunjudged, hvalid]

variable {p : Pipeline σ τ} {a : Archive τ'} {s : State σ τ} {s' : State σ τ'} {events events' : List Event}
variable {job : Job} {id : String} {started finished : Timestamp}

theorem sameCourse_conclude (hs : SameButStored s s')
    (hevents : events.filterMap Event.request? = events'.filterMap Event.request?)
    (files : Files) (schemas : Schema.Validator) (failure : Failure) (spentMs : Nat) :
    SameCourse files schemas (p.conclude job failure spentMs events s)
      ((p.withArchive a).conclude (job.at id started finished) failure spentMs events' s') := by
  constructor
  . exact ⟨rfl, none, rfl, rfl⟩
  . rw [requests_conclude, requests_conclude, hevents]
  . exact ⟨hs.prompts, hs.schemas, hs.providers⟩

def Finding.at (finding : Finding) (finished : Timestamp) : Finding :=
  { finding with info := { finding.info with createdAt := finished.offsetText } }

theorem findingOf_at (question : Question) (response : Llm.Response) (spentMs : Nat) :
    findingOf (job.at id started finished) question response spentMs =
      (findingOf job question response spentMs).map (·.at finished) := by
  unfold findingOf
  cases parseAnswer response.content <;> rfl

theorem sameResult_checked {r r' : Analysis.Result} (h : unstamped r = unstamped r')
    (hr : r.info.outputSchemaValid = none) (hr' : r'.info.outputSchemaValid = none)
    (files : Files) (schema : Option String) (schemas : Schema.Validator) :
    SameResult files schemas (p.checked files schema r schemas).1
      ((p.withArchive a).checked files schema r' schemas).1 ∧
    (p.checked files schema r schemas).2 = ((p.withArchive a).checked files schema r' schemas).2 := by
  have hchecks : (p.withArchive a).checksResults = p.checksResults := rfl
  unfold checked
  rw [hchecks]
  -- The values differ in their stamps, so the schema may judge them differently, but it is loaded in the same way.
  cases if p.checksResults then schema else none with
  | none => exact ⟨⟨h, none, hr, hr'⟩, rfl⟩
  | some name =>
    refine ⟨⟨h, some name, ?_, ?_⟩, Schema.Validator.accepts_congr files schemas name _ _⟩
    . simp [verdict, unjudged, ← hr]
    . simp [verdict, unjudged, ← hr']

theorem sameCourse_succeed (hs : SameButStored s s')
    (hevents : events.filterMap Event.request? = events'.filterMap Event.request?)
    (files : Files) (schema : Option String) (finding : Finding) (hfinding : finding.info.outputSchemaValid = none) :
    SameCourse files s.schemas (p.succeed files job schema finding events s)
      ((p.withArchive a).succeed files (job.at id started finished) schema (finding.at finished) events' s') := by
  have hresult : unstamped (resultOf job finding) =
      unstamped (resultOf (job.at id started finished) (finding.at finished)) := rfl
  obtain ⟨hchecked, hschemas⟩ := sameResult_checked (p := p) (a := a) hresult hfinding hfinding files schema s.schemas
  constructor
  . unfold succeed
    rw [← hs.schemas]
    exact hchecked
  . rw [requests_succeed, requests_succeed, hevents]
  . unfold succeed
    rw [← hs.schemas]
    exact ⟨hs.prompts, hschemas, hs.providers⟩

theorem outputSchemaValid_of_findingOf {question : Question} {response : Llm.Response} {spentMs : Nat}
    {finding : Finding} (h : findingOf job question response spentMs = .ok finding) :
    finding.info.outputSchemaValid = none := by
  unfold findingOf at h
  cases hanswer : parseAnswer response.content with
  | error e =>
    rw [hanswer] at h
    contradiction
  | ok answer =>
    rw [hanswer] at h
    cases h
    rfl

theorem sameCourse_inquire (hs : SameButStored s s')
    (hevents : events.filterMap Event.request? = events'.filterMap Event.request?)
    (files : Files) (question : Question) :
    SameCourse files s.schemas (p.inquire files job question events s)
      ((p.withArchive a).inquire files (job.at id started finished) question events' s') := by
  have hgateway : (p.withArchive a).gateway = p.gateway := rfl
  unfold inquire
  rw [hgateway, ← hs.providers]
  generalize p.gateway.generate question.request none s.providers = outcome
  have hasked (asked : List Event) : (events ++ asked).filterMap Event.request? =
      (events' ++ asked).filterMap Event.request? := by
    rw [List.filterMap_append, List.filterMap_append, hevents]
  have hs' : SameButStored { s with providers := outcome.providers } { s' with providers := outcome.providers } :=
    ⟨hs.prompts, hs.schemas, rfl⟩
  dsimp only
  cases outcome.result with
  | error e => exact sameCourse_conclude hs' (hasked _) _ _ _ _
  | ok response =>
    dsimp only
    rw [findingOf_at]
    cases hfinding : findingOf job question response outcome.spentMs with
    | error failure => exact sameCourse_conclude hs' (hasked _) _ _ _ _
    | ok finding =>
      exact sameCourse_succeed hs' (hasked _) files _ finding (outputSchemaValid_of_findingOf hfinding)

/--
One analysis takes its course, whatever the archive does with what it is given.
-/
theorem sameCourse_analyze (hs : SameButStored s s') (files : Files) (job : Job) (id : String)
    (started finished : Timestamp) :
    SameCourse files s.schemas (p.analyze files job s)
      ((p.withArchive a).analyze files (job.at id started finished) s') := by
  have hcontext : contextOf (p.withArchive a).retrieval (job.at id started finished) = contextOf p.retrieval job := rfl
  have hengine : (p.withArchive a).engine = p.engine := rfl
  unfold analyze
  rw [hcontext, hengine, ← hs.prompts]
  dsimp only
  generalize hs₁ : State.mk (s.prompts.load files promptId).2 s.schemas s.providers _ = s₁
  generalize hs₁' : State.mk (s.prompts.load files promptId).2 s'.schemas s'.providers _ = s₁'
  have hloaded : SameButStored s₁ s₁' := by
    subst hs₁ hs₁'
    exact ⟨rfl, hs.schemas, hs.providers⟩
  have hschemas : s.schemas = s₁.schemas := by rw [← hs₁]
  have hstarted : [Event.savedRun (startOf job)].filterMap Event.request? =
      [Event.savedRun (startOf (job.at id started finished))].filterMap Event.request? := rfl
  rw [hschemas]
  cases (s.prompts.load files promptId).1 with
  | error e => exact sameCourse_conclude hloaded hstarted _ _ _ _
  | ok spec =>
    dsimp only
    cases questionOf p.engine spec (contextOf p.retrieval job) with
    | error failure => exact sameCourse_conclude hloaded hstarted _ _ _ _
    | ok question => exact sameCourse_inquire hloaded hstarted files question

/--
A call, and what may be different when the same analysis is made with another archive.
-/
structure Rerun (σ τ τ' : Type) where
  call : Call σ τ
  archive : Archive τ'
  id : String
  started : Timestamp
  finished : Timestamp

def Rerun.recall (r : Rerun σ τ τ') : Call σ τ' :=
  { pipeline := r.call.pipeline.withArchive r.archive
    files := r.call.files
    job := r.call.job.at r.id r.started r.finished }

theorem Rerun.sameCourse (r : Rerun σ τ τ') (hs : SameButStored s s') :
    SameCourse r.call.files s.schemas (r.call.report s) (r.recall.report s') :=
  sameCourse_analyze hs r.call.files r.call.job r.id r.started r.finished

theorem sameButStored_after (reruns : List (Rerun σ τ τ')) (hs : SameButStored s s') :
    SameButStored (Call.after s (reruns.map (·.call))) (Call.after s' (reruns.map (·.recall))) := by
  induction reruns generalizing s s' with
  | nil => exact hs
  | cons r reruns ih => exact ih (r.sameCourse hs).state

/--
Archives do not influence analyses. Whatever backends there are and whatever they hold, accept and refuse, after any other
analyses the next one asks the same of the providers and has the same result but for its id and its times, about which
the same schema is asked. If these are the same, so is the whole result.
-/
theorem report_of_any_archive (reruns : List (Rerun σ τ τ')) (r : Rerun σ τ τ') (s : State σ τ) (stored : τ') :
    let before := Call.after s (reruns.map (·.call))
    let before' := Call.after ⟨s.prompts, s.schemas, s.providers, stored⟩ (reruns.map (·.recall))
    SameCourse r.call.files before.schemas (r.call.report before) (r.recall.report before') ∧
    ((r.call.report before).result.id = (r.recall.report before').result.id →
      (r.call.report before).result.info.createdAt = (r.recall.report before').result.info.createdAt →
      (r.call.report before).result.info.latencyMs = (r.recall.report before').result.info.latencyMs →
      (r.call.report before).result = (r.recall.report before').result) := by
  intro before before'
  have hbefore : SameButStored before before' := sameButStored_after reruns ⟨rfl, rfl, rfl⟩
  exact ⟨r.sameCourse hbefore, (r.sameCourse hbefore).result.eq_of_stamps⟩

end Pipeline
end Triage
