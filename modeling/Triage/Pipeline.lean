import Triage.Analysis.Codec
import Triage.Archive
import Triage.Context
import Triage.Failure
import Triage.Llm.Gateway
import Triage.Prompt.Registry
import Triage.Repair
import Triage.Run.Codec
import Triage.Schema.Registry

/-!
This module contains the analysis of a ticket from end to end: a prompt is made for the ticket, a model is
asked, its answer is judged, and what came of it is archived. Whatever fails on the way ends in a result too.
-/

namespace Triage

/--
Where cases that are like a ticket and articles about it come from. A source is asked in `m`, and it may fail.
-/
structure Sources (m : Type → Type) where
  similarCases : (tenant : String) → Ticket → m (Except Failure (List Json))
  articles : (tenant : String) → Ticket → m (Except Failure (List Json))

/--
Sources that are there to be read.
-/
abbrev Retrieval := Sources Id

/--
The parts of the analysis. `σ` is the state of the providers of models and `τ` that of the archive.
-/
structure Pipeline (σ τ : Type) where
  gateway : Llm.Gateway σ
  archive : Archive τ
  /-- Whether a result is checked by the schema that the prompt names. -/
  checksResults : Bool
  retrieval : Option Retrieval
  engine : Template.Engine := .plain

namespace Pipeline

def promptId : String := "ticket_analysis_cot_v1"

def purpose : String := "analyze_ticket_cot"

/--
A ticket to be analysed, for whom, and when this starts and ends. The id is fresh.
-/
structure Job where
  id : String
  tenant : String
  ticket : Ticket
  options : Analysis.Options
  started : Timestamp
  finished : Timestamp

/--
What an analysis can change.
-/
structure State (σ τ : Type) where
  prompts : Prompt.Registry
  schemas : Schema.Validator
  providers : σ
  stored : τ

/--
What happens during an analysis.
-/
inductive Event where
  /-- The archive is given a run. -/
  | savedRun (r : Run)
  /-- A provider is asked. -/
  | asked (p : Llm.Provider) (r : Llm.Request)
  /-- The archive is given a record. -/
  | savedRecord (r : Record)
deriving DecidableEq

/--
The result of an analysis, what happened for it in which order, and the state afterwards.
-/
structure Report (σ τ : Type) where
  result : Analysis.Result
  events : List Event
  state : State σ τ

/--
What is put to a model: the request, the number of cases and articles in it, and the schema for the result.
-/
structure Question where
  request : Llm.Request
  retrievalCount : Nat
  outputSchema : Option String

/--
What an answer amounts to.
-/
structure Finding where
  analysis : Json.Object
  gate : Gate
  info : Analysis.Meta

variable {σ τ : Type}

/--
The items of a source, none if it fails.
-/
def itemsOf : Except Failure (List Json) → List Json
  | .ok items => items
  | .error _ => []

/--
The cases and articles for a job. The sources are asked one after the other, and each one stands for itself: one that fails has
nothing.
-/
def retrieve {m : Type → Type} [Monad m] (sources : Option (Sources m)) (job : Job) : m (List Json × List Json) :=
  match if job.options.skipRetrieval then none else sources with
  | none => pure ([], [])
  | some sources => do
    let cases ← sources.similarCases job.tenant job.ticket
    let articles ← sources.articles job.tenant job.ticket
    return (itemsOf cases, itemsOf articles)

def contextOf (retrieval : Option Retrieval) (job : Job) : Context :=
  let (cases, articles) := Id.run (retrieve retrieval job)
  Context.build job.ticket job.options cases articles

def questionOf (engine : Template.Engine) (spec : Prompt.Spec) (context : Context) : Except Failure Question := do
  let messages ← (spec.render context.toJson engine).mapError .prompt
  return {
    request := {
      purpose := purpose
      system := messages.system
      user := messages.user
      temperature := spec.modelDefaults.temperature
      jsonMode := spec.modelDefaults.jsonMode
      maxTokens := some spec.modelDefaults.maxTokens
      timeoutMs := none }
    retrievalCount := context.retrievalCount
    outputSchema := spec.outputSchema }

def filtered (options : Analysis.Options) (analysis : Json.Object) : Json.Object :=
  match options.selectedFields with
  | some selected => Analysis.select selected analysis
  | none => analysis

/--
What the response to a question amounts to, `spentMs` milliseconds after the question. The gate is that of the
whole answer.
-/
def findingOf (job : Job) (question : Question) (response : Llm.Response) (spentMs : Nat) :
    Except Failure Finding := do
  let answer ← (parseAnswer response.content).mapError fun e => .answer e.message
  return {
    analysis := filtered job.options answer
    gate := Gate.ofConfidence (Analysis.confidence answer) job.options.confidenceThreshold
    info := {
      provider := response.provider
      model := response.model
      promptVersion := promptId
      latencyMs := spentMs.toUInt64
      tokenUsage := ⟨0, 0⟩
      retrievalCount := question.retrievalCount.toUInt64
      createdAt := job.finished.offsetText
      usedFallback := response.usedFallback
      attempts := response.attempts
      outputSchemaValid := none
      error := none } }

def resultOf (job : Job) (finding : Finding) : Analysis.Result :=
  { id := job.id
    analysis := finding.analysis
    gate := finding.gate
    info := finding.info
    success := true
    error := none }

def failureResult (job : Job) (failure : Failure) (spentMs : Nat) : Analysis.Result :=
  { id := job.id
    analysis := []
    gate := .teach
    info := {
      provider := "none"
      model := "none"
      promptVersion := promptId
      latencyMs := spentMs.toUInt64
      tokenUsage := ⟨0, 0⟩
      retrievalCount := 0
      createdAt := job.finished.offsetText
      usedFallback := false
      attempts := 0
      outputSchemaValid := none
      error := some failure.message }
    success := false
    error := some failure.message }

def startOf (job : Job) : Run :=
  Run.start job.id job.tenant job.ticket.id job.started

def endOf (job : Job) (result : Analysis.Result) : Run :=
  match result.error with
  | none => (startOf job).complete result.gate result.info.toJson.canonical job.finished
  | some error =>
    (startOf job).fail error (.object [("latency_ms", Json.ofUInt64 result.info.latencyMs)]) job.finished

def recordOf (job : Job) (result : Analysis.Result) : Record :=
  Record.ofAnalysis job.id job.tenant job.ticket.id result.analysis job.finished

/--
The result with the verdict of the schema, if the pipeline checks results and the prompt names a schema.
-/
def checked (p : Pipeline σ τ) (files : Files) (schema : Option String) (result : Analysis.Result)
    (schemas : Schema.Validator) : Analysis.Result × Schema.Validator :=
  match if p.checksResults then schema else none with
  | none => (result, schemas)
  | some name =>
    let (valid, schemas) := schemas.accepts files name result.toJson.canonical
    ({ result with info := { result.info with outputSchemaValid := some valid } }, schemas)

def conclude (p : Pipeline σ τ) (job : Job) (failure : Failure) (spentMs : Nat) (events : List Event)
    (s : State σ τ) : Report σ τ :=
  let result := failureResult job failure spentMs
  let run := endOf job result
  let (_, stored) := p.archive.saveRun run s.stored
  { result := result, events := events ++ [.savedRun run], state := { s with stored := stored } }

def succeed (p : Pipeline σ τ) (files : Files) (job : Job) (schema : Option String) (finding : Finding)
    (events : List Event) (s : State σ τ) : Report σ τ :=
  let (result, schemas) := p.checked files schema (resultOf job finding) s.schemas
  let run := endOf job result
  let record := recordOf job result
  let (_, stored) := p.archive.saveRun run s.stored
  let (_, stored) := p.archive.saveRecord record stored
  { result := result
    events := events ++ [.savedRun run, .savedRecord record]
    state := { s with schemas := schemas, stored := stored } }

def inquire (p : Pipeline σ τ) (files : Files) (job : Job) (question : Question) (events : List Event)
    (s : State σ τ) : Report σ τ :=
  let outcome := p.gateway.generate question.request none s.providers
  let events := events ++ outcome.asked.map fun provider => .asked provider question.request
  let s := { s with providers := outcome.providers }
  match outcome.result with
  | .error e => p.conclude job (.llm e) outcome.spentMs events s
  | .ok response =>
    match findingOf job question response outcome.spentMs with
    | .error failure => p.conclude job failure outcome.spentMs events s
    | .ok finding => p.succeed files job question.outputSchema finding events s

def analyze (p : Pipeline σ τ) (files : Files) (job : Job) (s : State σ τ) : Report σ τ :=
  let run := startOf job
  let (_, stored) := p.archive.saveRun run s.stored
  let (spec, prompts) := s.prompts.load files promptId
  let s := { s with prompts := prompts, stored := stored }
  match spec with
  | .error e => p.conclude job (.prompt e) 0 [.savedRun run] s
  | .ok spec =>
    match questionOf p.engine spec (contextOf p.retrieval job) with
    | .error failure => p.conclude job failure 0 [.savedRun run] s
    | .ok question => p.inquire files job question [.savedRun run] s

end Pipeline
end Triage
