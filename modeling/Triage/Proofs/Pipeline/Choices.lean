import Triage.Proofs.Pipeline.Persistence

/-!
This module contains what the threshold and the selected fields mean to an analysis: nothing until there is an answer.
Whatever is chosen, the providers are asked the same, and the results differ in the gate and the proposals only.
-/

namespace Triage

theorem Gate.ofConfidence_congr {threshold threshold' : Double}
    (h : threshold.max editLevel = threshold'.max editLevel) (confidence : Double) :
    ofConfidence confidence threshold = ofConfidence confidence threshold' := by
  unfold ofConfidence
  rw [h]

namespace Pipeline

variable {σ τ τ' : Type}

/--
The same job with another threshold and other fields to keep proposals for.
-/
def Job.choosing (job : Job) (threshold : Double) (selected : Option (List String)) : Job :=
  { job with options := { job.options with confidenceThreshold := threshold, selectedFields := selected } }

/--
Two results of one answer, the second one with the given threshold in place of that of the job. They differ in their
proposals, in their gates if the thresholds raise the level of `edit` differently, and in what says when they were made
and whether they fit a schema.
-/
structure SameAnswer (job : Job) (threshold : Double) (r r' : Analysis.Result) : Prop where
  success : r.success = r'.success
  error : r.error = r'.error
  info : (unstamped r).info = (unstamped r').info
  analysis : ∀ key, key ≠ Analysis.proposalsKey → r.analysis.get? key = r'.analysis.get? key
  gate : job.options.confidenceThreshold.max Gate.editLevel = threshold.max Gate.editLevel → r.gate = r'.gate

/--
Two reports that tell of the same answer to the same requests.
-/
structure SameInquiry (job : Job) (threshold : Double) (r : Report σ τ) (r' : Report σ τ') : Prop where
  requests : r.requests = r'.requests
  result : SameAnswer job threshold r.result r'.result
  state : SameButStored r.state r'.state

variable {p : Pipeline σ τ} {job : Job} {threshold : Double} {selected : Option (List String)}

theorem SameAnswer.refl (job : Job) (threshold : Double) (r : Analysis.Result) : SameAnswer job threshold r r :=
  ⟨rfl, rfl, rfl, fun _ _ => rfl, fun _ => rfl⟩

theorem SameInquiry.refl (job : Job) (threshold : Double) (r : Report σ τ) : SameInquiry job threshold r r :=
  ⟨rfl, .refl job threshold r.result, ⟨rfl, rfl, rfl⟩⟩

theorem SameAnswer.of_unstamped {r r' r'' : Analysis.Result} (h : SameAnswer job threshold r r')
    (hstamps : unstamped r' = unstamped r'') : SameAnswer job threshold r r'' := by
  have hsuccess := congrArg Analysis.Result.success hstamps
  have herror := congrArg Analysis.Result.error hstamps
  have hinfo := congrArg Analysis.Result.info hstamps
  have hanalysis := congrArg Analysis.Result.analysis hstamps
  have hgate := congrArg Analysis.Result.gate hstamps
  constructor
  . exact h.success.trans hsuccess
  . exact h.error.trans herror
  . exact h.info.trans hinfo
  . intro key hkey
    rw [h.analysis key hkey]
    exact congrArg (Members.get? key) hanalysis
  . intro hthreshold
    exact (h.gate hthreshold).trans hgate

theorem SameInquiry.of_sameCourse {files : Files} {schemas : Schema.Validator} {r r' : Report σ τ} {r'' : Report σ τ'}
    (h : SameInquiry job threshold r r') (hcourse : SameCourse files schemas r' r'') :
    SameInquiry job threshold r r'' := by
  constructor
  . rw [h.requests, hcourse.requests]
  . exact h.result.of_unstamped hcourse.result.unstamped
  . exact ⟨h.state.prompts.trans hcourse.state.prompts, h.state.schemas.trans hcourse.state.schemas,
      h.state.providers.trans hcourse.state.providers⟩

theorem get?_filtered_of_ne (options : Analysis.Options) (analysis : Json.Object) {key : String}
    (h : key ≠ Analysis.proposalsKey) : (filtered options analysis).get? key = analysis.get? key := by
  unfold filtered Analysis.select
  split
  . split
    . rfl
    . rw [Members.get?_insert_of_ne _ _ h]
  . rfl

/--
The answer of a model is found or not whatever is chosen. The gate is that of the answer as it was given.
-/
theorem findingOf_choosing (job : Job) (threshold : Double) (selected : Option (List String)) (question : Question)
    (response : Llm.Response) (spentMs : Nat) :
    (∃ failure, findingOf job question response spentMs = .error failure ∧
      findingOf (job.choosing threshold selected) question response spentMs = .error failure) ∨
    ∃ finding finding' answer, findingOf job question response spentMs = .ok finding ∧
      findingOf (job.choosing threshold selected) question response spentMs = .ok finding' ∧
      finding.info = finding'.info ∧
      finding.analysis = filtered job.options answer ∧
      finding'.analysis = filtered (job.choosing threshold selected).options answer ∧
      finding.gate = Gate.ofConfidence (Analysis.confidence answer) job.options.confidenceThreshold ∧
      finding'.gate = Gate.ofConfidence (Analysis.confidence answer) threshold := by
  unfold findingOf
  cases parseAnswer response.content with
  | error e =>
    left
    exact ⟨_, rfl, rfl⟩
  | ok answer =>
    right
    exact ⟨_, _, answer, rfl, rfl, rfl, rfl, rfl, rfl, rfl⟩

theorem sameAnswer_checked {r r' : Analysis.Result} (h : SameAnswer job threshold r r') (files : Files)
    (schema : Option String) (schemas : Schema.Validator) :
    SameAnswer job threshold (p.checked files schema r schemas).1 (p.checked files schema r' schemas).1 ∧
    (p.checked files schema r schemas).2 = (p.checked files schema r' schemas).2 := by
  unfold checked
  cases if p.checksResults then schema else none with
  | none => exact ⟨h, rfl⟩
  | some name =>
    exact ⟨⟨h.success, h.error, h.info, h.analysis, h.gate⟩, Schema.Validator.accepts_congr files schemas name _ _⟩

theorem sameInquiry_succeed {finding finding' : Finding}
    (h : SameAnswer job threshold (resultOf job finding) (resultOf (job.choosing threshold selected) finding'))
    (files : Files) (schema : Option String) (events : List Event) (s : State σ τ) :
    SameInquiry job threshold (p.succeed files job schema finding events s)
      (p.succeed files (job.choosing threshold selected) schema finding' events s) := by
  obtain ⟨hchecked, hschemas⟩ := sameAnswer_checked (p := p) h files schema s.schemas
  constructor
  . rw [requests_succeed, requests_succeed]
  . exact hchecked
  . exact ⟨rfl, hschemas, rfl⟩

theorem sameInquiry_inquire (files : Files) (question : Question) (events : List Event) (s : State σ τ) :
    SameInquiry job threshold (p.inquire files job question events s)
      (p.inquire files (job.choosing threshold selected) question events s) := by
  unfold inquire
  generalize p.gateway.generate question.request none s.providers = outcome
  dsimp only
  cases outcome.result with
  | error e => exact .refl job threshold _
  | ok response =>
    dsimp only
    rcases findingOf_choosing job threshold selected question response outcome.spentMs with
      ⟨failure, hfailure, hfailure'⟩ |
      ⟨finding, finding', answer, hfinding, hfinding', hinfo, hanalysis, hanalysis', hgate, hgate'⟩
    . rw [hfailure, hfailure']
      exact .refl job threshold _
    . rw [hfinding, hfinding']
      apply sameInquiry_succeed
      refine ⟨rfl, rfl, ?_, ?_, ?_⟩
      . unfold unstamped resultOf
        dsimp only
        rw [hinfo]
      . intro key hkey
        unfold resultOf
        dsimp only
        rw [hanalysis, hanalysis', get?_filtered_of_ne _ _ hkey, get?_filtered_of_ne _ _ hkey]
      . intro hthreshold
        unfold resultOf
        dsimp only
        rw [hgate, hgate', Gate.ofConfidence_congr hthreshold]

theorem sameInquiry_analyze (p : Pipeline σ τ) (files : Files) (job : Job) (threshold : Double)
    (selected : Option (List String)) (s : State σ τ) :
    SameInquiry job threshold (p.analyze files job s) (p.analyze files (job.choosing threshold selected) s) := by
  have hcontext : contextOf p.retrieval (job.choosing threshold selected) = contextOf p.retrieval job := rfl
  have hstart : startOf (job.choosing threshold selected) = startOf job := rfl
  unfold analyze
  rw [hcontext, hstart]
  dsimp only
  cases (s.prompts.load files promptId).1 with
  | error e => exact .refl job threshold _
  | ok spec =>
    dsimp only
    cases questionOf p.engine spec (contextOf p.retrieval job) with
    | error failure => exact .refl job threshold _
    | ok question => apply sameInquiry_inquire

/--
What is chosen for the time after the answer does not reach a model. With any other threshold and any other selected
fields the providers are asked the same in the same order, and the results agree in their success, their error, how they
came about, and all of the analysis but the proposals. If the thresholds count the same, so do the gates. Neither the id
and the times nor the archive change this.
-/
theorem analyze_choosing (p : Pipeline σ τ) (a : Archive τ') (files : Files) (job : Job) (threshold : Double)
    (selected : Option (List String)) (id : String) (started finished : Timestamp) (s : State σ τ) (stored : τ') :
    SameInquiry job threshold (p.analyze files job s)
      ((p.withArchive a).analyze files ((job.choosing threshold selected).at id started finished)
        ⟨s.prompts, s.schemas, s.providers, stored⟩) := by
  have hs : SameButStored s (State.mk s.prompts s.schemas s.providers stored) := ⟨rfl, rfl, rfl⟩
  have hcourse := sameCourse_analyze (p := p) (a := a) hs files (job.choosing threshold selected) id started finished
  exact (sameInquiry_analyze p files job threshold selected s).of_sameCourse hcourse

end Pipeline
end Triage
