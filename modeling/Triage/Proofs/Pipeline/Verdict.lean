import Triage.Proofs.Analysis.Envelope
import Triage.Proofs.Command.Analyze
import Triage.Proofs.Pipeline.Persistence
import Triage.Proofs.Pipeline.Strict

/-!
This module contains the verdict of the schema for results. It is about the analysis in a result and about nothing else, it
changes nothing else of the result, and it is stored with the run.
-/

namespace Triage
namespace Pipeline

open Json

variable {σ τ : Type} {p : Pipeline σ τ} {files : Files} {job : Job} {s : State σ τ}

/-! Analyses without a verdict. -/

/--
The same pipeline, which does not check results.
-/
def unchecked (p : Pipeline σ τ) : Pipeline σ τ :=
  { p with checksResults := false }

theorem result_succeed_unchecked (files : Files) (job : Job) (schema : Option String) {finding : Finding}
    (h : finding.info.outputSchemaValid = none) (events : List Event) (s : State σ τ) :
    (p.unchecked.succeed files job schema finding events s).result =
      unjudged (p.succeed files job schema finding events s).result := by
  obtain ⟨verdict, hchecked⟩ := checked_eq p files schema (resultOf job finding) s.schemas
  have hunchecked : p.unchecked.checked files schema (resultOf job finding) s.schemas = (resultOf job finding, s.schemas) := by
    unfold checked unchecked
    rfl
  have hresult : unjudged (resultOf job finding) = resultOf job finding := by
    unfold unjudged resultOf
    rw [← h]
  unfold succeed
  dsimp only
  rw [hunchecked, hchecked, ← hresult]
  rfl

theorem result_inquire_unchecked (files : Files) (job : Job) (question : Question) (events : List Event) (s : State σ τ) :
    (p.unchecked.inquire files job question events s).result =
      unjudged (p.inquire files job question events s).result := by
  have hgateway : p.unchecked.gateway = p.gateway := rfl
  unfold inquire
  rw [hgateway]
  generalize p.gateway.generate question.request none s.providers = outcome
  dsimp only
  cases outcome.result with
  | error e => rfl
  | ok response =>
    dsimp only
    cases hfinding : findingOf job question response outcome.spentMs with
    | error failure => rfl
    | ok finding => exact result_succeed_unchecked files job _ (outputSchemaValid_of_findingOf hfinding) _ _

theorem result_analyze_unchecked (p : Pipeline σ τ) (files : Files) (job : Job) (s : State σ τ) :
    (p.unchecked.analyze files job s).result = unjudged (p.analyze files job s).result := by
  have hretrieval : p.unchecked.retrieval = p.retrieval := rfl
  have harchive : p.unchecked.archive = p.archive := rfl
  have hengine : p.unchecked.engine = p.engine := rfl
  unfold analyze
  rw [hretrieval, harchive, hengine]
  dsimp only
  cases (s.prompts.load files promptId).1 with
  | error e => rfl
  | ok spec =>
    dsimp only
    cases questionOf p.engine spec (contextOf p.retrieval job) with
    | error failure => rfl
    | ok question => exact result_inquire_unchecked files job question _ _

/-! Analyses that succeed. -/

theorem canonical_of_parseAnswer {text : String} {members : Json.Object} (h : parseAnswer text = .ok members) :
    members.Canonical := by
  unfold parseAnswer at h
  split at h
  . cases h
  . split at h
    . rename_i hparse
      cases h
      exact canonical_of_parse? hparse
    . cases h
    . cases h

theorem canonical_proposals {analysis : Json.Object} (h : analysis.Canonical) :
    ∀ v ∈ Analysis.proposals analysis, v.Canonical := by
  unfold Analysis.proposals
  cases hget : analysis.get? Analysis.proposalsKey with
  | none => exact List.forall_mem_nil _
  | some v =>
    cases v with
    | array vs => exact canonicalItems_iff.mp (canonical_of_get? h hget)
    | _ => exact List.forall_mem_nil _

theorem canonical_filtered {analysis : Json.Object} (h : analysis.Canonical) (options : Analysis.Options) :
    (filtered options analysis).Canonical := by
  unfold filtered Analysis.select
  split
  . split
    . exact h
    . apply h.insert
      apply canonicalItems_iff.mpr
      intro v hv
      exact canonical_proposals h v (List.mem_of_mem_filter hv)
  . exact h

/--
How a success comes about: from the answer of a model, which the schema for results is asked about last.
-/
structure Succeeded (p : Pipeline σ τ) (files : Files) (job : Job) (schemas : Schema.Validator) (schema : Option String)
    (finding : Finding) (report : Report σ τ) : Prop where
  analysis : ∃ answer : Json.Object, answer.Canonical ∧ finding.analysis = filtered job.options answer
  report : ∃ events s', s'.schemas = schemas ∧ report = p.succeed files job schema finding events s'

theorem exists_succeeded_inquire {question : Question} {events : List Event}
    (h : (p.inquire files job question events s).result.success = true) :
    ∃ finding, Succeeded p files job s.schemas question.outputSchema finding (p.inquire files job question events s) := by
  unfold inquire at h ⊢
  generalize p.gateway.generate question.request none s.providers = outcome at *
  dsimp only at *
  cases hresult : outcome.result with
  | error e =>
    rw [hresult] at h
    cases h
  | ok response =>
    rw [hresult] at h
    dsimp only at h ⊢
    cases hanswer : parseAnswer response.content with
    | error e =>
      have hfinding : findingOf job question response outcome.spentMs = .error (.answer e.message) := by
        unfold findingOf
        rw [hanswer]
        rfl
      rw [hfinding] at h
      cases h
    | ok answer =>
      obtain ⟨finding, hfinding, hanalysis⟩ : ∃ finding, findingOf job question response outcome.spentMs = .ok finding ∧
          finding.analysis = filtered job.options answer := findingOf_of_answer hanswer job outcome.spentMs
      rw [hfinding]
      exact ⟨finding, ⟨answer, canonical_of_parseAnswer hanswer, hanalysis⟩, _, { s with providers := outcome.providers }, rfl, rfl⟩

theorem outputSchema_of_questionOf {engine : Template.Engine} {spec : Prompt.Spec} {context : Context} {question : Question}
    (h : questionOf engine spec context = .ok question) : question.outputSchema = spec.outputSchema := by
  unfold questionOf at h
  cases hrender : spec.render context.toJson engine with
  | error e =>
    rw [hrender] at h
    cases h
  | ok messages =>
    rw [hrender] at h
    cases h
    rfl

theorem exists_succeeded (h : (p.analyze files job s).result.success = true) :
    ∃ spec finding, (s.prompts.load files promptId).1 = .ok spec ∧
      Succeeded p files job s.schemas spec.outputSchema finding (p.analyze files job s) := by
  unfold analyze at h ⊢
  dsimp only at h ⊢
  cases hprompt : (s.prompts.load files promptId).1 with
  | error e =>
    rw [hprompt] at h
    cases h
  | ok spec =>
    rw [hprompt] at h
    dsimp only at h ⊢
    cases hquestion : questionOf p.engine spec (contextOf p.retrieval job) with
    | error failure =>
      rw [hquestion] at h
      cases h
    | ok question =>
      rw [hquestion] at h
      obtain ⟨finding, hsucceeded⟩ := exists_succeeded_inquire h
      rw [outputSchema_of_questionOf hquestion] at hsucceeded
      exact ⟨spec, finding, rfl, hsucceeded⟩

/-! The verdict. -/

/--
Whether results are to fit the schema for results that comes with the program.
-/
structure AsksForVerdict (files : Files) (s : State σ τ) : Prop where
  prompt : ∃ spec, (s.prompts.load files promptId).1 = .ok spec ∧ spec.outputSchema = some "ticket_analysis_v1"
  schema : (s.schemas.load files "ticket_analysis_v1").1 = .ok Bundled.analysisDocument

theorem asksForVerdict_of_provided (h : Bundled.Provided files s) : AsksForVerdict files s := by
  obtain ⟨spec, hspec, -, hschema⟩ := h.load_prompt
  exact ⟨⟨spec, hspec, hschema⟩, h.load_analysisSchema⟩

theorem checked_of_load {schemas : Schema.Validator} {name : String} {d : Schema.Document} (hchecks : p.checksResults = true)
    (hload : (schemas.load files name).1 = .ok d) (r : Analysis.Result) :
    (p.checked files (some name) r schemas).1 =
      { r with info := { r.info with outputSchemaValid := some (d.report r.toJson.canonical).isEmpty } } := by
  have haccepts : (schemas.accepts files name r.toJson.canonical).1 = (d.report r.toJson.canonical).isEmpty := by
    unfold Schema.Validator.accepts
    dsimp only
    rw [Schema.Validator.validate_of_load hload]
    cases d.report r.toJson.canonical <;> rfl
  unfold checked
  rw [hchecks, if_pos rfl]
  dsimp only
  rw [haccepts]

/--
Whether a value has the verdict under its name.
-/
def Tells (b : Bool) (info : Json) : Prop := info.member? "output_schema_valid" = some (.bool b)

theorem tells_toJson {m : Analysis.Meta} {b : Bool} (h : m.outputSchemaValid = some b) : Tells b m.toJson.canonical := by
  unfold Tells
  rw [Analysis.member?_canonical m.nodup_names]
  unfold Analysis.Meta.toJson
  rw [h]
  rfl

/--
What the verdict on a result is, and where it is told.
-/
structure Judged (job : Job) (report : Report σ τ) (b : Bool) : Prop where
  valid : report.result.info.outputSchemaValid = some b
  fits : b = true ↔ Analysis.Fits (.object report.result.analysis)
  /-- The run that is archived at the end tells the verdict. -/
  saved : ∃ run, .savedRun run ∈ report.events ∧ run.id = job.id ∧ run.status = .completed ∧ Tells b run.info
  /-- So does the run that is read from a store which was given what the analysis archives. -/
  stored : ∀ before : Store, before.runs.get? job.id = none → before.records.get? job.id = none → ∀ now,
    ∃ run, (replay kept before report.events).run? now job.id = .ok (some run) ∧ run.status = .completed ∧
      Tells b run.info

/-! What is told of a result is read again from a store. -/

theorem writable_canonical_object {ms : List (String × Json)} {n : Nat} (h : ∀ m ∈ ms, Writable n m.2.canonical) :
    Writable (n + 1) (Json.object ms).canonical := by
  rw [canonical]
  apply Writable.object
  intro m hm
  obtain ⟨v, hv, heq⟩ := mem_canonicalMembers (Members.mem_of_mem_sorted hm)
  rw [heq]
  exact h (m.1, v) hv

theorem survives_toJson (m : Analysis.Meta) : Survives m.toJson.canonical := by
  have hnumber (n : Nat) (k : Integer) : Writable n (Json.number (.integer k)) := ⟨Nat.zero_le n, trivial⟩
  have hbool (n : Nat) (b : Bool) : Writable n (Json.bool b) := ⟨Nat.zero_le n, trivial⟩
  have husage : Writable 1 m.tokenUsage.toJson.canonical := by
    apply writable_canonical_object
    simp [canonical, hnumber, ofUInt64]
  have hwritable : Writable 2 m.toJson.canonical := by
    apply writable_canonical_object
    cases m.outputSchemaValid <;> cases m.error <;>
      simp [memberIf, canonical, hnumber, hbool, husage, ofUInt64, ofUInt32, Writable.string]
  have hdepth : m.toJson.canonical.containers ≤ depthLimit := Nat.le_trans hwritable.containers (by decide)
  exact parse?_compact (canonical_canonical _) hdepth hwritable.numbers

/--
A course is the same for any store that is given what is archived in it.
-/
theorem Course.replayed {a : Archive τ} {stored : τ} {report : Report σ τ} (h : Course a job stored report) (before : Store) :
    Course kept job before
      { result := report.result
        events := report.events
        state := { report.state with stored := replay kept before report.events } } :=
  ⟨h.events, rfl, h.id, h.success, h.gate⟩

theorem judged_of_succeeded {schema : String} {d : Schema.Document} {finding : Finding} (hchecks : p.checksResults = true)
    (hload : (s.schemas.load files schema).1 = .ok d)
    (h : Succeeded p files job s.schemas (some schema) finding (p.analyze files job s)) :
    (p.analyze files job s).result =
      let r := resultOf job finding
      { r with info := { r.info with outputSchemaValid := some (d.report r.toJson.canonical).isEmpty } } := by
  obtain ⟨events, s', hschemas, hreport⟩ := h.report
  rw [hreport]
  unfold succeed
  dsimp only
  apply checked_of_load hchecks
  rw [hschemas]
  exact hload

theorem endOf_of_error_none (job : Job) {result : Analysis.Result} (h : result.error = none) :
    endOf job result = (startOf job).complete result.gate result.info.toJson.canonical job.finished := by
  unfold endOf
  rw [h]

theorem exists_judged (hchecks : p.checksResults = true) (hasks : AsksForVerdict files s) (hid : job.id ≠ "")
    (hsuccess : (p.analyze files job s).result.success = true) :
    ∃ b, Judged job (p.analyze files job s) b := by
  obtain ⟨spec, finding, hprompt, hsucceeded⟩ := exists_succeeded hsuccess
  obtain ⟨spec', hprompt', hschema⟩ := hasks.prompt
  rw [hprompt] at hprompt'
  cases hprompt'
  rw [hschema] at hsucceeded
  have hresult := judged_of_succeeded hchecks hasks.schema hsucceeded
  have hcourse := course_analyze p files job s
  obtain ⟨answer, hanswer, hanalysis⟩ := hsucceeded.analysis
  have hcanonical : finding.analysis.Canonical := by
    rw [hanalysis]
    exact canonical_filtered hanswer job.options
  have hvalid : (p.analyze files job s).result.info.outputSchemaValid =
      some (Bundled.analysisDocument.report (resultOf job finding).toJson.canonical).isEmpty := by
    rw [hresult]
  refine ⟨_, hvalid, ?_, ?_, ?_⟩
  . rw [hresult, List.isEmpty_iff]
    exact Analysis.report_eq_nil_iff_fits hid hcanonical
  . obtain ⟨requests, hevents⟩ := hcourse.events
    have hend := endOf_of_error_none job (congrArg Analysis.Result.error hresult)
    refine ⟨endOf job (p.analyze files job s).result, ?_, id_endOf job _, ?_⟩
    . rw [hevents]
      exact List.mem_append_right _ List.mem_cons_self
    . rw [hend]
      exact ⟨rfl, tells_toJson hvalid⟩
  . intro before hrun hrecord now
    obtain ⟨run, hread, hended⟩ := ((hcourse.replayed before).audited hrun hrecord).run now
    refine ⟨run, hread, ?_, ?_⟩
    . rw [hended.status]
      exact if_pos hsuccess
    . rw [hended.info hsuccess (survives_toJson _)]
      exact tells_toJson hvalid

/--
Proposals that were selected are as they should be, whatever the model has proposed.
-/
theorem mayHave_select {selected : List String} (h : selected ≠ []) (analysis : Json.Object) :
    (Json.object (Analysis.select selected analysis)).MayHave Analysis.proposalsKey (IsArrayOf Analysis.IsProposal) := by
  have hselected : selected.isEmpty = false := by
    rw [List.isEmpty_eq_false_iff]
    exact h
  intro w hw
  unfold Analysis.select member? at hw
  rw [hselected, if_neg Bool.false_ne_true] at hw
  dsimp only at hw
  rw [Members.get?_insert_self] at hw
  cases hw
  refine ⟨_, rfl, ?_⟩
  intro proposal hproposal
  have hkept := (List.mem_filter.mp hproposal).2
  unfold Analysis.isSelected at hkept
  split at hkept
  . rename_i name hname
    obtain ⟨v, hmember, hstring⟩ := Option.bind_eq_some_iff.mp hname
    cases v with
    | string s =>
      cases proposal with
      | object ms => exact ⟨⟨ms, rfl⟩, _, hmember, s, rfl⟩
      | _ => cases hmember
    | _ => cases hstring
  . cases hkept

theorem mayHave_filtered {options : Analysis.Options} {selected : List String} (hoptions : options.selectedFields = some selected)
    (h : selected ≠ []) (analysis : Json.Object) :
    (Json.object (filtered options analysis)).MayHave Analysis.proposalsKey (IsArrayOf Analysis.IsProposal) := by
  unfold filtered
  rw [hoptions]
  exact mayHave_select h analysis

theorem mayHave_proposals {selected : List String} (hoptions : job.options.selectedFields = some selected)
    (h : selected ≠ []) (hsuccess : (p.analyze files job s).result.success = true) :
    (Json.object (p.analyze files job s).result.analysis).MayHave Analysis.proposalsKey (IsArrayOf Analysis.IsProposal) := by
  obtain ⟨spec, finding, -, hsucceeded⟩ := exists_succeeded hsuccess
  obtain ⟨answer, -, hanalysis⟩ := hsucceeded.analysis
  obtain ⟨events, s', -, hreport⟩ := hsucceeded.report
  rw [hreport, (result_succeed files job spec.outputSchema finding events s').2.2, hanalysis]
  exact mayHave_filtered hoptions h answer

/--
A pipeline that checks results, with the prompt and the schema that come with it, judges every success. The verdict is
about the analysis after the fields were selected, whose proposals always fit if some were; it is told by the run, and
without it the result would be the same.
-/
theorem analyze_judges (hchecks : p.checksResults = true) (hasks : AsksForVerdict files s) (hid : job.id ≠ "") :
    (∀ (files : Files) (s : State σ τ), Bundled.Provided files s → AsksForVerdict files s) ∧
    ((p.analyze files job s).result.success = true → ∃ b, Judged job (p.analyze files job s) b) ∧
    (p.unchecked.analyze files job s).result = unjudged (p.analyze files job s).result ∧
    ∀ selected, job.options.selectedFields = some selected → selected ≠ [] →
      (p.analyze files job s).result.success = true →
      (Json.object (p.analyze files job s).result.analysis).MayHave Analysis.proposalsKey
        (IsArrayOf Analysis.IsProposal) := by
  refine ⟨fun _ _ => asksForVerdict_of_provided, exists_judged hchecks hasks hid, result_analyze_unchecked p files job s, ?_⟩
  intro selected hoptions h
  exact mayHave_proposals hoptions h

/--
A confidence of two does not fit, and is no reason to fail.
-/
theorem analyze_judges_overconfident :
    let spec : Prompt.Spec := {
      id := promptId, version := "1", description := "", purpose := "", systemPrompt := "Be brief."
      userPromptTemplate := "Ticket", modelDefaults := .standard
      inputSchema := none, outputSchema := some "ticket_analysis_v1", knownFailureModes := [], evalChecks := [] }
    let client : Llm.Client Unit :=
      ⟨"chat", fun _ s => (⟨0, .ok "\x7b\"confidence\":2,\"field_proposals\":[7]\x7d"⟩, s)⟩
    let gateway : Llm.Gateway Unit := (Llm.Gateway.ofRoutes (.ofStandard [.deepseek])).register .deepseek client
    let p : Pipeline Unit Store := ⟨gateway, kept, true, none, .plain⟩
    let job : Job :=
      ⟨"a", "acme", ⟨"7", "", "", none, [], [], []⟩, { Analysis.Options.standard with selectedFields := some ["area"] },
        .epoch, .epoch⟩
    let s : State Unit Store :=
      ⟨⟨"prompts", ⟨[(promptId, spec)]⟩⟩, ⟨"schemas", .plain, ⟨[("ticket_analysis_v1", Bundled.analysisDocument)]⟩⟩, (),
        .empty⟩
    let report := p.analyze .none job s
    report.result.success = true ∧ Judged job report false ∧
    (Json.object report.result.analysis).MayHave Analysis.proposalsKey (IsArrayOf Analysis.IsProposal) := by
  intro spec client gateway p job s report
  have hasks : AsksForVerdict .none s := ⟨⟨spec, rfl, rfl⟩, rfl⟩
  have hchecks : p.checksResults = true := rfl
  have hid : job.id ≠ "" := by decide
  obtain ⟨-, hjudges, -, hproposals⟩ := analyze_judges hchecks hasks hid
  have hsuccess : report.result.success = true := by
    decide +kernel
  obtain ⟨b, hjudged⟩ := hjudges hsuccess
  have hvalid : report.result.info.outputSchemaValid = some false := by
    decide +kernel
  cases hvalid.symm.trans hjudged.valid
  exact ⟨hsuccess, hjudged, hproposals ["area"] rfl (by decide) hsuccess⟩

end Pipeline
end Triage
