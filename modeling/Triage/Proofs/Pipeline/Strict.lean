import Triage.Proofs.Llm.Fallback
import Triage.Proofs.Pipeline.Audit
import Triage.Proofs.Repair.Valid

/-!
This module contains analyses in JSON mode. The gateway takes only the text of an object for an answer, so there is
nothing left to repair: the text is read as it is, and no analysis fails because of it.
-/

namespace Triage
namespace Llm
namespace Gateway

variable {σ : Type} {g : Gateway σ} {r : Request} {given : Option (List Provider)} {s : σ} {response : Response}

/--
An answer that stands for an object: the text of the first provider on the route whose answer is accepted, which is
left as it is by a repair.
-/
structure Answered (g : Gateway σ) (r : Request) (given : Option (List Provider)) (s : σ) (response : Response)
    (members : Json.Object) : Prop where
  origin : ∃ front p back client results mid, g.routeFor r given = front ++ p :: back ∧
    Walk g r s front results mid ∧ (∀ result ∈ results, ∃ e, result = .error e) ∧ g.clients p = some client ∧
    (client.ask r mid).1.outcome = .ok response.content ∧ response.provider = p.name ∧ response.model = client.model
  value : Json.parse? response.content = some (.object members)
  repaired : repairDefault response.content = .ok response.content
  answer : parseAnswer response.content = .ok members

theorem Attempt.ask_of_ok {p : Provider} {s' : σ} {text : String} (h : Attempt g r p s (.ok text) s') :
    ∃ client, g.clients p = some client ∧ (client.ask r s).1.outcome = .ok text ∧ r.Accepts text := by
  cases h with
  | accepted hp htime htext haccepted => exact ⟨_, hp, htext, haccepted⟩

theorem answered_of_generate (hjson : r.jsonMode = true) (h : (g.generate r given s).result = .ok response) :
    ∃ members, g.Answered r given s response members := by
  obtain ⟨results, final, i, p, client, hwalk, hi, herror, hp, hclient, hprovider, hmodel, -⟩ := exists_accepted h
  obtain ⟨q, mid, s', hq, hbefore, hattempt, -⟩ := hwalk.getElem? hi
  obtain rfl : q = p := by
    rw [hp] at hq
    exact (Option.some.inj hq).symm
  obtain ⟨client', hclient', htext, haccepts⟩ := hattempt.ask_of_ok
  obtain rfl : client' = client := by
    rw [hclient] at hclient'
    exact (Option.some.inj hclient').symm
  obtain ⟨members, hparse⟩ := haccepts hjson
  refine ⟨members, ?_, hparse, repair_of_parse? hparse _, parseAnswer_of_parse? hparse⟩
  obtain ⟨hlt, hget⟩ := List.getElem?_eq_some_iff.mp hp
  refine ⟨_, q, (g.routeFor r given).drop (i + 1), client', _, mid, ?_, hbefore, herror, hclient, htext, hprovider, hmodel⟩
  rw [← hget, ← List.drop_eq_getElem_cons hlt, List.take_append_drop]

end Gateway
end Llm

/--
What the message of a failure begins with if the answer of a model is to blame.
-/
def Failure.unreadable : String := "Failed to parse LLM response"

theorem Failure.head?_message {failure : Failure} (h : failure.message.toList.head? = some 'F') :
    ∃ reason, failure = .answer reason := by
  unfold message at h
  cases failure with
  | answer reason => exact ⟨reason, rfl⟩
  | configuration reason => simp at h
  | prompt e => simp at h
  | llm e => simp at h
  | schema e => simp at h
  | store e => simp at h
  | internal reason => simp at h

theorem Failure.isPrefix_unreadable_iff {failure : Failure} :
    unreadable.toList <+: failure.message.toList ↔ ∃ reason, failure = .answer reason := by
  constructor
  . rintro ⟨rest, hrest⟩
    apply head?_message
    rw [← hrest]
    rfl
  . rintro ⟨reason, rfl⟩
    have hkind : unreadable.toList <+: "Failed to parse LLM response: ".toList := by
      decide
    unfold message
    rw [String.toList_append]
    apply hkind.trans
    apply List.prefix_append

namespace Pipeline

variable {σ τ : Type} {p : Pipeline σ τ} {files : Files} {job : Job} {s : State σ τ}

/--
What comes of an analysis whose prompt asks for an object. If there is an answer, its strict reading is the result.
-/
inductive Strict (p : Pipeline σ τ) (job : Job) (spec : Prompt.Spec) (providers : σ) (result : Analysis.Result) :
    Prop where
  | unasked {e : Prompt.Error} (hquestion : questionOf p.engine spec (contextOf p.retrieval job) = .error (.prompt e))
      (herror : result.error = some (Failure.prompt e).message)
  | unanswered {question : Question} {e : Llm.Error}
      (hquestion : questionOf p.engine spec (contextOf p.retrieval job) = .ok question)
      (hresult : (p.gateway.generate question.request none providers).result = .error e)
      (herror : result.error = some (Failure.llm e).message)
  | answered {question : Question} {response : Llm.Response} {members : Json.Object}
      (hquestion : questionOf p.engine spec (contextOf p.retrieval job) = .ok question)
      (hresult : (p.gateway.generate question.request none providers).result = .ok response)
      (hresponse : p.gateway.Answered question.request none providers response members)
      (hsuccess : result.success = true) (herror : result.error = none)
      (hanalysis : result.analysis = filtered job.options members)

theorem questionOf_cases (engine : Template.Engine) (spec : Prompt.Spec) (context : Context) :
    (∃ e, questionOf engine spec context = .error (.prompt e)) ∨
      ∃ question, questionOf engine spec context = .ok question ∧
        question.request.jsonMode = spec.modelDefaults.jsonMode := by
  unfold questionOf
  cases spec.render context.toJson engine with
  | error e =>
    left
    exact ⟨e, rfl⟩
  | ok messages =>
    right
    exact ⟨_, rfl, rfl⟩

theorem error_conclude (job : Job) (failure : Failure) (spentMs : Nat) (events : List Event) (s : State σ τ) :
    (p.conclude job failure spentMs events s).result.error = some failure.message := rfl

theorem findingOf_of_answer {question : Question} {response : Llm.Response} {members : Json.Object}
    (h : parseAnswer response.content = .ok members) (job : Job) (spentMs : Nat) :
    ∃ finding, findingOf job question response spentMs = .ok finding ∧
      finding.analysis = filtered job.options members := by
  unfold findingOf
  rw [h]
  exact ⟨_, rfl, rfl⟩

theorem result_succeed (files : Files) (job : Job) (schema : Option String) (finding : Finding)
    (events : List Event) (s : State σ τ) :
    (p.succeed files job schema finding events s).result.success = true ∧
    (p.succeed files job schema finding events s).result.error = none ∧
    (p.succeed files job schema finding events s).result.analysis = finding.analysis := by
  obtain ⟨verdict, hchecked⟩ := checked_eq p files schema (resultOf job finding) s.schemas
  unfold succeed
  dsimp only
  rw [hchecked]
  exact ⟨rfl, rfl, rfl⟩

theorem strict_inquire {spec : Prompt.Spec} {question : Question} {providers : σ}
    (hquestion : questionOf p.engine spec (contextOf p.retrieval job) = .ok question)
    (hjson : question.request.jsonMode = true) (hproviders : s.providers = providers) (events : List Event) :
    Strict p job spec providers (p.inquire files job question events s).result := by
  subst hproviders
  unfold inquire
  dsimp only
  cases hresult : (p.gateway.generate question.request none s.providers).result with
  | error e =>
    apply Strict.unanswered hquestion hresult
    apply error_conclude
  | ok response =>
    obtain ⟨members, hresponse⟩ := Llm.Gateway.answered_of_generate hjson hresult
    obtain ⟨finding, hfinding, hanalysis⟩ := findingOf_of_answer hresponse.answer job
      (p.gateway.generate question.request none s.providers).spentMs
    dsimp only
    rw [hfinding]
    dsimp only
    obtain ⟨hsuccess, herror, hkept⟩ := result_succeed (p := p) files job question.outputSchema finding
      (events ++ (p.gateway.generate question.request none s.providers).asked.map fun provider =>
        .asked provider question.request)
      { s with providers := (p.gateway.generate question.request none s.providers).providers }
    apply Strict.answered hquestion hresult hresponse hsuccess herror
    rw [hkept, hanalysis]

theorem strict_analyze {spec : Prompt.Spec} (hload : (s.prompts.load files promptId).1 = .ok spec)
    (hjson : spec.modelDefaults.jsonMode = true) :
    Strict p job spec s.providers (p.analyze files job s).result := by
  unfold analyze
  dsimp only
  rw [hload]
  dsimp only
  cases questionOf_cases p.engine spec (contextOf p.retrieval job) with
  | inl h =>
    obtain ⟨e, hquestion⟩ := h
    rw [hquestion]
    apply Strict.unasked hquestion
    apply error_conclude
  | inr h =>
    obtain ⟨question, hquestion, hmode⟩ := h
    rw [hquestion]
    dsimp only
    apply strict_inquire hquestion
    . rw [hmode, hjson]
    . rfl

theorem Strict.not_unreadable {spec : Prompt.Spec} {providers : σ} {result : Analysis.Result}
    (h : Strict p job spec providers result) {message : String} (hmessage : result.error = some message) :
    ¬ Failure.unreadable.toList <+: message.toList := by
  cases h with
  | unasked _ herror =>
    rw [herror] at hmessage
    cases hmessage
    simp [Failure.isPrefix_unreadable_iff]
  | unanswered _ _ herror =>
    rw [herror] at hmessage
    cases hmessage
    simp [Failure.isPrefix_unreadable_iff]
  | answered _ _ _ _ herror =>
    rw [herror] at hmessage
    contradiction

/--
In JSON mode a repair has nothing to do. Whatever the gateway answers with is the text of an object that a provider has
sent. If the prompt of an analysis asks for an object, the result is this object, whose proposals are filtered, and no
analysis fails because it cannot read the answer.
-/
theorem analyze_of_jsonMode (p : Pipeline σ τ) (files : Files) (job : Job) (s : State σ τ) :
    (∀ r given providers response, r.jsonMode = true →
      (p.gateway.generate r given providers).result = .ok response →
      ∃ members, p.gateway.Answered r given providers response members) ∧
    ∀ spec, (s.prompts.load files promptId).1 = .ok spec → spec.modelDefaults.jsonMode = true →
      Strict p job spec s.providers (p.analyze files job s).result ∧
      ∀ message, (p.analyze files job s).result.error = some message →
        ¬ Failure.unreadable.toList <+: message.toList := by
  constructor
  . intro r given providers response hjson hresult
    exact Llm.Gateway.answered_of_generate hjson hresult
  . intro spec hload hjson
    have hstrict : Strict p job spec s.providers (p.analyze files job s).result := strict_analyze hload hjson
    refine ⟨hstrict, ?_⟩
    intro message hmessage
    exact hstrict.not_unreadable hmessage

/--
Prose from the first provider is not taken for an answer, and blanks around the object of the second one do no harm.
-/
theorem analyze_of_jsonMode_fallback :
    let spec : Prompt.Spec := {
      id := promptId, version := "1", description := "", purpose := "", systemPrompt := "Be brief."
      userPromptTemplate := "Ticket", modelDefaults := .standard, inputSchema := none, outputSchema := none
      knownFailureModes := [], evalChecks := [] }
    let client (text : String) : Llm.Client Unit := ⟨"chat", fun _ s => (⟨0, .ok text⟩, s)⟩
    let gateway : Llm.Gateway Unit := ((Llm.Gateway.ofRoutes (.ofStandard [.localServer, .deepseek])).register
      .localServer (client "Sure! \x7b\x7d")).register .deepseek (client "\n \x7b\"tags\": [] \x7d\t")
    let p : Pipeline Unit Store := ⟨gateway, kept, false, none, .plain⟩
    let job : Job := ⟨"a", "acme", ⟨"7", "", "", none, [], [], []⟩, .standard, .epoch, .epoch⟩
    let s : State Unit Store := ⟨⟨"prompts", ⟨[(promptId, spec)]⟩⟩, .ofDirectory "schemas", (), .empty⟩
    (s.prompts.load .none promptId).1 = .ok spec ∧ spec.modelDefaults.jsonMode = true ∧
    Strict p job spec () (p.analyze .none job s).result ∧
    (p.analyze .none job s).result.analysis = [("tags", .array [])] := by
  intro spec client gateway p job s
  have hload : (s.prompts.load .none promptId).1 = .ok spec := rfl
  have hjson : spec.modelDefaults.jsonMode = true := rfl
  refine ⟨hload, hjson, ?_, ?_⟩
  . exact ((analyze_of_jsonMode p .none job s).2 spec hload hjson).1
  . decide +kernel

end Pipeline
end Triage
