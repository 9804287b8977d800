import Triage.Proofs.Pipeline.Choices
import Triage.Proofs.Pipeline.Strict

/-!
This module contains what the result of an analysis says about the way it came about. A success says what the response of the
gateway says, with the gate of the analysis that is handed back, and a failure tells nothing but the reason of the stage that
has failed.
-/

namespace Triage
namespace Llm

/--
Whether a response counts the positions of a route up to the one of the provider that responds. The counter has 32 bits.
-/
structure Response.Counted (response : Response) (route : List Provider) : Prop where
  position : ∃ i < route.length, response.attempts.toNat = (i + 1) % UInt32.size ∧
    (response.usedFallback = true ↔ 0 < i)
  attempts : route.length < UInt32.size → 1 ≤ response.attempts
  usedFallback : route.length < UInt32.size → (response.usedFallback = true ↔ 1 < response.attempts)

theorem Response.counted_of_position {response : Response} {route : List Provider} {i : Nat} (hi : i < route.length)
    (hattempts : response.attempts.toNat = (i + 1) % UInt32.size) (hfallback : response.usedFallback = true ↔ 0 < i) :
    response.Counted route := by
  have hone : (1 : UInt32).toNat = 1 := rfl
  have hexact (hlength : route.length < UInt32.size) : response.attempts.toNat = i + 1 := by
    rw [hattempts, Nat.mod_eq_of_lt (by omega)]
  refine ⟨⟨i, hi, hattempts, hfallback⟩, ?_, ?_⟩
  . intro hlength
    rw [UInt32.le_iff_toNat_le, hexact hlength, hone]
    omega
  . intro hlength
    rw [hfallback, UInt32.lt_iff_toNat_lt, hexact hlength, hone]
    omega

theorem Gateway.counted_of_generate {σ : Type} {g : Gateway σ} {r : Request} {given : Option (List Provider)} {s : σ}
    {response : Response} (h : (g.generate r given s).result = .ok response) :
    response.Counted (g.routeFor r given) := by
  obtain ⟨results, final, i, p, client, -, -, -, hp, -, -, -, hattempts, hfallback, -⟩ := exists_accepted h
  obtain ⟨hlt, -⟩ := List.getElem?_eq_some_iff.mp hp
  exact Response.counted_of_position hlt hattempts hfallback

end Llm

namespace Pipeline

variable {σ τ : Type} {p : Pipeline σ τ} {files : Files} {job : Job} {s : State σ τ}

/--
The request to a model with the messages of a prompt.
-/
def requestOf (spec : Prompt.Spec) (messages : Prompt.Spec.Messages) : Llm.Request :=
  { purpose := purpose
    system := messages.system
    user := messages.user
    temperature := spec.modelDefaults.temperature
    jsonMode := spec.modelDefaults.jsonMode
    maxTokens := some spec.modelDefaults.maxTokens
    timeoutMs := none }

/--
Whether an analysis gets through all of its stages: the prompt is loaded, its messages are made, a provider responds, and the
response holds an object.
-/
inductive Succeeds (p : Pipeline σ τ) (files : Files) (job : Job) (s : State σ τ) (response : Llm.Response)
    (answer : Json.Object) : Prop where
  | intro (spec : Prompt.Spec) (messages : Prompt.Spec.Messages)
      (hload : (s.prompts.load files promptId).1 = .ok spec)
      (hrender : spec.render (contextOf p.retrieval job).toJson p.engine = .ok messages)
      (hresponse : (p.gateway.generate (requestOf spec messages) none s.providers).result = .ok response)
      (hanswer : parseAnswer response.content = .ok answer)

/--
What the first stage fails with that an analysis does not get through.
-/
inductive Fails (p : Pipeline σ τ) (files : Files) (job : Job) (s : State σ τ) : Failure → Prop where
  | unloaded {e : Prompt.Error} (hload : (s.prompts.load files promptId).1 = .error e) :
      Fails p files job s (.prompt e)
  | unrendered {spec : Prompt.Spec} {e : Prompt.Error} (hload : (s.prompts.load files promptId).1 = .ok spec)
      (hrender : spec.render (contextOf p.retrieval job).toJson p.engine = .error e) : Fails p files job s (.prompt e)
  | unanswered {spec : Prompt.Spec} {messages : Prompt.Spec.Messages} {e : Llm.Error}
      (hload : (s.prompts.load files promptId).1 = .ok spec)
      (hrender : spec.render (contextOf p.retrieval job).toJson p.engine = .ok messages)
      (hresponse : (p.gateway.generate (requestOf spec messages) none s.providers).result = .error e) :
      Fails p files job s (.llm e)
  | unreadable {spec : Prompt.Spec} {messages : Prompt.Spec.Messages} {response : Llm.Response} {e : AnswerError}
      (hload : (s.prompts.load files promptId).1 = .ok spec)
      (hrender : spec.render (contextOf p.retrieval job).toJson p.engine = .ok messages)
      (hresponse : (p.gateway.generate (requestOf spec messages) none s.providers).result = .ok response)
      (hanswer : parseAnswer response.content = .error e) : Fails p files job s (.answer e.message)

/--
What the result of a success says.
-/
structure TellsAnswer (p : Pipeline σ τ) (job : Job) (response : Llm.Response) (answer : Json.Object)
    (result : Analysis.Result) : Prop where
  success : result.success = true
  error : result.error = none
  infoError : result.info.error = none
  provider : result.info.provider = response.provider
  model : result.info.model = response.model
  attempts : result.info.attempts = response.attempts
  usedFallback : result.info.usedFallback = response.usedFallback
  counted : response.Counted (p.gateway.routes.resolve purpose)
  retrievalCount : result.info.retrievalCount =
    ((contextOf p.retrieval job).similarCases.length + (contextOf p.retrieval job).articles.length).toUInt64
  analysis : result.analysis = filtered job.options answer
  /-- The gate is that of the analysis as it is handed back. -/
  gate : result.gate = Gate.ofConfidence result.confidence job.options.confidenceThreshold

/--
What the result of a failure says.
-/
structure TellsFailure (failure : Failure) (result : Analysis.Result) : Prop where
  success : result.success = false
  error : result.error = some failure.message
  infoError : result.info.error = some failure.message
  analysis : result.analysis = []
  gate : result.gate = .teach
  provider : result.info.provider = "none"
  model : result.info.model = "none"
  attempts : result.info.attempts = 0
  usedFallback : result.info.usedFallback = false
  retrievalCount : result.info.retrievalCount = 0
  outputSchemaValid : result.info.outputSchemaValid = none

theorem questionOf_of_render {engine : Template.Engine} {spec : Prompt.Spec} {context : Context}
    {messages : Prompt.Spec.Messages} (h : spec.render context.toJson engine = .ok messages) :
    questionOf engine spec context = .ok ⟨requestOf spec messages, context.retrievalCount, spec.outputSchema⟩ := by
  unfold questionOf
  rw [h]
  rfl

theorem questionOf_of_render_error {engine : Template.Engine} {spec : Prompt.Spec} {context : Context} {e : Prompt.Error}
    (h : spec.render context.toJson engine = .error e) : questionOf engine spec context = .error (.prompt e) := by
  unfold questionOf
  rw [h]
  rfl

theorem succeeds_or_fails (p : Pipeline σ τ) (files : Files) (job : Job) (s : State σ τ) :
    (∃ response answer, Succeeds p files job s response answer) ∨ ∃ failure, Fails p files job s failure := by
  cases hload : (s.prompts.load files promptId).1 with
  | error e => exact .inr ⟨_, .unloaded hload⟩
  | ok spec =>
    cases hrender : spec.render (contextOf p.retrieval job).toJson p.engine with
    | error e => exact .inr ⟨_, .unrendered hload hrender⟩
    | ok messages =>
      cases hresponse : (p.gateway.generate (requestOf spec messages) none s.providers).result with
      | error e => exact .inr ⟨_, .unanswered hload hrender hresponse⟩
      | ok response =>
        cases hanswer : parseAnswer response.content with
        | error e => exact .inr ⟨_, .unreadable hload hrender hresponse hanswer⟩
        | ok answer => exact .inl ⟨response, answer, .intro spec messages hload hrender hresponse hanswer⟩

/--
With messages to send, an analysis comes down to the inquiry.
-/
theorem analyze_of_render {spec : Prompt.Spec} {messages : Prompt.Spec.Messages}
    (hload : (s.prompts.load files promptId).1 = .ok spec)
    (hrender : spec.render (contextOf p.retrieval job).toJson p.engine = .ok messages) :
    ∃ s' : State σ τ, s'.providers = s.providers ∧ p.analyze files job s =
      p.inquire files job ⟨requestOf spec messages, (contextOf p.retrieval job).retrievalCount, spec.outputSchema⟩
        [.savedRun (startOf job)] s' := by
  unfold analyze
  dsimp only
  rw [hload]
  dsimp only
  rw [questionOf_of_render hrender]
  exact ⟨{ s with
    prompts := (s.prompts.load files promptId).2
    stored := (p.archive.saveRun (startOf job) s.stored).2 }, rfl, rfl⟩

theorem Fails.exists_conclude {failure : Failure} (h : Fails p files job s failure) :
    ∃ spentMs events s', p.analyze files job s = p.conclude job failure spentMs events s' := by
  cases h with
  | unloaded hload =>
    unfold analyze
    dsimp only
    rw [hload]
    exact ⟨_, _, _, rfl⟩
  | unrendered hload hrender =>
    unfold analyze
    dsimp only
    rw [hload]
    dsimp only
    rw [questionOf_of_render_error hrender]
    exact ⟨_, _, _, rfl⟩
  | unanswered hload hrender hresponse =>
    obtain ⟨s', hproviders, hreport⟩ := analyze_of_render hload hrender
    rw [← hproviders] at hresponse
    rw [hreport]
    unfold inquire
    dsimp only
    rw [hresponse]
    exact ⟨_, _, _, rfl⟩
  | unreadable hload hrender hresponse hanswer =>
    obtain ⟨s', hproviders, hreport⟩ := analyze_of_render hload hrender
    rw [← hproviders] at hresponse
    rw [hreport]
    unfold inquire findingOf
    dsimp only
    rw [hresponse]
    dsimp only
    rw [hanswer]
    exact ⟨_, _, _, rfl⟩

theorem exists_inquire_eq_succeed {question : Question} {response : Llm.Response} {answer : Json.Object}
    (hresponse : (p.gateway.generate question.request none s.providers).result = .ok response)
    (hanswer : parseAnswer response.content = .ok answer) (files : Files) (job : Job) (events : List Event) :
    ∃ spentMs finding events' s', findingOf job question response spentMs = .ok finding ∧
      p.inquire files job question events s = p.succeed files job question.outputSchema finding events' s' := by
  obtain ⟨finding, hfinding, -⟩ : ∃ finding, findingOf job question response
      (p.gateway.generate question.request none s.providers).spentMs = .ok finding ∧
        finding.analysis = filtered job.options answer := findingOf_of_answer hanswer job _
  unfold inquire
  dsimp only
  rw [hresponse]
  dsimp only
  rw [hfinding]
  exact ⟨_, finding, _, _, hfinding, rfl⟩

theorem Succeeds.exists_succeed {response : Llm.Response} {answer : Json.Object}
    (h : Succeeds p files job s response answer) :
    ∃ question spentMs finding events s', question.retrievalCount = (contextOf p.retrieval job).retrievalCount ∧
      findingOf job question response spentMs = .ok finding ∧
      p.analyze files job s = p.succeed files job question.outputSchema finding events s' := by
  obtain ⟨spec, messages, hload, hrender, hresponse, hanswer⟩ := h
  obtain ⟨s', hproviders, hreport⟩ := analyze_of_render hload hrender
  rw [← hproviders] at hresponse
  let question : Question :=
    ⟨requestOf spec messages, (contextOf p.retrieval job).retrievalCount, spec.outputSchema⟩
  have hgenerate : (p.gateway.generate question.request none s'.providers).result = .ok response := hresponse
  obtain ⟨spentMs, finding, events, s'', hfinding, hinquire⟩ :=
    exists_inquire_eq_succeed hgenerate hanswer files job [.savedRun (startOf job)]
  exact ⟨question, spentMs, finding, events, s'', rfl, hfinding, hreport.trans hinquire⟩

theorem Fails.tellsFailure {failure : Failure} (h : Fails p files job s failure) :
    TellsFailure failure (p.analyze files job s).result := by
  obtain ⟨spentMs, events, s', hreport⟩ := h.exists_conclude
  rw [hreport]
  exact ⟨rfl, rfl, rfl, rfl, rfl, rfl, rfl, rfl, rfl, rfl, rfl⟩

theorem confidence_filtered (options : Analysis.Options) (answer : Json.Object) :
    Analysis.confidence (filtered options answer) = Analysis.confidence answer := by
  unfold Analysis.confidence
  rw [get?_filtered_of_ne options answer (by decide)]

theorem Succeeds.tellsAnswer {response : Llm.Response} {answer : Json.Object}
    (h : Succeeds p files job s response answer) : TellsAnswer p job response answer (p.analyze files job s).result := by
  obtain ⟨question, spentMs, finding, events, s', hretrieval, hfinding, hreport⟩ := h.exists_succeed
  obtain ⟨spec, messages, -, -, hresponse, hanswer⟩ := h
  have hcounted : response.Counted (p.gateway.routes.resolve purpose) := Llm.Gateway.counted_of_generate hresponse
  -- A verdict of the schema leaves all else of the result as it was.
  obtain ⟨verdict, hresult⟩ : ∃ verdict, (p.succeed files job question.outputSchema finding events s').result =
      let r := resultOf job finding
      { r with info := { r.info with outputSchemaValid := verdict } } :=
    checked_eq p files question.outputSchema (resultOf job finding) s'.schemas
  rw [hreport, hresult]
  unfold findingOf at hfinding
  rw [hanswer] at hfinding
  cases hfinding
  refine ⟨rfl, rfl, rfl, rfl, rfl, rfl, rfl, hcounted, ?_, rfl, ?_⟩
  . exact congrArg Nat.toUInt64 hretrieval
  . unfold Analysis.Result.confidence resultOf
    dsimp only
    rw [confidence_filtered]

/--
Every result of an analysis is well formed. It is a success exactly if the prompt is loaded and its messages are made, a
provider responds, and the response holds an object. Then it says what the response says, and the gate is that of the
analysis in the result. Else some stage has failed, and the result says why and nothing else.
-/
theorem analyze_wellFormed (p : Pipeline σ τ) (files : Files) (job : Job) (s : State σ τ) :
    let result := (p.analyze files job s).result
    (result.success = true ↔ ∃ response answer, Succeeds p files job s response answer) ∧
    (∀ response answer, Succeeds p files job s response answer → TellsAnswer p job response answer result) ∧
    (result.success = false ↔ ∃ failure, Fails p files job s failure) ∧
    ∀ failure, Fails p files job s failure → TellsFailure failure result := by
  intro result
  have hanswers : ∀ response answer, Succeeds p files job s response answer → TellsAnswer p job response answer result :=
    fun _ _ h => h.tellsAnswer
  have hfailures : ∀ failure, Fails p files job s failure → TellsFailure failure result :=
    fun _ h => h.tellsFailure
  rcases succeeds_or_fails p files job s with ⟨response, answer, h⟩ | ⟨failure, h⟩
  . have hsuccess := (hanswers _ _ h).success
    refine ⟨iff_of_true hsuccess ⟨response, answer, h⟩, hanswers, ?_, hfailures⟩
    rw [hsuccess]
    refine iff_of_false (by simp) ?_
    rintro ⟨failure, hfails⟩
    rw [(hfailures _ hfails).success] at hsuccess
    contradiction
  . have hfailed := (hfailures _ h).success
    refine ⟨?_, hanswers, iff_of_true hfailed ⟨failure, h⟩, hfailures⟩
    rw [hfailed]
    refine iff_of_false (by simp) ?_
    rintro ⟨response, answer, hsucceeds⟩
    rw [(hanswers _ _ hsucceeds).success] at hfailed
    contradiction

/--
The second provider responds with some confidence and is told as a fallback; without the prompt nobody is asked.
-/
theorem analyze_wellFormed_fallback :
    let spec : Prompt.Spec := {
      id := promptId, version := "1", description := "", purpose := "", systemPrompt := "Be brief."
      userPromptTemplate := "Ticket", modelDefaults := .standard, inputSchema := none, outputSchema := none
      knownFailureModes := [], evalChecks := [] }
    let busy : Llm.Client Unit := ⟨"small", fun _ s => (⟨0, .error (.api 503 "busy")⟩, s)⟩
    let ready : Llm.Client Unit := ⟨"chat", fun _ s => (⟨0, .ok "\x7b\"confidence\":0.75,\"field_proposals\":[7]\x7d"⟩, s)⟩
    let gateway : Llm.Gateway Unit := ((Llm.Gateway.ofRoutes (.ofStandard [.localServer, .deepseek])).register
      .localServer busy).register .deepseek ready
    let p : Pipeline Unit Store := ⟨gateway, kept, false, none, .plain⟩
    let job : Job :=
      ⟨"a", "acme", ⟨"7", "", "", none, [], [], []⟩, { Analysis.Options.standard with selectedFields := some ["area"] },
        .epoch, .epoch⟩
    let s : State Unit Store := ⟨⟨"prompts", ⟨[(promptId, spec)]⟩⟩, .ofDirectory "schemas", (), .empty⟩
    let empty : State Unit Store := { s with prompts := .ofDirectory "prompts" }
    let result := (p.analyze .none job s).result
    result.success = true ∧ result.gate = .edit ∧ result.info.attempts = 2 ∧
    (∃ response answer, Succeeds p .none job s response answer ∧ TellsAnswer p job response answer result) ∧
    ∃ failure, Fails p .none job empty failure ∧ TellsFailure failure (p.analyze .none job empty).result := by
  intro spec busy ready gateway p job s empty result
  obtain ⟨hsuccess, hanswers, -, -⟩ := analyze_wellFormed p .none job s
  obtain ⟨-, -, -, hfailures⟩ := analyze_wellFormed p .none job empty
  have hsucceeded : result.success = true := by
    decide +kernel
  obtain ⟨response, answer, h⟩ := hsuccess.mp hsucceeded
  have hfails : Fails p .none job empty (.prompt (.notFound promptId "prompts/ticket_analysis_cot_v1.yaml")) :=
    .unloaded (by decide +kernel)
  refine ⟨hsucceeded, ?_, ?_, ⟨response, answer, h, hanswers response answer h⟩, _, hfails, hfailures _ hfails⟩
  . decide +kernel
  . decide +kernel

end Pipeline
end Triage
