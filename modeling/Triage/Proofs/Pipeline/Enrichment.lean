import Triage.Proofs.Pipeline.Envelope

/-!
This module contains what the sources of cases and articles mean to an analysis. What they have goes into the context of the
prompt and is counted there, and nothing else depends on them: a source that fails is as good as one that has nothing, and
sources that are to be skipped are as good as none.
-/

namespace Triage
namespace Pipeline

variable {σ τ τ' : Type} {p : Pipeline σ τ} {files : Files} {job : Job} {s : State σ τ}

/--
Whether the second answer of a source is what the first one comes down to: a failure may be nothing found as well.
-/
inductive Degrades : Except Failure (List Json) → Except Failure (List Json) → Prop where
  | kept (answer : Except Failure (List Json)) : Degrades answer answer
  | emptied (e : Failure) : Degrades (.error e) (.ok [])

/--
The cases and articles that there are for a job: all that the sources have, each in its own order. A source that fails has
none, and neither has one that is to be skipped.
-/
inductive Found (job : Job) : Option Retrieval → List Json → List Json → Prop where
  | absent : Found job none [] []
  | skipped (retrieval : Option Retrieval) (hskip : job.options.skipRetrieval = true) : Found job retrieval [] []
  | asked {r : Retrieval} {cases articles : List Json} (hskip : job.options.skipRetrieval = false)
      (hcases : Degrades (r.similarCases job.tenant job.ticket) (.ok cases))
      (harticles : Degrades (r.articles job.tenant job.ticket) (.ok articles)) : Found job (some r) cases articles

theorem Degrades.itemsOf_eq {answer answer' : Except Failure (List Json)} (h : Degrades answer answer') :
    itemsOf answer = itemsOf answer' := by
  cases h with
  | kept => rfl
  | emptied e => rfl

theorem degrades_itemsOf (answer : Except Failure (List Json)) : Degrades answer (.ok (itemsOf answer)) := by
  cases answer with
  | ok items => exact .kept _
  | error e => exact .emptied e

/--
Whatever it takes to ask the sources, nothing of it is done for a job that is to skip them.
-/
theorem retrieve_of_skip {m : Type → Type} [Monad m] (hskip : job.options.skipRetrieval = true)
    (sources : Option (Sources m)) : retrieve sources job = pure ([], []) := by
  unfold retrieve
  rw [if_pos hskip]

theorem contextOf_of_skip (hskip : job.options.skipRetrieval = true) (retrieval : Option Retrieval) :
    contextOf retrieval job = contextOf none job := by
  unfold contextOf
  rw [retrieve_of_skip hskip, retrieve_of_skip hskip]

theorem contextOf_none : contextOf none job = Context.build job.ticket job.options [] [] := by
  unfold contextOf retrieve
  rw [ite_self]
  rfl

theorem contextOf_some {r : Retrieval} (hskip : job.options.skipRetrieval = false) :
    contextOf (some r) job = Context.build job.ticket job.options (itemsOf (r.similarCases job.tenant job.ticket))
      (itemsOf (r.articles job.tenant job.ticket)) := by
  unfold contextOf retrieve
  rw [hskip]
  rfl

theorem contextOf_of_degrades {r r' : Retrieval}
    (hcases : Degrades (r.similarCases job.tenant job.ticket) (r'.similarCases job.tenant job.ticket))
    (harticles : Degrades (r.articles job.tenant job.ticket) (r'.articles job.tenant job.ticket)) :
    contextOf (some r) job = contextOf (some r') job := by
  cases hskip : job.options.skipRetrieval with
  | true => rw [contextOf_of_skip hskip (some r), contextOf_of_skip hskip (some r')]
  | false => rw [contextOf_some hskip, contextOf_some hskip, hcases.itemsOf_eq, harticles.itemsOf_eq]

theorem exists_found (retrieval : Option Retrieval) (job : Job) : ∃ cases articles, Found job retrieval cases articles ∧
    contextOf retrieval job = Context.build job.ticket job.options cases articles := by
  cases hskip : job.options.skipRetrieval with
  | true => exact ⟨[], [], .skipped retrieval hskip, contextOf_of_skip hskip retrieval |>.trans contextOf_none⟩
  | false =>
    cases retrieval with
    | none => exact ⟨[], [], .absent, contextOf_none⟩
    | some r => exact ⟨_, _, .asked hskip (degrades_itemsOf _) (degrades_itemsOf _), contextOf_some hskip⟩

/-! Whole analyses. -/

def withRetrieval (p : Pipeline σ τ) (retrieval : Option Retrieval) : Pipeline σ τ :=
  { p with retrieval := retrieval }

/--
All that an analysis takes from the sources is the context.
-/
theorem analyze_withRetrieval {retrieval retrieval' : Option Retrieval}
    (h : contextOf retrieval job = contextOf retrieval' job) (p : Pipeline σ τ) (files : Files) (s : State σ τ) :
    (p.withRetrieval retrieval).analyze files job s = (p.withRetrieval retrieval').analyze files job s := by
  have hretrieval (retrieval : Option Retrieval) : (p.withRetrieval retrieval).retrieval = retrieval := rfl
  unfold analyze
  rw [hretrieval, hretrieval, h]
  rfl

theorem requests_inquire (p : Pipeline σ τ) (files : Files) (job : Job) (question : Question) (events : List Event)
    (s : State σ τ) : (p.inquire files job question events s).requests = events.filterMap Event.request? ++
      (p.gateway.generate question.request none s.providers).asked.map fun provider => (provider, question.request) := by
  have hasked (asked : List Llm.Provider) :
      (events ++ asked.map fun provider => Event.asked provider question.request).filterMap Event.request? =
        events.filterMap Event.request? ++ asked.map fun provider => (provider, question.request) := by
    rw [List.filterMap_append, List.filterMap_map]
    exact congrArg _ (congrFun List.filterMap_eq_map asked)
  unfold inquire
  generalize p.gateway.generate question.request none s.providers = outcome
  dsimp only
  cases outcome.result with
  | error e =>
    dsimp only
    rw [requests_conclude, hasked]
  | ok response =>
    dsimp only
    cases findingOf job question response outcome.spentMs with
    | error failure =>
      dsimp only
      rw [requests_conclude, hasked]
    | ok finding =>
      dsimp only
      rw [requests_succeed, hasked]

/--
Whether an analysis has put a context to the providers that holds the cases and the articles, and has counted these.
-/
structure Enriched (p : Pipeline σ τ) (files : Files) (job : Job) (s : State σ τ) (cases articles : List Json)
    (context : Json) : Prop where
  similarCases : context.member? "similar_cases" = some (.array cases)
  kbArticles : context.member? "kb_articles" = some (.array articles)
  requests : ∃ spec messages asked, (s.prompts.load files promptId).1 = .ok spec ∧ spec.render context p.engine = .ok messages ∧
    asked ≠ [] ∧ (p.analyze files job s).requests = asked.map fun provider => (provider, requestOf spec messages)
  retrievalCount : cases.length + articles.length < UInt64.size →
    (p.analyze files job s).result.info.retrievalCount.toNat = cases.length + articles.length

theorem asked_ne_nil_of_generate {g : Llm.Gateway σ} {r : Llm.Request} {providers : σ} {response : Llm.Response}
    (h : (g.generate r none providers).result = .ok response) : (g.generate r none providers).asked ≠ [] := by
  obtain ⟨results, final, i, provider, client, -, -, -, hprovider, hclient, -, -, -, -, hasked⟩ :=
    Llm.Gateway.exists_accepted h
  have hmem : provider ∈ (g.generate r none providers).asked := by
    rw [hasked, List.mem_filter, List.take_add_one, hprovider]
    constructor
    . simp
    . unfold Llm.Gateway.isRegistered
      rw [hclient]
      rfl
  exact List.ne_nil_of_mem hmem

theorem enriched_of_success {cases articles : List Json}
    (hcontext : contextOf p.retrieval job = Context.build job.ticket job.options cases articles)
    (hsuccess : (p.analyze files job s).result.success = true) :
    Enriched p files job s cases articles (Context.build job.ticket job.options cases articles).toJson := by
  rcases succeeds_or_fails p files job s with ⟨response, answer, h⟩ | ⟨failure, hfails⟩
  . have hanswer := h.tellsAnswer
    obtain ⟨spec, messages, hload, hrender, hresponse, -⟩ := h
    constructor
    . rfl
    . rfl
    . obtain ⟨s', hproviders, hreport⟩ := analyze_of_render hload hrender
      rw [hcontext] at hrender
      refine ⟨spec, messages, _, hload, hrender, asked_ne_nil_of_generate hresponse, ?_⟩
      rw [hreport, requests_inquire, hproviders]
      rfl
    . intro hsize
      rw [hanswer.retrievalCount, hcontext]
      exact Nat.mod_eq_of_lt hsize
  . rw [hfails.tellsFailure.success] at hsuccess
    contradiction

/--
The sources of cases and articles enrich an analysis, each one for itself. A source that fails makes no difference to one that
has nothing, whatever the other one does: the providers are asked the same, and the result is the same but for its id and its
times. Sources that are to be skipped are not asked, and make no difference to none. What the sources have is found in the
context in full, which is what the providers get for a success, and its number is told.
-/
theorem analyze_enriched (p : Pipeline σ τ) (a : Archive τ') (files : Files) (job : Job) (s : State σ τ) (stored : τ')
    (id : String) (started finished : Timestamp) :
    let run (retrieval : Option Retrieval) := (p.withRetrieval retrieval).analyze files job s
    let rerun (retrieval : Option Retrieval) := ((p.withRetrieval retrieval).withArchive a).analyze files
      (job.at id started finished) ⟨s.prompts, s.schemas, s.providers, stored⟩
    (∀ r r' : Retrieval, Degrades (r.similarCases job.tenant job.ticket) (r'.similarCases job.tenant job.ticket) →
      Degrades (r.articles job.tenant job.ticket) (r'.articles job.tenant job.ticket) →
      run (some r) = run (some r') ∧ SameCourse files s.schemas (run (some r)) (rerun (some r'))) ∧
    (job.options.skipRetrieval = true →
      (∀ (m : Type → Type) [Monad m] (sources : Option (Sources m)), retrieve sources job = pure ([], [])) ∧
      ∀ retrieval, run retrieval = run none ∧ SameCourse files s.schemas (run retrieval) (rerun none)) ∧
    ∀ retrieval, ∃ cases articles, Found job retrieval cases articles ∧
      contextOf retrieval job = Context.build job.ticket job.options cases articles ∧
      ((run retrieval).result.success = true → Enriched (p.withRetrieval retrieval) files job s cases articles
        (Context.build job.ticket job.options cases articles).toJson) := by
  intro run rerun
  have hs : SameButStored s (State.mk s.prompts s.schemas s.providers stored) := ⟨rfl, rfl, rfl⟩
  have hcourse (retrieval : Option Retrieval) : SameCourse files s.schemas (run retrieval) (rerun retrieval) :=
    sameCourse_analyze hs files job id started finished
  refine ⟨?_, ?_, ?_⟩
  . intro r r' hcases harticles
    have hsame : run (some r) = run (some r') := analyze_withRetrieval (contextOf_of_degrades hcases harticles) p files s
    rw [hsame]
    exact ⟨rfl, hcourse (some r')⟩
  . intro hskip
    refine ⟨fun m _ sources => retrieve_of_skip hskip sources, ?_⟩
    intro retrieval
    have hsame : run retrieval = run none := analyze_withRetrieval (contextOf_of_skip hskip retrieval) p files s
    rw [hsame]
    exact ⟨rfl, hcourse none⟩
  . intro retrieval
    obtain ⟨cases, articles, hfound, hcontext⟩ := exists_found retrieval job
    exact ⟨cases, articles, hfound, hcontext, enriched_of_success hcontext⟩

/--
The articles fail, and the two cases are put to the provider and counted all the same; nothing is left of them for a job that is
to skip the sources.
-/
theorem analyze_enriched_halfway :
    let spec : Prompt.Spec := {
      id := promptId, version := "1", description := "", purpose := "", systemPrompt := "Be brief."
      userPromptTemplate := "\x7b\x7b similar_cases|length \x7d\x7d", modelDefaults := .standard, inputSchema := none
      outputSchema := none, knownFailureModes := [], evalChecks := [] }
    let client : Llm.Client Unit := ⟨"chat", fun _ s => (⟨0, .ok "\x7b\x7d"⟩, s)⟩
    let gateway : Llm.Gateway Unit := (Llm.Gateway.ofRoutes (.ofStandard [.deepseek])).register .deepseek client
    let p : Pipeline Unit Unit := ⟨gateway, .disabled, false, none, .plain⟩
    let job : Job := ⟨"a", "acme", ⟨"7", "", "", none, [], [], []⟩, .standard, .epoch, .epoch⟩
    let skipping : Job := { job with options := { job.options with skipRetrieval := true } }
    let s : State Unit Unit := ⟨⟨"prompts", ⟨[(promptId, spec)]⟩⟩, .ofDirectory "schemas", (), ()⟩
    let r : Retrieval := ⟨fun _ _ => .ok [.null, .bool true], fun _ _ => .error (.internal "closed")⟩
    let r' : Retrieval := ⟨fun _ _ => .ok [.null, .bool true], fun _ _ => .ok []⟩
    let run (retrieval : Option Retrieval) (job : Job) := (p.withRetrieval retrieval).analyze .none job s
    run (some r) job = run (some r') job ∧ run (some r) skipping = run none skipping ∧
    Enriched (p.withRetrieval (some r)) .none job s [.null, .bool true] []
      (Context.build job.ticket job.options [.null, .bool true] []).toJson ∧
    (run (some r) job).requests.map (·.2.user) = ["2"] := by
  intro spec client gateway p job skipping s r r' run
  obtain ⟨hdegrades, -, hfound⟩ := analyze_enriched p (.disabled : Archive Unit) .none job s () "b" .epoch .epoch
  obtain ⟨-, hskip, -⟩ := analyze_enriched p (.disabled : Archive Unit) .none skipping s () "b" .epoch .epoch
  have hsuccess : (run (some r) job).result.success = true := by decide +kernel
  refine ⟨(hdegrades r r' (.kept _) (.emptied _)).1, ((hskip rfl).2 (some r)).1, ?_, ?_⟩
  . obtain ⟨cases, articles, hcases, -, henriched⟩ := hfound (some r)
    cases hcases with
    | skipped retrieval hskip => cases hskip
    | asked hnot hcases harticles =>
      cases hcases
      cases harticles
      exact henriched hsuccess
  . decide +kernel

end Pipeline
end Triage
