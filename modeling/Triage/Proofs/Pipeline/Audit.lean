import Triage.Proofs.Pipeline.Calls
import Triage.Proofs.Store.History

/-!
This module contains the trail that analyses leave in a store: a run that is there before a provider is asked and that
has ended when the analysis has, and a record of each success.
-/

namespace Triage

theorem Json.Number.key?_toDouble (n : Json.Number) : n.toDouble.key?.isSome = true := by
  cases n with
  | integer n => rfl
  | real x finite =>
    cases x with
    | nan => contradiction
    | signed negative rank bounded => rfl

theorem Analysis.key?_confidence (analysis : Json.Object) : (confidence analysis).key?.isSome = true := by
  unfold confidence
  cases (analysis.get? "confidence") with
  | none => rfl
  | some v =>
    cases v with
    | number n => apply n.key?_toDouble
    | null | bool | string | array | object => rfl

namespace Store

theorem saveRun_fresh {s : Store} {r : Run} (h : s.runs.get? r.id = none) :
    (s.saveRun r).2 = { s with runs := s.runs.put r.id (.ofRun r) } := by
  unfold saveRun
  rw [h]

theorem saveRun_again {s : Store} {start r : Run} (h : s.runs.get? start.id = none)
    (hstart : start.status = .running) (hid : r.id = start.id) :
    ((s.saveRun start).2.saveRun r).2 =
      { s with runs := s.runs.put start.id ((RunRow.ofRun start).advance (.ofRun r)) } := by
  have hopen : (RunRow.ofRun start).isOpen = true := by
    rw [RunRow.isOpen_ofRun, hstart]
    rfl
  rw [saveRun_fresh h]
  unfold saveRun
  dsimp only
  rw [hid, Table.get?_put_self]
  dsimp only
  rw [if_pos hopen, Table.put_put]

theorem saveRecord_fresh {s : Store} {r : Record} (htakes : takes r = true) (h : s.records.get? r.id = none) :
    s.saveRecord r = { s with records := s.records.put r.id (.ofRecord r) } := by
  unfold saveRecord
  rw [if_pos htakes, h]

end Store

namespace Pipeline

variable {σ τ : Type}

/--
What an archive has stored after events.
-/
def replay (a : Archive τ) (stored : τ) (events : List Event) : τ :=
  events.foldl (fun stored event =>
    match event with
    | .savedRun r => (a.saveRun r stored).2
    | .asked _ _ => stored
    | .savedRecord r => (a.saveRecord r stored).2) stored

theorem replay_append (a : Archive τ) (stored : τ) (events more : List Event) :
    replay a stored (events ++ more) = replay a (replay a stored events) more :=
  List.foldl_append

/--
How an analysis with this result ends: the run is archived once more, and with a success there is a record.
-/
def ending (job : Job) (result : Analysis.Result) : List Event :=
  .savedRun (endOf job result) :: if result.success then [.savedRecord (recordOf job result)] else []

def askedOf (requests : List (Llm.Provider × Llm.Request)) : List Event :=
  requests.map fun (p, r) => .asked p r

theorem replay_askedOf (a : Archive τ) (stored : τ) (requests : List (Llm.Provider × Llm.Request)) :
    replay a stored (askedOf requests) = stored := by
  unfold replay askedOf
  rw [List.foldl_map]
  induction requests with
  | nil => rfl
  | cons r requests ih => exact ih

/--
What every analysis does, whatever the archive is: it archives the start of its run, asks providers, and ends.
-/
structure Course (a : Archive τ) (job : Job) (stored : τ) (report : Report σ τ) : Prop where
  events : ∃ requests, report.events = .savedRun (startOf job) :: askedOf requests ++ ending job report.result
  stored : report.state.stored = replay a stored report.events
  id : report.result.id = job.id
  success : report.result.success = report.result.error.isNone
  gate : report.result.success = false → report.result.gate = .teach

theorem replay_started (a : Archive τ) (r : Run) (stored : τ) (requests : List (Llm.Provider × Llm.Request)) :
    replay a stored (.savedRun r :: askedOf requests) = (a.saveRun r stored).2 :=
  replay_askedOf a (a.saveRun r stored).2 requests

variable {p : Pipeline σ τ} {job : Job} {s : State σ τ} {stored : τ}

theorem course_conclude (requests : List (Llm.Provider × Llm.Request))
    (hs : s.stored = (p.archive.saveRun (startOf job) stored).2) (failure : Failure) (spentMs : Nat) :
    Course p.archive job stored
      (p.conclude job failure spentMs (.savedRun (startOf job) :: askedOf requests) s) := by
  constructor
  . exact ⟨requests, rfl⟩
  . unfold conclude
    dsimp only
    rw [replay_append, replay_started, ← hs]
    rfl
  . rfl
  . rfl
  . intro _
    rfl

theorem checked_eq (p : Pipeline σ τ) (files : Files) (schema : Option String) (result : Analysis.Result)
    (schemas : Schema.Validator) :
    ∃ verdict, (p.checked files schema result schemas).1 =
      { result with info := { result.info with outputSchemaValid := verdict } } := by
  unfold checked
  split
  . exact ⟨result.info.outputSchemaValid, rfl⟩
  . exact ⟨some _, rfl⟩

theorem course_succeed (requests : List (Llm.Provider × Llm.Request))
    (hs : s.stored = (p.archive.saveRun (startOf job) stored).2) (files : Files) (schema : Option String) (finding : Finding) :
    Course p.archive job stored
      (p.succeed files job schema finding (.savedRun (startOf job) :: askedOf requests) s) := by
  obtain ⟨verdict, hchecked⟩ := checked_eq p files schema (resultOf job finding) s.schemas
  unfold succeed
  generalize p.checked files schema (resultOf job finding) s.schemas = outcome at hchecked
  obtain ⟨result, schemas⟩ := outcome
  obtain rfl : result = _ := hchecked
  constructor
  . exact ⟨requests, rfl⟩
  . dsimp only
    rw [replay_append, replay_started, ← hs]
    rfl
  . rfl
  . rfl
  . intro hfailed
    contradiction

theorem course_inquire (hs : s.stored = (p.archive.saveRun (startOf job) stored).2) (files : Files)
    (question : Question) :
    Course p.archive job stored (p.inquire files job question [.savedRun (startOf job)] s) := by
  unfold inquire
  generalize p.gateway.generate question.request none s.providers = outcome
  dsimp only
  have hasked : [Event.savedRun (startOf job)] ++ outcome.asked.map (Event.asked · question.request) =
      .savedRun (startOf job) :: askedOf (outcome.asked.map fun provider => (provider, question.request)) := by
    unfold askedOf
    rw [List.map_map]
    rfl
  rw [hasked]
  -- No answer, an answer that is no finding, and a finding.
  split
  . apply course_conclude
    exact hs
  . split
    . apply course_conclude
      exact hs
    . apply course_succeed
      exact hs

theorem course_analyze (p : Pipeline σ τ) (files : Files) (job : Job) (s : State σ τ) :
    Course p.archive job s.stored (p.analyze files job s) := by
  unfold analyze
  dsimp only
  split
  . apply course_conclude []
    rfl
  . split
    . apply course_conclude []
      rfl
    . apply course_inquire
      rfl

/--
Whether a value is read again from its text.
-/
def Survives (v : Json) : Prop :=
  Json.parse? v.compact = some v

theorem storedValue_of_survives {v : Json} (h : Survives v) : Store.storedValue v.compact = v := by
  unfold Store.storedValue
  rw [h]
  rfl

structure EndedRun (job : Job) (result : Analysis.Result) (run : Run) : Prop where
  id : run.id = job.id
  tenant : run.tenant = job.tenant
  ticket : run.ticket = job.ticket.id
  status : run.status = if result.success then .completed else .failed
  gate : run.gate = some result.gate
  error : run.error = result.error
  info : result.success = true → Survives result.info.toJson.canonical → run.info = result.info.toJson.canonical

structure FoundRecord (job : Job) (result : Analysis.Result) (record : Record) : Prop where
  id : record.id = job.id
  run : record.run = job.id
  tenant : record.tenant = job.tenant
  ticket : record.ticket = job.ticket.id
  analysis : Survives (.object result.analysis) → record.analysis = .object result.analysis
  confidence : record.confidence.eq result.confidence = true

def kept : Archive Store := .ofBackend Store.backend

/--
The trail of one analysis, from a store with which it begins.
-/
structure Audited (job : Job) (before : Store) (report : Report σ Store) : Prop where
  /-- What is stored is what the events say. -/
  stored : report.state.stored = replay kept before report.events
  /-- When a provider is asked, the run is there. -/
  asked : ∀ front p r back now, report.events = front ++ .asked p r :: back →
    ∃ run, (replay kept before front).run? now job.id = .ok (some run) ∧ run.status = .running ∧ run.gate = none
  id : report.result.id = job.id
  runs : ∃ row, report.state.stored.runs.rows = before.runs.rows ++ [(job.id, row)]
  records : ∃ rows, report.state.stored.records.rows = before.records.rows ++ rows ∧
    rows.map Prod.fst = if report.result.success then [job.id] else []
  run : ∀ now, ∃ run, report.state.stored.run? now job.id = .ok (some run) ∧ EndedRun job report.result run
  /-- The record is there for a success only, and only for the tenant of the job. -/
  record : ∀ now tenant,
    if report.result.success ∧ tenant = job.tenant then
      ∃ record, report.state.stored.record? now job.id tenant = some record ∧ FoundRecord job report.result record
    else
      report.state.stored.record? now job.id tenant = none

theorem endedRun_of_get? {store : Store} {result : Analysis.Result}
    (hrow : store.runs.get? job.id = some ((Store.RunRow.ofRun (startOf job)).advance (.ofRun (endOf job result))))
    (hsuccess : result.success = result.error.isNone) (hgate : result.success = false → result.gate = .teach)
    (now : Timestamp) :
    ∃ run, store.run? now job.id = .ok (some run) ∧ EndedRun job result run := by
  refine ⟨_, Store.run?_of_get? hrow now, ?_⟩
  cases herror : result.error with
  | none =>
    rw [herror] at hsuccess
    rw [endOf, herror]
    constructor
    . rfl
    . rfl
    . rfl
    . rw [hsuccess]
      rfl
    . rfl
    . exact herror.symm
    . intro _ hsurvives
      dsimp only [Run.complete]
      rw [storedValue_of_survives hsurvives]
  | some error =>
    rw [herror] at hsuccess
    rw [endOf, herror]
    constructor
    . rfl
    . rfl
    . rfl
    . rw [hsuccess]
      rfl
    . rw [hgate hsuccess]
      rfl
    . exact herror.symm
    . intro htrue
      rw [hsuccess] at htrue
      contradiction

theorem foundRecord (job : Job) (result : Analysis.Result) (now : Timestamp) :
    FoundRecord job result ((Store.RecordRow.ofRecord (recordOf job result)).toRecord now job.id) := by
  constructor
  . rfl
  . rfl
  . rfl
  . rfl
  . intro hsurvives
    apply storedValue_of_survives hsurvives
  . exact Store.eq_storedNumber (Analysis.key?_confidence result.analysis)

theorem takes_recordOf (job : Job) (result : Analysis.Result) : Store.takes (recordOf job result) = true :=
  Store.takes_iff.mpr (Analysis.key?_confidence result.analysis)

theorem not_mem_ending (job : Job) (result : Analysis.Result) (p : Llm.Provider) (r : Llm.Request) :
    .asked p r ∉ ending job result := by
  unfold ending
  split <;> simp

/--
What comes before a provider is asked is the start of the run, and other providers that are asked.
-/
theorem before_asked {result : Analysis.Result} {requests : List (Llm.Provider × Llm.Request)} {front back : List Event}
    {p : Llm.Provider} {r : Llm.Request}
    (h : .savedRun (startOf job) :: askedOf requests ++ ending job result = front ++ .asked p r :: back) :
    ∃ earlier, front = .savedRun (startOf job) :: askedOf earlier := by
  cases front with
  | nil => simp at h
  | cons event front =>
    rw [List.cons_append, List.cons_append, List.cons.injEq] at h
    obtain ⟨rfl, h⟩ := h
    rw [List.append_eq_append_iff] at h
    obtain ⟨later, rfl, hending⟩ | ⟨later, hasked, -⟩ := h
    . have hmem : .asked p r ∈ ending job result := by simp [hending]
      exact absurd hmem (not_mem_ending job result p r)
    . unfold askedOf at hasked
      obtain ⟨earlier, _, -, rfl, -⟩ := List.map_eq_append_iff.mp hasked
      exact ⟨earlier, rfl⟩

theorem replay_ending (before : Store) (job : Job) (result : Analysis.Result)
    (requests : List (Llm.Provider × Llm.Request)) :
    replay kept before (.savedRun (startOf job) :: askedOf requests ++ ending job result) =
      if result.success then
        ((before.saveRun (startOf job)).2.saveRun (endOf job result)).2.saveRecord (recordOf job result)
      else
        ((before.saveRun (startOf job)).2.saveRun (endOf job result)).2 := by
  rw [replay_append, replay_started]
  unfold ending
  split <;> rfl

theorem id_endOf (job : Job) (result : Analysis.Result) : (endOf job result).id = job.id := by
  unfold endOf
  split <;> rfl

variable {before : Store} {report : Report σ Store}

/--
The tables after an analysis whose id is new to the store.
-/
theorem Course.tables (h : Course kept job before report) (hrun : before.runs.get? job.id = none)
    (hrecord : before.records.get? job.id = none) :
    report.state.stored =
      { runs := before.runs.put job.id
          ((Store.RunRow.ofRun (startOf job)).advance (.ofRun (endOf job report.result)))
        records :=
          if report.result.success then before.records.put job.id (.ofRecord (recordOf job report.result))
          else before.records } := by
  obtain ⟨requests, hevents⟩ := h.events
  rw [h.stored, hevents, replay_ending, Store.saveRun_again hrun rfl (id_endOf job report.result)]
  split
  . rw [Store.saveRecord_fresh (takes_recordOf job report.result)]
    . rfl
    . exact hrecord
  . rfl

theorem Course.audited (h : Course kept job before report) (hrun : before.runs.get? job.id = none)
    (hrecord : before.records.get? job.id = none) : Audited job before report := by
  have htables := h.tables hrun hrecord
  constructor
  . exact h.stored
  . intro front p r back now hevents
    obtain ⟨requests, hall⟩ := h.events
    rw [hall] at hevents
    obtain ⟨earlier, rfl⟩ := before_asked hevents
    have hstarted : (replay kept before (.savedRun (startOf job) :: askedOf earlier)).runs.get? job.id =
        some ((Store.RunRow.ofRun (startOf job)).advance (.ofRun (startOf job))) := by
      have hsaved : (kept.saveRun (startOf job) before).2 =
          { before with runs := before.runs.put job.id (.ofRun (startOf job)) } := Store.saveRun_fresh hrun
      rw [replay_started, hsaved, Store.RunRow.advance_self]
      apply Table.get?_put_self
    exact ⟨_, Store.run?_of_get? hstarted now, rfl, rfl⟩
  . exact h.id
  . rw [htables]
    exact ⟨_, Table.rows_put_of_none hrun _⟩
  . rw [htables]
    dsimp only
    split
    . exact ⟨_, Table.rows_put_of_none hrecord _, rfl⟩
    . exact ⟨[], by simp, rfl⟩
  . apply endedRun_of_get?
    . rw [htables]
      apply Table.get?_put_self
    . exact h.success
    . exact h.gate
  . intro now tenant
    rw [htables]
    unfold Store.record?
    dsimp only
    cases hsuccess : report.result.success with
    | false => simp [hrecord]
    | true =>
      rw [if_pos rfl, Table.get?_put_self]
      dsimp only
      by_cases htenant : tenant = job.tenant
      . have howner : (Store.RecordRow.ofRecord (recordOf job report.result)).tenant = tenant := htenant.symm
        rw [if_pos ⟨rfl, htenant⟩, if_pos howner]
        exact ⟨_, rfl, foundRecord job report.result now⟩
      . have hforeign : (Store.RecordRow.ofRecord (recordOf job report.result)).tenant ≠ tenant := Ne.symm htenant
        rw [if_neg (fun h => htenant h.2), if_neg hforeign]

/--
An analysis leaves alone what the store has under other ids.
-/
theorem Course.get?_of_ne (h : Course kept job before report) {id : String} (hid : id ≠ job.id) :
    report.state.stored.runs.get? id = before.runs.get? id ∧
    report.state.stored.records.get? id = before.records.get? id := by
  obtain ⟨requests, hevents⟩ := h.events
  have hend : id ≠ (endOf job report.result).id := by rwa [id_endOf]
  have hruns : ((before.saveRun (startOf job)).2.saveRun (endOf job report.result)).2.runs.get? id =
      before.runs.get? id := by
    rw [Store.get?_saveRun, if_neg hend, Store.get?_saveRun]
    apply if_neg hid
  -- Both saves of the run and the one of the record are made under the id of the job.
  rw [h.stored, hevents, replay_ending]
  split
  . rw [Store.runs_saveRecord, Store.get?_saveRecord_of_ne _ hid, Store.records_saveRun, Store.records_saveRun]
    exact ⟨hruns, rfl⟩
  . rw [Store.records_saveRun, Store.records_saveRun]
    exact ⟨hruns, rfl⟩

namespace Call

theorem course_report {c : Call σ Store} (hkept : c.pipeline.archive = kept) (s : State σ Store) :
    Course kept c.job s.stored (c.report s) := by
  rw [← hkept]
  apply course_analyze

theorem get?_after_of_not_mem {calls : List (Call σ Store)} {s : State σ Store} {id : String}
    (hkept : ∀ c ∈ calls, c.pipeline.archive = kept) (hid : id ∉ calls.map (·.job.id)) :
    (after s calls).stored.runs.get? id = s.stored.runs.get? id ∧
    (after s calls).stored.records.get? id = s.stored.records.get? id := by
  induction calls generalizing s with
  | nil => exact ⟨rfl, rfl⟩
  | cons c calls ih =>
    rw [List.forall_mem_cons] at hkept
    rw [List.map_cons, List.mem_cons, not_or] at hid
    obtain ⟨hruns, hrecords⟩ := (course_report hkept.1 s).get?_of_ne hid.1
    rw [← hruns, ← hrecords]
    exact ih hkept.2 hid.2

/--
Analyses under new ids that archive in one store leave an audit trail, each of them from the store that those before it
have left.
-/
theorem audited_of_fresh (calls : List (Call σ Store)) (s : State σ Store)
    (hkept : ∀ c ∈ calls, c.pipeline.archive = kept)
    (hfresh : ∀ c ∈ calls, s.stored.runs.get? c.job.id = none ∧ s.stored.records.get? c.job.id = none)
    (hnodup : (calls.map (·.job.id)).Nodup) :
    ∀ front c back, calls = front ++ c :: back →
      Audited c.job (after s front).stored (c.report (after s front)) := by
  rintro front c back rfl
  have hmem : c ∈ front ++ c :: back := by simp
  have hid : c.job.id ∉ front.map (·.job.id) := by
    rw [List.map_append, List.map_cons] at hnodup
    have hdisjoint := (List.nodup_append.mp hnodup).2.2
    intro hfront
    exact hdisjoint _ hfront _ List.mem_cons_self rfl
  obtain ⟨hruns, hrecords⟩ := get?_after_of_not_mem (s := s)
    (fun d hd => hkept d (List.mem_append_left _ hd)) hid
  apply (course_report (hkept c hmem) _).audited
  . rw [hruns]
    exact (hfresh c hmem).1
  . rw [hrecords]
    exact (hfresh c hmem).2

/--
Of two analyses that a model answers, the second one is found by its own tenant only.
-/
theorem audited_of_fresh_two :
    let spec : Prompt.Spec := {
      id := promptId, version := "1", description := "", purpose := "", systemPrompt := "Be brief."
      userPromptTemplate := "Ticket", modelDefaults := .standard, inputSchema := none, outputSchema := none
      knownFailureModes := [], evalChecks := [] }
    let client : Llm.Client Unit := ⟨"chat", fun _ s => (⟨0, .ok "\x7b\"confidence\":0.9\x7d"⟩, s)⟩
    let gateway : Llm.Gateway Unit := (Llm.Gateway.ofRoutes (.ofStandard [.deepseek])).register .deepseek client
    let job (id : String) : Job := ⟨id, "acme", ⟨"7", "", "", none, [], [], []⟩, .standard, .epoch, .epoch⟩
    let call (id : String) : Call Unit Store := ⟨⟨gateway, kept, false, none, .plain⟩, .none, job id⟩
    let s : State Unit Store := ⟨⟨"prompts", ⟨[(promptId, spec)]⟩⟩, .ofDirectory "schemas", (), .empty⟩
    (∃ record, (after s [call "a", call "b"]).stored.record? .epoch "b" "acme" = some record ∧ record.run = "b") ∧
    (after s [call "a", call "b"]).stored.record? .epoch "b" "globex" = none := by
  intro spec client gateway job call s
  have haudited : Audited (job "b") (after s [call "a"]).stored ((call "b").report (after s [call "a"])) := by
    refine audited_of_fresh [call "a", call "b"] s ?_ ?_ ?_ [call "a"] (call "b") [] rfl
    . simp [call]
    . simp [s, Store.empty]
    . simp [call, job]
  have hsuccess : ((call "b").report (after s [call "a"])).result.success = true := by decide +kernel
  have hrecord := haudited.record .epoch
  rw [hsuccess] at hrecord
  have hafter : after s [call "a", call "b"] = ((call "b").report (after s [call "a"])).state := rfl
  rw [hafter]
  constructor
  . obtain ⟨record, hread, hfound⟩ := hrecord "acme"
    exact ⟨record, hread, hfound.run⟩
  . exact hrecord "globex"

end Call
end Pipeline
end Triage
