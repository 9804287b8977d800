import Triage.Command
import Triage.Proofs.Json.Indented
import Triage.Proofs.Json.Record
import Triage.Proofs.Loading
import Triage.Proofs.Pipeline.Audit

/-!
This module contains what it costs to tell the program to analyse a ticket in a file. An input that is refused costs
nothing: no provider is asked and nothing is stored. An input that is taken costs one run, whose end is the exit code.
-/

namespace Triage
namespace Command

open Pipeline (State)

variable {σ τ : Type} {files : Files} {input : String} {s : State σ τ}

/--
Whether a file holds the text of a value.
-/
def Holds (files : Files) (input : String) (v : Json) : Prop :=
  ∃ text, files.read input = .ok text ∧ Json.parse? text = some v

/--
The schema that the prompt asks its input to fit.
-/
def schemaFor (spec : Prompt.Spec) : String :=
  spec.inputSchema.getD standardSchema

/--
The failure of a value that is accepted and yet is no ticket.
-/
def shapeFailure : Failure :=
  .internal "Input does not match the normalized ticket shape: <decode error>"

/--
Why the input of an analysis is refused, in the order in which the reasons are looked for.
-/
inductive Refused (files : Files) (input : String) (s : State σ τ) : Failure → Prop where
  | unreadable {e : Files.Error} (hread : files.read input = .error e) :
      Refused files input s (.internal ("Failed to read " ++ input ++ ": " ++ e.message))
  | notJson {text : String} (hread : files.read input = .ok text) (hparse : Json.parse? text = none) :
      Refused files input s (.internal "Input is not valid JSON: <json error>")
  | noPrompt {v : Json} {e : Prompt.Error} (hinput : Holds files input v)
      (hprompt : (s.prompts.load files Pipeline.promptId).1 = .error e) : Refused files input s (.prompt e)
  /-- The schema is missing, or it is malformed. -/
  | noSchema {v : Json} {spec : Prompt.Spec} {e : Schema.Error} (hinput : Holds files input v)
      (hprompt : (s.prompts.load files Pipeline.promptId).1 = .ok spec)
      (hschema : (s.schemas.load files (schemaFor spec)).1 = .error e) : Refused files input s (.schema e)
  | violation {v : Json} {spec : Prompt.Spec} {d : Schema.Document} (hinput : Holds files input v)
      (hprompt : (s.prompts.load files Pipeline.promptId).1 = .ok spec)
      (hschema : (s.schemas.load files (schemaFor spec)).1 = .ok d) (hreport : d.report v ≠ []) :
      Refused files input s (.schema (.invalid (schemaFor spec) (d.report v)))
  | noTicket {v : Json} {spec : Prompt.Spec} {d : Schema.Document} (hinput : Holds files input v)
      (hprompt : (s.prompts.load files Pipeline.promptId).1 = .ok spec)
      (hschema : (s.schemas.load files (schemaFor spec)).1 = .ok d) (hreport : d.report v = [])
      (hticket : Ticket.ofJson? v = none) : Refused files input s shapeFailure

/--
Whether the input of an analysis is taken, and what it holds: the value `v` for a ticket.
-/
structure Taken (files : Files) (input : String) (s : State σ τ) (v : Json) (ticket : Ticket) : Prop where
  input : Holds files input v
  accepted : ∃ spec d, (s.prompts.load files Pipeline.promptId).1 = .ok spec ∧
    (s.schemas.load files (schemaFor spec)).1 = .ok d ∧ d.report v = []
  ticket : Ticket.ofJson? v = some ticket

/--
The stages of looking at an input: each one stands on those before it, whatever it leaves in the state.
-/
theorem loadTicket_eq (files : Files) (input : String) (s : State σ τ) : (loadTicket files input s).1 = (do
    let v ← readTicket files input
    let spec ← (s.prompts.load files Pipeline.promptId).1.mapError .prompt
    (s.schemas.validate files (schemaFor spec) v).1.mapError .schema
    match Ticket.ofJson? v with
    | some ticket => .ok ticket
    | none => .error shapeFailure) := by
  unfold loadTicket schemaFor
  cases readTicket files input with
  | error e => rfl
  | ok v =>
    dsimp only [Bind.bind, Except.bind]
    cases (s.prompts.load files Pipeline.promptId).1 with
    | error e => rfl
    | ok spec =>
      dsimp only [Except.mapError]
      cases (s.schemas.validate files (spec.inputSchema.getD standardSchema) v).1 with
      | error e => rfl
      | ok =>
        dsimp only
        cases Ticket.ofJson? v with
        | none => rfl
        | some ticket => rfl

theorem readTicket_of_unreadable {e : Files.Error} (h : files.read input = .error e) :
    readTicket files input = .error (.internal ("Failed to read " ++ input ++ ": " ++ e.message)) := by
  unfold readTicket
  rw [h]
  rfl

theorem readTicket_of_text {text : String} (h : files.read input = .ok text) :
    readTicket files input =
      match Json.parse? text with
      | none => .error (.internal "Input is not valid JSON: <json error>")
      | some v => .ok v := by
  unfold readTicket
  rw [h]
  dsimp only
  cases Json.parse? text <;> rfl

theorem readTicket_of_holds {v : Json} (h : Holds files input v) : readTicket files input = .ok v := by
  obtain ⟨text, hread, hparse⟩ := h
  rw [readTicket_of_text hread, hparse]

theorem Refused.loadTicket {e : Failure} (h : Refused files input s e) : (loadTicket files input s).1 = .error e := by
  rw [loadTicket_eq]
  cases h with
  | unreadable hread =>
    rw [readTicket_of_unreadable hread]
    rfl
  | notJson hread hparse =>
    rw [readTicket_of_text hread, hparse]
    rfl
  | noPrompt hinput hprompt =>
    rw [readTicket_of_holds hinput, hprompt]
    rfl
  | noSchema hinput hprompt hschema =>
    rw [readTicket_of_holds hinput, hprompt]
    dsimp only [Bind.bind, Except.bind, Except.mapError]
    rw [Schema.Validator.validate_of_error hschema]
  | violation hinput hprompt hschema hreport =>
    rw [readTicket_of_holds hinput, hprompt]
    dsimp only [Bind.bind, Except.bind, Except.mapError]
    rw [Schema.Validator.validate_of_load hschema, if_neg hreport]
  | noTicket hinput hprompt hschema hreport hticket =>
    rw [readTicket_of_holds hinput, hprompt]
    dsimp only [Bind.bind, Except.bind, Except.mapError]
    rw [Schema.Validator.validate_of_load hschema, if_pos hreport, hticket]

theorem Taken.loadTicket {v : Json} {ticket : Ticket} (h : Taken files input s v ticket) :
    (loadTicket files input s).1 = .ok ticket := by
  obtain ⟨spec, d, hprompt, hschema, hreport⟩ := h.accepted
  rw [loadTicket_eq, readTicket_of_holds h.input, hprompt]
  dsimp only [Bind.bind, Except.bind, Except.mapError]
  rw [Schema.Validator.validate_of_load hschema, if_pos hreport, h.ticket]

/--
Every input is refused or taken.
-/
theorem refused_or_taken (files : Files) (input : String) (s : State σ τ) :
    (∃ e, Refused files input s e) ∨ ∃ v ticket, Taken files input s v ticket := by
  cases hread : files.read input with
  | error e => exact .inl ⟨_, .unreadable hread⟩
  | ok text =>
    cases hparse : Json.parse? text with
    | none => exact .inl ⟨_, .notJson hread hparse⟩
    | some v =>
      have hinput : Holds files input v := ⟨text, hread, hparse⟩
      cases hprompt : (s.prompts.load files Pipeline.promptId).1 with
      | error e => exact .inl ⟨_, .noPrompt hinput hprompt⟩
      | ok spec =>
        cases hschema : (s.schemas.load files (schemaFor spec)).1 with
        | error e => exact .inl ⟨_, .noSchema hinput hprompt hschema⟩
        | ok d =>
          by_cases hreport : d.report v = []
          . cases hticket : Ticket.ofJson? v with
            | none => exact .inl ⟨_, .noTicket hinput hprompt hschema hreport hticket⟩
            | some ticket => exact .inr ⟨v, ticket, hinput, ⟨spec, d, hprompt, hschema, hreport⟩, hticket⟩
          . exact .inl ⟨_, .violation hinput hprompt hschema hreport⟩

/--
Looking at an input may load a prompt and a schema, and changes nothing else.
-/
theorem frame_loadTicket (files : Files) (input : String) (s : State σ τ) :
    (loadTicket files input s).2.providers = s.providers ∧ (loadTicket files input s).2.stored = s.stored := by
  unfold loadTicket
  dsimp only
  split
  . exact ⟨rfl, rfl⟩
  . split
    . exact ⟨rfl, rfl⟩
    . split
      . exact ⟨rfl, rfl⟩
      . split <;> exact ⟨rfl, rfl⟩

/--
The id that a value gives for a ticket: under its name in an object, or in the first place of an array.
-/
def ticketId? : Json → Option String
  | .object members => (Members.get? "ticket_id" members).bind Json.string?
  | .array items => items.head?.bind Json.string?
  | _ => none

theorem ticketId?_of_ofJson? {v : Json} {ticket : Ticket} (h : Ticket.ofJson? v = some ticket) :
    ticketId? v = some ticket.id := by
  unfold Ticket.ofJson? at h
  obtain ⟨f, hfields, h⟩ := Option.bind_eq_some_iff.mp h
  obtain ⟨id, hid, h⟩ := Option.bind_eq_some_iff.mp h
  have hticket : ticket.id = id := by
    simp only [Option.bind_eq_bind, Option.bind_eq_some_iff, Option.pure_def, Option.some.injEq] at h
    obtain ⟨_, _, _, _, _, _, _, _, _, _, _, _, rfl⟩ := h
    rfl
  rw [hticket]
  obtain ⟨-, hgiven, -⟩ := Json.Fields.of_ofJson? hfields
  unfold Json.Fields.required at hid
  rw [hgiven "ticket_id" (by decide)] at hid
  cases v with
  | object members => exact hid
  | array items =>
    cases items with
    | nil => contradiction
    | cons item items => exact hid
  | _ => contradiction

variable {p : Pipeline σ Store} {o : Occasion} {tenant : String} {options : Analysis.Options}

def jobOf (o : Occasion) (tenant : String) (options : Analysis.Options) (ticket : Ticket) : Pipeline.Job :=
  { id := o.id
    tenant := tenant
    ticket := ticket
    options := options
    started := o.started
    finished := o.finished }

theorem execute_of_refused {p : Pipeline σ τ} {e : Failure} (h : Refused files input s e) (o : Occasion) (tenant : String)
    (options : Analysis.Options) :
    execute p files o (.analyze tenant input options) s =
      { answer := .failed e.message, events := [], state := (loadTicket files input s).2 } := by
  have hload := h.loadTicket
  unfold execute
  dsimp only
  generalize loadTicket files input s = loaded at *
  obtain ⟨result, s'⟩ := loaded
  obtain rfl : result = .error e := hload
  rfl

theorem execute_of_taken {p : Pipeline σ τ} {v : Json} {ticket : Ticket} (h : Taken files input s v ticket) (o : Occasion)
    (tenant : String) (options : Analysis.Options) :
    execute p files o (.analyze tenant input options) s =
      let report := p.analyze files (jobOf o tenant options ticket) (loadTicket files input s).2
      { answer := ⟨.json report.result.toJson, report.result.success⟩
        events := report.events
        state := report.state } := by
  have hload := h.loadTicket
  unfold execute
  dsimp only
  generalize loadTicket files input s = loaded at *
  obtain ⟨result, s'⟩ := loaded
  obtain rfl : result = .ok ticket := hload
  rfl

/--
A result has no numbers but those of its analysis and integers.
-/
theorem numbersSurvive_toJson {r : Analysis.Result} (h : (Json.object r.analysis).NumbersSurvive) : r.toJson.NumbersSurvive := by
  have husage : r.info.tokenUsage.toJson.NumbersSurvive := by
    apply Json.numbersSurvive_object_iff.mpr
    simp [Json.ofUInt64, Json.NumbersSurvive, Json.Number.Survives]
  have hinfo : r.info.toJson.NumbersSurvive := by
    apply Json.numbersSurvive_object_iff.mpr
    cases r.info.outputSchemaValid <;> cases r.info.error <;>
      simp [husage, Json.memberIf, Json.ofUInt64, Json.ofUInt32, Json.NumbersSurvive, Json.Number.Survives]
  have hgate : r.gate.toJson.NumbersSurvive := trivial
  have hword (b : Bool) : (Json.bool b).NumbersSurvive := trivial
  have htext (s : String) : (Json.string s).NumbersSurvive := trivial
  apply Json.numbersSurvive_object_iff.mpr
  cases r.error <;> simp [h, hinfo, hgate, hword, htext, Json.memberIf]

/--
The command is over with nothing done: no provider was asked, and the store is the one before it.
-/
structure Free (s : State σ τ) (outcome : Outcome σ τ) : Prop where
  exitCode : outcome.answer.exitCode = 1
  events : outcome.events = []
  providers : outcome.state.providers = s.providers
  stored : outcome.state.stored = s.stored

/--
The command has added one run to the store, and has printed the result with which this run has ended.
-/
structure Charged (o : Occasion) (tenant ticket : String) (s : State σ Store) (outcome : Outcome σ Store)
    (result : Analysis.Result) : Prop where
  printed : outcome.answer.output.toText = result.toJson.indented
  /-- Whatever takes the text of the result without blanks takes what is printed, for the same value. -/
  sameReading : ∀ limit, Json.readWithin limit outcome.answer.output.toText.toList =
    Json.readWithin limit result.toJson.compact.toList
  /-- This value is the result, if containers may be nested so deeply and the numbers of the analysis are read again. -/
  reading : ∀ limit, result.toJson.containers ≤ limit → (Json.object result.analysis).NumbersSurvive →
    Json.readWithin limit outcome.answer.output.toText.toList = some result.toJson
  row : ∃ row, outcome.state.stored.runs.rows = s.stored.runs.rows ++ [(o.id, row)]
  run : ∀ now, ∃ run, outcome.state.stored.run? now o.id = .ok (some run) ∧ run.tenant = tenant ∧ run.ticket = ticket ∧
    run.gate = some result.gate ∧ run.error = result.error ∧ run.status ≠ .running ∧
    (outcome.answer.exitCode = 0 ↔ run.status = .completed)

/--
To tell the program to analyse a ticket costs nothing if the input is refused, for whatever reason. Every other input is
taken, and then there is one more run, which has ended well exactly if the exit code is zero.
-/
theorem execute_analyze (hkept : p.archive = Pipeline.kept) (files : Files) (o : Occasion) (tenant input : String)
    (options : Analysis.Options) (s : State σ Store) (hrun : s.stored.runs.get? o.id = none)
    (hrecord : s.stored.records.get? o.id = none) :
    let outcome := execute p files o (.analyze tenant input options) s
    ((∃ e, Refused files input s e) ∨ ∃ v ticket, Taken files input s v ticket) ∧
    (∀ e, Refused files input s e → Free s outcome ∧ outcome.answer.output.toText = e.message) ∧
    ∀ v ticket, Taken files input s v ticket → ticketId? v = some ticket.id ∧
      Charged o tenant ticket.id s outcome
        (p.analyze files (jobOf o tenant options ticket) (loadTicket files input s).2).result := by
  refine ⟨refused_or_taken files input s, ?_, ?_⟩
  . intro e he
    obtain ⟨hproviders, hstored⟩ := frame_loadTicket files input s
    rw [execute_of_refused he]
    exact ⟨⟨rfl, rfl, hproviders, hstored⟩, rfl⟩
  . intro v ticket hticket
    obtain ⟨-, hstored⟩ := frame_loadTicket files input s
    refine ⟨ticketId?_of_ofJson? hticket.ticket, ?_⟩
    have hcourse := Pipeline.course_analyze p files (jobOf o tenant options ticket) (loadTicket files input s).2
    rw [hkept, hstored] at hcourse
    have haudited := hcourse.audited hrun hrecord
    rw [execute_of_taken hticket]
    constructor
    . rfl
    . exact fun limit => Json.readWithin_indented limit _
    . exact fun limit hdepth hnumbers => Json.readWithin_indented_eq_some hdepth (numbersSurvive_toJson hnumbers)
    . exact haudited.runs
    . intro now
      obtain ⟨run, hread, hended⟩ := haudited.run now
      refine ⟨run, hread, hended.tenant, hended.ticket, hended.gate, hended.error, ?_⟩
      rw [hended.status]
      unfold Answer.exitCode
      dsimp only
      split <;> simp

/--
A ticket without an id is refused by the schema. One with an id is taken, and the answer of a model that is no object
is a run that has failed.
-/
theorem execute_analyze_both :
    let spec : Prompt.Spec := {
      id := Pipeline.promptId, version := "1", description := "", purpose := "", systemPrompt := "Be brief."
      userPromptTemplate := "Ticket", modelDefaults := .standard
      inputSchema := some "ticket", outputSchema := none, knownFailureModes := [], evalChecks := [] }
    let schema : Schema.Document := ⟨.bool true, .required ["ticket_id"], fun _ => none⟩
    let client : Llm.Client Unit := ⟨"chat", fun _ s => (⟨0, .ok "Sorry."⟩, s)⟩
    let gateway : Llm.Gateway Unit := (Llm.Gateway.ofRoutes (.ofStandard [.deepseek])).register .deepseek client
    let p : Pipeline Unit Store := ⟨gateway, Pipeline.kept, false, none, .plain⟩
    let files := (Files.none.write "bad.json" (.text "\x7b\x7d")).write "good.json" (.text "\x7b\"ticket_id\":\"7\"\x7d")
    let s : State Unit Store :=
      ⟨⟨"prompts", ⟨[(Pipeline.promptId, spec)]⟩⟩, ⟨"schemas", .plain, ⟨[("ticket", schema)]⟩⟩, (), .empty⟩
    let outcome (input : String) := execute p files ⟨"a", .epoch, .epoch⟩ (.analyze "acme" input .standard) s
    Free s (outcome "bad.json") ∧
    (outcome "good.json").answer.exitCode = 1 ∧
    ∃ run, (outcome "good.json").state.stored.run? .epoch "a" = .ok (some run) ∧ run.ticket = "7" ∧ run.status = .failed := by
  intro spec schema client gateway p files s outcome
  have hread {input text : String} (h : (files.read input).toOption = some text) : files.read input = .ok text := by
    cases hresult : files.read input with
    | error e => simp [hresult, Except.toOption] at h
    | ok other => simpa [hresult, Except.toOption] using h
  have hprompt : (s.prompts.load files Pipeline.promptId).1 = .ok spec := by rfl
  have hschema : (s.schemas.load files (schemaFor spec)).1 = .ok schema := by rfl
  have hbad : Refused files "bad.json" s (.schema (.invalid "ticket" (schema.report (.object [])))) := by
    have hinput : Holds files "bad.json" (.object []) := by
      refine ⟨"\x7b\x7d", hread ?_, ?_⟩
      . decide +kernel
      . decide +kernel
    exact .violation hinput hprompt hschema (by decide +kernel)
  have hgood : Taken files "good.json" s (.object [("ticket_id", .string "7")]) ⟨"7", "", "", none, [], [], []⟩ := by
    constructor
    . refine ⟨"\x7b\"ticket_id\":\"7\"\x7d", hread ?_, ?_⟩
      . decide +kernel
      . decide +kernel
    . exact ⟨spec, schema, hprompt, hschema, by decide +kernel⟩
    . decide +kernel
  obtain ⟨-, hrefused, -⟩ := execute_analyze (p := p) rfl files ⟨"a", .epoch, .epoch⟩ "acme" "bad.json" .standard s rfl rfl
  obtain ⟨-, -, htaken⟩ := execute_analyze (p := p) rfl files ⟨"a", .epoch, .epoch⟩ "acme" "good.json" .standard s rfl rfl
  have hcode : (outcome "good.json").answer.exitCode = 1 := by
    decide +kernel
  have hcharged : Charged ⟨"a", .epoch, .epoch⟩ "acme" "7" s (outcome "good.json") _ := (htaken _ _ hgood).2
  obtain ⟨run, hrun, -, hticket, -, -, hended, hcompleted⟩ := hcharged.run .epoch
  rw [hcode] at hcompleted
  refine ⟨(hrefused _ hbad).1, hcode, run, hrun, hticket, ?_⟩
  cases hstatus : run.status with
  | running => exact absurd hstatus hended
  | completed => exact absurd (hcompleted.mpr hstatus) (by decide)
  | failed => rfl

end Command
end Triage
