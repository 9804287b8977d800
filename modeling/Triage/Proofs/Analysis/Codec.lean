import Triage.Llm.Request
import Triage.Proofs.Json.Codec
import Triage.Run.Codec
import Triage.Ticket.Codec

/-!
This module contains the proof that tickets, options, results, responses, runs and records are encoded without loss: what
is decoded again is what has been encoded.
-/

namespace Triage

open Json Json.Fields Store

theorem Gate.roundTrips : RoundTrips Gate.toJson Gate.ofJson? fun _ => True := by
  constructor
  . intro g _
    cases g <;> rfl
  . exact fun _ _ _ => trivial

theorem RunStatus.roundTrips : RoundTrips RunStatus.toJson RunStatus.ofJson? fun _ => True := by
  constructor
  . intro s _
    cases s <;> rfl
  . exact fun _ _ _ => trivial

theorem Timestamp.roundTrips : RoundTrips Timestamp.toJson Timestamp.ofJson? fun t => inYears t.year = true := by
  constructor
  . intro t h
    unfold ofJson? toJson
    rw [canonical, string?, Option.bind_some, parse?_text h]
  . intro v t h
    obtain ⟨s, -, hs⟩ := Option.bind_eq_some_iff.mp h
    exact inYears_of_parse? hs

theorem Ticket.Field.roundTrips : RoundTrips Field.toJson Field.ofJson? fun _ => True := by
  constructor
  . intro x _
    apply bind_ofJson?_canonical (by simp) (by simp)
    intro f hf
    apply bind_eq_some (hf.required RoundTrips.string rfl trivial)
    iterate 3 apply bind_eq_some (hf.orDefault RoundTrips.nullableString rfl trivial none)
    rfl
  . exact fun _ _ _ => trivial

theorem string_ne_null (s : String) : (Json.string s).canonical ≠ .null := by
  exact nofun

theorem bool_ne_null (b : Bool) : (Json.bool b).canonical ≠ .null := by
  exact nofun

/--
Whether the values inside of a ticket are canonical, as all values are that are stored or written.
-/
structure Ticket.Encodable (t : Ticket) : Prop where
  conversations : ∀ v ∈ t.conversations, v.Canonical
  customFields : t.customFields.Canonical

theorem Ticket.roundTrips : RoundTrips Ticket.toJson Ticket.ofJson? Ticket.Encodable := by
  constructor
  . intro t ht
    apply bind_ofJson?_canonical
    . cases t.legacyDescription <;> simp [memberIf, keys]
    . cases t.legacyDescription <;> simp [memberIf]
    . intro f hf
      apply bind_eq_some (hf.required RoundTrips.string rfl trivial)
      iterate 2 apply bind_eq_some (hf.orDefault RoundTrips.string rfl trivial "")
      apply bind_eq_some (hf.orDefault_memberIf RoundTrips.string string_ne_null (o := t.legacyDescription)
        (by cases t.legacyDescription <;> rfl) (fun _ _ => trivial))
      apply bind_eq_some (hf.orDefault RoundTrips.values (x := t.conversations)
        (by cases t.legacyDescription <;> rfl) ht.conversations [])
      apply bind_eq_some (hf.orDefault RoundTrips.object (x := t.customFields)
        (by cases t.legacyDescription <;> rfl) ht.customFields [])
      apply bind_eq_some (hf.orDefault Field.roundTrips.list (x := t.fields)
        (by cases t.legacyDescription <;> rfl) (fun _ _ => trivial) [])
      rfl
  . intro v t ht
    obtain ⟨f, _, ht⟩ := Option.bind_eq_some_iff.mp ht
    iterate 4 obtain ⟨_, _, ht⟩ := Option.bind_eq_some_iff.mp ht
    obtain ⟨conversations, hconversations, ht⟩ := Option.bind_eq_some_iff.mp ht
    obtain ⟨customFields, hcustomFields, ht⟩ := Option.bind_eq_some_iff.mp ht
    obtain ⟨_, _, ht⟩ := Option.bind_eq_some_iff.mp ht
    cases ht
    exact ⟨encodable_of_orDefault RoundTrips.values (List.forall_mem_nil _) hconversations,
      encodable_of_orDefault RoundTrips.object ⟨List.Pairwise.nil, trivial⟩ hcustomFields⟩

namespace Analysis

structure Options.Encodable (o : Options) : Prop where
  confidenceThreshold : o.confidenceThreshold.isFinite = true

theorem Options.roundTrips : RoundTrips Options.toJson Options.ofJson? Options.Encodable := by
  have hnames := RoundTrips.string.list.nullable fun _ => nofun
  constructor
  . intro o ho
    apply bind_ofJson?_canonical (by simp) (by simp)
    intro f hf
    iterate 2 apply bind_eq_some (hf.orDefault RoundTrips.bool rfl trivial _)
    apply bind_eq_some (hf.orDefault RoundTrips.double rfl ho.confidenceThreshold _)
    apply bind_eq_some (hf.orDefault hnames (x := o.selectedFields)
      (by cases o.selectedFields <;> rfl) (fun _ _ _ _ => trivial) _)
    apply bind_eq_some (hf.orDefault RoundTrips.string rfl trivial _)
    rfl
  . intro v o ho
    obtain ⟨f, _, ho⟩ := Option.bind_eq_some_iff.mp ho
    iterate 2 obtain ⟨_, _, ho⟩ := Option.bind_eq_some_iff.mp ho
    obtain ⟨threshold, hthreshold, ho⟩ := Option.bind_eq_some_iff.mp ho
    iterate 2 obtain ⟨_, _, ho⟩ := Option.bind_eq_some_iff.mp ho
    cases ho
    have hstandard : Options.standard.confidenceThreshold.isFinite = true := by decide
    have hfinite := encodable_of_orDefault RoundTrips.double hstandard hthreshold
    exact ⟨hfinite⟩

theorem TokenUsage.roundTrips : RoundTrips TokenUsage.toJson TokenUsage.ofJson? fun _ => True := by
  constructor
  . intro u _
    apply bind_ofJson?_canonical (by simp) (by simp)
    intro f hf
    iterate 2 apply bind_eq_some (hf.required RoundTrips.uint64 rfl trivial)
    rfl
  . exact fun _ _ _ => trivial

theorem Meta.roundTrips : RoundTrips Meta.toJson Meta.ofJson? fun _ => True := by
  constructor
  . intro m _
    apply bind_ofJson?_canonical
    . cases m.outputSchemaValid <;> cases m.error <;> simp [memberIf, keys]
    . cases m.outputSchemaValid <;> cases m.error <;> simp [memberIf]
    . intro f hf
      iterate 3 apply bind_eq_some (hf.required RoundTrips.string rfl trivial)
      apply bind_eq_some (hf.required RoundTrips.uint64 rfl trivial)
      apply bind_eq_some (hf.required TokenUsage.roundTrips rfl trivial)
      apply bind_eq_some (hf.required RoundTrips.uint64 rfl trivial)
      apply bind_eq_some (hf.required RoundTrips.string rfl trivial)
      apply bind_eq_some (hf.required RoundTrips.bool rfl trivial)
      apply bind_eq_some (hf.required RoundTrips.uint32 rfl trivial)
      apply bind_eq_some (hf.orDefault_memberIf RoundTrips.bool bool_ne_null (o := m.outputSchemaValid)
        (by cases m.outputSchemaValid <;> cases m.error <;> rfl) (fun _ _ => trivial))
      apply bind_eq_some (hf.orDefault_memberIf RoundTrips.string string_ne_null (o := m.error)
        (by cases m.outputSchemaValid <;> cases m.error <;> rfl) (fun _ _ => trivial))
      rfl
  . exact fun _ _ _ => trivial

structure Result.Encodable (r : Result) : Prop where
  analysis : r.analysis.Canonical

theorem Result.roundTrips : RoundTrips Result.toJson Result.ofJson? Result.Encodable := by
  constructor
  . intro r hr
    apply bind_ofJson?_canonical
    . cases r.error <;> simp [memberIf]
    . cases r.error <;> simp [memberIf]
    . intro f hf
      apply bind_eq_some (hf.required RoundTrips.string rfl trivial)
      apply bind_eq_some (hf.required RoundTrips.object rfl hr.analysis)
      apply bind_eq_some (hf.required Gate.roundTrips rfl trivial)
      apply bind_eq_some (hf.required Meta.roundTrips rfl trivial)
      apply bind_eq_some (hf.required RoundTrips.bool rfl trivial)
      apply bind_eq_some (hf.orDefault_memberIf RoundTrips.string string_ne_null (o := r.error)
        (by cases r.error <;> rfl) (fun _ _ => trivial))
      rfl
  . intro v r hr
    obtain ⟨f, _, hr⟩ := Option.bind_eq_some_iff.mp hr
    obtain ⟨_, _, hr⟩ := Option.bind_eq_some_iff.mp hr
    obtain ⟨analysis, hanalysis, hr⟩ := Option.bind_eq_some_iff.mp hr
    iterate 4 obtain ⟨_, _, hr⟩ := Option.bind_eq_some_iff.mp hr
    cases hr
    exact ⟨encodable_of_required RoundTrips.object hanalysis⟩

end Analysis

theorem Llm.Response.roundTrips : RoundTrips Response.toJson Response.ofJson? fun _ => True := by
  constructor
  . intro r _
    apply bind_ofJson?_canonical (by simp) (by simp)
    intro f hf
    iterate 3 apply bind_eq_some (hf.required RoundTrips.string rfl trivial)
    apply bind_eq_some (hf.required RoundTrips.uint64 rfl trivial)
    apply bind_eq_some (hf.required RoundTrips.uint32 rfl trivial)
    apply bind_eq_some (hf.required RoundTrips.bool rfl trivial)
    rfl
  . exact fun _ _ _ => trivial

/--
Whether the description of a run is canonical and its points in time are in years that can be read.
-/
structure Run.Encodable (r : Run) : Prop where
  info : r.info.Canonical
  createdAt : Timestamp.inYears r.createdAt.year = true
  completedAt : ∀ t ∈ r.completedAt, Timestamp.inYears t.year = true

theorem gate_ne_null (g : Gate) : g.toJson.canonical ≠ .null := by
  exact nofun

theorem timestamp_ne_null (t : Timestamp) : t.toJson.canonical ≠ .null := by
  exact nofun

theorem Run.roundTrips : RoundTrips Run.toJson Run.ofJson? Run.Encodable := by
  have hgate := Gate.roundTrips.nullable gate_ne_null
  have htime := Timestamp.roundTrips.nullable timestamp_ne_null
  constructor
  . intro r hr
    apply bind_ofJson?_canonical (by simp [keys]) (by simp)
    intro f hf
    iterate 3 apply bind_eq_some (hf.required RoundTrips.string rfl trivial)
    apply bind_eq_some (hf.required RunStatus.roundTrips rfl trivial)
    apply bind_eq_some (hf.optional hgate rfl fun _ _ => trivial)
    apply bind_eq_some (hf.required RoundTrips.value rfl hr.info)
    apply bind_eq_some (hf.optional RoundTrips.nullableString rfl trivial)
    apply bind_eq_some (hf.required Timestamp.roundTrips rfl hr.createdAt)
    apply bind_eq_some (hf.optional htime rfl hr.completedAt)
    rfl
  . intro v r hr
    obtain ⟨f, _, hr⟩ := Option.bind_eq_some_iff.mp hr
    iterate 5 obtain ⟨_, _, hr⟩ := Option.bind_eq_some_iff.mp hr
    obtain ⟨info, hinfo, hr⟩ := Option.bind_eq_some_iff.mp hr
    obtain ⟨_, _, hr⟩ := Option.bind_eq_some_iff.mp hr
    obtain ⟨createdAt, hcreatedAt, hr⟩ := Option.bind_eq_some_iff.mp hr
    obtain ⟨completedAt, hcompletedAt, hr⟩ := Option.bind_eq_some_iff.mp hr
    cases hr
    have hcreatedAt := encodable_of_required Timestamp.roundTrips hcreatedAt
    have hcompletedAt := encodable_of_optional htime (fun _ h => nomatch h) hcompletedAt
    exact ⟨encodable_of_required RoundTrips.value hinfo, hcreatedAt, hcompletedAt⟩

structure Record.Encodable (r : Record) : Prop where
  resolution : r.resolution.Canonical
  confidence : r.confidence.isFinite = true
  openQuestions : r.openQuestions.Canonical
  riskTags : r.riskTags.Canonical
  proposals : r.proposals.Canonical
  evidence : r.evidence.Canonical
  analysis : r.analysis.Canonical
  createdAt : Timestamp.inYears r.createdAt.year = true

theorem Record.roundTrips : RoundTrips Record.toJson Record.ofJson? Record.Encodable := by
  constructor
  . intro r hr
    apply bind_ofJson?_canonical (by simp [keys]) (by simp)
    intro f hf
    iterate 5 apply bind_eq_some (hf.required RoundTrips.string rfl trivial)
    apply bind_eq_some (hf.optional RoundTrips.nullableString rfl trivial)
    apply bind_eq_some (hf.required RoundTrips.value rfl hr.resolution)
    apply bind_eq_some (hf.required RoundTrips.double rfl hr.confidence)
    iterate 2 apply bind_eq_some (hf.optional RoundTrips.nullableString rfl trivial)
    apply bind_eq_some (hf.required RoundTrips.value rfl hr.openQuestions)
    apply bind_eq_some (hf.required RoundTrips.value rfl hr.riskTags)
    apply bind_eq_some (hf.required RoundTrips.value rfl hr.proposals)
    apply bind_eq_some (hf.required RoundTrips.value rfl hr.evidence)
    apply bind_eq_some (hf.required RoundTrips.value rfl hr.analysis)
    apply bind_eq_some (hf.required Timestamp.roundTrips rfl hr.createdAt)
    rfl
  . intro v r hr
    obtain ⟨f, _, hr⟩ := Option.bind_eq_some_iff.mp hr
    iterate 6 obtain ⟨_, _, hr⟩ := Option.bind_eq_some_iff.mp hr
    obtain ⟨resolution, hresolution, hr⟩ := Option.bind_eq_some_iff.mp hr
    obtain ⟨confidence, hconfidence, hr⟩ := Option.bind_eq_some_iff.mp hr
    iterate 2 obtain ⟨_, _, hr⟩ := Option.bind_eq_some_iff.mp hr
    obtain ⟨openQuestions, hopenQuestions, hr⟩ := Option.bind_eq_some_iff.mp hr
    obtain ⟨riskTags, hriskTags, hr⟩ := Option.bind_eq_some_iff.mp hr
    obtain ⟨proposals, hproposals, hr⟩ := Option.bind_eq_some_iff.mp hr
    obtain ⟨evidence, hevidence, hr⟩ := Option.bind_eq_some_iff.mp hr
    obtain ⟨analysis, hanalysis, hr⟩ := Option.bind_eq_some_iff.mp hr
    obtain ⟨createdAt, hcreatedAt, hr⟩ := Option.bind_eq_some_iff.mp hr
    cases hr
    have hconfidence := encodable_of_required RoundTrips.double hconfidence
    have hcreatedAt := encodable_of_required Timestamp.roundTrips hcreatedAt
    exact {
      resolution := encodable_of_required RoundTrips.value hresolution
      confidence := hconfidence
      openQuestions := encodable_of_required RoundTrips.value hopenQuestions
      riskTags := encodable_of_required RoundTrips.value hriskTags
      proposals := encodable_of_required RoundTrips.value hproposals
      evidence := encodable_of_required RoundTrips.value hevidence
      analysis := encodable_of_required RoundTrips.value hanalysis
      createdAt := hcreatedAt }

/--
Whether an encoder and a decoder lose nothing: every value that can be encoded is decoded again, and what any other value
is decoded to is encoded as a value that stays as it is from then on.
-/
structure Lossless {α : Type} (encode : α → Json) (decode : Json → Option α) (Encodable : α → Prop) : Prop where
  decode_encode (x : α) (h : Encodable x) : decode (encode x).canonical = some x
  stable (v : Json) (x : α) (h : decode v = some x) :
    Encodable x ∧ (decode (encode x).canonical).map (fun y => (encode y).canonical) = some (encode x).canonical

theorem Json.RoundTrips.lossless {α : Type} {encode : α → Json} {decode : Json → Option α} {Encodable : α → Prop}
    (h : RoundTrips encode decode Encodable) : Lossless encode decode Encodable := by
  refine ⟨h.decode_encode, ?_⟩
  intro v x hx
  have hencodable := h.encodable v x hx
  refine ⟨hencodable, ?_⟩
  rw [h.decode_encode x hencodable, Option.map_some]

/--
Nothing of a record is lost on the way to JSON and back, in either direction.
-/
theorem records_lossless :
    Lossless Ticket.toJson Ticket.ofJson? Ticket.Encodable ∧
    Lossless Analysis.Options.toJson Analysis.Options.ofJson? Analysis.Options.Encodable ∧
    Lossless Analysis.Meta.toJson Analysis.Meta.ofJson? (fun _ => True) ∧
    Lossless Analysis.Result.toJson Analysis.Result.ofJson? Analysis.Result.Encodable ∧
    Lossless Run.toJson Run.ofJson? Run.Encodable ∧
    Lossless Record.toJson Record.ofJson? Record.Encodable ∧
    Lossless Llm.Response.toJson Llm.Response.ofJson? (fun _ => True) :=
  ⟨Ticket.roundTrips.lossless, Analysis.Options.roundTrips.lossless, Analysis.Meta.roundTrips.lossless,
    Analysis.Result.roundTrips.lossless, Run.roundTrips.lossless, Record.roundTrips.lossless,
    Llm.Response.roundTrips.lossless⟩

theorem records_lossless_run :
    let t : Timestamp := ⟨2024, 2, 29, 23, 59, 60, 120000000, by decide, by decide⟩
    let r : Run :=
      { Run.start "r" "acme" "4711" t with
        gate := some .edit, info := .object [("attempts", .null)], completedAt := some t }
    r.Encodable ∧ Run.ofJson? r.toJson.canonical = some r := by
  intro t r
  have hyear : Timestamp.inYears t.year = true := by decide
  have hinfo : r.info.Canonical := ⟨List.pairwise_singleton _ _, trivial, trivial⟩
  have hencodable : r.Encodable := by
    refine ⟨hinfo, hyear, ?_⟩
    intro u hu
    cases hu
    exact hyear
  obtain ⟨-, -, -, -, hrun, -, -⟩ := records_lossless
  exact ⟨hencodable, hrun.decode_encode r hencodable⟩

end Triage
