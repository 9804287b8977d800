import Triage.Proofs.Bundled.Documents
import Triage.Proofs.Command.Analyze
import Triage.Proofs.Json.Codec
import Triage.Proofs.Schema.Meaning

/-!
This module contains the proof that the schema for tickets and the decoder of tickets agree: every value that the schema
accepts is decoded, with each of its members as it is.
-/

namespace Triage

open Json Schema

/--
Whether a value describes a field of tickets.
-/
structure Ticket.Field.Shaped (v : Json) : Prop where
  object : v.IsObject
  name : v.Has "name" IsString
  label : v.MayHave "label" IsStringOrNull
  labelForCustomers : v.MayHave "label_for_customers" IsStringOrNull
  kind : v.MayHave "type" IsStringOrNull

/--
Whether a value describes a ticket: an object with an id, and with all that it has besides of the right type.
-/
structure Ticket.Shaped (v : Json) : Prop where
  object : v.IsObject
  id : v.Has "ticket_id" IsNonemptyString
  subject : v.MayHave "subject" IsString
  description : v.MayHave "description" IsString
  legacyDescription : v.MayHave "description_text" IsString
  conversations : v.MayHave "conversations" (IsArrayOf IsObject)
  customFields : v.MayHave "custom_fields" IsObject
  fields : v.MayHave "ticket_fields" (IsArrayOf Field.Shaped)

namespace Bundled

variable {find : String → Finder}

theorem means_ticketFieldSchema : Means find ticketFieldSchema Ticket.Field.Shaped := by
  have hproperties := means_properties_cons "label" (means_single means_stringOrNull) <|
    means_properties_cons "label_for_customers" (means_single means_stringOrNull) <|
    means_properties_cons "name" (means_single means_string) <|
    means_properties_cons "type" (means_single means_stringOrNull) (means_properties_nil find)
  apply (means_objectWith hproperties ["name"]).congr
  intro v
  rw [List.forall_mem_singleton]
  constructor
  . rintro ⟨hobject, hrequired, hlabel, hcustomers, hname, hkind, -⟩
    exact ⟨hobject, has_iff.mpr ⟨hrequired, hname⟩, hlabel, hcustomers, hkind⟩
  . rintro ⟨hobject, hname, hlabel, hcustomers, hkind⟩
    obtain ⟨hrequired, hname⟩ := has_iff.mp hname
    exact ⟨hobject, hrequired, hlabel, hcustomers, hname, hkind, trivial⟩

theorem means_ticketDocument : Means find ticketDocument.schema Ticket.Shaped := by
  have hproperties := means_properties_cons "conversations" (means_arrayOf (means_single means_object)) <|
    means_properties_cons "custom_fields" (means_single means_object) <|
    means_properties_cons "description" (means_single means_string) <|
    means_properties_cons "description_text" (means_single means_string) <|
    means_properties_cons "subject" (means_single means_string) <|
    means_properties_cons "ticket_fields" (means_arrayOf means_ticketFieldSchema) <|
    means_properties_cons "ticket_id" means_nonemptyString (means_properties_nil find)
  apply (means_objectWith hproperties ["ticket_id"]).congr
  intro v
  rw [List.forall_mem_singleton]
  constructor
  . rintro ⟨hobject, hrequired, hconversations, hcustomFields, hdescription, hlegacy, hsubject, hfields, hid, -⟩
    exact ⟨hobject, has_iff.mpr ⟨hrequired, hid⟩, hsubject, hdescription, hlegacy, hconversations, hcustomFields, hfields⟩
  . rintro ⟨hobject, hid, hsubject, hdescription, hlegacy, hconversations, hcustomFields, hfields⟩
    obtain ⟨hrequired, hid⟩ := has_iff.mp hid
    exact ⟨hobject, hrequired, hconversations, hcustomFields, hdescription, hlegacy, hsubject, hfields, hid, trivial⟩

end Bundled

/-! Decoding. A member is carried over if it is there, and has its default if it is not. -/

/--
Whether `x` is what a member stands for, or the default if there is no member.
-/
def Carried {α : Type} (IsOf : Json → α → Prop) (fallback : α) (v? : Option Json) (x : α) : Prop :=
  match v? with
  | some v => IsOf v x
  | none => x = fallback

theorem Json.Fields.exists_orDefault {α : Type} {f : Fields} {key : String} {decode : Json → Option α}
    {IsOf : Json → α → Prop} {v? : Option Json} (hget : Members.get? key f.given = v?)
    (h : ∀ v, v? = some v → ∃ x, decode v = some x ∧ IsOf v x) (fallback : α) :
    ∃ x, f.orDefault key decode fallback = some x ∧ Carried IsOf fallback v? x := by
  unfold orDefault
  rw [hget]
  cases v? with
  | none => exact ⟨fallback, rfl, rfl⟩
  | some v => exact h v rfl

theorem Json.Fields.required_of_get? {α : Type} {f : Fields} {key : String} {decode : Json → Option α} {v : Json} {x : α}
    (hget : Members.get? key f.given = some v) (h : decode v = some x) : f.required key decode = some x := by
  unfold required
  rw [hget]
  exact h

/--
Whether a definition of a field is the one that a value describes.
-/
structure Ticket.Field.IsOf (v : Json) (f : Field) : Prop where
  name : v.member? "name" = some (.string f.name)
  label : Carried (fun w s? => w = ofString? s?) none (v.member? "label") f.label
  labelForCustomers :
    Carried (fun w s? => w = ofString? s?) none (v.member? "label_for_customers") f.labelForCustomers
  kind : Carried (fun w s? => w = ofString? s?) none (v.member? "type") f.kind

/--
Whether a ticket is the one that a value describes: every member that is there is carried over as it is.
-/
structure Ticket.IsOf (v : Json) (t : Ticket) : Prop where
  id : v.member? "ticket_id" = some (.string t.id)
  subject : Carried (fun w s => w = .string s) "" (v.member? "subject") t.subject
  description : Carried (fun w s => w = .string s) "" (v.member? "description") t.description
  legacyDescription :
    Carried (fun w s? => w = ofString? s?) none (v.member? "description_text") t.legacyDescription
  conversations : Carried (fun w vs => w = .array vs) [] (v.member? "conversations") t.conversations
  customFields : Carried (fun w ms => w = .object ms) [] (v.member? "custom_fields") t.customFields
  fields :
    Carried (fun w fs => ∃ vs, w = .array vs ∧ List.Forall₂ Field.IsOf vs fs) [] (v.member? "ticket_fields") t.fields

theorem Json.Fields.exists_ofJson?_object {ms : List (String × Json)} (h : Object.Canonical ms) (names : List String) :
    ∃ f, ofJson? names (.object ms) = some f ∧ ∀ key ∈ names, Members.get? key f.given = Members.get? key ms := by
  have hrecord : IsRecord names (.object ms) :=
    .object fun name _ => List.nodup_iff_count_le_one.mp h.1.nodup name
  obtain ⟨f, hf⟩ := exists_ofJson? hrecord
  exact ⟨f, hf, (of_ofJson? hf).2.1⟩

theorem Json.Decode.exists_string {w : Json} (h : w.IsString) : ∃ s, string w = some s ∧ w = .string s := by
  obtain ⟨s, rfl⟩ := h
  exact ⟨s, rfl, rfl⟩

theorem Json.Decode.exists_values {w : Json} (hcanonical : w.Canonical) (h : w.IsArray) :
    ∃ vs, list value w = some vs ∧ w = .array vs := by
  obtain ⟨vs, rfl⟩ := h
  have hread := RoundTrips.values.decode_encode vs (canonicalItems_iff.mp hcanonical)
  rw [canonical_of_canonical _ hcanonical] at hread
  exact ⟨vs, hread, rfl⟩

theorem Json.Decode.exists_object {w : Json} (hcanonical : w.Canonical) (h : w.IsObject) :
    ∃ ms, object w = some ms ∧ w = .object ms := by
  obtain ⟨ms, rfl⟩ := h
  have hread := RoundTrips.object.decode_encode ms hcanonical
  rw [canonical_of_canonical _ hcanonical] at hread
  exact ⟨ms, hread, rfl⟩

theorem Json.Fields.exists_nullable {w : Json} (h : w.IsStringOrNull) :
    ∃ s?, nullable Decode.string w = some s? ∧ w = ofString? s? := by
  obtain ⟨s?, rfl⟩ := h
  exact ⟨s?, nullable_ofString? s?, rfl⟩

open Json.Fields Json.Decode Store

theorem Ticket.Field.exists_of_shaped {v : Json} (hcanonical : v.Canonical) (h : Shaped v) :
    ∃ f, Field.ofJson? v = some f ∧ IsOf v f := by
  obtain ⟨ms, rfl⟩ := h.object
  obtain ⟨f, hf, hget⟩ := exists_ofJson?_object hcanonical ["name", "label", "label_for_customers", "type"]
  obtain ⟨_, hname, name, rfl⟩ := h.name
  have hreadName : f.required "name" Decode.string = some name :=
    required_of_get? ((hget "name" (by simp)).trans hname) rfl
  obtain ⟨label, hreadLabel, hlabel⟩ := exists_orDefault (hget "label" (by simp))
    (fun w hw => exists_nullable (h.label w hw)) none
  obtain ⟨customers, hreadCustomers, hcustomers⟩ := exists_orDefault (hget "label_for_customers" (by simp))
    (fun w hw => exists_nullable (h.labelForCustomers w hw)) none
  obtain ⟨kind, hreadKind, hkind⟩ := exists_orDefault (hget "type" (by simp))
    (fun w hw => exists_nullable (h.kind w hw)) none
  refine ⟨⟨name, label, customers, kind⟩, ?_, ⟨hname, hlabel, hcustomers, hkind⟩⟩
  apply bind_eq_some hf
  apply bind_eq_some hreadName
  apply bind_eq_some hreadLabel
  apply bind_eq_some hreadCustomers
  exact bind_eq_some hreadKind rfl

theorem Ticket.Field.exists_list {w : Json} (hcanonical : w.Canonical) (h : w.IsArrayOf Shaped) :
    ∃ fs, list Field.ofJson? w = some fs ∧ ∃ vs, w = .array vs ∧ List.Forall₂ IsOf vs fs := by
  obtain ⟨vs, rfl, h⟩ := h
  suffices ∃ fs, vs.mapM Field.ofJson? = some fs ∧ List.Forall₂ IsOf vs fs by
    obtain ⟨fs, hread, hof⟩ := this
    exact ⟨fs, hread, vs, rfl, hof⟩
  replace hcanonical := canonicalItems_iff.mp hcanonical
  induction vs with
  | nil => exact ⟨[], rfl, .nil⟩
  | cons v vs ih =>
    rw [List.forall_mem_cons] at hcanonical h
    obtain ⟨f, hf, hof⟩ := exists_of_shaped hcanonical.1 h.1
    obtain ⟨fs, hfs, hofs⟩ := ih h.2 hcanonical.2
    refine ⟨f :: fs, ?_, .cons hof hofs⟩
    rw [List.mapM_cons, hf, hfs]
    rfl

/--
A value that is shaped like a ticket is decoded, and nothing of it is lost or made up.
-/
theorem Ticket.exists_of_shaped {v : Json} (hcanonical : v.Canonical) (h : Shaped v) :
    ∃ t, Ticket.ofJson? v = some t ∧ IsOf v t := by
  obtain ⟨ms, rfl⟩ := h.object
  obtain ⟨f, hf, hget⟩ := exists_ofJson?_object hcanonical keys
  obtain ⟨_, hid, id, rfl, -⟩ := h.id
  have hreadId : f.required "ticket_id" Decode.string = some id :=
    required_of_get? ((hget "ticket_id" (by simp [keys])).trans hid) rfl
  obtain ⟨subject, hreadSubject, hsubject⟩ := exists_orDefault (hget "subject" (by simp [keys]))
    (fun w hw => exists_string (h.subject w hw)) ""
  obtain ⟨description, hreadDescription, hdescription⟩ := exists_orDefault (hget "description" (by simp [keys]))
    (fun w hw => exists_string (h.description w hw)) ""
  obtain ⟨legacy, hreadLegacy, hlegacy⟩ := exists_orDefault (hget "description_text" (by simp [keys]))
    (fun w hw => exists_nullable ((h.legacyDescription w hw).imp' some fun s hs => hs)) none
  obtain ⟨conversations, hreadConversations, hconversations⟩ := exists_orDefault (hget "conversations" (by simp [keys]))
    (fun w hw => exists_values (canonical_of_get? hcanonical hw) ((h.conversations w hw).imp fun vs hvs => hvs.1)) []
  obtain ⟨customFields, hreadCustomFields, hcustomFields⟩ := exists_orDefault (hget "custom_fields" (by simp [keys]))
    (fun w hw => exists_object (canonical_of_get? hcanonical hw) (h.customFields w hw)) []
  obtain ⟨fields, hreadFields, hfields⟩ := exists_orDefault (hget "ticket_fields" (by simp [keys]))
    (fun w hw => Field.exists_list (canonical_of_get? hcanonical hw) (h.fields w hw)) []
  refine ⟨⟨id, subject, description, legacy, conversations, customFields, fields⟩, ?_,
    ⟨hid, hsubject, hdescription, hlegacy, hconversations, hcustomFields, hfields⟩⟩
  apply bind_eq_some hf
  apply bind_eq_some hreadId
  apply bind_eq_some hreadSubject
  apply bind_eq_some hreadDescription
  apply bind_eq_some hreadLegacy
  apply bind_eq_some hreadConversations
  apply bind_eq_some hreadCustomFields
  exact bind_eq_some hreadFields rfl

/-! Loading a ticket. -/

namespace Command

open Bundled

variable {σ τ : Type} {files : Files} {s : Pipeline.State σ τ} {input : String}

theorem report_ticketDocument_eq_nil_iff (v : Json) : ticketDocument.report v = [] ↔ Ticket.Shaped v :=
  Document.report_eq_nil_iff (fun _ => means_ticketDocument) v

/--
With the files that come with the program, the schema that the input has to fit is the one for tickets.
-/
theorem load_schemaFor (hprovided : Provided files s) {spec : Prompt.Spec}
    (hprompt : (s.prompts.load files Pipeline.promptId).1 = .ok spec) :
    (s.schemas.load files (schemaFor spec)).1 = .ok ticketDocument := by
  obtain ⟨spec', hspec, hname, -⟩ := hprovided.load_prompt
  rw [hprompt] at hspec
  cases hspec
  unfold schemaFor
  rw [hname]
  exact hprovided.load_ticketSchema

theorem taken_of_shaped (hprovided : Provided files s) {v : Json} (hinput : Holds files input v) (h : Ticket.Shaped v) :
    ∃ t, Taken files input s v t ∧ Ticket.IsOf v t := by
  obtain ⟨spec, hprompt, -⟩ := hprovided.load_prompt
  have hcanonical : v.Canonical := by
    obtain ⟨text, -, hparse⟩ := hinput
    exact canonical_of_parse? hparse
  obtain ⟨t, hread, hof⟩ := Ticket.exists_of_shaped hcanonical h
  have hreport := (report_ticketDocument_eq_nil_iff v).mpr h
  exact ⟨t, ⟨hinput, ⟨spec, ticketDocument, hprompt, load_schemaFor hprovided hprompt, hreport⟩, hread⟩, hof⟩

theorem ne_shapeFailure_of_refused (hprovided : Provided files s) {e : Failure} (h : Refused files input s e) :
    e ≠ shapeFailure := by
  cases h with
  | unreadable hread =>
    intro heq
    injection heq with heq
    -- the one message begins with an F, the other one with an I
    have hfirst := congrArg (fun s => s.toList.head?) heq
    simp at hfirst
  | notJson hread hparse => exact (by decide)
  | noPrompt hinput hprompt => exact nofun
  | noSchema hinput hprompt hschema => exact nofun
  | violation hinput hprompt hschema hreport => exact nofun
  | noTicket hinput hprompt hschema hreport hticket =>
    rw [load_schemaFor hprovided hprompt] at hschema
    cases hschema
    obtain ⟨t, htaken, -⟩ := taken_of_shaped hprovided hinput ((report_ticketDocument_eq_nil_iff _).mp hreport)
    rw [htaken.ticket] at hticket
    cases hticket

/--
The schema for tickets and the decoder of tickets agree. What the schema accepts is shaped like a ticket, and is decoded
with all of its members as they are. So an input that the schema accepts is never refused for its shape.
-/
theorem schema_agrees_with_decoder (hprovided : Provided files s) (input : String) :
    (Json.parse? ticketSchema).bind Document.ofJson? = some ticketDocument ∧
    (∀ v, ticketDocument.report v = [] ↔ Ticket.Shaped v) ∧
    (∀ v : Json, v.Canonical → ticketDocument.report v = [] → ∃ t, Ticket.ofJson? v = some t ∧ Ticket.IsOf v t) ∧
    (∀ v, Holds files input v → ticketDocument.report v = [] →
      ∃ t, (loadTicket files input s).1 = .ok t ∧ Ticket.IsOf v t) ∧
    (loadTicket files input s).1 ≠ .error shapeFailure := by
  refine ⟨?_, report_ticketDocument_eq_nil_iff, ?_, ?_, ?_⟩
  . rw [parse?_ticketSchema, Option.bind_some, ofJson?_ticketRoot]
  . intro v hcanonical hreport
    exact Ticket.exists_of_shaped hcanonical ((report_ticketDocument_eq_nil_iff v).mp hreport)
  . intro v hinput hreport
    obtain ⟨t, htaken, hof⟩ := taken_of_shaped hprovided hinput ((report_ticketDocument_eq_nil_iff v).mp hreport)
    exact ⟨t, htaken.loadTicket, hof⟩
  . intro heq
    cases refused_or_taken files input s with
    | inl h =>
      obtain ⟨e, he⟩ := h
      rw [he.loadTicket] at heq
      cases heq
      exact ne_shapeFailure_of_refused hprovided he rfl
    | inr h =>
      obtain ⟨v, t, ht⟩ := h
      rw [ht.loadTicket] at heq
      cases heq

theorem schema_agrees_with_decoder_unlabelled :
    let files : Files := ⟨[
      (["prompts"], .directory),
      (["prompts", "ticket_analysis_cot_v1.yaml"], .text analysisPrompt),
      (["schemas"], .directory),
      (["schemas", "ticket_normalized_v1.json"], .text ticketSchema),
      (["schemas", "ticket_analysis_v1.json"], .text analysisSchema),
      (["in.json"], .text "\x7b\"ticket_fields\":[\x7b\"label\":null,\"name\":\"area\"\x7d],\"ticket_id\":\"7\"\x7d")]⟩
    let s : Pipeline.State Unit Unit := ⟨.ofDirectory "prompts", .ofDirectory "schemas", (), ()⟩
    let v : Json := .object [
      ("ticket_fields", .array [.object [("label", .null), ("name", .string "area")]]), ("ticket_id", .string "7")]
    Provided files s ∧ Holds files "in.json" v ∧ ∃ t, (loadTicket files "in.json" s).1 = .ok t ∧ Ticket.IsOf v t := by
  intro files s v
  have hread (target : List String) {path text : String} (hlocate : (files.locate path).toOption = some target)
      (hlookup : files.lookup? target = some (.text text)) : files.read path = .ok text :=
    Files.read_of_lookup? hlocate hlookup
  have hprovided : Provided files s := by
    constructor
    . exact hread ["prompts", "ticket_analysis_cot_v1.yaml"] (by decide +kernel) rfl
    . exact hread ["schemas", "ticket_normalized_v1.json"] (by decide +kernel) rfl
    . exact hread ["schemas", "ticket_analysis_v1.json"] (by decide +kernel) rfl
    . exact nofun
    . exact nofun
  have hinput : Holds files "in.json" v := by
    refine ⟨_, hread ["in.json"] (by decide +kernel) rfl, ?_⟩
    decide +kernel
  obtain ⟨-, -, -, hload, -⟩ := schema_agrees_with_decoder hprovided "in.json"
  have hreport : ticketDocument.report v = [] := by
    decide +kernel
  exact ⟨hprovided, hinput, hload v hinput hreport⟩

end Command
end Triage
