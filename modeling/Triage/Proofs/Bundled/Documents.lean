import Triage.Bundled.Schemas
import Triage.Json.Reader
import Triage.Proofs.Bundled.Prompt
import Triage.Proofs.Files
import Triage.Schema.Library

/-!
This module contains the documents that the schemas stand for that come with the program, and what is loaded when the
prompt and the schemas are where they are looked for.
-/

namespace Triage

namespace Bundled

open Schema

/-! The schema for tickets. -/

/--
The text of a schema with a single keyword, for the type of a value.
-/
def typeText (v : Json) : Json := .object [("type", v)]

def textOrNullText : Json := typeText (.array [.string "string", .string "null"])

def ticketFieldRoot : Json :=
  .object [
    ("properties", .object [
      ("label", textOrNullText),
      ("label_for_customers", textOrNullText),
      ("name", typeText (.string "string")),
      ("type", textOrNullText)]),
    ("required", .array [.string "name"]),
    ("type", .string "object")]

def ticketRoot : Json :=
  .object [
    ("$schema", .string "http://json-schema.org/draft-07/schema#"),
    ("properties", .object [
      ("conversations", .object [("items", typeText (.string "object")), ("type", .string "array")]),
      ("custom_fields", typeText (.string "object")),
      ("description", typeText (.string "string")),
      ("description_text", typeText (.string "string")),
      ("subject", typeText (.string "string")),
      ("ticket_fields", .object [("items", ticketFieldRoot), ("type", .string "array")]),
      ("ticket_id", .object [
        ("minLength", .number (.integer ⟨1, by decide, by decide⟩)), ("type", .string "string")])]),
    ("required", .array [.string "ticket_id"]),
    ("title", .string "Normalized ticket input"),
    ("type", .string "object")]

def typed (ks : List Kind) : Schema := .all [.kinds ks]

def textOrNull : Schema := typed [.null, .string]

def ticketFieldSchema : Schema :=
  .all [
    .properties [
      ("label", textOrNull),
      ("label_for_customers", textOrNull),
      ("name", typed [.string]),
      ("type", textOrNull)],
    .required ["name"],
    .kinds [.object]]

def ticketDocument : Document where
  root := ticketRoot
  schema :=
    .all [
      .properties [
        ("conversations", .all [.items 0 (typed [.object]), .kinds [.array]]),
        ("custom_fields", typed [.object]),
        ("description", typed [.string]),
        ("description_text", typed [.string]),
        ("subject", typed [.string]),
        ("ticket_fields", .all [.items 0 ticketFieldSchema, .kinds [.array]]),
        ("ticket_id", .all [.least .characters 1, .kinds [.string]])],
      .required ["ticket_id"],
      .kinds [.object]]

set_option maxRecDepth 100000 in
theorem parse?_ticketSchema : Json.parse? ticketSchema = some ticketRoot := by
  unfold Json.parse? Json.read? ticketSchema
  repeat rw [Text.toList_ofLines_cons]
  rw [Text.toList_ofLines_nil]
  decide +kernel

theorem ofJson?_ticketRoot : Document.ofJson? ticketRoot = some ticketDocument := by
  have hrules : ruleFaults ticketRoot = [] := by
    rw [← List.isEmpty_iff]
    decide +kernel
  have hschema : ofJsonWithin ticketRoot.depth ticketRoot = some ticketDocument.schema := by
    rfl
  unfold Document.ofJson?
  rw [hrules, hschema]
  rfl

/-! The schema for results of analyses. -/

def countText : Json :=
  .object [("minimum", .number (.integer .zero)), ("type", .string "integer")]

def proposalRoot : Json :=
  .object [
    ("properties", .object [("field_name", typeText (.string "string"))]),
    ("required", .array [.string "field_name"]),
    ("type", .string "object")]

def findingRoot : Json :=
  .object [
    ("properties", .object [
      ("confidence", .object [
        ("maximum", .number (.integer ⟨1, by decide, by decide⟩)),
        ("minimum", .number (.integer .zero)),
        ("type", .string "number")]),
      ("evidence", typeText (.string "array")),
      ("field_proposals", .object [("items", proposalRoot), ("type", .string "array")]),
      ("intent", textOrNullText),
      ("open_questions", typeText (.string "array")),
      ("resolution", typeText (.string "array")),
      ("risk_tags", typeText (.string "array")),
      ("root_cause", textOrNullText),
      ("sentiment", textOrNullText)]),
    ("type", .string "object")]

def metaRoot : Json :=
  .object [
    ("properties", .object [
      ("attempts", countText),
      ("created_at", typeText (.string "string")),
      ("latency_ms", countText),
      ("llm_model", typeText (.string "string")),
      ("llm_provider", typeText (.string "string")),
      ("prompt_version", typeText (.string "string")),
      ("retrieval_count", countText),
      ("used_fallback", typeText (.string "boolean"))]),
    ("required", .array [
      .string "llm_provider", .string "llm_model", .string "prompt_version", .string "latency_ms",
      .string "created_at"]),
    ("type", .string "object")]

def analysisRoot : Json :=
  .object [
    ("$schema", .string "http://json-schema.org/draft-07/schema#"),
    ("properties", .object [
      ("analysis", findingRoot),
      ("analysis_id", .object [
        ("minLength", .number (.integer ⟨1, by decide, by decide⟩)), ("type", .string "string")]),
      ("error", textOrNullText),
      ("gate", .object [
        ("enum", .array [.string "CONFIRM", .string "EDIT", .string "DECIDE", .string "TEACH"]),
        ("type", .string "string")]),
      ("meta", metaRoot),
      ("success", typeText (.string "boolean"))]),
    ("required", .array [
      .string "analysis_id", .string "analysis", .string "gate", .string "meta", .string "success"]),
    ("title", .string "Ticket analysis result"),
    ("type", .string "object")]

def count : Schema := .all [.bound .atLeast (.integer .zero), .kinds [.integer]]

def proposalSchema : Schema :=
  .all [.properties [("field_name", typed [.string])], .required ["field_name"], .kinds [.object]]

def findingSchema : Schema :=
  .all [
    .properties [
      ("confidence", .all [
        .bound .atMost (.integer ⟨1, by decide, by decide⟩),
        .bound .atLeast (.integer .zero),
        .kinds [.number]]),
      ("evidence", typed [.array]),
      ("field_proposals", .all [.items 0 proposalSchema, .kinds [.array]]),
      ("intent", textOrNull),
      ("open_questions", typed [.array]),
      ("resolution", typed [.array]),
      ("risk_tags", typed [.array]),
      ("root_cause", textOrNull),
      ("sentiment", textOrNull)],
    .kinds [.object]]

def metaSchema : Schema :=
  .all [
    .properties [
      ("attempts", count),
      ("created_at", typed [.string]),
      ("latency_ms", count),
      ("llm_model", typed [.string]),
      ("llm_provider", typed [.string]),
      ("prompt_version", typed [.string]),
      ("retrieval_count", count),
      ("used_fallback", typed [.boolean])],
    .required ["llm_provider", "llm_model", "prompt_version", "latency_ms", "created_at"],
    .kinds [.object]]

def analysisDocument : Document where
  root := analysisRoot
  schema :=
    .all [
      .properties [
        ("analysis", findingSchema),
        ("analysis_id", .all [.least .characters 1, .kinds [.string]]),
        ("error", textOrNull),
        ("gate", .all [
          .options [.string "CONFIRM", .string "EDIT", .string "DECIDE", .string "TEACH"],
          .kinds [.string]]),
        ("meta", metaSchema),
        ("success", typed [.boolean])],
      .required ["analysis_id", "analysis", "gate", "meta", "success"],
      .kinds [.object]]

set_option maxRecDepth 100000 in
theorem parse?_analysisSchema : Json.parse? analysisSchema = some analysisRoot := by
  unfold Json.parse? Json.read? analysisSchema
  repeat rw [Text.toList_ofLines_cons]
  rw [Text.toList_ofLines_nil]
  decide +kernel

theorem ofJson?_analysisRoot : Document.ofJson? analysisRoot = some analysisDocument := by
  have hrules : ruleFaults analysisRoot = [] := by
    rw [← List.isEmpty_iff]
    decide +kernel
  have hschema : ofJsonWithin analysisRoot.depth analysisRoot = some analysisDocument.schema := by
    rfl
  unfold Document.ofJson?
  rw [hrules, hschema]
  rfl

end Bundled

/-! What is loaded from the files. -/

/--
Whether what was loaded is what would be loaded now.
-/
def Catalog.Fresh {α ε : Type} (c : Catalog α) (fetch : String → Except ε α) : Prop :=
  ∀ name a, c.loaded.get? name = some a → fetch name = .ok a

theorem Catalog.Fresh.load {α ε : Type} {c : Catalog α} {fetch : String → Except ε α} (h : c.Fresh fetch)
    (name : String) : (c.load fetch name).1 = fetch name := by
  unfold Catalog.load
  split
  . rename_i a hget
    exact (h name a hget).symm
  . split
    . rename_i a hfetch
      exact hfetch.symm
    . rename_i e hfetch
      exact hfetch.symm

namespace Bundled

variable {σ τ : Type} {files : Files} {s : Pipeline.State σ τ}

/--
Whether the prompt and the schemas that come with the program are where they are looked for, and nothing else was loaded
in their place.
-/
structure Provided (files : Files) (s : Pipeline.State σ τ) : Prop where
  prompt : files.read (Prompt.path s.prompts.directory Pipeline.promptId) = .ok analysisPrompt
  ticketSchema : files.read (Schema.path s.schemas.directory "ticket_normalized_v1") = .ok ticketSchema
  analysisSchema : files.read (Schema.path s.schemas.directory "ticket_analysis_v1") = .ok analysisSchema
  prompts : s.prompts.catalog.Fresh (Prompt.fetch files s.prompts.directory)
  schemas : s.schemas.catalog.Fresh (Schema.fetch s.schemas.library files s.schemas.directory)

theorem Provided.load_prompt (h : Provided files s) :
    ∃ spec, (s.prompts.load files Pipeline.promptId).1 = .ok spec ∧
      spec.inputSchema = some "ticket_normalized_v1" ∧ spec.outputSchema = some "ticket_analysis_v1" := by
  obtain ⟨spec, hspec, hreads⟩ := exists_ofYaml_analysisPrompt
  refine ⟨spec, ?_, hreads.input, hreads.output⟩
  rw [← hspec]
  apply (h.prompts.load Pipeline.promptId).trans
  unfold Prompt.fetch
  dsimp only
  rw [if_pos (Files.isFile_of_read h.prompt), h.prompt]

theorem fetch_of_text {directory name text : String} {root : Json} {d : Schema.Document} (library : Schema.Library)
    (hread : files.read (Schema.path directory name) = .ok text) (hparse : Json.parse? text = some root)
    (hcovered : Schema.isCovered root = true) (hdocument : Schema.Document.ofJson? root = some d) :
    Schema.fetch library files directory name = .ok d := by
  unfold Schema.fetch
  rw [hread]
  dsimp only
  rw [hparse]
  dsimp only
  rw [library.agrees root hcovered, hdocument]

theorem Provided.load_ticketSchema (h : Provided files s) :
    (s.schemas.load files "ticket_normalized_v1").1 = .ok ticketDocument :=
  (h.schemas.load _).trans
    (fetch_of_text _ h.ticketSchema parse?_ticketSchema (by decide +kernel) ofJson?_ticketRoot)

theorem Provided.load_analysisSchema (h : Provided files s) :
    (s.schemas.load files "ticket_analysis_v1").1 = .ok analysisDocument :=
  (h.schemas.load _).trans
    (fetch_of_text _ h.analysisSchema parse?_analysisSchema (by decide +kernel) ofJson?_analysisRoot)

end Bundled
end Triage
