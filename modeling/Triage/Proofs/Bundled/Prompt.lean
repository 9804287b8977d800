import Mathlib
import Triage.Bundled.Prompt
import Triage.Pipeline

/-!
This module contains what the prompt holds that comes with the program: its templates and the names of its schemas. Its
text is read in stages, into tokens, a node and a draft, and only the first of them depends on what the templates are.
-/

namespace Triage

namespace Text

theorem toList_ofLines_nil : (ofLines []).toList = [] := by
  rfl

theorem toList_ofLines_cons (line : List Char) (lines : List String) :
    (ofLines (String.ofList line :: lines)).toList = line ++ '\n' :: (ofLines lines).toList := by
  unfold ofLines
  simp [String.toList_join]

end Text

namespace Bundled

open Yaml (Token Node)

def systemTemplate : String :=
  Text.ofLines [
    "You are an expert customer support analyst. Read the ticket, reason step by",
    "step about what the customer needs, and return a single JSON object.",
    "",
    "Respond in a \x7b\x7b response_tone | default(\"formal\") \x7d\x7d tone.",
    "",
    "The JSON object MUST have exactly these keys:",
    "\x7b",
    "  \"narrative\": \x7b\"summary\": \"2-3 sentence summary\", \"timeline\": []\x7d,",
    "  \"root_cause\": \"most likely root cause, or null\",",
    "  \"resolution\": [\x7b\"step\": 1, \"action\": \"...\", \"rationale\": \"...\"\x7d],",
    "  \"confidence\": 0.0,",
    "  \"open_questions\": [\"...\"],",
    "  \"risk_tags\": [\"...\"],",
    "  \"intent\": \"inquiry | technical_issue | billing | complaint | feature_request | other\",",
    "  \"sentiment\": \"positive | neutral | negative | urgent\",",
    "  \"field_proposals\": [\x7b\"field_name\": \"...\", \"proposed_value\": \"...\", \"reason\": \"...\", \"confidence\": 0.0\x7d],",
    "  \"evidence\": [\x7b\"source_type\": \"conversation | kb | similar_case\", \"source_id\": \"...\", \"excerpt\": \"...\", \"relevance_score\": 0.0\x7d]",
    "\x7d",
    "",
    "Rules:",
    "- confidence is your calibrated certainty between 0.0 and 1.0.",
    "- Only propose values for fields listed in the field schema.",
    "\x7b% if include_evidence %\x7d- Cite evidence for every resolution step.\x7b% else %\x7d- Leave \"evidence\" as an empty list.\x7b% endif %\x7d",
    "- Output JSON only, no markdown and no commentary."]

def userTemplate : String :=
  Text.ofLines [
    "Ticket #\x7b\x7b ticket_id \x7d\x7d",
    "Subject: \x7b\x7b subject \x7d\x7d",
    "",
    "Description:",
    "\x7b\x7b description \x7d\x7d",
    "",
    "\x7b% if conversations %\x7dConversation (\x7b\x7b conversations | length \x7d\x7d messages):",
    "\x7b% for c in conversations %\x7d- [\x7b\x7b \"customer\" if c.incoming else \"agent\" \x7d\x7d] \x7b\x7b c.body_text | default(c.body | default(\"\")) \x7d\x7d",
    "\x7b% endfor %\x7d\x7b% else %\x7dConversation: (none)",
    "\x7b% endif %\x7d",
    "\x7b% if custom_fields %\x7dCurrent custom fields:",
    "\x7b% for key, value in custom_fields | items %\x7d- \x7b\x7b key \x7d\x7d: \x7b\x7b value \x7d\x7d",
    "\x7b% endfor %\x7d\x7b% endif %\x7d",
    "Field schema:",
    "\x7b\x7b ticket_fields_summary \x7d\x7d",
    "\x7b% if similar_cases %\x7d",
    "Similar resolved cases:",
    "\x7b% for case in similar_cases %\x7d- \x7b\x7b case.title | default(case.id | default(\"case\")) \x7d\x7d: \x7b\x7b case.summary | default(\"\") \x7d\x7d",
    "\x7b% endfor %\x7d\x7b% endif %\x7d\x7b% if kb_articles %\x7d",
    "Knowledge base articles:",
    "\x7b% for article in kb_articles %\x7d- \x7b\x7b article.title | default(\"article\") \x7d\x7d: \x7b\x7b article.excerpt | default(\"\") \x7d\x7d",
    "\x7b% endfor %\x7d\x7b% endif %\x7d",
    "Analyze this ticket and return the JSON object."]

/-! The tokens and the node of the prompt, with any templates. -/

def plainToken (s : String) : Token := .scalar s.toList true

def entryTokens (key value : String) : List Token :=
  [.key, plainToken key, .value, plainToken value]

def noteTokens (name key value : String) : List Token :=
  .blockEntry :: .blockMapStart :: (entryTokens "name" name ++ entryTokens key value ++ [.blockEnd])

def promptTokens (system user : String) : List Token :=
  [.blockMapStart]
  ++ entryTokens "id" "ticket_analysis_cot_v1"
  ++ [.key, plainToken "version", .value, .scalar "1.0.0".toList false]
  ++ entryTokens "description" "Chain-of-thought analysis of a single helpdesk ticket with field proposals."
  ++ entryTokens "purpose" "analyze_ticket_cot"
  ++ [.key, plainToken "model_defaults", .value, .blockMapStart]
  ++ entryTokens "temperature" "0.3"
  ++ entryTokens "max_tokens" "2000"
  ++ entryTokens "json_mode" "true"
  ++ [.blockEnd]
  ++ entryTokens "input_schema" "ticket_normalized_v1"
  ++ entryTokens "output_schema" "ticket_analysis_v1"
  ++ [.key, plainToken "system_prompt", .value, .scalar system.toList false]
  ++ [.key, plainToken "user_prompt_template", .value, .scalar user.toList false]
  ++ [.key, plainToken "known_failure_modes", .value, .blockListStart]
  ++ noteTokens "markdown_wrapped_json" "mitigation" "json_repair strips code fences"
  ++ noteTokens "overconfident_on_short_tickets" "mitigation" "gate floor of 0.7 for EDIT"
  ++ [.blockEnd]
  ++ [.key, plainToken "eval_checks", .value, .blockListStart]
  ++ noteTokens "confidence_in_range" "rule" "0.0 <= confidence <= 1.0"
  ++ noteTokens "proposals_use_known_fields" "rule"
    "every field_proposals[].field_name appears in the field schema"
  ++ [.blockEnd]
  ++ [.blockEnd]

def plainNode (s : String) : Node := .scalar s true

def noteNode (name key value : String) : Node :=
  .map [(plainNode "name", plainNode name), (plainNode key, plainNode value)]

def promptNode (system user : String) : Node :=
  .map [
    (plainNode "id", plainNode "ticket_analysis_cot_v1"),
    (plainNode "version", .scalar "1.0.0" false),
    (plainNode "description",
      plainNode "Chain-of-thought analysis of a single helpdesk ticket with field proposals."),
    (plainNode "purpose", plainNode "analyze_ticket_cot"),
    (plainNode "model_defaults", .map [
      (plainNode "temperature", plainNode "0.3"),
      (plainNode "max_tokens", plainNode "2000"),
      (plainNode "json_mode", plainNode "true")]),
    (plainNode "input_schema", plainNode "ticket_normalized_v1"),
    (plainNode "output_schema", plainNode "ticket_analysis_v1"),
    (plainNode "system_prompt", .scalar system false),
    (plainNode "user_prompt_template", .scalar user false),
    (plainNode "known_failure_modes", .list [
      noteNode "markdown_wrapped_json" "mitigation" "json_repair strips code fences",
      noteNode "overconfident_on_short_tickets" "mitigation" "gate floor of 0.7 for EDIT"]),
    (plainNode "eval_checks", .list [
      noteNode "confidence_in_range" "rule" "0.0 <= confidence <= 1.0",
      noteNode "proposals_use_known_fields" "rule"
        "every field_proposals[].field_name appears in the field schema"])]

set_option maxRecDepth 100000 in
theorem scan_analysisPrompt : Token.scan analysisPrompt = some (promptTokens systemTemplate userTemplate) := by
  unfold Token.scan analysisPrompt promptTokens noteTokens entryTokens plainToken systemTemplate userTemplate
  repeat rw [Text.toList_ofLines_cons]
  rw [Text.toList_ofLines_nil]
  repeat rw [String.toList_ofList]
  decide +kernel

set_option maxRecDepth 10000 in
theorem document_promptTokens (system user : String) :
    Node.document (promptTokens system user) = some (some (promptNode system user)) := by
  have hchars (system user : List Char) : Node.document (promptTokens (.ofList system) (.ofList user)) =
      some (some (promptNode (.ofList system) (.ofList user))) := by
    unfold promptTokens noteTokens entryTokens plainToken promptNode noteNode plainNode
    repeat rw [String.toList_ofList]
    cbv
  have h := hchars system.toList user.toList
  rwa [String.ofList_toList, String.ofList_toList] at h

/--
A prompt with given templates that asks for the schemas that come with the program.
-/
structure Reads (system user : String) (spec : Prompt.Spec) : Prop where
  system : spec.systemPrompt = system
  user : spec.userPromptTemplate = user
  input : spec.inputSchema = some "ticket_normalized_v1"
  output : spec.outputSchema = some "ticket_analysis_v1"

theorem exists_ofDraft_promptNode (id system user : String) :
    ∃ draft spec, Prompt.Spec.readDraft? (promptNode system user) = some draft ∧
      Prompt.Spec.ofDraft id draft = .ok spec ∧ Reads system user spec :=
  ⟨_, _, rfl, rfl, rfl, rfl, rfl, rfl⟩

/--
The stages of reading a prompt, for any text: there is no unfolding them for a text that is known.
-/
theorem ofYaml_of_stages {id text : String} {tokens : List Token} {node : Node} {draft : Prompt.Spec.Draft}
    (hscan : Token.scan text = some tokens) (hnode : Node.document tokens = some (some node))
    (hdraft : Prompt.Spec.readDraft? node = some draft) :
    Prompt.Spec.ofYaml id text = Prompt.Spec.ofDraft id draft := by
  unfold Prompt.Spec.ofYaml Node.read?
  rw [hscan, Option.bind_some, hnode]
  dsimp only [Option.getD_some]
  rw [hdraft]

theorem exists_ofYaml_analysisPrompt : ∃ spec, Prompt.Spec.ofYaml Pipeline.promptId analysisPrompt = .ok spec ∧
    Reads systemTemplate userTemplate spec := by
  obtain ⟨draft, spec, hdraft, hspec, hreads⟩ :=
    exists_ofDraft_promptNode Pipeline.promptId systemTemplate userTemplate
  have hdocument := document_promptTokens systemTemplate userTemplate
  exact ⟨spec, (ofYaml_of_stages scan_analysisPrompt hdocument hdraft).trans hspec, hreads⟩

end Bundled
end Triage
