import Triage.Context
import Triage.Proofs.Bundled.Prompt
import Triage.Proofs.Template.Shape

/-!
This module contains what the prompt that comes with the program makes of a ticket: two messages, whatever the ticket,
the cases and the articles hold. What a ticket says stands in the second of them as it is, and the first one does not
depend on it.
-/

namespace Triage

open Template (Agree Body Fits Occurs Scope Shape Value)

namespace Template.Value

theorem isDefined_ofJson (v : Json) : (ofJson v).isDefined = true := by
  cases v with
  | number n => cases n <;> rfl
  | _ => rfl

theorem isDefined_of_mem_ofItems {vs : List Json} {x : Value} (h : x ∈ ofItems vs) : x.isDefined = true := by
  induction vs with
  | nil => contradiction
  | cons v vs ih =>
    rw [ofItems, List.mem_cons] at h
    rcases h with rfl | h
    . exact isDefined_ofJson v
    . exact ih h

theorem isDefined_of_mem_ofMembers {ms : Members Json} {m : String × Value} (h : m ∈ ofMembers ms) :
    m.2.isDefined = true := by
  induction ms with
  | nil => contradiction
  | cons first ms ih =>
    rw [ofMembers, List.mem_cons] at h
    rcases h with rfl | h
    . exact isDefined_ofJson first.2
    . exact ih h

end Template.Value

namespace Context

def scope (c : Context) : Scope :=
  Template.scopeOf c.toJson

/--
What is known of the values that a context gives to names.
-/
def shapes : Members Shape := [
  ("conversations", .list .present),
  ("custom_fields", .map),
  ("description", .present),
  ("include_evidence", .present),
  ("kb_articles", .list .present),
  ("response_tone", .present),
  ("similar_cases", .list .present),
  ("subject", .present),
  ("ticket_fields_summary", .present),
  ("ticket_id", .present)]

theorem fits (c : Context) : Fits [] shapes c.scope := by
  have hlist (vs : List Json) : (Shape.list .present).Holds (.ofJson (.array vs)) :=
    ⟨_, rfl, fun _ => Value.isDefined_of_mem_ofItems⟩
  have hmap (ms : Members Json) : Shape.map.Holds (.ofJson (.object ms)) :=
    ⟨_, rfl, fun _ => Value.isDefined_of_mem_ofMembers⟩
  apply Template.Matches.fits
  exact
    .cons ⟨rfl, hlist c.conversations⟩ <|
    .cons ⟨rfl, hmap c.customFields⟩ <|
    .cons ⟨rfl, rfl⟩ <|
    .cons ⟨rfl, rfl⟩ <|
    .cons ⟨rfl, hlist c.articles⟩ <|
    .cons ⟨rfl, rfl⟩ <|
    .cons ⟨rfl, hlist c.similarCases⟩ <|
    .cons ⟨rfl, rfl⟩ <|
    .cons ⟨rfl, rfl⟩ <|
    .cons ⟨rfl, rfl⟩ .nil

/--
The names that do not depend on what a ticket says.
-/
def styleNames : List String := ["include_evidence", "response_tone"]

theorem agree {c d : Context} (hevidence : c.includeEvidence = d.includeEvidence)
    (htone : c.responseTone = d.responseTone) : Agree styleNames c.scope d.scope := by
  have hlookup (c : Context) : Members.get? "include_evidence" c.scope = some (.bool c.includeEvidence) ∧
      Members.get? "response_tone" c.scope = some (.text c.responseTone) := ⟨rfl, rfl⟩
  intro n hn
  rw [styleNames, List.mem_pair] at hn
  rcases hn with rfl | rfl
  . rw [(hlookup c).1, (hlookup d).1, hevidence]
  . rw [(hlookup c).2, (hlookup d).2, htone]

end Context

namespace Bundled

set_option maxRecDepth 100000 in
theorem check_systemTemplate : ((Template.read? systemTemplate).any fun b =>
    b.isCovered && (b.check Context.shapes && b.names.all Context.styleNames.contains)) = true := by
  unfold Template.read? Template.Token.scan? systemTemplate
  repeat rw [Text.toList_ofLines_cons]
  rw [Text.toList_ofLines_nil]
  decide +kernel

set_option maxRecDepth 100000 in
theorem check_userTemplate : ((Template.read? userTemplate).any fun b =>
    b.isCovered && (b.check Context.shapes &&
      ["ticket_id", "subject", "description", "ticket_fields_summary"].all b.shows)) = true := by
  unfold Template.read? Template.Token.scan? userTemplate
  repeat rw [Text.toList_ofLines_cons]
  rw [Text.toList_ofLines_nil]
  decide +kernel

theorem render?_of_read? {template text : String} {b : Body} {c : Context} {scope : Scope} (engine : Template.Engine)
    (hread : Template.read? template = some b) (hcovered : b.isCovered = true)
    (hrender : b.render c.scope = some (text, scope)) : engine.render? template c.toJson = some text := by
  have htemplate : Template.isCovered template = true := by
    unfold Template.isCovered
    rw [hread]
    exact hcovered
  rw [engine.agrees template htemplate]
  unfold Template.render?
  rw [hread]
  dsimp only [Option.bind_eq_bind, Option.bind_some]
  rw [← Context.scope, hrender]
  rfl

/--
The message of the system is one text for all contexts of the same style.
-/
theorem exists_render?_systemTemplate (includeEvidence : Bool) (responseTone : String) :
    ∃ text, ∀ (engine : Template.Engine) (c : Context), c.includeEvidence = includeEvidence → c.responseTone = responseTone →
      engine.render? systemTemplate c.toJson = some text := by
  obtain ⟨b, hread, hb⟩ := (Option.any_eq_true ..).mp check_systemTemplate
  rw [Bool.and_eq_true, Bool.and_eq_true, List.all_eq_true] at hb
  obtain ⟨hcovered, hcheck, hnames⟩ := hb
  have hstyle : b.names ⊆ Context.styleNames := fun n hn => List.contains_iff_mem.mp (hnames n hn)
  -- a context with this style and nothing else gives the text
  let plain : Context := ⟨"", "", "", [], [], "", [], [], includeEvidence, responseTone⟩
  obtain ⟨text, htext, -⟩ := b.exists_render_of_check hcheck plain.fits
  refine ⟨text, ?_⟩
  intro engine c hevidence htone
  have hagree : Agree Context.styleNames c.scope plain.scope := Context.agree hevidence htone
  have halike := b.render_congr hstyle hagree
  rw [htext] at halike
  generalize hrender : b.render c.scope = outcome at halike
  cases halike
  exact render?_of_read? engine hread hcovered hrender

theorem exists_render?_userTemplate (c : Context) : ∃ text,
    (∀ engine : Template.Engine, engine.render? userTemplate c.toJson = some text) ∧
    Occurs c.ticketId text ∧ Occurs c.subject text ∧ Occurs c.description text ∧ Occurs c.fieldsSummary text := by
  obtain ⟨b, hread, hb⟩ := (Option.any_eq_true ..).mp check_userTemplate
  rw [Bool.and_eq_true, Bool.and_eq_true, List.all_eq_true] at hb
  obtain ⟨hcovered, hcheck, hshows⟩ := hb
  obtain ⟨text, htext, hoccurs⟩ := b.exists_render_of_check hcheck c.fits
  refine ⟨text, fun engine => render?_of_read? engine hread hcovered htext, ?_, ?_, ?_, ?_⟩
  . exact hoccurs "ticket_id" c.ticketId (hshows _ (by decide)) rfl
  . exact hoccurs "subject" c.subject (hshows _ (by decide)) rfl
  . exact hoccurs "description" c.description (hshows _ (by decide)) rfl
  . exact hoccurs "ticket_fields_summary" c.fieldsSummary (hshows _ (by decide)) rfl

/--
Every engine makes the same messages of the prompt for a ticket, with any cases and articles. The identifier, the subject,
the description and the summary of the fields stand in the message of the user as they are, and the message of the system
depends on the style that is asked for only.
-/
theorem render_analysisPrompt : ∃ (spec : Prompt.Spec) (system : Bool → String → String),
    Prompt.Spec.ofYaml Pipeline.promptId analysisPrompt = .ok spec ∧
      ∀ (t : Ticket) (options : Analysis.Options) (similarCases articles : List Json),
        let c := Context.build t options similarCases articles
        ∃ user, (∀ engine : Template.Engine,
            spec.render c.toJson engine = .ok ⟨system options.includeEvidence options.responseTone, user⟩) ∧
          Occurs t.id user ∧ Occurs c.subject user ∧ Occurs c.description user ∧ Occurs c.fieldsSummary user := by
  obtain ⟨spec, hspec, hreads⟩ := exists_ofYaml_analysisPrompt
  choose system hsystem using exists_render?_systemTemplate
  refine ⟨spec, system, hspec, ?_⟩
  intro t options similarCases articles c
  obtain ⟨user, huser, hoccurs⟩ := exists_render?_userTemplate c
  refine ⟨user, ?_, hoccurs⟩
  intro engine
  unfold Prompt.Spec.render
  dsimp only
  rw [hreads.system, hreads.user, hsystem options.includeEvidence options.responseTone engine c rfl rfl, huser engine]
  rfl

end Bundled
end Triage
