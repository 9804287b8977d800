import Triage.Analysis.Codec
import Triage.Proofs.Bundled.Documents
import Triage.Proofs.Json.Codec
import Triage.Proofs.Schema.Meaning

/-!
This module contains what the schema for results asks of a result. Only the analysis inside can be at fault; all that is
around it fits the schema, whatever came of the analysis.
-/

namespace Triage

open Json Schema

namespace Analysis

/--
Whether a value is a number from zero to one.
-/
def IsShare (v : Json) : Prop := ∃ n, v = .number n ∧ 0 ≤ n.value ∧ n.value ≤ 1

/--
Whether a value is a proposal for a field that it names.
-/
def IsProposal (v : Json) : Prop := v.IsObject ∧ v.Has "field_name" IsString

/--
Whether an analysis is what a model is asked for, as far as it goes.
-/
structure Fits (v : Json) : Prop where
  confidence : v.MayHave "confidence" IsShare
  intent : v.MayHave "intent" IsStringOrNull
  sentiment : v.MayHave "sentiment" IsStringOrNull
  rootCause : v.MayHave "root_cause" IsStringOrNull
  resolution : v.MayHave "resolution" IsArray
  openQuestions : v.MayHave "open_questions" IsArray
  riskTags : v.MayHave "risk_tags" IsArray
  evidence : v.MayHave "evidence" IsArray
  proposals : v.MayHave proposalsKey (IsArrayOf IsProposal)

/--
Whether a value is a number that can count something.
-/
def IsCount (v : Json) : Prop := (∀ n, v = .number n → 0 ≤ n.value) ∧ Kind.integer.admits v = true

/--
Whether a value tells how a result came about.
-/
structure IsMeta (v : Json) : Prop where
  object : v.IsObject
  provider : v.Has "llm_provider" IsString
  model : v.Has "llm_model" IsString
  promptVersion : v.Has "prompt_version" IsString
  latencyMs : v.Has "latency_ms" IsCount
  createdAt : v.Has "created_at" IsString
  retrievalCount : v.MayHave "retrieval_count" IsCount
  usedFallback : v.MayHave "used_fallback" IsBool
  attempts : v.MayHave "attempts" IsCount

def IsGate (v : Json) : Prop := ∃ gate, v = Gate.toJson gate

/--
Whether a value is a result with the given condition on the analysis in it.
-/
structure IsResult (P : Json → Prop) (v : Json) : Prop where
  object : v.IsObject
  id : v.Has "analysis_id" IsNonemptyString
  analysis : v.Has "analysis" P
  gate : v.Has "gate" IsGate
  info : v.Has "meta" IsMeta
  success : v.Has "success" IsBool
  error : v.MayHave "error" IsStringOrNull

end Analysis

namespace Bundled

open Analysis

variable {find : String → Finder}

theorem means_proposalSchema : Means find proposalSchema IsProposal := by
  have hproperties := means_properties_cons "field_name" (means_single means_string)
    (means_properties_nil find)
  apply (means_objectWith hproperties ["field_name"]).congr
  intro v
  rw [List.forall_mem_singleton, and_true, ← has_iff, IsProposal]

theorem means_share :
    Means find (.all [
      .bound .atMost (.integer ⟨1, by decide, by decide⟩), .bound .atLeast (.integer .zero), .kinds [.number]])
      IsShare := by
  apply (means_all_cons (means_atMost _) (means_all_cons (means_atLeast _) (means_single (means_kinds _)))).congr
  intro v
  cases v <;> simp [IsShare, Kind.admits, Integer.zero, and_comm]

theorem means_findingSchema : Means find findingSchema fun v => v.IsObject ∧ Fits v := by
  have hproperties := means_properties_cons "confidence" means_share <|
    means_properties_cons "evidence" (means_single means_array) <|
    means_properties_cons "field_proposals" (means_arrayOf means_proposalSchema) <|
    means_properties_cons "intent" (means_single means_stringOrNull) <|
    means_properties_cons "open_questions" (means_single means_array) <|
    means_properties_cons "resolution" (means_single means_array) <|
    means_properties_cons "risk_tags" (means_single means_array) <|
    means_properties_cons "root_cause" (means_single means_stringOrNull) <|
    means_properties_cons "sentiment" (means_single means_stringOrNull) (means_properties_nil find)
  apply (means_all_cons hproperties (means_single means_object)).congr
  intro v
  constructor
  . rintro ⟨⟨hconfidence, hevidence, hproposals, hintent, hquestions, hresolution, htags, hcause, hsentiment, -⟩, hobject⟩
    exact ⟨hobject, hconfidence, hintent, hsentiment, hcause, hresolution, hquestions, htags, hevidence, hproposals⟩
  . rintro ⟨hobject, hconfidence, hintent, hsentiment, hcause, hresolution, hquestions, htags, hevidence, hproposals⟩
    exact ⟨⟨hconfidence, hevidence, hproposals, hintent, hquestions, hresolution, htags, hcause, hsentiment, trivial⟩,
      hobject⟩

theorem means_count : Means find count IsCount := by
  apply (means_all_cons (means_atLeast _) (means_single (means_kinds _))).congr
  intro v
  simp [IsCount, Integer.zero]

theorem means_metaSchema : Means find metaSchema IsMeta := by
  have hproperties := means_properties_cons "attempts" means_count <|
    means_properties_cons "created_at" (means_single means_string) <|
    means_properties_cons "latency_ms" means_count <|
    means_properties_cons "llm_model" (means_single means_string) <|
    means_properties_cons "llm_provider" (means_single means_string) <|
    means_properties_cons "prompt_version" (means_single means_string) <|
    means_properties_cons "retrieval_count" means_count <|
    means_properties_cons "used_fallback" (means_single means_bool) (means_properties_nil find)
  apply (means_objectWith hproperties
    ["llm_provider", "llm_model", "prompt_version", "latency_ms", "created_at"]).congr
  intro v
  simp only [List.forall_mem_cons, List.not_mem_nil, false_implies, implies_true, and_true]
  constructor
  . rintro ⟨hobject, ⟨hp, hm, hv, hl, hc⟩, hattempts, hcreatedAt, hlatency, hmodel, hprovider, hversion, hretrieval, hfallback⟩
    exact ⟨hobject, has_iff.mpr ⟨hp, hprovider⟩, has_iff.mpr ⟨hm, hmodel⟩, has_iff.mpr ⟨hv, hversion⟩,
      has_iff.mpr ⟨hl, hlatency⟩, has_iff.mpr ⟨hc, hcreatedAt⟩, hretrieval, hfallback, hattempts⟩
  . rintro ⟨hobject, hprovider, hmodel, hversion, hlatency, hcreatedAt, hretrieval, hfallback, hattempts⟩
    rw [has_iff] at hprovider hmodel hversion hlatency hcreatedAt
    exact ⟨hobject, ⟨hprovider.1, hmodel.1, hversion.1, hlatency.1, hcreatedAt.1⟩, hattempts, hcreatedAt.2, hlatency.2,
      hmodel.2, hprovider.2, hversion.2, hretrieval, hfallback⟩

theorem means_gate :
    Means find (.all [
      .options [.string "CONFIRM", .string "EDIT", .string "DECIDE", .string "TEACH"], .kinds [.string]]) IsGate := by
  apply (means_all_cons (means_options _) (means_single means_string)).congr
  intro v
  constructor
  . rintro ⟨hoption, s, rfl⟩
    simp only [List.any_cons, List.any_nil, isSame, Bool.or_false, Bool.or_eq_true, beq_iff_eq] at hoption
    obtain rfl | rfl | rfl | rfl := hoption
    . exact ⟨.confirm, rfl⟩
    . exact ⟨.edit, rfl⟩
    . exact ⟨.decide, rfl⟩
    . exact ⟨.teach, rfl⟩
  . rintro ⟨gate, rfl⟩
    refine ⟨?_, gate.name, rfl⟩
    cases gate <;> decide

theorem means_analysisDocument :
    Means find analysisDocument.schema (IsResult fun v => v.IsObject ∧ Fits v) := by
  have hproperties := means_properties_cons "analysis" means_findingSchema <|
    means_properties_cons "analysis_id" means_nonemptyString <|
    means_properties_cons "error" (means_single means_stringOrNull) <|
    means_properties_cons "gate" means_gate <|
    means_properties_cons "meta" means_metaSchema <|
    means_properties_cons "success" (means_single means_bool) (means_properties_nil find)
  apply (means_objectWith hproperties ["analysis_id", "analysis", "gate", "meta", "success"]).congr
  intro v
  simp only [List.forall_mem_cons, List.not_mem_nil, false_implies, implies_true, and_true]
  constructor
  . rintro ⟨hobject, ⟨hi, ha, hg, hm, hs⟩, hanalysis, hid, herror, hgate, hmeta, hsuccess⟩
    exact ⟨hobject, has_iff.mpr ⟨hi, hid⟩, has_iff.mpr ⟨ha, hanalysis⟩, has_iff.mpr ⟨hg, hgate⟩, has_iff.mpr ⟨hm, hmeta⟩,
      has_iff.mpr ⟨hs, hsuccess⟩, herror⟩
  . rintro ⟨hobject, hid, hanalysis, hgate, hmeta, hsuccess, herror⟩
    rw [has_iff] at hid hanalysis hgate hmeta hsuccess
    exact ⟨hobject, ⟨hid.1, hanalysis.1, hgate.1, hmeta.1, hsuccess.1⟩, hanalysis.2, hid.2, herror, hgate.2, hmeta.2,
      hsuccess.2⟩

end Bundled

namespace Analysis

/--
The names of the members of an object, none of another value.
-/
def names (v : Json) : List String := (v.members?.getD []).map Prod.fst

theorem member?_canonical {v : Json} (hnames : (names v).Nodup) (key : String) :
    v.canonical.member? key = (v.member? key).map canonical := by
  cases v with
  | object ms =>
    rw [canonical, member?]
    exact get?_sorted_canonicalMembers hnames key
  | _ => rfl

theorem Meta.nodup_names (m : Meta) : (names m.toJson).Nodup := by
  unfold names toJson
  cases m.outputSchemaValid <;> cases m.error <;> simp [memberIf, members?]

theorem Result.nodup_names (r : Result) : (names r.toJson).Nodup := by
  unfold names toJson
  cases r.error <;> simp [memberIf, members?]

theorem isCount_of_nonneg {n : Integer} (h : 0 ≤ n.val) : IsCount (.number (.integer n)) := by
  refine ⟨?_, rfl⟩
  intro m heq
  cases heq
  rw [Number.value_integer]
  exact Int.cast_nonneg h

theorem isMeta_toJson (m : Meta) : IsMeta m.toJson.canonical := by
  have hmember (key : String) := member?_canonical m.nodup_names key
  constructor
  . exact ⟨_, rfl⟩
  . exact ⟨_, hmember "llm_provider", m.provider, rfl⟩
  . exact ⟨_, hmember "llm_model", m.model, rfl⟩
  . exact ⟨_, hmember "prompt_version", m.promptVersion, rfl⟩
  . exact ⟨_, hmember "latency_ms", isCount_of_nonneg (Int.natCast_nonneg _)⟩
  . exact ⟨_, hmember "created_at", m.createdAt, rfl⟩
  . intro w hw
    cases (hmember "retrieval_count").symm.trans hw
    exact isCount_of_nonneg (Int.natCast_nonneg _)
  . intro w hw
    cases (hmember "used_fallback").symm.trans hw
    exact ⟨m.usedFallback, rfl⟩
  . intro w hw
    cases (hmember "attempts").symm.trans hw
    exact isCount_of_nonneg (Int.natCast_nonneg _)

/--
All that is around the analysis of a result is as it should be.
-/
theorem isResult_toJson_iff {r : Result} {P : Json → Prop} (hid : r.id ≠ "") (hcanonical : r.analysis.Canonical) :
    IsResult P r.toJson.canonical ↔ P (.object r.analysis) := by
  have hmember (key : String) := member?_canonical r.nodup_names key
  have hanalysis : r.toJson.canonical.member? "analysis" = some (.object r.analysis) := by
    apply (hmember "analysis").trans
    exact congrArg some (canonical_of_canonical _ hcanonical)
  constructor
  . intro h
    obtain ⟨w, hw, hP⟩ := h.analysis
    cases hanalysis.symm.trans hw
    exact hP
  . intro hP
    constructor
    . exact ⟨_, rfl⟩
    . exact ⟨_, hmember "analysis_id", r.id, rfl, hid⟩
    . exact ⟨_, hanalysis, hP⟩
    . exact ⟨_, hmember "gate", r.gate, rfl⟩
    . exact ⟨_, hmember "meta", isMeta_toJson r.info⟩
    . exact ⟨_, hmember "success", r.success, rfl⟩
    . intro w hw
      have herror : r.toJson.canonical.member? "error" = r.error.map .string := by
        apply (hmember "error").trans
        unfold Result.toJson
        cases r.error <;> rfl
      obtain ⟨s, -, rfl⟩ := Option.map_eq_some_iff.mp (herror.symm.trans hw)
      exact ⟨some s, rfl⟩

/--
The schema for results judges the analysis in a result, and nothing else of it.
-/
theorem report_eq_nil_iff_fits {r : Result} (hid : r.id ≠ "") (hcanonical : r.analysis.Canonical) :
    Bundled.analysisDocument.report r.toJson.canonical = [] ↔ Fits (.object r.analysis) := by
  rw [Document.report_eq_nil_iff (fun _ => Bundled.means_analysisDocument), isResult_toJson_iff hid hcanonical]
  exact and_iff_right ⟨_, rfl⟩

end Analysis
end Triage
