import Triage.Llm.Endpoint
import Triage.Proofs.Json.Parts
import Triage.Proofs.Json.Single

/-!
This module contains the proof that the body of a post is a faithful text of a request: it is read as an object whose
members give back the model, both prompts and the options, and nothing else of the request is sent.
-/

namespace Triage

namespace Json

theorem ofUInt32_inj {m n : UInt32} (h : ofUInt32 m = ofUInt32 n) : m = n := by
  unfold ofUInt32 Integer.ofUInt32 at h
  injection h with h
  injection h with h
  injection h with h
  exact UInt32.toNat_inj.mp (Int.ofNat_inj.mp h)

/--
A member whose value is written compactly.
-/
def Part.compact (key : String) (v : Json) : Part := ⟨key, v.compactChars, v⟩

theorem Part.reads_compact {key : String} {v : Json} {n : Nat} (hnumbers : v.NumbersSurvive)
    (hdepth : v.containers ≤ n) : Reads n (compact key v).text (compact key v).value :=
  (reads_compactChars hnumbers).weaken hdepth

end Json

namespace Llm

open Json

/--
What the members of an object tell of a request: all of it but the purpose and the limit of time.
-/
structure Carries (members : Members Json) (model : String) (r : Request) : Prop where
  once : (members.map Prod.fst).Nodup
  known : ∀ key ∈ members.map Prod.fst,
    key ∈ ["model", "messages", "temperature", "max_tokens", "response_format", "stream"]
  model : members.get? "model" = some (.string model)
  messages : members.get? "messages" = some (.array [
    .object [("role", .string "system"), ("content", .string r.system)],
    .object [("role", .string "user"), ("content", .string r.user)]])
  temperature : ∃ t, members.get? "temperature" = some (.number t)
  maxTokens : members.get? "max_tokens" = r.maxTokens.map ofUInt32
  responseFormat : members.get? "response_format" =
    if r.jsonMode then some (.object [("type", .string "json_object")]) else none
  stream : members.get? "stream" = some (.bool false)

namespace Request

/--
The members of the body of a request, when `t` is the number that the temperature is read as.
-/
def parts (model : String) (t : Number) (r : Request) : List Part :=
  [.compact "model" (.string model),
    .compact "messages" (.array [chatMessage "system" r.system, chatMessage "user" r.user]),
    ⟨"temperature", Number.singleLayout.render r.temperature, .number t⟩]
  ++ (r.maxTokens.map fun n => Part.compact "max_tokens" (ofUInt32 n)).toList
  ++ (if r.jsonMode then [.compact "response_format" (.object [("type", .string "json_object")])] else [])
  ++ [.compact "stream" (.bool false)]

variable (model : String) {r : Request} {t : Number}

theorem bodyMembers_eq (model : String) (t : Number) (r : Request) :
    r.bodyMembers model = (r.parts model t).map Part.chars := by
  unfold bodyMembers parts
  cases r.maxTokens with
  | none => cases r.jsonMode <;> rfl
  | some n => cases r.jsonMode <;> rfl

theorem reads_parts (h : IsLiteral (Number.singleLayout.render r.temperature) t) :
    ∀ p ∈ r.parts model t, Reads 2 p.text p.value := by
  have hmessages : Json.NumbersSurvive (.array [chatMessage "system" r.system, chatMessage "user" r.user]) :=
    ⟨⟨trivial, trivial, trivial⟩, ⟨trivial, trivial, trivial⟩, trivial⟩
  unfold parts
  simp only [List.mem_append, List.mem_cons, List.not_mem_nil, or_false, Option.mem_toList, Option.map_eq_some_iff]
  rintro p ((((rfl | rfl | rfl) | ⟨n, -, rfl⟩) | hformat) | rfl)
  . exact Part.reads_compact trivial (Nat.zero_le 2)
  . exact Part.reads_compact hmessages (Nat.le_refl 2)
  . exact h.reads.weaken (by decide)
  . exact Part.reads_compact trivial (Nat.zero_le 2)
  . split at hformat
    . rw [List.mem_singleton.mp hformat]
      exact Part.reads_compact ⟨trivial, trivial⟩ (by decide)
    . contradiction
  . exact Part.reads_compact trivial (by decide)

theorem read?_body (h : IsLiteral (Number.singleLayout.render r.temperature) t) :
    Json.read? (r.body model) = some (.object ((r.parts model t).map Part.member)) := by
  unfold body
  rw [bodyMembers_eq model t]
  exact (Part.reads_object (reads_parts model h)).read? (by decide)

theorem carries_parts : Carries ((r.parts model t).map Part.member) model r := by
  unfold parts
  obtain ⟨purpose, system, user, temperature, jsonMode, maxTokens, timeoutMs⟩ := r
  cases maxTokens <;> cases jsonMode <;>
    constructor <;> simp [Part.member, Part.compact, Members.get?, chatMessage]

end Request

/--
An object tells of one request only, as far as it tells of it.
-/
theorem Carries.unique {members : Members Json} {model model' : String} {r r' : Request} (h : Carries members model r)
    (h' : Carries members model' r') :
    model = model' ∧ r.system = r'.system ∧ r.user = r'.user ∧ r.maxTokens = r'.maxTokens ∧
      r.jsonMode = r'.jsonMode := by
  have hmodel := h.model.symm.trans h'.model
  have hmessages := h.messages.symm.trans h'.messages
  have htokens := h.maxTokens.symm.trans h'.maxTokens
  have hformat := h.responseFormat.symm.trans h'.responseFormat
  simp only [Option.some.injEq, Json.string.injEq, Json.array.injEq, Json.object.injEq, List.cons.injEq, Prod.mk.injEq,
    and_true, true_and] at hmodel hmessages
  refine ⟨hmodel, hmessages.1, hmessages.2, Option.map_injective (fun _ _ => ofUInt32_inj) htokens, ?_⟩
  cases hmode : r.jsonMode <;> cases hmode' : r'.jsonMode <;> simp_all

/--
The body of a request is read as an object that carries it. Requests with one temperature have the same body just if the
model, both prompts and the options are the same. Whatever the purpose and the limit of time are, the post is the same.
-/
theorem body_faithful (model : String) (r : Request) (h : r.temperature.isFinite = true) :
    (∃ members, Json.read? (r.body model) = some (.object members) ∧ Carries members model r) ∧
    (∀ (model' : String) (r' : Request), r'.temperature = r.temperature →
      (r.body model = r'.body model' ↔ model = model' ∧ r.system = r'.system ∧ r.user = r'.user ∧
        r.maxTokens = r'.maxTokens ∧ r.jsonMode = r'.jsonMode)) ∧
    ∀ e : Endpoint, e.service.model = model →
      (∀ post, e.post? r = some post → post.body = r.body model) ∧
      ∀ purpose timeoutMs, e.post? { r with purpose := purpose, timeoutMs := timeoutMs } = e.post? r := by
  obtain ⟨t, ht⟩ := exists_isLiteral_single h
  refine ⟨⟨_, Request.read?_body model ht, Request.carries_parts model⟩, ?_, ?_⟩
  . intro model' r' htemperature
    constructor
    . intro hbody
      have hread := Request.read?_body model ht
      rw [hbody, Request.read?_body model' (htemperature ▸ ht), Option.some.injEq, Json.object.injEq] at hread
      have hcarries : Carries ((r'.parts model' t).map Part.member) model r := by
        rw [hread]
        exact Request.carries_parts model
      exact hcarries.unique (Request.carries_parts model')
    . rintro ⟨rfl, hsystem, huser, htokens, hmode⟩
      unfold Request.body Request.bodyMembers
      rw [hsystem, huser, htokens, hmode, htemperature]
  . rintro e rfl
    constructor
    . intro post hpost
      unfold Endpoint.post? at hpost
      split at hpost
      . cases hpost
        rfl
      . contradiction
    . intro purpose timeoutMs
      rfl

/--
A request with quotes, backslashes and control characters. Without its limit of tokens it has another body.
-/
theorem body_faithful_escaped :
    let r : Request := {
      purpose := "analysis", system := "Say \"no\".\r\n", user := "C:\\\x01", temperature := .ofRatio false 3 10,
      jsonMode := true, maxTokens := some 2000, timeoutMs := none }
    r.temperature.isFinite = true ∧
      (∃ members, Json.read? (r.body "small") = some (.object members) ∧ Carries members "small" r) ∧
      r.body "small" ≠ { r with maxTokens := none }.body "small" := by
  intro r
  have hfinite : r.temperature.isFinite = true := by decide
  obtain ⟨hread, hequal, -⟩ := body_faithful "small" r hfinite
  refine ⟨hfinite, hread, ?_⟩
  intro hbody
  have htokens := ((hequal "small" { r with maxTokens := none } rfl).mp hbody).2.2.2.1
  contradiction

end Llm
end Triage
