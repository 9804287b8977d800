import Triage.Config
import Triage.Proofs.Llm.Routes

/-!
This module contains what every configuration that can be read provides for: a gateway whose routes are of registered
providers and end with the primary one.
-/

namespace Triage
namespace Config

variable {env : Environment} {c : Config}

/--
Whether a text is one of the parts between the commas of a list, without the blanks around it. Parts of blanks alone do
not count.
-/
def IsListed (list text : String) : Prop :=
  text ≠ "" ∧ ∃ parts : List (List Char), [','].intercalate parts = list.toList ∧ (∀ part ∈ parts, ',' ∉ part) ∧
    ∃ part ∈ parts, String.ofList (Text.trim part) = text

theorem not_mem_of_mem_splitOn {mark : Char} {cs part : List Char} (h : part ∈ cs.splitOn mark) : mark ∉ part := by
  induction cs generalizing part with
  | nil =>
    obtain rfl : part = [] := by simpa using h
    simp
  | cons c cs ih =>
    rw [List.splitOn_cons_eq_if_modifyHead] at h
    obtain ⟨first, rest, hsplit⟩ := List.exists_cons_of_ne_nil (List.splitOn_ne_nil mark cs)
    rw [hsplit] at h ih
    split at h
    . rw [List.mem_cons] at h
      rcases h with rfl | hpart
      . simp
      . exact ih hpart
    . next hc =>
      rw [List.modifyHead_cons, List.mem_cons] at h
      rcases h with rfl | hpart
      . rw [List.mem_cons, not_or]
        exact ⟨fun hmark => hc (beq_iff_eq.mpr hmark.symm), ih List.mem_cons_self⟩
      . exact ih (List.mem_cons_of_mem first hpart)

theorem mem_listed_iff {list text : String} : text ∈ listed list ↔ IsListed list text := by
  have hmem : text ∈ listed list ↔
      text ≠ "" ∧ ∃ part ∈ list.toList.splitOn ',', String.ofList (Text.trim part) = text := by
    unfold listed
    rw [List.mem_filter, List.mem_map, and_comm]
    simp
  rw [hmem]
  unfold IsListed
  apply and_congr_right
  intro _
  constructor
  . rintro ⟨part, hpart, htext⟩
    refine ⟨list.toList.splitOn ',', List.intercalate_splitOn ',', ?_, part, hpart, htext⟩
    intro other hother
    exact not_mem_of_mem_splitOn hother
  . rintro ⟨parts, hparts, hcommas, part, hpart, htext⟩
    refine ⟨part, ?_, htext⟩
    rw [← hparts, List.splitOn_intercalate ',' hcommas (List.ne_nil_of_mem hpart)]
    exact hpart

/--
Whether the server of one's own is switched on and can be asked.
-/
structure HasLocal (env : Environment) : Prop where
  switched : ∃ text, env.get? "LLM_LOCAL_ENABLED" = some text ∧ Text.lowercased text ∈ ["1", "true", "yes"]
  baseUrl : ∃ text, env.get? "LLM_LOCAL_BASE_URL" = some text ∧ text ≠ ""
  model : ∃ text, env.get? "LLM_LOCAL_MODEL" = some text ∧ text ≠ ""

theorem isSome_filled?_iff {name : String} :
    (env.filled? name).isSome = true ↔ ∃ text, env.get? name = some text ∧ text ≠ "" := by
  unfold Environment.filled?
  cases env.get? name with
  | none => simp
  | some text => simp [Option.filter]

theorem isSome_localService?_iff : (localService? env).isSome = true ↔ HasLocal env := by
  have hswitched : (env.get? "LLM_LOCAL_ENABLED").any isYes = true ↔
      ∃ text, env.get? "LLM_LOCAL_ENABLED" = some text ∧ Text.lowercased text ∈ ["1", "true", "yes"] := by
    unfold isYes
    cases env.get? "LLM_LOCAL_ENABLED" <;> simp
  have hservice : (localService? env).isSome = true ↔ (env.get? "LLM_LOCAL_ENABLED").any isYes = true ∧
      (env.filled? "LLM_LOCAL_BASE_URL").isSome = true ∧ (env.filled? "LLM_LOCAL_MODEL").isSome = true := by
    unfold localService?
    cases (env.get? "LLM_LOCAL_ENABLED").any isYes with
    | false => simp
    | true =>
      cases env.filled? "LLM_LOCAL_BASE_URL" with
      | none => simp
      | some baseUrl => cases env.filled? "LLM_LOCAL_MODEL" <;> simp
  rw [hservice, hswitched, isSome_filled?_iff, isSome_filled?_iff]
  constructor
  . rintro ⟨hswitched, hbase, hmodel⟩
    exact ⟨hswitched, hbase, hmodel⟩
  . rintro ⟨hswitched, hbase, hmodel⟩
    exact ⟨hswitched, hbase, hmodel⟩

/--
What the settings of every configuration that can be read have in common.
-/
structure Provides (env : Environment) (settings : Llm.Settings) : Prop where
  primary : primary? env = .ok settings.primary
  cloud : settings.primary ≠ .localServer
  service : (settings.service? settings.primary).isSome = true
  localService : settings.localService = localService? env
  localPurposes : settings.localPurposes = ((env.get? "LLM_LOCAL_PURPOSES").map listed).getD []

theorem bind_eq_ok_iff {ε α β : Type} {x : Except ε α} {f : α → Except ε β} {b : β} :
    x >>= f = .ok b ↔ ∃ a, x = .ok a ∧ f a = .ok b := by
  cases x <;> simp [bind, Except.bind]

theorem ne_localServer_of_primary? {p : Llm.Provider} (h : primary? env = .ok p) : p ≠ .localServer := by
  unfold primary? at h
  obtain ⟨q, -, hq⟩ := bind_eq_ok_iff.mp h
  cases q with
  | localServer => cases hq
  | deepseek =>
    cases hq
    decide
  | openai =>
    cases hq
    decide

theorem provides_of_llmSettings? {settings : Llm.Settings} (h : llmSettings? env = .ok settings) :
    Provides env settings := by
  unfold llmSettings? at h
  obtain ⟨p, hprimary, h⟩ := bind_eq_ok_iff.mp h
  dsimp only at h
  split at h
  . cases h
  . next hservice =>
    rw [Bool.not_eq_true, Option.isNone_eq_false_iff] at hservice
    cases h
    constructor
    . exact hprimary
    . exact ne_localServer_of_primary? hprimary
    . exact hservice
    . rfl
    . rfl

theorem provides_of_ofEnvironment (h : ofEnvironment env = .ok c) : Provides env c.llm := by
  unfold ofEnvironment at h
  obtain ⟨settings, hsettings, h⟩ := bind_eq_ok_iff.mp h
  cases h
  exact provides_of_llmSettings? hsettings

/--
Whether requests for a purpose go to the server of one's own first.
-/
def IsLocal (env : Environment) (purpose : String) : Prop :=
  HasLocal env ∧ ∃ list, env.get? "LLM_LOCAL_PURPOSES" = some list ∧ IsListed list purpose

theorem Provides.isLocal_iff {settings : Llm.Settings} (h : Provides env settings) (purpose : String) :
    settings.localService.isSome = true ∧ purpose ∈ settings.localPurposes ↔ IsLocal env purpose := by
  unfold IsLocal
  rw [h.localService, h.localPurposes, isSome_localService?_iff]
  apply and_congr_right
  intro _
  cases env.get? "LLM_LOCAL_PURPOSES" with
  | none => simp
  | some list => simp [mem_listed_iff]

variable {σ : Type}

/--
What is true of the route for a purpose. It is never empty, so there is always a provider to ask.
-/
structure Routable (env : Environment) (primary : Llm.Provider) (g : Llm.Gateway σ) (purpose : String) : Prop where
  nonempty : g.routes.resolve purpose ≠ []
  registered : ∀ p ∈ g.routes.resolve purpose, p ∈ g.registered
  nodup : (g.routes.resolve purpose).Nodup
  last : (g.routes.resolve purpose).getLast? = some primary
  localFirst : g.routes.resolve purpose = [.localServer, primary] ↔ IsLocal env purpose
  primaryOnly : ¬ IsLocal env purpose → g.routes.resolve purpose = [primary]

theorem Provides.routable {settings : Llm.Settings} (h : Provides env settings) (timeoutMs : UInt64)
    (exchange : Llm.Provider → Llm.Post → σ → Llm.Exchange × σ) (purpose : String) :
    Routable env settings.primary (settings.gateway timeoutMs exchange) purpose := by
  have hroute : (settings.gateway timeoutMs exchange).routes.resolve purpose =
      settings.routes.resolve purpose := rfl
  have hprimary : settings.primary ∈ (settings.gateway timeoutMs exchange).registered :=
    Llm.Settings.mem_registered_gateway.mpr h.service
  by_cases hlocal : IsLocal env purpose
  . have hservice : .localServer ∈ (settings.gateway timeoutMs exchange).registered :=
      Llm.Settings.mem_registered_gateway.mpr ((h.isLocal_iff purpose).mpr hlocal).1
    rw [Llm.Settings.resolve_routes, if_pos ((h.isLocal_iff purpose).mpr hlocal)] at hroute
    constructor
    . simp [hroute]
    . simp [hroute, hservice, hprimary]
    . simp [hroute, h.cloud.symm]
    . simp [hroute]
    . simp [hroute, hlocal]
    . simp [hlocal]
  . rw [Llm.Settings.resolve_routes, if_neg (mt (h.isLocal_iff purpose).mp hlocal)] at hroute
    constructor
    . simp [hroute]
    . simp [hroute, hprimary]
    . simp [hroute]
    . simp [hroute]
    . simp [hroute, hlocal]
    . simp [hroute]

/--
The gateway of a configuration has a route for every purpose. All its providers are registered and differ from each
other, and the last one is the primary provider. The server of one's own stands before it exactly for the purposes that
are listed, if it is switched on and has an address and a model. So a request never fails for want of a provider.
-/
theorem routable_of_ofEnvironment (h : ofEnvironment env = .ok c)
    (exchange : Llm.Provider → Llm.Post → σ → Llm.Exchange × σ) :
    primary? env = .ok c.llm.primary ∧ c.llm.primary ≠ .localServer ∧
    (∀ purpose, Routable env c.llm.primary (c.llm.gateway c.requestTimeoutMs exchange) purpose) ∧
    ∀ r s e, ((c.llm.gateway c.requestTimeoutMs exchange).generate r none s).result = .error e →
      (∀ purpose, e ≠ .emptyRoute purpose) ∧ (∀ provider, e ≠ .unknownProvider provider) := by
  have hprovides : Provides env c.llm := provides_of_ofEnvironment h
  have hroutable (purpose : String) := hprovides.routable c.requestTimeoutMs exchange purpose
  refine ⟨hprovides.primary, hprovides.cloud, hroutable, ?_⟩
  intro r s e herror
  apply Llm.Gateway.generate_ne_of_registered _ _ _ herror
  . intro p client hclient
    unfold Llm.Settings.gateway at hclient
    obtain ⟨service, -, rfl⟩ := Option.map_eq_some_iff.mp hclient
    apply Llm.Endpoint.failsByItself
  . exact (hroutable r.purpose).nonempty
  . intro p hp
    exact (List.mem_filter.mp ((hroutable r.purpose).registered p hp)).2

/--
Oddly spelled variables do no harm, and a blank entry is no purpose.
-/
theorem routable_of_ofEnvironment_spelled :
    let env : Environment := ⟨[("LLM_LOCAL_BASE_URL", "http://localhost"), ("LLM_LOCAL_ENABLED", "YES"),
      ("LLM_LOCAL_MODEL", "qwen"), ("LLM_LOCAL_PURPOSES", " a b ,\t, c"), ("LLM_PROVIDER", " OpenAI\n"),
      ("OPENAI_API_KEY", "k")]⟩
    let exchange : Llm.Provider → Llm.Post → Unit → Llm.Exchange × Unit := fun _ _ s => (⟨0, none⟩, s)
    ∃ c, ofEnvironment env = .ok c ∧
      Routable env c.llm.primary (c.llm.gateway c.requestTimeoutMs exchange) "a b" ∧
      c.llm.routes.resolve "a b" = [.localServer, .openai] ∧ c.llm.routes.resolve "" = [.openai] := by
  intro env exchange
  have hok : (ofEnvironment env).toOption.any (fun c =>
      c.llm.routes.resolve "a b" = [.localServer, .openai] ∧ c.llm.routes.resolve "" = [.openai]) = true := by
    decide +kernel
  cases hc : ofEnvironment env with
  | error e => simp [hc, Except.toOption] at hok
  | ok c =>
    have hroutes := by simpa [hc, Except.toOption] using hok
    obtain ⟨-, -, hroutable, -⟩ := routable_of_ofEnvironment hc exchange
    exact ⟨c, rfl, hroutable "a b", hroutes⟩

end Config
end Triage
