import Triage.Llm.Settings
import Triage.Proofs.Llm.Fallback

/-!
This module contains the routes that settings make. Each one ends with the primary provider, and the server of one's own
comes before it for the purposes that are listed.
-/

namespace Triage
namespace Llm

@[simp]
theorem Routes.resolve_ofStandard (standard : List Provider) (purpose : String) :
    (ofStandard standard).resolve purpose = standard := rfl

theorem Routes.resolve_insert (routes : Routes) (route : List Provider) (other purpose : String) :
    (routes.insert other route).resolve purpose = if purpose = other then route else routes.resolve purpose := by
  unfold resolve insert
  dsimp only
  split
  . next h =>
    rw [h, Members.get?_insert_self]
    rfl
  . next h =>
    rw [Members.get?_insert_of_ne _ _ h]

theorem Routes.resolve_foldl (routes : Routes) (route : List Provider) (purposes : List String) (purpose : String) :
    (purposes.foldl (fun routes purpose => routes.insert purpose route) routes).resolve purpose =
      if purpose ∈ purposes then route else routes.resolve purpose := by
  induction purposes generalizing routes with
  | nil => simp
  | cons other purposes ih =>
    rw [List.foldl_cons, ih, resolve_insert]
    by_cases hmem : purpose ∈ purposes
    . simp [hmem]
    . simp [hmem]

namespace Settings

theorem resolve_routes (s : Settings) (purpose : String) :
    s.routes.resolve purpose =
      if s.localService.isSome = true ∧ purpose ∈ s.localPurposes then [.localServer, s.primary] else [s.primary] := by
  unfold routes
  dsimp only
  rw [Routes.resolve_foldl, Routes.resolve_ofStandard]
  cases s.localService <;> simp

variable {σ : Type}

theorem mem_registered_gateway {s : Settings} {timeoutMs : UInt64} {exchange : Provider → Post → σ → Exchange × σ}
    {p : Provider} : p ∈ (s.gateway timeoutMs exchange).registered ↔ (s.service? p).isSome = true := by
  have hall : p ∈ Provider.all := by
    cases p <;> decide
  unfold Gateway.registered gateway
  simp [hall]

end Settings

theorem meaning_ne {status : UInt16} {body : String} {e : Error} (h : meaning status body = .error e) :
    (∀ purpose, e ≠ .emptyRoute purpose) ∧ (∀ provider, e ≠ .unknownProvider provider) := by
  unfold meaning at h
  split at h
  . split at h
    . cases h
      simp
    . split at h
      . contradiction
      . cases h
        simp
  . cases h
    simp

/--
An endpoint does not know of routes.
-/
theorem Endpoint.failsByItself {σ : Type} (e : Endpoint) (exchange : Post → σ → Exchange × σ) :
    (e.client exchange).FailsByItself := by
  intro r s error h
  unfold client ask at h
  dsimp only at h
  split at h
  . cases h
    simp
  . unfold reply at h
    dsimp only at h
    split at h
    . cases h
      simp
    . split at h
      . exact meaning_ne h
      . cases h
        simp

namespace Gateway

variable {σ : Type} {g : Gateway σ} {r : Request} {s : σ} {given : Option (List Provider)}

theorem Attempt.ne_unknownProvider (hclients : ∀ p client, g.clients p = some client → client.FailsByItself)
    {p : Provider} {s' : σ} (hp : (g.clients p).isSome = true) {e : Error} (h : Attempt g r p s (.error e) s')
    (provider : String) : e ≠ .unknownProvider provider := by
  cases h with
  | unregistered hnone => simp [hnone] at hp
  | failed hp htime he => exact (hclients _ _ hp _ _ _ he).2 provider
  | _ => simp

/--
On a route of registered providers all errors come from providers.
-/
theorem generate_ne_of_registered (hclients : ∀ p client, g.clients p = some client → client.FailsByItself)
    (hne : g.routeFor r given ≠ []) (hregistered : ∀ p ∈ g.routeFor r given, (g.clients p).isSome = true)
    {e : Error} (h : (g.generate r given s).result = .error e) :
    (∀ purpose, e ≠ .emptyRoute purpose) ∧ (∀ provider, e ≠ .unknownProvider provider) := by
  obtain ⟨results, final, hwalk⟩ := exists_walk g r (g.routeFor r given) s
  cases first_accepted results with
  | inr haccepted =>
    obtain ⟨i, text, hi, herror⟩ := haccepted
    obtain ⟨p, client, response, -, -, hok, -⟩ := generate_of_accepted hwalk hi herror
    rw [hok] at h
    contradiction
  | inl herror =>
    constructor
    . rintro purpose rfl
      exact hne (eq_nil_of_emptyRoute hclients hwalk h)
    . intro provider
      have hresults : results ≠ [] := by
        rw [← List.length_pos_iff, hwalk.length_eq, List.length_pos_iff]
        exact hne
      obtain ⟨result, hlast⟩ := Option.ne_none_iff_exists'.mp (mt List.getLast?_eq_none_iff.mp hresults)
      obtain ⟨e', rfl⟩ := herror result (List.mem_of_getLast? hlast)
      obtain rfl : e' = e := by
        rw [(generate_of_errors hwalk herror).1, lastError, hlast] at h
        exact Except.error.inj h
      rw [List.getLast?_eq_getElem?] at hlast
      obtain ⟨p, mid, s', hp, -, hattempt, -⟩ := hwalk.getElem? hlast
      exact hattempt.ne_unknownProvider hclients (hregistered p (List.mem_of_getElem? hp)) provider

end Gateway
end Llm
end Triage
