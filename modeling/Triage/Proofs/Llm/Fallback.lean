import Triage.Llm.Gateway

/-!
This module contains the walk of a request along its route: the first provider whose answer is accepted ends it,
every other position counts as a try and leaves its error behind.
-/

namespace Triage
namespace Llm

/--
Whether a text is what a request asks for: any text, or in JSON mode the text of an object.
-/
def Request.Accepts (r : Request) (text : String) : Prop :=
  r.jsonMode = true → ∃ members, Json.parse? text = some (.object members)

/--
Whether a client fails only for reasons of its own, not for those that only a route can have.
-/
def Client.FailsByItself {σ : Type} (c : Client σ) : Prop :=
  ∀ r s e, (c.ask r s).1.outcome = .error e →
    (∀ purpose, e ≠ .emptyRoute purpose) ∧ (∀ provider, e ≠ .unknownProvider provider)

namespace Gateway

variable {σ : Type} {g : Gateway σ} {r : Request} {p : Provider} {s s' : σ}

/--
What comes of trying a provider while the providers are in the state `s`, and their state afterwards. One that is
not registered is not asked.
-/
inductive Attempt (g : Gateway σ) (r : Request) (p : Provider) (s : σ) : Except Error String → σ → Prop where
  | unregistered (hp : g.clients p = none) : Attempt g r p s (.error (.unknownProvider p.name)) s
  | late {client : Client σ} {limit : UInt64} (hp : g.clients p = some client)
      (hlimit : g.timeout? p r = some limit) (hlate : limit.toNat < (client.ask r s).1.delayMs) :
      Attempt g r p s (.error (.timeout p.name r.purpose limit)) (client.ask r s).2
  | failed {client : Client σ} {e : Error} (hp : g.clients p = some client)
      (htime : ∀ limit, g.timeout? p r = some limit → (client.ask r s).1.delayMs ≤ limit.toNat)
      (he : (client.ask r s).1.outcome = .error e) :
      Attempt g r p s (.error e) (client.ask r s).2
  | refused {client : Client σ} {text : String} (hp : g.clients p = some client)
      (htime : ∀ limit, g.timeout? p r = some limit → (client.ask r s).1.delayMs ≤ limit.toNat)
      (htext : (client.ask r s).1.outcome = .ok text) (hrefused : ¬ r.Accepts text) :
      Attempt g r p s (.error (.invalidResponse .notAnObject)) (client.ask r s).2
  | accepted {client : Client σ} {text : String} (hp : g.clients p = some client)
      (htime : ∀ limit, g.timeout? p r = some limit → (client.ask r s).1.delayMs ≤ limit.toNat)
      (htext : (client.ask r s).1.outcome = .ok text) (haccepted : r.Accepts text) :
      Attempt g r p s (.ok text) (client.ask r s).2

/--
What comes of trying all providers of a route, one after the other.
-/
inductive Walk (g : Gateway σ) (r : Request) : σ → List Provider → List (Except Error String) → σ → Prop where
  | nil (s : σ) : Walk g r s [] [] s
  | cons {p : Provider} {rest : List Provider} {s s' final : σ} {result : Except Error String}
      {results : List (Except Error String)} (hp : Attempt g r p s result s')
      (hrest : Walk g r s' rest results final) :
      Walk g r s (p :: rest) (result :: results) final

def isRegistered (g : Gateway σ) (p : Provider) : Bool :=
  (g.clients p).isSome

theorem isAcceptable_iff (r : Request) (text : String) : isAcceptable r text = true ↔ r.Accepts text := by
  unfold isAcceptable Request.Accepts
  cases r.jsonMode with
  | false => simp
  | true =>
    cases Json.parse? text with
    | none => simp
    | some v => cases v <;> simp [Json.members?]

theorem inTime_of_le {limit : Option UInt64} {reply : Reply}
    (h : ∀ l, limit = some l → reply.delayMs ≤ l.toNat) : inTime p r limit reply = reply := by
  cases limit with
  | none => rfl
  | some l =>
    unfold inTime
    dsimp only
    rw [if_pos (h l rfl)]

theorem exists_attempt (g : Gateway σ) (r : Request) (p : Provider) (s : σ) :
    ∃ result s', Attempt g r p s result s' := by
  cases hp : g.clients p with
  | none => exact ⟨_, _, .unregistered hp⟩
  | some client =>
    by_cases htime : ∀ limit, g.timeout? p r = some limit → (client.ask r s).1.delayMs ≤ limit.toNat
    . cases hout : (client.ask r s).1.outcome with
      | error e => exact ⟨_, _, .failed hp htime hout⟩
      | ok text =>
        by_cases haccepts : r.Accepts text
        . exact ⟨_, _, .accepted hp htime hout haccepts⟩
        . exact ⟨_, _, .refused hp htime hout haccepts⟩
    . simp only [Classical.not_forall, Nat.not_le] at htime
      obtain ⟨limit, hlimit, hlate⟩ := htime
      exact ⟨_, _, .late hp hlimit hlate⟩

theorem exists_walk (g : Gateway σ) (r : Request) (route : List Provider) (s : σ) :
    ∃ results final, Walk g r s route results final := by
  induction route generalizing s with
  | nil => exact ⟨_, _, .nil s⟩
  | cons p rest ih =>
    obtain ⟨result, s', hp⟩ := exists_attempt g r p s
    obtain ⟨results, final, hrest⟩ := ih s'
    exact ⟨_, _, .cons hp hrest⟩

theorem Walk.length_eq {route : List Provider} {results : List (Except Error String)}
    (h : Walk g r s route results s') : results.length = route.length := by
  induction h with
  | nil => rfl
  | cons _ _ ih => rw [List.length_cons, List.length_cons, ih]

theorem Walk.getElem? {route : List Provider} {results : List (Except Error String)} {final : σ}
    (h : Walk g r s route results final) {i : Nat} {result : Except Error String}
    (hi : results[i]? = some result) :
    ∃ p mid s', route[i]? = some p ∧ Walk g r s (route.take i) (results.take i) mid ∧
      Attempt g r p mid result s' ∧ Walk g r s (route.take (i + 1)) (results.take (i + 1)) s' := by
  induction h generalizing i with
  | nil => contradiction
  | @cons p rest s s' final first results hp hrest ih =>
    cases i with
    | zero =>
      rw [List.getElem?_cons_zero, Option.some.injEq] at hi
      subst hi
      exact ⟨p, s, s', rfl, .nil s, hp, .cons hp (.nil s')⟩
    | succ i =>
      rw [List.getElem?_cons_succ] at hi
      obtain ⟨q, mid, last, hq, hbefore, hattempt, hupto⟩ := ih hi
      exact ⟨q, mid, last, hq, .cons hp hbefore, hattempt, .cons hp hupto⟩

/--
The error of the last position, or `last` if there is no position.
-/
def lastError (last : Error) (results : List (Except Error String)) : Error :=
  match results.getLast? with
  | some (.error e) => e
  | _ => last

theorem lastError_cons (last e : Error) (results : List (Except Error String))
    (h : ∀ result ∈ results, ∃ e, result = .error e) :
    lastError last (.error e :: results) = lastError e results := by
  unfold lastError
  cases hlast : results.getLast? with
  | none => simp [List.getLast?_cons, hlast]
  | some result =>
    obtain ⟨e', rfl⟩ := h result (List.mem_of_getLast? hlast)
    simp [List.getLast?_cons, hlast]

namespace generate

variable (tried : Nat) (last : Error) (rest : List Provider) {e : Error} {text : String}

theorem go_cons_of_error (h : Attempt g r p s (.error e) s') :
    (go g r tried last (p :: rest) s).result = (go g r (tried + 1) e rest s').result ∧
    (go g r tried last (p :: rest) s).asked =
      [p].filter g.isRegistered ++ (go g r (tried + 1) e rest s').asked ∧
    (go g r tried last (p :: rest) s).providers = (go g r (tried + 1) e rest s').providers := by
  cases h with
  | unregistered hp =>
    simp [go, hp, isRegistered]
  | @late client limit hp hlimit hlate =>
    have hnot : ¬ (client.ask r s).1.delayMs ≤ limit.toNat := by omega
    simp [go, hp, isRegistered, hlimit, inTime, hnot, accepted]
  | failed hp htime he =>
    simp [go, hp, isRegistered, inTime_of_le htime, accepted, he]
  | refused hp htime htext hrefused =>
    rw [← isAcceptable_iff] at hrefused
    simp [go, hp, isRegistered, inTime_of_le htime, accepted, htext, hrefused]

theorem go_cons_of_ok (h : Attempt g r p s (.ok text) s') :
    ∃ client response, g.clients p = some client ∧
      (go g r tried last (p :: rest) s).result = .ok response ∧
      response.content = text ∧ response.provider = p.name ∧ response.model = client.model ∧
      response.attempts = (tried + 1).toUInt32 ∧ response.usedFallback = decide (0 < tried) ∧
      (go g r tried last (p :: rest) s).asked = [p] ∧
      (go g r tried last (p :: rest) s).providers = s' := by
  cases h with
  | @accepted client _ hp htime htext haccepted =>
    rw [← isAcceptable_iff] at haccepted
    simp [go, hp, inTime_of_le htime, Gateway.accepted, htext, haccepted]

theorem go_append {route : List Provider} {results : List (Except Error String)} {mid : σ}
    (hwalk : Walk g r s route results mid) (herror : ∀ result ∈ results, ∃ e, result = .error e) :
    (go g r tried last (route ++ rest) s).result =
      (go g r (tried + route.length) (lastError last results) rest mid).result ∧
    (go g r tried last (route ++ rest) s).asked =
      route.filter g.isRegistered ++
        (go g r (tried + route.length) (lastError last results) rest mid).asked ∧
    (go g r tried last (route ++ rest) s).providers =
      (go g r (tried + route.length) (lastError last results) rest mid).providers := by
  -- The loop carries the number of tries and the last error along, so both are general in the induction.
  induction hwalk generalizing tried last with
  | nil => exact ⟨rfl, rfl, rfl⟩
  | @cons p route s s' mid result results hp hroute ih =>
    rw [List.forall_mem_cons] at herror
    obtain ⟨⟨e, rfl⟩, hresults⟩ := herror
    obtain ⟨hresult, hasked, hproviders⟩ := go_cons_of_error tried last (route ++ rest) hp
    obtain ⟨ihresult, ihasked, ihproviders⟩ := ih (tried + 1) e hresults
    have hlen : tried + (p :: route).length = tried + 1 + route.length := by
      rw [List.length_cons]
      omega
    rw [List.cons_append, hlen, lastError_cons last e results hresults, hresult, hasked, hproviders,
      ihresult, ihasked, ihproviders, ← List.singleton_append (l := route), List.filter_append,
      List.append_assoc]
    exact ⟨rfl, rfl, rfl⟩

end generate

theorem first_accepted (results : List (Except Error String)) :
    (∀ result ∈ results, ∃ e, result = .error e) ∨
      ∃ (i : Nat) (text : String), results[i]? = some (.ok text) ∧
        ∀ result ∈ results.take i, ∃ e, result = .error e := by
  induction results with
  | nil => simp
  | cons result results ih =>
    cases result with
    | ok text => exact .inr ⟨0, text, by simp⟩
    | error e =>
      cases ih with
      | inl h =>
        left
        simpa using h
      | inr h =>
        obtain ⟨i, text, hi, herror⟩ := h
        exact .inr ⟨i + 1, text, by simpa using ⟨hi, herror⟩⟩

/--
The providers to ask for a request: the given ones, or else those for its purpose.
-/
def routeFor (g : Gateway σ) (r : Request) (given : Option (List Provider)) : List Provider :=
  given.getD (g.routes.resolve r.purpose)

variable {given : Option (List Provider)} {results : List (Except Error String)} {final : σ}

theorem generate_of_accepted (hwalk : Walk g r s (g.routeFor r given) results final) {i : Nat} {text : String}
    (hi : results[i]? = some (.ok text)) (herror : ∀ result ∈ results.take i, ∃ e, result = .error e) :
    ∃ p client response,
      (g.routeFor r given)[i]? = some p ∧ g.clients p = some client ∧
      (g.generate r given s).result = .ok response ∧
      response.content = text ∧ response.provider = p.name ∧ response.model = client.model ∧
      response.attempts.toNat = (i + 1) % UInt32.size ∧ (response.usedFallback = true ↔ 0 < i) ∧
      (g.generate r given s).asked = ((g.routeFor r given).take (i + 1)).filter g.isRegistered ∧
      Walk g r s ((g.routeFor r given).take (i + 1)) (results.take (i + 1))
        (g.generate r given s).providers := by
  unfold generate
  rw [show given.getD (g.routes.resolve r.purpose) = g.routeFor r given from rfl]
  generalize g.routeFor r given = route at hwalk ⊢
  obtain ⟨p, mid, s', hp, hbefore, hattempt, hupto⟩ := hwalk.getElem? hi
  obtain ⟨hlt, hget⟩ := List.getElem?_eq_some_iff.mp hp
  have hlen : (route.take i).length = i := by
    rw [List.length_take]
    omega
  obtain ⟨hresult, hasked, hproviders⟩ := generate.go_append 0 (.emptyRoute r.purpose) (route.drop i)
    hbefore herror
  rw [List.take_append_drop, hlen, Nat.zero_add, List.drop_eq_getElem_cons hlt, hget]
    at hresult hasked hproviders
  obtain ⟨client, response, hclient, hok, hcontent, hprovider, hmodel, hattempts, hfallback, hgoasked,
    hgoproviders⟩ := generate.go_cons_of_ok i (lastError (.emptyRoute r.purpose) (results.take i))
      (route.drop (i + 1)) hattempt
  have hregistered : g.isRegistered p = true := by
    simp [isRegistered, hclient]
  refine ⟨p, client, response, hp, hclient, ?_, hcontent, hprovider, hmodel, ?_, ?_, ?_, ?_⟩
  . rw [hresult, hok]
  . rw [hattempts]
    rfl
  . rw [hfallback, decide_eq_true_iff]
  . rw [hasked, hgoasked, List.take_add_one, hp, List.filter_append]
    simp [hregistered]
  . rw [hproviders, hgoproviders]
    exact hupto

theorem generate_of_errors (hwalk : Walk g r s (g.routeFor r given) results final)
    (herror : ∀ result ∈ results, ∃ e, result = .error e) :
    (g.generate r given s).result = .error (lastError (.emptyRoute r.purpose) results) ∧
    (g.generate r given s).asked = (g.routeFor r given).filter g.isRegistered ∧
    (g.generate r given s).providers = final := by
  have h := generate.go_append 0 (.emptyRoute r.purpose) [] hwalk herror
  simpa [generate, generate.go, routeFor] using h

/--
A response is that of the first position of the route whose answer is accepted.
-/
theorem exists_accepted {response : Response} (h : (g.generate r given s).result = .ok response) :
    ∃ results final i p client, Walk g r s (g.routeFor r given) results final ∧
      results[i]? = some (.ok response.content) ∧ (∀ result ∈ results.take i, ∃ e, result = .error e) ∧
      (g.routeFor r given)[i]? = some p ∧ g.clients p = some client ∧
      response.provider = p.name ∧ response.model = client.model ∧
      response.attempts.toNat = (i + 1) % UInt32.size ∧ (response.usedFallback = true ↔ 0 < i) ∧
      (g.generate r given s).asked = ((g.routeFor r given).take (i + 1)).filter g.isRegistered := by
  obtain ⟨results, final, hwalk⟩ := exists_walk g r (g.routeFor r given) s
  cases first_accepted results with
  | inl herror =>
    rw [(generate_of_errors hwalk herror).1] at h
    contradiction
  | inr haccepted =>
    obtain ⟨i, text, hi, herror⟩ := haccepted
    obtain ⟨p, client, response', hp, hclient, hresult, hcontent, hprovider, hmodel, hattempts, hfallback, hasked, -⟩ :=
      generate_of_accepted hwalk hi herror
    rw [h, Except.ok.injEq] at hresult
    rw [← hresult] at hcontent hprovider hmodel hattempts hfallback
    rw [← hcontent] at hi
    exact ⟨results, final, i, p, client, hwalk, hi, herror, hp, hclient, hprovider, hmodel, hattempts, hfallback, hasked⟩

theorem Attempt.ne_emptyRoute (hclients : ∀ p client, g.clients p = some client → client.FailsByItself)
    {e : Error} (h : Attempt g r p s (.error e) s') (purpose : String) : e ≠ .emptyRoute purpose := by
  cases h with
  | failed hp htime he => exact (hclients _ _ hp _ _ _ he).1 purpose
  | _ => simp

theorem lastError_ne_emptyRoute (hclients : ∀ p client, g.clients p = some client → client.FailsByItself)
    {route : List Provider} (hwalk : Walk g r s route results final)
    (herror : ∀ result ∈ results, ∃ e, result = .error e) (hne : route ≠ []) (last : Error)
    (purpose : String) : lastError last results ≠ .emptyRoute purpose := by
  have hresults : results ≠ [] := by
    rw [← List.length_pos_iff, hwalk.length_eq, List.length_pos_iff]
    exact hne
  obtain ⟨result, hlast⟩ := Option.ne_none_iff_exists'.mp (mt List.getLast?_eq_none_iff.mp hresults)
  obtain ⟨e, rfl⟩ := herror result (List.mem_of_getLast? hlast)
  unfold lastError
  rw [hlast]
  rw [List.getLast?_eq_getElem?] at hlast
  obtain ⟨p, mid, s', _, _, hattempt, _⟩ := hwalk.getElem? hlast
  exact hattempt.ne_emptyRoute hclients purpose

theorem exists_ok_iff (hwalk : Walk g r s (g.routeFor r given) results final) :
    (∃ response, (g.generate r given s).result = .ok response) ↔
      ∃ (i : Nat) (text : String), results[i]? = some (.ok text) := by
  constructor
  . rintro ⟨response, hok⟩
    cases first_accepted results with
    | inl herror =>
      rw [(generate_of_errors hwalk herror).1] at hok
      contradiction
    | inr h =>
      obtain ⟨i, text, hi, -⟩ := h
      exact ⟨i, text, hi⟩
  . rintro ⟨i, text, hi⟩
    cases first_accepted results with
    | inl herror =>
      obtain ⟨e, he⟩ := herror _ (List.mem_of_getElem? hi)
      contradiction
    | inr h =>
      obtain ⟨j, text', hj, herror⟩ := h
      obtain ⟨p, client, response, -, -, hok, -⟩ := generate_of_accepted hwalk hj herror
      exact ⟨response, hok⟩

theorem eq_nil_of_emptyRoute (hclients : ∀ p client, g.clients p = some client → client.FailsByItself)
    (hwalk : Walk g r s (g.routeFor r given) results final) {purpose : String}
    (hresult : (g.generate r given s).result = .error (.emptyRoute purpose)) : g.routeFor r given = [] := by
  apply Classical.byContradiction
  intro hne
  cases first_accepted results with
  | inl herror =>
    rw [(generate_of_errors hwalk herror).1, Except.error.injEq] at hresult
    exact lastError_ne_emptyRoute hclients hwalk herror hne _ purpose hresult
  | inr h =>
    obtain ⟨i, text, hi, herror⟩ := h
    obtain ⟨p, client, response, -, -, hok, -⟩ := generate_of_accepted hwalk hi herror
    rw [hok] at hresult
    contradiction

/--
A request is answered by the first position of its route whose answer is accepted. All registered providers up to
that position have been asked once, in the order of the route, and none behind it. If no position has an accepted
answer, all registered providers have been asked and the error is the one of the last position.
-/
theorem generate_walk (g : Gateway σ) (r : Request) (given : Option (List Provider)) (s : σ) :
    ∃ (results : List (Except Error String)) (final : σ),
      Walk g r s (g.routeFor r given) results final ∧
      ((∃ response, (g.generate r given s).result = .ok response) ↔
        ∃ (i : Nat) (text : String), results[i]? = some (.ok text)) ∧
      (∀ (i : Nat) (text : String), results[i]? = some (.ok text) →
        (∀ result ∈ results.take i, ∃ e, result = .error e) →
        ∃ p client response,
          (g.routeFor r given)[i]? = some p ∧ g.clients p = some client ∧
          (g.generate r given s).result = .ok response ∧
          response.content = text ∧ response.provider = p.name ∧ response.model = client.model ∧
          response.attempts.toNat = (i + 1) % UInt32.size ∧ (response.usedFallback = true ↔ 0 < i) ∧
          (g.generate r given s).asked = ((g.routeFor r given).take (i + 1)).filter g.isRegistered ∧
          Walk g r s ((g.routeFor r given).take (i + 1)) (results.take (i + 1))
            (g.generate r given s).providers) ∧
      ((∀ result ∈ results, ∃ e, result = .error e) →
        (∀ e, results.getLast? = some (.error e) → (g.generate r given s).result = .error e) ∧
        (g.generate r given s).asked = (g.routeFor r given).filter g.isRegistered ∧
        (g.generate r given s).providers = final) ∧
      (g.routeFor r given = [] → (g.generate r given s).result = .error (.emptyRoute r.purpose)) ∧
      ((∀ p client, g.clients p = some client → client.FailsByItself) →
        ∀ purpose, (g.generate r given s).result = .error (.emptyRoute purpose) →
          g.routeFor r given = []) := by
  obtain ⟨results, final, hwalk⟩ := exists_walk g r (g.routeFor r given) s
  refine ⟨results, final, hwalk, ?_, ?_, ?_, ?_, ?_⟩
  . exact exists_ok_iff hwalk
  . intro i text hi herror
    exact generate_of_accepted hwalk hi herror
  . intro herror
    obtain ⟨hresult, hasked, hproviders⟩ := generate_of_errors hwalk herror
    refine ⟨?_, hasked, hproviders⟩
    intro e hlast
    rw [hresult, lastError, hlast]
  . intro hroute
    have hnil : results = [] := by
      rw [← List.length_eq_zero_iff, hwalk.length_eq, hroute, List.length_nil]
    rw [(generate_of_errors hwalk (by simp [hnil])).1, hnil]
    rfl
  . intro hclients purpose hresult
    exact eq_nil_of_emptyRoute hclients hwalk hresult

end Gateway
end Llm
end Triage
