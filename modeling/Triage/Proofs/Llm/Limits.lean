import Triage.Proofs.Llm.Fallback

/-!
This module contains limits of time. The limit of a request goes before those of the gateway, a reply that misses the limit is
a timeout, and every other reply counts as it is. So a limit of the gateway matters only to the attempts that it is for.
-/

namespace Triage
namespace Llm

/--
Whether a reply does not come within a limit of time.
-/
def Reply.Misses (reply : Reply) (limit : UInt64) : Prop :=
  reply = .never ∨ limit.toNat < reply.delayMs

theorem Reply.misses_iff {reply : Reply} {limit : UInt64} : reply.Misses limit ↔ limit.toNat < reply.delayMs := by
  unfold Misses
  rw [or_iff_right_iff_imp]
  rintro rfl
  exact limit.toNat_lt_size

/--
What the outcome of a reply counts for: it stays what it is, but a text has to be what the request asks for.
-/
inductive Request.Counts (r : Request) : Except Error String → Except Error String → Prop where
  | failed (e : Error) : Counts r (.error e) (.error e)
  | refused {text : String} (h : ¬ r.Accepts text) : Counts r (.ok text) (.error (.invalidResponse .notAnObject))
  | accepted {text : String} (h : r.Accepts text) : Counts r (.ok text) (.ok text)

theorem Request.Counts.eq_timeout {r : Request} {outcome : Except Error String} {provider purpose : String}
    {limit : UInt64} (h : r.Counts outcome (.error (.timeout provider purpose limit))) :
    outcome = .error (.timeout provider purpose limit) := by
  cases h with
  | failed => rfl

namespace Gateway

variable {σ : Type} {g g' : Gateway σ} {r : Request} {p : Provider} {s s' : σ} {result : Except Error String}

/--
The limit of time for asking a provider.
-/
inductive Limit (g : Gateway σ) (r : Request) (p : Provider) : UInt64 → Prop where
  | ofRequest {limit : UInt64} (h : r.timeoutMs = some limit) : Limit g r p limit
  | ofLocal {limit : UInt64} (hr : r.timeoutMs = none) (hp : p = .localServer)
      (h : g.localTimeoutMs = some limit) : Limit g r p limit
  | ofFieldsOnly {limit : UInt64} (hr : r.timeoutMs = none) (hp : p ≠ .localServer)
      (hpurpose : r.purpose = "propose_fields_only") (h : g.fieldsOnlyTimeoutMs = some limit) : Limit g r p limit

/--
What comes of asking a provider, by its reply: a timeout if there is a limit and the reply misses it.
-/
structure Timed (g : Gateway σ) (r : Request) (p : Provider) (reply : Reply) (result : Except Error String) : Prop where
  late : ∀ limit, g.Limit r p limit → reply.Misses limit → result = .error (.timeout p.name r.purpose limit)
  inTime : (∀ limit, g.Limit r p limit → ¬ reply.Misses limit) → r.Counts reply.outcome result
  /-- Unless the provider itself reports it, this timeout has no other reason. -/
  only : ∀ limit, reply.outcome ≠ .error (.timeout p.name r.purpose limit) →
    result = .error (.timeout p.name r.purpose limit) → g.Limit r p limit ∧ reply.Misses limit

theorem timeout?_eq_some_iff {limit : UInt64} : g.timeout? p r = some limit ↔ g.Limit r p limit := by
  unfold timeout?
  constructor
  . intro h
    cases hr : r.timeoutMs with
    | some own =>
      rw [hr] at h
      exact .ofRequest (hr.trans h)
    | none =>
      rw [hr] at h
      cases p with
      | localServer => exact .ofLocal hr rfl h
      | _ =>
        dsimp only at h
        split at h
        . next hpurpose => exact .ofFieldsOnly hr (by simp) hpurpose h
        . contradiction
  . intro h
    cases h with
    | ofRequest h => rw [h]
    | ofLocal hr hp h =>
      subst hp
      rw [hr]
      exact h
    | ofFieldsOnly hr hp hpurpose h =>
      rw [hr]
      cases p with
      | localServer => contradiction
      | _ =>
        rw [h]
        exact if_pos hpurpose

theorem Limit.unique {limit limit' : UInt64} (h : g.Limit r p limit) (h' : g.Limit r p limit') : limit = limit' := by
  rw [← timeout?_eq_some_iff] at h h'
  exact Option.some.inj (h.symm.trans h')

theorem timed_of_late {reply : Reply} {limit : UInt64} (hlimit : g.Limit r p limit) (hlate : reply.Misses limit) :
    g.Timed r p reply (.error (.timeout p.name r.purpose limit)) := by
  constructor
  . intro limit' hlimit' _
    rw [hlimit.unique hlimit']
  . intro hintime
    exact absurd hlate (hintime limit hlimit)
  . intro limit' _ heq
    obtain rfl : limit = limit' := by
      simpa using heq
    exact ⟨hlimit, hlate⟩

theorem timed_of_counts {reply : Reply} (hintime : ∀ limit, g.Limit r p limit → ¬ reply.Misses limit)
    (h : r.Counts reply.outcome result) : g.Timed r p reply result := by
  constructor
  . intro limit hlimit hlate
    exact absurd hlate (hintime limit hlimit)
  . intro _
    exact h
  . rintro limit hown rfl
    exact absurd h.eq_timeout hown

/--
An attempt at a registered provider goes by its reply and the limit.
-/
theorem Attempt.timed {client : Client σ} (hp : g.clients p = some client) (h : Attempt g r p s result s') :
    g.Timed r p (client.ask r s).1 result := by
  have hsame {client' : Client σ} (hp' : g.clients p = some client') : client' = client := by
    rw [hp] at hp'
    exact (Option.some.inj hp').symm
  have hintime {client' : Client σ}
      (htime : ∀ limit, g.timeout? p r = some limit → (client'.ask r s).1.delayMs ≤ limit.toNat) (limit : UInt64)
      (hlimit : g.Limit r p limit) : ¬ (client'.ask r s).1.Misses limit := by
    rw [Reply.misses_iff]
    exact Nat.not_lt.mpr (htime limit (timeout?_eq_some_iff.mpr hlimit))
  cases h with
  | unregistered hnone =>
    rw [hp] at hnone
    contradiction
  | late hp' hlimit hlate =>
    obtain rfl := hsame hp'
    exact timed_of_late (timeout?_eq_some_iff.mp hlimit) (Reply.misses_iff.mpr hlate)
  | failed hp' htime he =>
    obtain rfl := hsame hp'
    apply timed_of_counts (hintime htime)
    rw [he]
    exact .failed _
  | refused hp' htime htext hrefused =>
    obtain rfl := hsame hp'
    apply timed_of_counts (hintime htime)
    rw [htext]
    exact .refused hrefused
  | accepted hp' htime htext haccepted =>
    obtain rfl := hsame hp'
    apply timed_of_counts (hintime htime)
    rw [htext]
    exact .accepted haccepted

/-! Gateways with other limits. -/

/--
The same gateway with other limits for requests without one of their own.
-/
def withLimits (g : Gateway σ) (localTimeoutMs fieldsOnlyTimeoutMs : Option UInt64) : Gateway σ :=
  { g with localTimeoutMs := localTimeoutMs, fieldsOnlyTimeoutMs := fieldsOnlyTimeoutMs }

/--
Whether it matters to an attempt at a provider that the gateway has other limits.
-/
inductive Matters (g : Gateway σ) (r : Request) (localTimeoutMs fieldsOnlyTimeoutMs : Option UInt64) :
    Provider → Prop where
  | ofLocal (hr : r.timeoutMs = none) (h : localTimeoutMs ≠ g.localTimeoutMs) :
      Matters g r localTimeoutMs fieldsOnlyTimeoutMs .localServer
  | ofFieldsOnly {p : Provider} (hr : r.timeoutMs = none) (hp : p ≠ .localServer)
      (hpurpose : r.purpose = "propose_fields_only") (h : fieldsOnlyTimeoutMs ≠ g.fieldsOnlyTimeoutMs) :
      Matters g r localTimeoutMs fieldsOnlyTimeoutMs p

variable {localTimeoutMs fieldsOnlyTimeoutMs : Option UInt64}

theorem timeout?_withLimits (h : ¬ g.Matters r localTimeoutMs fieldsOnlyTimeoutMs p) :
    (g.withLimits localTimeoutMs fieldsOnlyTimeoutMs).timeout? p r = g.timeout? p r := by
  unfold timeout? withLimits
  cases hr : r.timeoutMs with
  | some limit => rfl
  | none =>
    have hcloud (hp : p ≠ .localServer) (hpurpose : r.purpose = fieldsOnly) :
        fieldsOnlyTimeoutMs = g.fieldsOnlyTimeoutMs :=
      Classical.byContradiction fun hne => h (.ofFieldsOnly hr hp hpurpose hne)
    cases p with
    | localServer => exact Classical.byContradiction fun hne => h (.ofLocal hr hne)
    | deepseek | openai =>
      dsimp only
      split
      . next hpurpose => exact hcloud (by simp) hpurpose
      . rfl

theorem Attempt.withLimits (htimeout : (g.withLimits localTimeoutMs fieldsOnlyTimeoutMs).timeout? p r = g.timeout? p r)
    (h : Attempt g r p s result s') : Attempt (g.withLimits localTimeoutMs fieldsOnlyTimeoutMs) r p s result s' := by
  cases h with
  | unregistered hp => exact .unregistered hp
  | late hp hlimit hlate => exact .late hp (htimeout.trans hlimit) hlate
  | failed hp htime he => exact .failed hp (fun limit hlimit => htime limit (htimeout.symm.trans hlimit)) he
  | refused hp htime htext hrefused =>
    exact .refused hp (fun limit hlimit => htime limit (htimeout.symm.trans hlimit)) htext hrefused
  | accepted hp htime htext haccepted =>
    exact .accepted hp (fun limit hlimit => htime limit (htimeout.symm.trans hlimit)) htext haccepted

/--
An attempt leaves behind the state in which a registered provider has been asked, whatever comes of it.
-/
theorem Attempt.state_eq (h : Attempt g r p s result s') :
    s' = ((g.clients p).map fun client => (client.ask r s).2).getD s := by
  cases h with
  | unregistered hp => rw [hp]; rfl
  | late hp | failed hp | refused hp | accepted hp => rw [hp]; rfl

theorem Attempt.exists_withLimits (h : Attempt g r p s result s') (localTimeoutMs fieldsOnlyTimeoutMs : Option UInt64) :
    ∃ result', Attempt (g.withLimits localTimeoutMs fieldsOnlyTimeoutMs) r p s result' s' ∧
      (result ≠ result' → g.isRegistered p = true ∧ g.Matters r localTimeoutMs fieldsOnlyTimeoutMs p) := by
  by_cases hmatters : g.isRegistered p = true ∧ g.Matters r localTimeoutMs fieldsOnlyTimeoutMs p
  . obtain ⟨result', s'', h'⟩ := exists_attempt (g.withLimits localTimeoutMs fieldsOnlyTimeoutMs) r p s
    obtain rfl : s'' = s' := h'.state_eq.trans h.state_eq.symm
    exact ⟨result', h', fun _ => hmatters⟩
  . refine ⟨result, ?_, fun hne => absurd rfl hne⟩
    cases hp : g.clients p with
    | none =>
      cases h with
      | unregistered => exact .unregistered hp
      | late hp' | failed hp' | refused hp' | accepted hp' =>
        rw [hp] at hp'
        contradiction
    | some client =>
      have hregistered : g.isRegistered p = true := by
        simp [isRegistered, hp]
      exact h.withLimits (timeout?_withLimits fun h => hmatters ⟨hregistered, h⟩)

/--
Along a route the providers get into the same states whatever the limits are, so that only the results can differ.
-/
theorem Walk.exists_withLimits {route : List Provider} {results : List (Except Error String)} {final : σ}
    (h : Walk g r s route results final) (localTimeoutMs fieldsOnlyTimeoutMs : Option UInt64) :
    ∃ results', Walk (g.withLimits localTimeoutMs fieldsOnlyTimeoutMs) r s route results' final ∧
      ∀ i : Nat, results[i]? ≠ results'[i]? → ∃ p, route[i]? = some p ∧ g.isRegistered p = true ∧
        g.Matters r localTimeoutMs fieldsOnlyTimeoutMs p := by
  induction h with
  | nil s => exact ⟨[], .nil s, fun i hi => absurd rfl hi⟩
  | @cons p rest s s' final result results hp hrest ih =>
    obtain ⟨result', hp', hresult⟩ := hp.exists_withLimits localTimeoutMs fieldsOnlyTimeoutMs
    obtain ⟨results', hrest', hresults⟩ := ih
    refine ⟨result' :: results', .cons hp' hrest', ?_⟩
    intro i hi
    cases i with
    | zero =>
      rw [List.getElem?_cons_zero, List.getElem?_cons_zero] at hi
      exact ⟨p, rfl, hresult fun heq => hi (congrArg some heq)⟩
    | succ i =>
      rw [List.getElem?_cons_succ, List.getElem?_cons_succ] at hi
      exact hresults i hi

theorem generate.go_withLimits {route : List Provider}
    (h : ∀ p ∈ route, g.isRegistered p = true → ¬ g.Matters r localTimeoutMs fieldsOnlyTimeoutMs p) (tried : Nat)
    (last : Error) (s : σ) :
    go (g.withLimits localTimeoutMs fieldsOnlyTimeoutMs) r tried last route s = go g r tried last route s := by
  have hclients : (g.withLimits localTimeoutMs fieldsOnlyTimeoutMs).clients = g.clients := rfl
  induction route generalizing tried last s with
  | nil => rfl
  | cons p rest ih =>
    rw [List.forall_mem_cons] at h
    obtain ⟨hp, hrest⟩ := h
    unfold go
    rw [hclients]
    cases hclient : g.clients p with
    | none => exact ih hrest _ _ _
    | some client =>
      have hregistered : g.isRegistered p = true := by
        simp [isRegistered, hclient]
      dsimp only
      rw [timeout?_withLimits (hp hregistered)]
      cases Gateway.accepted r (inTime p r (g.timeout? p r) (client.ask r s).1) with
      | ok text => rfl
      | error e =>
        dsimp only
        rw [ih hrest]

variable {given : Option (List Provider)}

theorem generate_withLimits
    (h : ∀ p ∈ g.routeFor r given, g.isRegistered p = true → ¬ g.Matters r localTimeoutMs fieldsOnlyTimeoutMs p)
    (s : σ) : (g.withLimits localTimeoutMs fieldsOnlyTimeoutMs).generate r given s = g.generate r given s :=
  generate.go_withLimits h 0 (.emptyRoute r.purpose) s

theorem Matters.timeoutMs_eq_none (h : g.Matters r localTimeoutMs fieldsOnlyTimeoutMs p) : r.timeoutMs = none := by
  cases h with
  | ofLocal hr => exact hr
  | ofFieldsOnly hr => exact hr

/-! What a request shows of the attempts. -/

/--
What the results of the positions of a route make of a request: the first accepted text is the answer, with all registered
providers up to there asked, or else the last error is what comes of it, with all of them asked.
-/
structure Shown (g : Gateway σ) (r : Request) (route : List Provider) (results : List (Except Error String))
    (outcome : Outcome σ) : Prop where
  answered : ∀ (i : Nat) (text : String), results[i]? = some (.ok text) →
    (∀ result ∈ results.take i, ∃ e, result = .error e) →
    ∃ response, outcome.result = .ok response ∧ response.content = text ∧
      outcome.asked = (route.take (i + 1)).filter g.isRegistered
  exhausted : (∀ result ∈ results, ∃ e, result = .error e) →
    outcome.result = .error (lastError (.emptyRoute r.purpose) results) ∧ outcome.asked = route.filter g.isRegistered

theorem shown_generate {results : List (Except Error String)} {final : σ}
    (h : Walk g r s (g.routeFor r given) results final) :
    g.Shown r (g.routeFor r given) results (g.generate r given s) := by
  constructor
  . intro i text hi herror
    obtain ⟨p, client, response, -, -, hresult, hcontent, -, -, -, -, hasked, -⟩ := generate_of_accepted h hi herror
    exact ⟨response, hresult, hcontent, hasked⟩
  . intro herror
    obtain ⟨hresult, hasked, -⟩ := generate_of_errors h herror
    exact ⟨hresult, hasked⟩

theorem Walk.exists_timed {route : List Provider} {results : List (Except Error String)} {final : σ}
    (h : Walk g r s route results final) {i : Nat} {client : Client σ} (hi : route[i]? = some p)
    (hp : g.clients p = some client) :
    ∃ mid result, Walk g r s (route.take i) (results.take i) mid ∧ results[i]? = some result ∧
      g.Timed r p (client.ask r mid).1 result := by
  obtain ⟨hlt, -⟩ := List.getElem?_eq_some_iff.mp hi
  rw [← h.length_eq] at hlt
  have hresult : results[i]? = some results[i] := List.getElem?_eq_getElem hlt
  obtain ⟨q, mid, s', hq, hbefore, hattempt, -⟩ := h.getElem? hresult
  obtain rfl : q = p := by
    rw [hi] at hq
    exact (Option.some.inj hq).symm
  exact ⟨mid, results[i], hbefore, hresult, hattempt.timed hp⟩

/--
Limits of time decide as follows about what comes of a request. An attempt at a registered provider is a timeout if there is a
limit and the reply misses it, and else it goes by the reply; the limit is that of the request, or else the one of the
gateway that is for this provider and purpose. Other limits of the gateway change nothing for requests with a limit of
their own, and else only what comes of the attempts that they are for.
-/
theorem generate_of_limits (g : Gateway σ) (r : Request) (given : Option (List Provider)) (s : σ) :
    ∃ (results : List (Except Error String)) (final : σ),
      Walk g r s (g.routeFor r given) results final ∧
      g.Shown r (g.routeFor r given) results (g.generate r given s) ∧
      (∀ (i : Nat) (p : Provider) (client : Client σ),
        (g.routeFor r given)[i]? = some p → g.clients p = some client →
        ∃ mid result, Walk g r s ((g.routeFor r given).take i) (results.take i) mid ∧ results[i]? = some result ∧
          g.Timed r p (client.ask r mid).1 result) ∧
      ∀ localTimeoutMs fieldsOnlyTimeoutMs : Option UInt64,
        let g' := g.withLimits localTimeoutMs fieldsOnlyTimeoutMs
        (r.timeoutMs ≠ none → g'.generate r given s = g.generate r given s) ∧
        ((∀ p ∈ g.routeFor r given, g.isRegistered p = true → ¬ g.Matters r localTimeoutMs fieldsOnlyTimeoutMs p) →
          g'.generate r given s = g.generate r given s) ∧
        ∃ results', Walk g' r s (g.routeFor r given) results' final ∧
          g'.Shown r (g.routeFor r given) results' (g'.generate r given s) ∧
          ∀ i : Nat, results[i]? ≠ results'[i]? → ∃ p, (g.routeFor r given)[i]? = some p ∧ g.isRegistered p = true ∧
            g.Matters r localTimeoutMs fieldsOnlyTimeoutMs p := by
  obtain ⟨results, final, hwalk⟩ := exists_walk g r (g.routeFor r given) s
  refine ⟨results, final, hwalk, shown_generate hwalk, fun i p client => hwalk.exists_timed, ?_⟩
  intro localTimeoutMs fieldsOnlyTimeoutMs g'
  refine ⟨?_, fun h => generate_withLimits h s, ?_⟩
  . intro hr
    apply generate_withLimits
    intro p _ _ hmatters
    exact hr hmatters.timeoutMs_eq_none
  . obtain ⟨results', hwalk', hresults⟩ := hwalk.exists_withLimits localTimeoutMs fieldsOnlyTimeoutMs
    exact ⟨results', hwalk', shown_generate hwalk', hresults⟩

/--
One's own server takes two seconds here. It answers in time under a limit of just that, and the limit for other providers
does not matter to a request with another purpose.
-/
theorem generate_of_limits_local :
    let slow : Client Unit := ⟨"small", fun _ s => (⟨2000, .ok "slow"⟩, s)⟩
    let fast : Client Unit := ⟨"chat", fun _ s => (⟨10, .ok "fast"⟩, s)⟩
    let g : Gateway Unit := (((ofRoutes (.ofStandard [.localServer, .deepseek])).register .localServer slow).register
      .deepseek fast).withLimits (some 1999) none
    let r : Request := ⟨"analyze", "s", "u", 0, false, none, none⟩
    (g.generate r none ()).asked = [.localServer, .deepseek] ∧
    ((g.withLimits (some 2000) none).generate r none ()).asked = [.localServer] ∧
    (∀ p ∈ g.routeFor r none, g.isRegistered p = true → ¬ g.Matters r (some 1999) (some 0) p) ∧
    (g.withLimits (some 1999) (some 0)).generate r none () = g.generate r none () := by
  intro slow fast g r
  have hmatters : ∀ p ∈ g.routeFor r none, g.isRegistered p = true → ¬ g.Matters r (some 1999) (some 0) p := by
    intro p _ _ h
    cases h with
    | ofLocal _ hne => exact hne rfl
    | ofFieldsOnly _ _ hpurpose => exact absurd hpurpose (by decide)
  obtain ⟨results, final, -, -, -, hlimits⟩ := generate_of_limits g r none ()
  exact ⟨by decide, by decide, hmatters, (hlimits (some 1999) (some 0)).2.1 hmatters⟩

end Gateway
end Llm
end Triage
