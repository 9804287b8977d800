import Triage.Llm.Endpoint
import Triage.Proofs.Llm.Completion

/-!
This module contains what an endpoint makes of a reply. A request is posted once. The status decides whether the body is an
answer at all, and then the first choice in it does, whatever else there is.
-/

namespace Triage
namespace Llm

open Json

/-! What a body means. -/

/--
Whether a completion is the one that the body of a reply gives.
-/
def Completion.InBody (body : String) (c : Completion) : Prop :=
  ∃ v, skim? shape body = some v ∧ c.IsOf v

/--
Whether the body of a reply answers with a text: the first choice has it for its content.
-/
def AnswersWith (body content : String) : Prop :=
  ∃ c choice rest, Completion.InBody body c ∧ c.choices = choice :: rest ∧ choice.content = some content

theorem Completion.read?_eq_some_iff {body : String} {c : Completion} : read? body = some c ↔ c.InBody body := by
  unfold read? InBody
  rw [Option.bind_eq_some_iff]
  simp only [ofJson?_eq_some_iff]

theorem Completion.inBody_iff_of_read? {body : String} {v : Json} (h : Json.read? body = some v) (c : Completion) :
    c.InBody body ↔ c.IsOf v := by
  rw [← read?_eq_some_iff, read?_of_read? h, ofJson?_eq_some_iff]

theorem Completion.firstContent?_eq_some_iff {c : Completion} {content : String} :
    c.firstContent? = some content ↔ ∃ choice rest, c.choices = choice :: rest ∧ choice.content = some content := by
  unfold firstContent?
  cases c.choices with
  | nil => simp
  | cons choice rest => simp

variable {status : UInt16} {body : String}

theorem answersWith_iff {content : String} :
    AnswersWith body content ↔ (Completion.read? body).bind Completion.firstContent? = some content := by
  unfold AnswersWith
  simp only [Option.bind_eq_some_iff, Completion.read?_eq_some_iff, Completion.firstContent?_eq_some_iff]
  constructor
  . rintro ⟨c, choice, rest, hbody, hchoices, hcontent⟩
    exact ⟨c, hbody, choice, rest, hchoices, hcontent⟩
  . rintro ⟨c, hbody, choice, rest, hchoices, hcontent⟩
    exact ⟨c, choice, rest, hbody, hchoices, hcontent⟩

theorem meaning_of_failure (h : ¬ (200 ≤ status ∧ status ≤ 299)) : meaning status body = .error (.api status body) :=
  if_neg h

/--
For a success the body decides: it answers with a text, or it is of no use.
-/
theorem meaning_of_success (body : String) (h : 200 ≤ status ∧ status ≤ 299) :
    (∃ content, AnswersWith body content ∧ meaning status body = .ok content) ∨
      (∀ content, ¬ AnswersWith body content) ∧ ∃ reason, meaning status body = .error (.invalidResponse reason) := by
  simp only [answersWith_iff]
  unfold meaning
  rw [if_pos h]
  cases Completion.read? body with
  | none => exact .inr ⟨nofun, _, rfl⟩
  | some c =>
    dsimp only [Option.bind_some]
    cases c.firstContent? with
    | none => exact .inr ⟨nofun, _, rfl⟩
    | some content => exact .inl ⟨content, rfl, rfl⟩

theorem meaning_eq_ok_iff {content : String} :
    meaning status body = .ok content ↔ (200 ≤ status ∧ status ≤ 299) ∧ AnswersWith body content := by
  by_cases hstatus : 200 ≤ status ∧ status ≤ 299
  . rcases meaning_of_success body hstatus with ⟨text, htext, hok⟩ | ⟨hnone, reason, herror⟩
    . rw [answersWith_iff] at htext ⊢
      rw [hok, htext]
      simp [hstatus]
    . rw [herror]
      simp [hnone]
  . rw [meaning_of_failure hstatus]
    simp [hstatus]

/-! Posts. -/

variable {σ : Type}

/--
Exchanges with a record of all that has been posted, in order.
-/
def recorded (exchange : Post → σ → Exchange × σ) (post : Post) (s : σ × List Post) : Exchange × (σ × List Post) :=
  let (x, s') := exchange post s.1
  (x, (s', s.2 ++ [post]))

def slashes (n : Nat) : String :=
  String.ofList (List.replicate n '/')

theorem dropSlashes_append {base : String} (h : base.toList.getLast? ≠ some '/') (n : Nat) :
    dropSlashes (base ++ slashes n) = base := by
  have hslashes : ∀ c ∈ List.replicate n '/', (c == '/') = true := by
    intro c hc
    rw [List.eq_of_mem_replicate hc]
    rfl
  have hkept : base.toList.reverse.dropWhile (· == '/') = base.toList.reverse := by
    rw [← List.head?_reverse] at h
    cases hreverse : base.toList.reverse with
    | nil => rfl
    | cons c cs =>
      rw [hreverse, List.head?_cons, ne_eq, Option.some.injEq] at h
      rw [List.dropWhile_cons_of_neg (by simpa using h)]
  unfold dropSlashes slashes
  rw [String.toList_append, String.toList_ofList, List.reverse_append, List.reverse_replicate,
    List.dropWhile_append_of_pos hslashes, hkept, List.reverse_reverse, String.ofList_toList]

theorem exists_base (url : String) : ∃ base n, url = base ++ slashes n ∧ base.toList.getLast? ≠ some '/' := by
  refine ⟨dropSlashes url, (url.toList.reverse.takeWhile (· == '/')).length, ?_, ?_⟩
  . have htake : url.toList.reverse.takeWhile (· == '/') =
        List.replicate (url.toList.reverse.takeWhile (· == '/')).length '/' := by
      rw [List.eq_replicate_iff]
      refine ⟨rfl, ?_⟩
      intro c hc
      simpa using List.mem_takeWhile_imp hc
    unfold dropSlashes slashes
    rw [← String.toList_inj, String.toList_append, String.toList_ofList, String.toList_ofList, ← List.reverse_inj,
      List.reverse_append, List.reverse_replicate, List.reverse_reverse, ← htake, List.takeWhile_append_dropWhile]
  . unfold dropSlashes
    rw [String.toList_ofList, List.getLast?_reverse]
    intro hhead
    have hslash := List.head?_dropWhile_not (· == '/') url.toList.reverse
    rw [hhead] at hslash
    contradiction

namespace Endpoint

theorem exists_url (e : Endpoint) : ∃ base n, e.service.baseUrl = base ++ slashes n ∧ base.toList.getLast? ≠ some '/' ∧
    e.url = base ++ "/chat/completions" := by
  obtain ⟨base, n, hurl, hbase⟩ := exists_base e.service.baseUrl
  refine ⟨base, n, hurl, hbase, ?_⟩
  unfold url
  rw [hurl, dropSlashes_append hbase]

theorem ask_of_post {e : Endpoint} {r : Request} {post : Post} (hpost : e.post? r = some post)
    (exchange : Post → σ → Exchange × σ) (s : σ) :
    (e.client exchange).ask r s = (e.reply r (exchange post s).1, (exchange post s).2) := by
  unfold client ask
  dsimp only
  rw [hpost]

theorem outcome_reply {e : Endpoint} {x : Exchange} (hreply : x.reply = some (status, body))
    (hintime : x.delayMs ≤ e.timeoutMs.toNat) (r : Request) : (e.reply r x).outcome = meaning status body := by
  unfold reply
  rw [if_neg (Nat.not_lt.mpr hintime), hreply]

end Endpoint

/--
An endpoint posts a request once, to the address of its server, with the key if there is one. Of a complete reply in time the
status is looked at first: unless it reports a success, the reply is an error with the body, whatever this is. For a success
the first choice in the body is the answer, and a body without an answer is of no use. Neither the other choices nor members
that are no fields matter for that, and what can be read as a whole is taken for what it is.
-/
theorem Endpoint.ask_classifies (e : Endpoint) (exchange : Post → σ → Exchange × σ) (r : Request) (s : σ)
    (hkey : e.service.key.all isSendable = true) :
    let post : Post := ⟨e.url, "application/json", e.service.key.map ("Bearer " ++ ·), r.body e.service.model⟩
    let x := (exchange post s).1
    let asked := (e.client (recorded exchange)).ask r (s, [])
    (∃ base n, e.service.baseUrl = base ++ slashes n ∧ base.toList.getLast? ≠ some '/' ∧
      post.url = base ++ "/chat/completions") ∧
    asked.2 = ((exchange post s).2, [post]) ∧
    (e.client exchange).ask r s = (asked.1, (exchange post s).2) ∧
    (∀ status body, x.reply = some (status, body) → x.delayMs ≤ e.timeoutMs.toNat →
      (¬ (200 ≤ status ∧ status ≤ 299) → asked.1.outcome = .error (.api status body)) ∧
      (∀ content, asked.1.outcome = .ok content ↔ (200 ≤ status ∧ status ≤ 299) ∧ AnswersWith body content) ∧
      (200 ≤ status ∧ status ≤ 299 → (∀ content, ¬ AnswersWith body content) →
        ∃ reason, asked.1.outcome = .error (.invalidResponse reason))) ∧
    (∀ body v, Json.read? body = some v → ∀ c, Completion.InBody body c ↔ c.IsOf v) ∧
    (∀ content, IgnoresUnknown ["content"] (Choice.IsMessage · content)) ∧
    (∀ c, IgnoresUnknown Choice.names (Choice.IsOf · c)) ∧
    (∀ t, IgnoresUnknown TokenCount.names (TokenCount.IsOf · t)) ∧
    (∀ c, IgnoresUnknown Completion.names (Completion.IsOf · c)) := by
  intro post x asked
  have hpost : e.post? r = some post := if_pos hkey
  have hasked : asked = (e.reply r x, ((exchange post s).2, [post])) := ask_of_post hpost (recorded exchange) (s, [])
  rw [hasked]
  refine ⟨exists_url e, rfl, ask_of_post hpost exchange s, ?_, fun _ _ h => Completion.inBody_iff_of_read? h, ?_, ?_, ?_, ?_⟩
  . intro status body hreply hintime
    dsimp only
    rw [outcome_reply hreply hintime]
    refine ⟨meaning_of_failure, fun _ => meaning_eq_ok_iff, ?_⟩
    intro hsuccess hnone
    rcases meaning_of_success body hsuccess with ⟨content, hcontent, -⟩ | ⟨-, hreason⟩
    . exact absurd hcontent (hnone content)
    . exact hreason
  . exact fun content => ignoresUnknown_of_congr fun _ _ h => Choice.isMessage_congr h
  . exact fun c => ignoresUnknown_of_congr fun _ _ h => Choice.isOf_congr h
  . exact fun t => ignoresUnknown_of_congr fun _ _ h => TokenCount.isOf_congr h
  . exact fun c => ignoresUnknown_of_congr fun _ _ h => Completion.isOf_congr h

/--
One body is an answer with the status 200 and an error with the status 404. What it has besides of the answer is no number that
could be read.
-/
theorem Endpoint.ask_classifies_status :
    let e : Endpoint := ⟨.localServer, ⟨some "key", "http://localhost/v1//", "small"⟩, 1000⟩
    let body := "\x7b\"choices\":[\x7b\"message\":\x7b\"content\":\"Yes.\"\x7d\x7d,[\x7b\x7d]],\"cost\":1e400\x7d"
    let exchange (_ : Post) (status : UInt16) : Exchange × UInt16 := (⟨1000, some (status, body)⟩, status)
    let r : Request := ⟨"summary", "Be brief.", "Ticket", 0, false, none, none⟩
    let post : Post := ⟨"http://localhost/v1/chat/completions", "application/json", some "Bearer key", r.body "small"⟩
    ((e.client (recorded exchange)).ask r (200, [])).2.2 = [post] ∧ AnswersWith body "Yes." ∧
    ((e.client exchange).ask r 200).1.outcome = .ok "Yes." ∧
    ((e.client exchange).ask r 404).1.outcome = .error (.api 404 body) := by
  intro e body exchange r post
  obtain ⟨-, hposts, hask, hreply, -⟩ := ask_classifies e exchange r 200 (by decide)
  obtain ⟨-, -, hask', hreply', -⟩ := ask_classifies e exchange r 404 (by decide)
  have hurl : e.url = "http://localhost/v1/chat/completions" := by decide
  have hyes : meaning 200 body = .ok "Yes." := by decide +kernel
  have hanswer : AnswersWith body "Yes." := (meaning_eq_ok_iff.mp hyes).2
  refine ⟨?_, hanswer, ?_, ?_⟩
  . rw [hposts, hurl]
    rfl
  . rw [hask]
    exact ((hreply 200 body rfl (by decide)).2.1 "Yes.").mpr ⟨by decide, hanswer⟩
  . rw [hask']
    exact (hreply' 404 body rfl (by decide)).1 (by decide)

end Llm
end Triage
