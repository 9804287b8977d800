import Triage.Json.Writer
import Triage.Llm.Completion
import Triage.Llm.Gateway

/-!
This module contains the endpoints that completions of a chat are fetched from: the request that is posted to
one, and what its reply means.
-/

namespace Triage
namespace Llm

open Json

/--
A server with its key, if it asks for one, and the model that it is asked for.
-/
structure Service where
  key : Option String
  baseUrl : String
  model : String
deriving DecidableEq

/--
What is posted to a server.
-/
structure Post where
  url : String
  contentType : String
  authorization : Option String
  body : String
deriving DecidableEq

/--
What became of a post after how many milliseconds: a status and a body, or nothing if no complete reply came
back.
-/
structure Exchange where
  delayMs : Nat
  reply : Option (UInt16 × String)

/--
A service under the name of a provider, with the limit of time for an exchange.
-/
structure Endpoint where
  provider : Provider
  service : Service
  timeoutMs : UInt64
deriving DecidableEq

def dropSlashes (url : String) : String :=
  String.ofList (url.toList.reverse.dropWhile (· == '/')).reverse

def chatMessage (role content : String) : Json :=
  .object [("role", .string role), ("content", .string content)]

def memberChars (key : String) (value : List Char) : List Char :=
  stringChars key ++ ':' :: value

def Request.bodyMembers (model : String) (r : Request) : List (List Char) :=
  let given (key : String) : Option Json → List (List Char)
    | some v => [memberChars key v.compactChars]
    | none => []
  [memberChars "model" (stringChars model),
    memberChars "messages"
      (compactChars (.array [chatMessage "system" r.system, chatMessage "user" r.user])),
    memberChars "temperature" (Number.singleLayout.render r.temperature)]
  ++ given "max_tokens" (r.maxTokens.map ofUInt32)
  ++ given "response_format" (if r.jsonMode then some (.object [("type", .string "json_object")]) else none)
  ++ [memberChars "stream" (boolChars false)]

def Request.body (model : String) (r : Request) : String :=
  String.ofList ('{' :: (List.intercalate [','] (r.bodyMembers model) ++ ['}']))

/--
Whether a key can be sent: control characters but for the tabulator cannot.
-/
def isSendable (key : String) : Bool :=
  key.toList.all fun c => c = '\t' || (decide (c.toNat ≥ 0x20) && c != '\x7f')

def meaning (status : UInt16) (body : String) : Except Error String :=
  if 200 ≤ status ∧ status ≤ 299 then
    match Completion.read? body with
    | none => .error (.invalidResponse .malformedBody)
    | some completion =>
      match completion.firstContent? with
      | some text => .ok text
      | none => .error (.invalidResponse .noContent)
  else
    .error (.api status body)

namespace Endpoint

variable {σ : Type}

def url (e : Endpoint) : String :=
  dropSlashes e.service.baseUrl ++ "/chat/completions"

/--
The post for a request, if its key can be sent.
-/
def post? (e : Endpoint) (r : Request) : Option Post :=
  if e.service.key.all isSendable then
    some {
      url := e.url
      contentType := "application/json"
      authorization := e.service.key.map ("Bearer " ++ ·)
      body := r.body e.service.model }
  else
    none

def reply (e : Endpoint) (r : Request) (x : Exchange) : Reply :=
  if e.timeoutMs.toNat < x.delayMs then
    ⟨e.timeoutMs.toNat, .error (.timeout e.provider.name r.purpose e.timeoutMs)⟩
  else
    match x.reply with
    | some (status, body) => ⟨x.delayMs, meaning status body⟩
    | none => ⟨x.delayMs, .error .transport⟩

def ask (e : Endpoint) (exchange : Post → σ → Exchange × σ) (r : Request) (s : σ) : Reply × σ :=
  match e.post? r with
  | none => (⟨0, .error .transport⟩, s)
  | some post =>
    let (x, s) := exchange post s
    (e.reply r x, s)

def client (e : Endpoint) (exchange : Post → σ → Exchange × σ) : Client σ :=
  { model := e.service.model, ask := e.ask exchange }

end Endpoint
end Llm
end Triage
