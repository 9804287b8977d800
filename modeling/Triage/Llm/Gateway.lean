import Triage.Json.Reader
import Triage.Llm.Error
import Triage.Llm.Request

/-!
This module contains the gateway to the providers of language models. It asks the providers of a route one
after the other until the answer of one of them is accepted.
-/

namespace Triage
namespace Llm

/--
The providers to ask, in their order: those for the purpose of a request, or else the standard ones.
-/
structure Routes where
  standard : List Provider
  byPurpose : Members (List Provider)

namespace Routes

def ofStandard (standard : List Provider) : Routes := ⟨standard, []⟩

/--
The routes with one for a purpose. It replaces an older one for the same purpose.
-/
def insert (r : Routes) (purpose : String) (route : List Provider) : Routes :=
  { r with byPurpose := r.byPurpose.insert purpose route }

def resolve (r : Routes) (purpose : String) : List Provider :=
  (r.byPurpose.get? purpose).getD r.standard

end Routes

/--
What comes back from a provider, and after how many milliseconds.
-/
structure Reply where
  delayMs : Nat
  outcome : Except Error String

/--
A reply that is later than all limits of time that a request can have.
-/
def Reply.never : Reply := ⟨UInt64.size, .error .transport⟩

/--
A provider that can be asked. `σ` is the state of all providers together.
-/
structure Client (σ : Type) where
  model : String
  ask : Request → σ → Reply × σ

/--
The providers that are registered, the routes to them, and the limits of time for requests without one of
their own.
-/
structure Gateway (σ : Type) where
  clients : Provider → Option (Client σ)
  routes : Routes
  /-- The limit for one's own server. -/
  localTimeoutMs : Option UInt64
  /-- The limit for all others, for requests with the purpose `Gateway.fieldsOnly`. -/
  fieldsOnlyTimeoutMs : Option UInt64

/--
What came of a request: the answer or the last error, the providers that were asked, the time it took, and
the state of the providers afterwards.
-/
structure Outcome (σ : Type) where
  result : Except Error Response
  asked : List Provider
  spentMs : Nat
  providers : σ

namespace Gateway

variable {σ : Type}

def fieldsOnly : String := "propose_fields_only"

def ofRoutes (routes : Routes) : Gateway σ :=
  { clients := fun _ => none
    routes := routes
    localTimeoutMs := none
    fieldsOnlyTimeoutMs := none }

def register (g : Gateway σ) (p : Provider) (client : Client σ) : Gateway σ :=
  { g with clients := fun q => if q = p then some client else g.clients q }

def registered (g : Gateway σ) : List Provider :=
  Provider.all.filter fun p => (g.clients p).isSome

def timeout? (g : Gateway σ) (p : Provider) (r : Request) : Option UInt64 :=
  match r.timeoutMs with
  | some limit => some limit
  | none =>
    match p with
    | .localServer => g.localTimeoutMs
    | .deepseek | .openai => if r.purpose = fieldsOnly then g.fieldsOnlyTimeoutMs else none

/--
A reply under a limit of time. One that comes too late is an error when the limit has passed.
-/
def inTime (p : Provider) (r : Request) (limit : Option UInt64) (reply : Reply) : Reply :=
  match limit with
  | some limit =>
    if reply.delayMs ≤ limit.toNat then reply
    else ⟨limit.toNat, .error (.timeout p.name r.purpose limit)⟩
  | none => reply

/--
Whether a text is what was asked for: in JSON mode an object, else anything.
-/
def isAcceptable (r : Request) (text : String) : Bool :=
  !r.jsonMode || ((Json.parse? text).bind Json.members?).isSome

/--
The text of a reply if it is what was asked for.
-/
def accepted (r : Request) (reply : Reply) : Except Error String :=
  match reply.outcome with
  | .ok text => if isAcceptable r text then .ok text else .error (.invalidResponse .notAnObject)
  | .error e => .error e

def generate (g : Gateway σ) (r : Request) (route : Option (List Provider)) (s : σ) : Outcome σ :=
  go 0 (.emptyRoute r.purpose) (route.getD (g.routes.resolve r.purpose)) s
where
  /--
  Ask the rest of the providers, when `tried` ones have been tried and `last` is the error of the last one.
  -/
  go (tried : Nat) (last : Error) : List Provider → σ → Outcome σ
    | [], s => { result := .error last, asked := [], spentMs := 0, providers := s }
    | p :: rest, s =>
      match g.clients p with
      | none => go (tried + 1) (.unknownProvider p.name) rest s
      | some client =>
        let (reply, s) := client.ask r s
        let reply := inTime p r (g.timeout? p r) reply
        match accepted r reply with
        | .ok text =>
          { result := .ok {
              content := text
              provider := p.name
              model := client.model
              latencyMs := reply.delayMs.toUInt64
              attempts := (tried + 1).toUInt32
              usedFallback := decide (0 < tried) }
            asked := [p]
            spentMs := reply.delayMs
            providers := s }
        | .error e =>
          let outcome := go (tried + 1) e rest s
          { outcome with asked := p :: outcome.asked, spentMs := reply.delayMs + outcome.spentMs }

end Gateway
end Llm
end Triage
