import Triage.Llm.Endpoint

/-!
This module contains the settings for language models, and the gateway that they make.
-/

namespace Triage
namespace Llm

/--
The services that can be asked, and which of them are asked for what.
-/
structure Settings where
  /-- The provider that every route ends with. -/
  primary : Provider
  deepseek : Service
  openai : Service
  /-- A server of one's own, if there is one. -/
  localService : Option Service
  /-- The purposes for which one's own server is asked first. -/
  localPurposes : List String
  localTimeoutMs : Option UInt64
  fieldsOnlyTimeoutMs : Option UInt64
deriving DecidableEq

namespace Settings

variable {σ : Type}

/--
The service that is asked under the name of a provider. A service on the net has to have a key.
-/
def service? (s : Settings) : Provider → Option Service
  | .deepseek => if s.deepseek.key.isSome then some s.deepseek else none
  | .openai => if s.openai.key.isSome then some s.openai else none
  | .localServer => s.localService

/--
The routes: to the primary provider, and for some purposes to one's own server first.
-/
def routes (s : Settings) : Routes :=
  let purposes := if s.localService.isSome then s.localPurposes else []
  purposes.foldl (fun routes purpose => routes.insert purpose [.localServer, s.primary])
    (.ofStandard [s.primary])

/--
The gateway to the services. `exchange` carries a post of an endpoint to its server and brings back the reply,
and `timeoutMs` is the limit of time for that.
-/
def gateway (s : Settings) (timeoutMs : UInt64) (exchange : Provider → Post → σ → Exchange × σ) :
    Gateway σ :=
  { clients := fun p => (s.service? p).map fun service =>
      Endpoint.client { provider := p, service := service, timeoutMs := timeoutMs } (exchange p)
    routes := s.routes
    localTimeoutMs := s.localTimeoutMs
    fieldsOnlyTimeoutMs := s.fieldsOnlyTimeoutMs }

end Settings
end Llm
end Triage
