import Triage.Environment
import Triage.Llm.Settings
import Triage.Store.Location
import Triage.Text.Blank
import Triage.Text.Case

/-!
This module contains the configuration of the program, which is read from variables.
-/

namespace Triage

/--
All that can be configured.
-/
structure Config where
  llm : Llm.Settings
  store : Store.Location
  /-- The least important messages that are logged. -/
  logLevel : String
  /-- Whether messages are logged as JSON. -/
  logJson : Bool
  /-- The limit of time for an exchange with a service. -/
  requestTimeoutMs : UInt64
  promptDirectory : String
  schemaDirectory : String
deriving DecidableEq

namespace Config

/--
Why a configuration is refused.
-/
inductive Error where
  /-- The primary provider has a name that no provider has. -/
  | unknownProvider (reason : String)
  /-- The primary provider is one's own server. -/
  | localPrimary
  /-- The primary provider has no key. -/
  | missingKey (provider : Llm.Provider)
deriving DecidableEq

def Error.message : Error → String
  | unknownProvider reason => "LLM_PROVIDER: " ++ reason
  | localPrimary => "LLM_PROVIDER must be a cloud provider (deepseek or openai)"
  | missingKey provider =>
    String.ofList (Text.upper provider.name.toList) ++ "_API_KEY is required for LLM_PROVIDER="
      ++ provider.name

/--
The texts between commas, without blanks around them and without those that are empty then.
-/
def listed (text : String) : List String :=
  ((text.toList.splitOn ',').map fun entry => String.ofList (Text.trim entry)).filter fun item => !item.isEmpty

def isYes (text : String) : Bool :=
  ["1", "true", "yes"].contains (Text.lowercased text)

/--
One's own server, if it is switched on and has an address and a model.
-/
def localService? (env : Environment) : Option Llm.Service := do
  if !((env.get? "LLM_LOCAL_ENABLED").any isYes) then none
  return {
    key := env.filled? "LLM_LOCAL_API_KEY"
    baseUrl := ← env.filled? "LLM_LOCAL_BASE_URL"
    model := ← env.filled? "LLM_LOCAL_MODEL" }

/--
The primary provider. It is a service on the net.
-/
def primary? (env : Environment) : Except Error Llm.Provider := do
  match ← (Llm.Provider.parse (env.getOr "LLM_PROVIDER" "deepseek")).mapError .unknownProvider with
  | .localServer => throw .localPrimary
  | p => return p

def llmSettings? (env : Environment) : Except Error Llm.Settings := do
  let primary ← primary? env
  let settings : Llm.Settings := {
    primary := primary
    deepseek := {
      key := env.filled? "DEEPSEEK_API_KEY"
      baseUrl := env.getOr "DEEPSEEK_BASE_URL" "https://api.deepseek.com"
      model := env.getOr "DEEPSEEK_MODEL" "deepseek-chat" }
    openai := {
      key := env.filled? "OPENAI_API_KEY"
      baseUrl := env.getOr "OPENAI_BASE_URL" "https://api.openai.com/v1"
      model := env.getOr "OPENAI_MODEL" "gpt-4o-mini" }
    localService := localService? env
    localPurposes := ((env.get? "LLM_LOCAL_PURPOSES").map listed).getD []
    localTimeoutMs := env.uint64? "LLM_LOCAL_TIMEOUT_MS"
    fieldsOnlyTimeoutMs := env.uint64? "LLM_CLOUD_TIMEOUT_MS_FIELDS_ONLY" }
  if (settings.service? primary).isNone then throw (.missingKey primary)
  return settings

def ofEnvironment (env : Environment) : Except Error Config := do
  let llm ← llmSettings? env
  return {
    llm := llm
    store := {
      path := env.getOr "DATABASE_PATH" "./data/analysis.db"
      connections := (env.uint32? "DATABASE_MAX_CONNECTIONS").getD 5 }
    logLevel := env.getOr "LOG_LEVEL" "info"
    logJson := (env.get? "LOG_FORMAT").any fun format => Text.lowercased format == "json"
    requestTimeoutMs := (env.uint64? "REQUEST_TIMEOUT_MS").getD 60000
    promptDirectory := env.getOr "PROMPTS_DIR" "./prompts"
    schemaDirectory := env.getOr "SCHEMAS_DIR" "./schemas" }

def environmentFile : String := ".env"

end Config
end Triage
