import Triage.Json.Fields
import Triage.Text.Blank
import Triage.Text.Case

/-!
This module contains the providers of language models that a request can be sent to.
-/

namespace Triage
namespace Llm

/--
A provider of language models.
-/
inductive Provider where
  | deepseek
  | openai
  /-- A server of one's own. -/
  | localServer
deriving DecidableEq, Inhabited

namespace Provider

def name : Provider → String
  | .deepseek => "deepseek"
  | .openai => "openai"
  | .localServer => "local"

def all : List Provider := [.deepseek, .localServer, .openai]

def ofName? (name : String) : Option Provider :=
  all.find? (·.name == name)

/--
The provider that a text names in any case, blanks around it left aside, or the wording of an error.
-/
def parse (text : String) : Except String Provider :=
  match ofName? (Text.lowercased (Text.trimmed text)) with
  | some provider => .ok provider
  | none => .error s!"Unknown provider: {text}"

def toJson (p : Provider) : Json :=
  .string p.name

def ofJson? (v : Json) : Option Provider :=
  (Json.Decode.name v).bind ofName?

end Provider
end Llm
end Triage
