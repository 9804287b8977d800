import Triage.Prompt.Error
import Triage.Template.Engine
import Triage.Yaml.Fields

/-!
This module contains prompts: the templates for the two messages to a model, the settings of the model that
they were written for, and the names of the schemas for what goes in and what comes out.
-/

namespace Triage
namespace Prompt

/--
The settings of a model that a prompt was written for.
-/
structure ModelDefaults where
  temperature : Single
  maxTokens : UInt32
  jsonMode : Bool
deriving DecidableEq

def ModelDefaults.standard : ModelDefaults :=
  { temperature := Binary.ofRatio false 3 10
    maxTokens := 2000
    jsonMode := true }

/--
A prompt.
-/
structure Spec where
  id : String
  version : String
  description : String
  /-- What the prompt is for. -/
  purpose : String
  systemPrompt : String
  userPromptTemplate : String
  modelDefaults : ModelDefaults
  inputSchema : Option String
  outputSchema : Option String
  knownFailureModes : List (Members String)
  evalChecks : List (Members String)
deriving DecidableEq

namespace Spec

def standardVersion : String := "1.0.0"

/--
A prompt as its file gives it. The fields that no prompt is without may be missing here.
-/
structure Draft where
  id : Option String
  version : String
  description : String
  purpose : String
  systemPrompt : Option String
  userPromptTemplate : Option String
  modelDefaults : ModelDefaults
  inputSchema : Option String
  outputSchema : Option String
  knownFailureModes : List (Members String)
  evalChecks : List (Members String)

def readDefaults? (n : Yaml.Node) : Option ModelDefaults := do
  let fields ← n.record? ["temperature", "max_tokens", "json_mode"]
  let standard := ModelDefaults.standard
  let temperature? (n : Yaml.Node) : Option Single := n.double?.map Binary.convert
  return {
    temperature := ← Yaml.fieldOr fields "temperature" temperature? standard.temperature
    maxTokens := ← Yaml.fieldOr fields "max_tokens" Yaml.Node.uint32? standard.maxTokens
    jsonMode := ← Yaml.fieldOr fields "json_mode" Yaml.Node.bool? standard.jsonMode }

def readNotes? (n : Yaml.Node) : Option (List (Members String)) :=
  n.items?.bind fun items => items.mapM Yaml.Node.texts?

def keys : List String :=
  ["id", "version", "description", "purpose", "system_prompt", "user_prompt_template", "model_defaults",
    "input_schema", "output_schema", "known_failure_modes", "eval_checks"]

open Yaml in
def readDraft? (n : Node) : Option Draft := do
  let fields ← n.record? keys
  return {
    id := ← fieldOr fields "id" Node.optionalText? none
    version := ← fieldOr fields "version" Node.text? standardVersion
    description := ← fieldOr fields "description" Node.text? ""
    purpose := ← fieldOr fields "purpose" Node.text? ""
    systemPrompt := ← fieldOr fields "system_prompt" Node.optionalText? none
    userPromptTemplate := ← fieldOr fields "user_prompt_template" Node.optionalText? none
    modelDefaults := ← fieldOr fields "model_defaults" readDefaults? ModelDefaults.standard
    inputSchema := ← fieldOr fields "input_schema" Node.optionalText? none
    outputSchema := ← fieldOr fields "output_schema" Node.optionalText? none
    knownFailureModes := ← fieldOr fields "known_failure_modes" readNotes? []
    evalChecks := ← fieldOr fields "eval_checks" readNotes? [] }

/--
A draft with all fields that no prompt is without. The first missing one is reported for the prompt `id`.
-/
def ofDraft (id : String) (d : Draft) : Except Error Spec := do
  let given (field : String) (value? : Option String) : Except Error String :=
    match value? with
    | some value => .ok value
    | none => .error (.missingField id field)
  return {
    id := ← given "id" d.id
    version := d.version
    description := d.description
    purpose := d.purpose
    systemPrompt := ← given "system_prompt" d.systemPrompt
    userPromptTemplate := ← given "user_prompt_template" d.userPromptTemplate
    modelDefaults := d.modelDefaults
    inputSchema := d.inputSchema
    outputSchema := d.outputSchema
    knownFailureModes := d.knownFailureModes
    evalChecks := d.evalChecks }

/--
The prompt in the text of the file for `id`.
-/
def ofYaml (id : String) (text : String) : Except Error Spec :=
  match Yaml.Node.read? text with
  | none => .error (.malformed id)
  | some node? =>
    match readDraft? (node?.getD .empty) with
    | none => .error (.malformed id)
    | some draft => ofDraft id draft

/--
The two messages of a prompt.
-/
structure Messages where
  system : String
  user : String
deriving DecidableEq

/--
The messages of a prompt for a context. The system message is made first.
-/
def render (s : Spec) (context : Json) (engine : Template.Engine := .plain) : Except Error Messages := do
  let message (template : String) : Except Error String :=
    match engine.render? template context with
    | some text => .ok text
    | none => .error (.render s.id)
  let system ← message s.systemPrompt
  let user ← message s.userPromptTemplate
  return { system := system, user := user }

end Spec
end Prompt
end Triage
