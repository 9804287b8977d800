import Triage.Analysis
import Triage.Json.Writer
import Triage.Timestamp

/-!
This module contains what is kept of an analysis: the run, which is there from its start on, and the record
of what a successful run has found.
-/

namespace Triage

/--
How far a run has come.
-/
inductive RunStatus where
  | running
  | completed
  | failed
deriving DecidableEq, Inhabited

namespace RunStatus

def name : RunStatus → String
  | .running => "running"
  | .completed => "completed"
  | .failed => "failed"

/--
Whether a run with this status never changes again.
-/
def isTerminal : RunStatus → Bool
  | .running => false
  | .completed | .failed => true

def all : List RunStatus := [.running, .completed, .failed]

def ofName? (name : String) : Option RunStatus :=
  all.find? (·.name == name)

/--
The status that a text names in any case, or the wording of an error.
-/
def parse (text : String) : Except String RunStatus :=
  match ofName? (Text.lowercased text) with
  | some status => .ok status
  | none => .error s!"Unknown run status: {text}"

end RunStatus

/--
A run of the analysis of a ticket. `info` describes how the run went.
-/
structure Run where
  id : String
  tenant : String
  ticket : String
  status : RunStatus
  gate : Option Gate
  info : Json
  error : Option String
  createdAt : Timestamp
  completedAt : Option Timestamp
deriving DecidableEq

namespace Run

def start (id tenant ticket : String) (now : Timestamp) : Run :=
  { id := id
    tenant := tenant
    ticket := ticket
    status := .running
    gate := none
    info := .object []
    error := none
    createdAt := now
    completedAt := none }

def complete (r : Run) (gate : Gate) (info : Json) (now : Timestamp) : Run :=
  { r with status := .completed, gate := some gate, info := info, completedAt := some now }

def fail (r : Run) (error : String) (info : Json) (now : Timestamp) : Run :=
  { r with
    status := .failed
    gate := some .teach
    info := info
    error := some error
    completedAt := some now }

end Run

/--
What a run has found, with the parts that are searched for in places of their own.
-/
structure Record where
  id : String
  run : String
  tenant : String
  ticket : String
  narrative : String
  rootCause : Option String
  resolution : Json
  confidence : Double
  intent : Option String
  sentiment : Option String
  openQuestions : Json
  riskTags : Json
  proposals : Json
  evidence : Json
  analysis : Json
  createdAt : Timestamp
deriving DecidableEq

namespace Record

/--
The text for a value: a string as it is, nothing for `null`, and else the compact text.
-/
def plainText? : Json → Option String
  | .null => none
  | .string s => some s
  | v => some v.compact

/--
The text of a narrative: of an object only the summary counts.
-/
def narrativeText : Option Json → String
  | none => ""
  | some (.object members) => ((Members.get? "summary" members).bind plainText?).getD ""
  | some v => (plainText? v).getD ""

def ofAnalysis (id tenant ticket : String) (analysis : Json.Object) (now : Timestamp) : Record :=
  let list (key : String) : Json := (analysis.get? key).getD (.array [])
  let text (key : String) : Option String := (analysis.get? key).bind plainText?
  { id := id
    run := id
    tenant := tenant
    ticket := ticket
    narrative := narrativeText (analysis.get? "narrative")
    rootCause := text "root_cause"
    resolution := list "resolution"
    confidence := Analysis.confidence analysis
    intent := text "intent"
    sentiment := text "sentiment"
    openQuestions := list "open_questions"
    riskTags := list "risk_tags"
    proposals := list Analysis.proposalsKey
    evidence := list "evidence"
    analysis := .object analysis
    createdAt := now }

end Record
end Triage
