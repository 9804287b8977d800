import Triage.Json.Reader
import Triage.Run
import Triage.Store.Error

/-!
This module contains the rows in which runs and records are stored. A row holds texts: a status and a gate by
name, values as compact JSON and points in time with a fixed width.
-/

namespace Triage
namespace Store

/--
A run as it is stored, without its id.
-/
structure RunRow where
  tenant : String
  ticket : String
  status : String
  gate : Option String
  info : String
  error : Option String
  createdAt : String
  completedAt : Option String
deriving DecidableEq

/--
A record as it is stored, without its id.
-/
structure RecordRow where
  run : String
  tenant : String
  ticket : String
  narrative : String
  rootCause : Option String
  resolution : String
  confidence : Double
  intent : Option String
  sentiment : Option String
  openQuestions : String
  riskTags : String
  proposals : String
  evidence : String
  analysis : String
  createdAt : String
deriving DecidableEq

/--
The value of a stored text, `null` if it has none.
-/
def storedValue (text : String) : Json :=
  (Json.parse? text).getD .null

/--
The point in time of a stored text, the present one if it has none.
-/
def storedTime (now : Timestamp) (text : String) : Timestamp :=
  (Timestamp.ofStored? text).getD now

/--
A number as it is stored, which does not keep apart the two zeros.
-/
def storedNumber (x : Double) : Double :=
  if x.eq 0 then 0 else x

namespace RunRow

def ofRun (r : Run) : RunRow :=
  { tenant := r.tenant
    ticket := r.ticket
    status := r.status.name
    gate := r.gate.map Gate.name
    info := r.info.compact
    error := r.error
    createdAt := r.createdAt.stored
    completedAt := r.completedAt.map Timestamp.stored }

/--
The run of a row, or an error if the row holds a name that no status or no gate has.
-/
def toRun (now : Timestamp) (id : String) (row : RunRow) : Except Error Run := do
  let status ← (RunStatus.parse row.status).mapError .query
  let gate ← row.gate.mapM fun name => (Gate.parse name).mapError .query
  return {
    id := id
    tenant := row.tenant
    ticket := row.ticket
    status := status
    gate := gate
    info := storedValue row.info
    error := row.error
    createdAt := storedTime now row.createdAt
    completedAt := row.completedAt.map (storedTime now) }

/--
Whether a row may still change.
-/
def isOpen (row : RunRow) : Bool :=
  row.status == RunStatus.running.name

/--
A row with what a later row says about how far the run has come.
-/
def advance (row later : RunRow) : RunRow :=
  { row with
    status := later.status
    gate := later.gate
    info := later.info
    error := later.error
    completedAt := later.completedAt }

end RunRow

namespace RecordRow

def ofRecord (r : Record) : RecordRow :=
  { run := r.run
    tenant := r.tenant
    ticket := r.ticket
    narrative := r.narrative
    rootCause := r.rootCause
    resolution := r.resolution.compact
    confidence := storedNumber r.confidence
    intent := r.intent
    sentiment := r.sentiment
    openQuestions := r.openQuestions.compact
    riskTags := r.riskTags.compact
    proposals := r.proposals.compact
    evidence := r.evidence.compact
    analysis := r.analysis.compact
    createdAt := r.createdAt.stored }

def toRecord (now : Timestamp) (id : String) (row : RecordRow) : Record :=
  { id := id
    run := row.run
    tenant := row.tenant
    ticket := row.ticket
    narrative := row.narrative
    rootCause := row.rootCause
    resolution := storedValue row.resolution
    confidence := row.confidence
    intent := row.intent
    sentiment := row.sentiment
    openQuestions := storedValue row.openQuestions
    riskTags := storedValue row.riskTags
    proposals := storedValue row.proposals
    evidence := storedValue row.evidence
    analysis := storedValue row.analysis
    createdAt := storedTime now row.createdAt }

/--
A row with the payload of a later one. Whose it is and when it came stays.
-/
def replace (row later : RecordRow) : RecordRow :=
  { later with
    run := row.run
    tenant := row.tenant
    ticket := row.ticket
    createdAt := row.createdAt }

end RecordRow
end Store
end Triage
