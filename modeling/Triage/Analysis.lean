import Triage.Gate
import Triage.Json.Value

/-!
This module contains the analyses of tickets: the options of a caller, the object that a model answers with,
and the result that is handed back.
-/

namespace Triage
namespace Analysis

/--
What a caller can choose for an analysis.
-/
structure Options where
  /-- Do without similar cases and articles. -/
  skipRetrieval : Bool
  /-- Ask the model to cite evidence. -/
  includeEvidence : Bool
  /-- The confidence below which a short review is not enough. -/
  confidenceThreshold : Double
  /-- Keep proposals for these fields only, if there are any. -/
  selectedFields : Option (List String)
  /-- The tone of text for customers. -/
  responseTone : String
deriving DecidableEq

def Options.standard : Options :=
  { skipRetrieval := false
    includeEvidence := true
    confidenceThreshold := Gate.editLevel
    selectedFields := none
    responseTone := "formal" }

/--
The tokens that a request and its answer took.
-/
structure TokenUsage where
  input : UInt64
  output : UInt64
deriving DecidableEq

/--
How a result came about.
-/
structure Meta where
  provider : String
  model : String
  promptVersion : String
  latencyMs : UInt64
  tokenUsage : TokenUsage
  /-- The number of cases and articles that the prompt was given. -/
  retrievalCount : UInt64
  createdAt : String
  usedFallback : Bool
  attempts : UInt32
  /-- Whether the result fits the schema for results, if that was checked. -/
  outputSchemaValid : Option Bool
  error : Option String
deriving DecidableEq

/--
The result of an analysis. A failure is a result too.
-/
structure Result where
  id : String
  analysis : Json.Object
  gate : Gate
  info : Meta
  success : Bool
  error : Option String
deriving DecidableEq

def proposalsKey : String := "field_proposals"

/--
The confidence that a model reports about its analysis, zero if it reports no number.
-/
def confidence (analysis : Json.Object) : Double :=
  ((analysis.get? "confidence").bind Json.double?).getD 0

def proposals (analysis : Json.Object) : List Json :=
  ((analysis.get? proposalsKey).bind Json.items?).getD []

def isSelected (selected : List String) (proposal : Json) : Bool :=
  match (proposal.member? "field_name").bind Json.string? with
  | some name => selected.contains name
  | none => false

/--
The analysis with the proposals for the selected fields only. If nothing is selected, all is kept.
-/
def select (selected : List String) (analysis : Json.Object) : Json.Object :=
  if selected.isEmpty then analysis
  else analysis.insert proposalsKey (.array ((proposals analysis).filter (isSelected selected)))

def Result.confidence (r : Result) : Double :=
  Analysis.confidence r.analysis

def Result.proposals (r : Result) : List Json :=
  Analysis.proposals r.analysis

end Analysis
end Triage
