import Triage.Json.Writer
import Triage.Pipeline
import Triage.Ticket.Codec

/-!
This module contains the commands of the program: to analyse a ticket in a file, to show what was archived, and
to list the prompts.
-/

namespace Triage

/--
What the program can be told to do.
-/
inductive Command where
  /-- Analyse the ticket in the file `input`. -/
  | analyze (tenant input : String) (options : Analysis.Options)
  /-- Show the latest runs for a ticket. -/
  | history (tenant ticket : String) (limit : UInt32)
  /-- Show what a run has found. -/
  | showRecord (tenant id : String)
  /-- List the prompts. -/
  | listPrompts
deriving DecidableEq

namespace Command

/--
What a command prints.
-/
inductive Output where
  | json (v : Json)
  | text (s : String)
deriving DecidableEq

def Output.toText : Output → String
  | json v => v.indented
  | text s => s

/--
The answer to a command: what is printed, and whether the command succeeded.
-/
structure Answer where
  output : Output
  success : Bool
deriving DecidableEq

def Answer.exitCode (a : Answer) : UInt32 :=
  if a.success then 0 else 1

def Answer.found (v : Json) : Answer := ⟨.json v, true⟩

def Answer.failed (message : String) : Answer := ⟨.text message, false⟩

/--
What comes of a command: its answer, what happened for it, and the state afterwards.
-/
structure Outcome (σ τ : Type) where
  answer : Answer
  events : List Pipeline.Event
  state : Pipeline.State σ τ

variable {σ τ : Type}

/--
The schema of tickets, if the prompt names none.
-/
def standardSchema : String := "ticket_normalized_v1"

def readTicket (files : Files) (input : String) : Except Failure Json := do
  match files.read input with
  | .error e => throw (.internal ("Failed to read " ++ input ++ ": " ++ e.message))
  | .ok text =>
    match Json.parse? text with
    | none => throw (.internal "Input is not valid JSON: <json error>")
    | some v => return v

/--
The ticket in a file. It has to fit the schema that the prompt for the analysis names.
-/
def loadTicket (files : Files) (input : String) (s : Pipeline.State σ τ) :
    Except Failure Ticket × Pipeline.State σ τ :=
  match readTicket files input with
  | .error e => (.error e, s)
  | .ok v =>
    let (spec, prompts) := s.prompts.load files Pipeline.promptId
    let s := { s with prompts := prompts }
    match spec with
    | .error e => (.error (.prompt e), s)
    | .ok spec =>
      let (verdict, schemas) := s.schemas.validate files (spec.inputSchema.getD standardSchema) v
      let s := { s with schemas := schemas }
      match verdict with
      | .error e => (.error (.schema e), s)
      | .ok () =>
        match Ticket.ofJson? v with
        | some ticket => (.ok ticket, s)
        | none => (.error (.internal "Input does not match the normalized ticket shape: <decode error>"), s)

def promptEntry (id : String) : Except Prompt.Error Prompt.Spec → Json
  | .ok spec =>
    .object [
      ("description", .string spec.description),
      ("id", .string spec.id),
      ("purpose", .string spec.purpose),
      ("version", .string spec.version)]
  | .error e => .object [("error", .string e.message), ("id", .string id)]

def promptEntries (files : Files) (prompts : Prompt.Registry) : List String → List Json × Prompt.Registry
  | [] => ([], prompts)
  | id :: ids =>
    let (spec, prompts) := prompts.load files id
    let (entries, prompts) := promptEntries files prompts ids
    (promptEntry id spec :: entries, prompts)

/--
What a command is carried out with: an id that is fresh, and when it starts and ends.
-/
structure Occasion where
  id : String
  started : Timestamp
  finished : Timestamp

def execute (p : Pipeline σ τ) (files : Files) (o : Occasion) (c : Command) (s : Pipeline.State σ τ) :
    Outcome σ τ :=
  match c with
  | .analyze tenant input options =>
    match loadTicket files input s with
    | (.error e, s) => { answer := .failed e.message, events := [], state := s }
    | (.ok ticket, s) =>
      let report := p.analyze files {
        id := o.id
        tenant := tenant
        ticket := ticket
        options := options
        started := o.started
        finished := o.finished } s
      { answer := ⟨.json report.result.toJson, report.result.success⟩
        events := report.events
        state := report.state }
  | .history tenant ticket limit =>
    let runs := p.archive.history o.finished tenant ticket limit s.stored
    { answer := .found (.array (runs.map Run.toJson)), events := [], state := s }
  | .showRecord tenant id =>
    match p.archive.record? o.finished id tenant s.stored with
    | some record => { answer := .found record.toJson, events := [], state := s }
    | none => { answer := .failed ("Analysis not found: " ++ id), events := [], state := s }
  | .listPrompts =>
    let (entries, prompts) := promptEntries files s.prompts (Prompt.ids files s.prompts.directory)
    { answer := .found (.array entries), events := [], state := { s with prompts := prompts } }

end Command
end Triage
