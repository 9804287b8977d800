import Triage.Command.Arguments
import Triage.Config
import Triage.Environment.File

/-!
This module contains the program from its start to its end, as a function of what it finds.
-/

namespace Triage

/--
What the program finds when it is started.
-/
structure Program.Start where
  arguments : List String
  environment : Environment
  files : Files
  occasion : Command.Occasion

/--
How the program ends: what it prints, what it complains about, what it exits with, and the files that it leaves.
-/
structure Program.Finish (σ : Type) where
  output : Option Command.Output
  complaint : Option String
  exitCode : UInt32
  files : Files
  /-- The state of the services. -/
  services : σ

namespace Program

variable {σ : Type}

def versionText : String := "ticket-analysis 0.1.0"

def environmentOf (files : Files) (env : Environment) : Environment :=
  match files.read Config.environmentFile with
  | .ok text => env.withFile text
  | .error _ => env

/--
The files and the directories that the program looks at.
-/
structure Needs where
  files : List String
  directories : List String

/--
What the program looks at if it finds the given arguments and variables.
-/
def needs (arguments : List String) (env : Environment) : Needs :=
  match Command.requestOfArguments arguments, Config.ofEnvironment env with
  | .command command, .ok config =>
    let input :=
      match command with
      | .analyze _ input _ => [input]
      | _ => []
    { files := config.store.path :: input, directories := [config.promptDirectory, config.schemaDirectory] }
  | _, _ => ⟨[], []⟩

/--
The pipeline that a configuration describes. `exchange` carries posts to services.
-/
def pipelineOf (c : Config) (exchange : Llm.Provider → Llm.Post → σ → Llm.Exchange × σ) :
    Pipeline σ Store :=
  { gateway := c.llm.gateway c.requestTimeoutMs exchange
    archive := .ofBackend Store.backend
    checksResults := true
    retrieval := none }

/--
Carry out a command as it is configured. The store is loaded before and saved after.
-/
def carryOut (start : Start) (exchange : Llm.Provider → Llm.Post → σ → Llm.Exchange × σ) (services : σ)
    (command : Command) : Finish σ :=
  let ended (complaint : String) : Finish σ :=
    { output := none, complaint := some complaint, exitCode := 1, files := start.files, services := services }
  match Config.ofEnvironment (environmentOf start.files start.environment) with
  | .error e => ended ("Configuration error: " ++ (Failure.configuration e.message).message)
  | .ok config =>
    match config.store.load start.files with
    | .error obstacle => ended ("Error: " ++ (Failure.store obstacle.error).message)
    | .ok (store, files) =>
      let outcome := Command.execute (pipelineOf config exchange) files start.occasion command {
        prompts := .ofDirectory config.promptDirectory
        schemas := .ofDirectory config.schemaDirectory
        providers := services
        stored := store }
      { output := some outcome.answer.output
        complaint := none
        exitCode := outcome.answer.exitCode
        files := config.store.save outcome.state.stored files
        services := outcome.state.providers }

def run (start : Start) (exchange : Llm.Provider → Llm.Post → σ → Llm.Exchange × σ) (services : σ) :
    Finish σ :=
  let ended (output : Option Command.Output) (exitCode : UInt32) : Finish σ :=
    { output := output, complaint := none, exitCode := exitCode, files := start.files, services := services }
  match Command.requestOfArguments start.arguments with
  | .command command => carryOut start exchange services command
  | .version => ended (some (.text versionText)) 0
  | .help => ended none 0
  | .malformed => ended none 2

end Program
end Triage
