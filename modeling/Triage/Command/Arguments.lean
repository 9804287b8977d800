import Triage.Archive
import Triage.Command
import Triage.Decimal.Numeral
import Triage.Environment
import Triage.Text.Case

/-!
This module contains the arguments that the program is started with. Options have long names; a value follows its
option as the next argument or behind an equals sign.
-/

namespace Triage
namespace Command

/--
What the arguments ask for.
-/
inductive Request where
  | command (c : Command)
  | version
  | help
  /-- The arguments make no sense. -/
  | malformed
deriving DecidableEq

/--
An option of a command.
-/
structure Switch where
  name : String
  /-- Whether a value belongs to the option. -/
  takesValue : Bool
  /-- Whether the option may be given more than once. -/
  repeatable : Bool
  /-- Whether a text is a value for the option. -/
  isValid : String → Bool

namespace Switch

def text (name : String) : Switch := ⟨name, true, false, fun _ => true⟩

def valued (name : String) (isValid : String → Bool) : Switch := ⟨name, true, false, isValid⟩

/--
An option with a value that may be any text, which may be given more than once.
-/
def texts (name : String) : Switch := ⟨name, true, true, fun _ => true⟩

def flag (name : String) : Switch := ⟨name, false, false, fun _ => true⟩

end Switch

abbrev Given := List (String × String)

/--
Why no options are found in arguments.
-/
inductive Stop where
  | help
  | malformed
deriving DecidableEq

def cutAtEquals (cs : List Char) : List Char × Option (List Char) :=
  match cs.dropWhile (· != '=') with
  | _ :: value => (cs.takeWhile (· != '='), some value)
  | [] => (cs, none)

/--
Whether an argument can only be an option. A single dash is a value.
-/
def looksLikeOption (argument : String) : Bool :=
  argument.startsWith "-" && argument != "-"

def give (switch : Switch) (value : String) (given : Given) : Except Stop Given :=
  if !switch.isValid value then .error .malformed
  else if !switch.repeatable && given.any (·.1 == switch.name) then .error .malformed
  else .ok (given ++ [(switch.name, value)])

def options (switches : List Switch) (given : Given) : List String → Except Stop Given
  | [] => .ok given
  | argument :: rest =>
    match argument.toList with
    | ['-', '-'] => if rest.isEmpty then .ok given else .error .malformed
    | '-' :: '-' :: cs =>
      let (name, attached) := cutAtEquals cs
      let name := String.ofList name
      if name = "help" ∧ attached.isNone then .error .help
      else
        match switches.find? (·.name == name) with
        | none => .error .malformed
        | some switch =>
          match switch.takesValue, attached, rest with
          | false, none, rest =>
            match give switch "" given with
            | .ok given => options switches given rest
            | .error stop => .error stop
          | false, some _, _ => .error .malformed
          | true, some value, rest =>
            match give switch (String.ofList value) given with
            | .ok given => options switches given rest
            | .error stop => .error stop
          | true, none, [] => .error .malformed
          | true, none, value :: rest =>
            if looksLikeOption value then .error .malformed
            else
              match give switch value given with
              | .ok given => options switches given rest
              | .error stop => .error stop
    | '-' :: 'h' :: _ => .error .help
    | _ => .error .malformed

def value? (given : Given) (name : String) : Option String :=
  given.lookup name

/--
The number that a text stands for. Infinity and what is no number have names.
-/
def double? (text : String) : Option Double :=
  let (negative, cs) :=
    match text.toList with
    | '-' :: cs => (true, cs)
    | '+' :: cs => (false, cs)
    | cs => (false, cs)
  match String.ofList (Text.lower cs) with
  | "inf" | "infinity" => some (Binary.infinite negative)
  | "nan" => some .nan
  | _ => (Decimal.Numeral.read? text.toList).map Decimal.Numeral.toDouble

def limit? (text : String) : Option UInt32 :=
  let n :=
    match text.toList with
    | '-' :: digits => (Text.natOfDigits? 10 digits).filter (· == 0)
    | _ => Environment.natBelow? UInt32.size text
  n.map Nat.toUInt32

def analyzeSwitches : List Switch :=
  [.text "tenant", .valued "input" fun path => !path.isEmpty,
    .valued "threshold" fun text => (double? text).isSome, .texts "field", .text "tone",
    .flag "skip-retrieval"]

def analyzeOf? (given : Given) : Option Command := do
  let fields := given.filterMap fun (name, value) => if name = "field" then some value else none
  let standard := Analysis.Options.standard
  return .analyze (← value? given "tenant") (← value? given "input") {
    skipRetrieval := (value? given "skip-retrieval").isSome
    includeEvidence := standard.includeEvidence
    confidenceThreshold := ((value? given "threshold").bind double?).getD standard.confidenceThreshold
    selectedFields := if fields.isEmpty then none else some fields
    responseTone := (value? given "tone").getD standard.responseTone }

def historySwitches : List Switch :=
  [.text "tenant", .text "ticket", .valued "limit" fun text => (limit? text).isSome]

def historyOf? (given : Given) : Option Command := do
  let limit := ((value? given "limit").bind limit?).getD Archive.historyLimit
  return .history (← value? given "tenant") (← value? given "ticket") limit

def showSwitches : List Switch :=
  [.text "tenant", .text "id"]

def showOf? (given : Given) : Option Command := do
  return .showRecord (← value? given "tenant") (← value? given "id")

def requestOf (switches : List Switch) (build : Given → Option Command) (arguments : List String) :
    Request :=
  match options switches [] arguments with
  | .ok given => ((build given).map Request.command).getD .malformed
  | .error .help => .help
  | .error .malformed => .malformed

def requestOfArguments : List String → Request
  | [] => .malformed
  | name :: arguments =>
    match name with
    | "analyze" => requestOf analyzeSwitches analyzeOf? arguments
    | "history" => requestOf historySwitches historyOf? arguments
    | "show" => requestOf showSwitches showOf? arguments
    | "prompts" => requestOf [] (fun _ => some .listPrompts) arguments
    | "help" =>
      match arguments with
      | [] | ["analyze"] | ["history"] | ["show"] | ["prompts"] | ["help"] => .help
      | _ => .malformed
    | "--version" => .version
    | "--help" => .help
    | name =>
      match name.toList with
      | '-' :: 'V' :: _ => .version
      | '-' :: 'h' :: _ => .help
      | _ => .malformed

end Command
end Triage
