import Triage.Json.Reader
import Triage.Repair.Brackets
import Triage.Repair.Commas
import Triage.Repair.Extraction
import Triage.Repair.Fences

/-!
This module contains the repair of JSON as language models write it: inside code fences, between prose,
with trailing commas, or broken off. Text that is JSON already is returned unchanged; else one round of all
repairs follows the other until the text is JSON or the rounds are used up.
-/

namespace Triage

/--
Why a text was not repaired.
-/
inductive RepairError where
  /-- The text holds nothing but blanks. -/
  | empty (original : String)
  /-- The text was no JSON after the given number of rounds. -/
  | exhausted (rounds : UInt32) (original : String)
deriving DecidableEq

namespace RepairError

def message : RepairError → String
  | .empty _ => "Empty input"
  | .exhausted rounds _ => s!"Failed to repair JSON after {rounds.toNat} attempts"

def original : RepairError → String
  | .empty original | .exhausted _ original => original

end RepairError

namespace Repair

def isJson (cs : List Char) : Bool :=
  (Json.readWithin Json.depthLimit cs).isSome

def round (cs : List Char) : List Char :=
  balance (dropCommas (extract (stripFences cs)))

/--
The first text that is JSON among the results of one to `n` rounds.
-/
def search : (n : Nat) → List Char → Option (List Char)
  | 0, _ => none
  | n + 1, cs =>
    let next := round cs
    if isJson next then some next else search n next

end Repair

/--
The text, repaired in at most `rounds` rounds.
-/
def repair (text : String) (rounds : UInt32) : Except RepairError String :=
  if Text.isAllBlank text then .error (.empty text)
  else if Repair.isJson text.toList then .ok text
  else
    match Repair.search rounds.toNat text.toList with
    | some cs => .ok (String.ofList cs)
    | none => .error (.exhausted rounds text)

def Repair.defaultRounds : UInt32 := 1

/--
The text, repaired in the usual number of rounds.
-/
def repairDefault (text : String) : Except RepairError String :=
  repair text Repair.defaultRounds

/--
Why a text holds no object.
-/
inductive AnswerError where
  | repair (error : RepairError)
  | notAnObject
  /-- The repaired text is no JSON; this never happens. -/
  | malformed
deriving DecidableEq

def AnswerError.message : AnswerError → String
  | .repair error => error.message
  | .notAnObject => "JSON must be an object, not array or primitive"
  | .malformed => "JSON parse error: malformed text"

/--
The object that a model has answered with, after a repair of its text if it needs one.
-/
def parseAnswer (text : String) : Except AnswerError Json.Object :=
  match repairDefault text with
  | .error e => .error (.repair e)
  | .ok repaired =>
    match Json.parse? repaired with
    | some (.object members) => .ok members
    | some _ => .error .notAnObject
    | none => .error .malformed

end Triage
