import Triage.Binary.Round
import Triage.Text.Case

/-!
This module contains the gates: how much human oversight the result of an analysis needs, as decided by the
confidence that the model reports about itself.
-/

namespace Triage

/--
How much oversight a result needs, from least to most.
-/
inductive Gate where
  /-- The result may be applied as it is. -/
  | confirm
  /-- The result needs a short review. -/
  | edit
  /-- A person chooses between options. -/
  | decide
  /-- The run failed or knows too little; it needs input to learn from. -/
  | teach
deriving DecidableEq, Inhabited

namespace Gate

/--
The confidence from which on a result may be applied as it is.
-/
def confirmLevel : Double := Binary.ofRatio false 9 10

/--
The lowest confidence at which a short review is enough; a caller can raise it, but not lower it.
-/
def editLevel : Double := Binary.ofRatio false 7 10

/--
The confidence from which on a person chooses between options.
-/
def decideLevel : Double := Binary.ofRatio false 1 2

/--
The gate for a confidence. The caller's `threshold` can only raise the level of `edit`, and counts for
nothing if it is `nan`.
-/
def ofConfidence (confidence threshold : Double) : Gate :=
  if confirmLevel.le confidence then .confirm
  else if (threshold.max editLevel).le confidence then .edit
  else if decideLevel.le confidence then .decide
  else .teach

def name : Gate → String
  | .confirm => "CONFIRM"
  | .edit => "EDIT"
  | .decide => "DECIDE"
  | .teach => "TEACH"

/--
The rank of a gate by the oversight it asks for.
-/
def oversight : Gate → Nat
  | .confirm => 0
  | .edit => 1
  | .decide => 2
  | .teach => 3

def all : List Gate := [.confirm, .edit, .decide, .teach]

def ofName? (name : String) : Option Gate :=
  all.find? (·.name == name)

/--
The gate that a text names in any case, or the wording of an error.
-/
def parse (text : String) : Except String Gate :=
  match ofName? (Text.uppercased text) with
  | some gate => .ok gate
  | none => .error s!"Unknown gate: {text}"

end Gate
end Triage
