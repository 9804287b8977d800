import Triage.Json.Members
import Triage.Text.Digits

/-!
This module contains the variables that the program finds set when it starts.
-/

namespace Triage

/--
Variables and their values.
-/
structure Environment where
  assigned : Members String

namespace Environment

def get? (env : Environment) (name : String) : Option String :=
  env.assigned.get? name

/--
The value of a variable, or another text if it is not set.
-/
def getOr (env : Environment) (name fallback : String) : String :=
  (env.get? name).getD fallback

/--
The value of a variable, if it is set to a text that is not empty.
-/
def filled? (env : Environment) (name : String) : Option String :=
  (env.get? name).filter fun value => !value.isEmpty

/--
Set a variable, unless it is set already.
-/
def setDefault (env : Environment) (name value : String) : Environment :=
  if env.assigned.contains name then env else ⟨env.assigned.insert name value⟩

/--
The number below a limit that a text of decimal digits stands for. A plus sign may stand in front.
-/
def natBelow? (limit : Nat) (text : String) : Option Nat :=
  let digits :=
    match text.toList with
    | '+' :: digits => digits
    | digits => digits
  (Text.natOfDigits? 10 digits).filter (· < limit)

def uint64? (env : Environment) (name : String) : Option UInt64 :=
  ((env.get? name).bind (natBelow? UInt64.size)).map Nat.toUInt64

def uint32? (env : Environment) (name : String) : Option UInt32 :=
  ((env.get? name).bind (natBelow? UInt32.size)).map Nat.toUInt32

end Environment
end Triage
