import Triage.Json.Value

/-!
This module contains the depth and the size of JSON values.
-/

namespace Triage
namespace Json

mutual

/--
The largest number of arrays and objects inside of one another, the innermost value counted too.
-/
def depth : Json → Nat
  | .array vs => depthOfItems vs + 1
  | .object ms => depthOfMembers ms + 1
  | .null | .bool _ | .number _ | .string _ => 1
termination_by structural v => v

def depthOfItems : List Json → Nat
  | [] => 0
  | v :: vs => max (depth v) (depthOfItems vs)
termination_by structural vs => vs

def depthOfMembers : List (String × Json) → Nat
  | [] => 0
  | (_, v) :: ms => max (depth v) (depthOfMembers ms)
termination_by structural ms => ms

end

mutual

def size : Json → Nat
  | .array vs => sizeOfItems vs + 1
  | .object ms => sizeOfMembers ms + 1
  | .null | .bool _ | .number _ | .string _ => 1
termination_by structural v => v

def sizeOfItems : List Json → Nat
  | [] => 0
  | v :: vs => size v + sizeOfItems vs
termination_by structural vs => vs

def sizeOfMembers : List (String × Json) → Nat
  | [] => 0
  | (_, v) :: ms => size v + sizeOfMembers ms
termination_by structural ms => ms

end

end Json
end Triage
