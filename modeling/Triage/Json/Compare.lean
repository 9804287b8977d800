import Triage.Json.Value

/-!
This module contains the comparison of JSON values by what they stand for: `1` and `1.0` are the same number
here, and the order of numbers is the order of the reals.
-/

namespace Triage
namespace Json

namespace Number

/--
A number as an integer times a power of two.
-/
def scaled : Number → Int × Int
  | .integer n => (n.val, 0)
  | .real x _ => x.scaled?.getD (0, 0)

def order (x y : Number) : Ordering :=
  let (m, e) := x.scaled
  let (n, f) := y.scaled
  let (a, b, _) := Binary.aligned m e n f
  compare a b

/--
Whether a number is an integer, written in whatever way.
-/
def isWhole : Number → Bool
  | .integer _ => true
  | .real x _ => x.isInteger

end Number

mutual

/--
Whether two values stand for the same. Numbers are the same if their floating point numbers are equal.
-/
def isSame : Json → Json → Bool
  | .null, .null => true
  | .bool a, .bool b => a == b
  | .number a, .number b => a.toDouble.eq b.toDouble
  | .string a, .string b => a == b
  | .array xs, .array ys => areSame xs ys
  | .object xs, .object ys => areSameMembers xs ys
  | _, _ => false
termination_by structural x => x

def areSame : List Json → List Json → Bool
  | [], [] => true
  | x :: xs, y :: ys => isSame x y && areSame xs ys
  | _, _ => false
termination_by structural xs => xs

def areSameMembers : List (String × Json) → List (String × Json) → Bool
  | [], [] => true
  | (k, x) :: xs, (l, y) :: ys => k == l && isSame x y && areSameMembers xs ys
  | _, _ => false
termination_by structural xs => xs

end

end Json
end Triage
