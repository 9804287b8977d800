import Triage.Json.Value

/-!
This module contains the decoding of records: values of named fields, given as an object or as an array of
the fields in their order. Unknown members are ignored and a known name must not occur twice.
-/

namespace Triage
namespace Json

/--
The fields that a record was given. An array may break off, but only fields with a default may then be
missing.
-/
structure Fields where
  given : List (String × Json)
  inOrder : Bool

namespace Fields

/--
The known fields of an object or array; `none` if a known name occurs twice, if the array is too long, or if
the value is no record at all.
-/
def ofJson? (names : List String) : Json → Option Fields
  | .object members =>
    let given := members.filter fun (k, _) => names.contains k
    if (given.map Prod.fst).Nodup then some ⟨given, false⟩ else none
  | .array items =>
    if items.length ≤ names.length then some ⟨names.zip items, true⟩ else none
  | _ => none

def required {α : Type} (f : Fields) (key : String) (decode : Json → Option α) : Option α :=
  (Members.get? key f.given).bind decode

def orDefault {α : Type} (f : Fields) (key : String) (decode : Json → Option α) (fallback : α) :
    Option α :=
  match Members.get? key f.given with
  | some v => decode v
  | none => some fallback

/--
A value or `null`.
-/
def nullable {α : Type} (decode : Json → Option α) : Json → Option (Option α)
  | .null => some none
  | v => (decode v).map some

/--
A field that may be `null`, and may be missing in an object.
-/
def optional {α : Type} (f : Fields) (key : String) (decode : Json → Option α) : Option (Option α) :=
  match Members.get? key f.given with
  | some v => nullable decode v
  | none => if f.inOrder then none else some none

end Fields

/-! The decoders of single values. None of them takes a value of another type, but a floating point number
may be given as an integer. -/

namespace Decode

def string : Json → Option String := Json.string?

def bool : Json → Option Bool
  | .bool b => some b
  | _ => none

def double : Json → Option Double := Json.double?

/--
An unsigned integer below `limit`.
-/
def natBelow? (limit : Nat) : Json → Option Nat
  | .number (.integer n) => if 0 ≤ n.val ∧ n.val < limit then some n.val.toNat else none
  | _ => none

def uint64 (v : Json) : Option UInt64 :=
  (natBelow? UInt64.size v).map Nat.toUInt64

def uint32 (v : Json) : Option UInt32 :=
  (natBelow? UInt32.size v).map Nat.toUInt32

def value (v : Json) : Option Json :=
  some v.canonical

def object (v : Json) : Option Json.Object :=
  v.canonical.members?

def list {α : Type} (decode : Json → Option α) : Json → Option (List α)
  | .array items => items.mapM decode
  | _ => none

/--
A name, or an object with the name as its only key and `null` as its value.
-/
def name : Json → Option String
  | .string s => some s
  | .object [(s, .null)] => some s
  | _ => none

end Decode

/--
A member that is left out if there is no value.
-/
def memberIf (key : String) : Option Json → List (String × Json)
  | some v => [(key, v)]
  | none => []

end Json
end Triage
