import Triage.Schema

/-!
This module contains the reader of schemas from JSON. The conditions of an object stand in the order of its
keywords, so that their faults are found in that order.
-/

namespace Triage
namespace Schema

def Kind.ofName? (name : String) : Option Kind :=
  Kind.all.find? (·.name == name)

def kinds? : Json → Option (List Kind)
  | .string s => (Kind.ofName? s).map ([·])
  | .array vs =>
    (vs.mapM fun (v : Json) => v.string?.bind Kind.ofName?).map fun ks => Kind.all.filter ks.contains
  | _ => none

/--
A limit of a size: an integer that is not negative, written in whatever way.
-/
def limit? : Json → Option Nat
  | .number (.integer n) => if 0 ≤ n.val then some n.val.toNat else none
  | .number (.real x _) =>
    if x.isInteger then x.truncate?.bind fun n => if 0 ≤ n then some n.toNat else none else none
  | _ => none

def number? : Json → Option Json.Number
  | .number n => some n
  | _ => none

def texts? (v : Json) : Option (List String) :=
  v.items?.bind fun vs => vs.mapM Json.string?

/--
The members of an object, read with `read`.
-/
def table? {α : Type} (read : Json → Option α) (v : Json) : Option (List (String × α)) :=
  v.members?.bind fun ms => ms.mapM fun (k, w) => (read w).map (k, ·)

def patternTable? (sub : Json → Option Schema) (v : Json) : Option (List (Pattern × Schema)) :=
  v.members?.bind fun ms => ms.mapM fun (k, w) => do return (← Pattern.read? k, ← sub w)

def list? (sub : Json → Option Schema) (v : Json) : Option (List Schema) :=
  v.items?.bind fun vs => vs.mapM sub

/--
What is asked for in addition if a key is there: a schema, or a list of other keys.
-/
def dependency? (sub : Json → Option Schema) : Json → Option Schema
  | .array vs => (vs.mapM Json.string?).map .required
  | v => sub v

/--
Whether the keyword for all other members takes the members with schemas of their own along.
-/
def takesMembers (parent : List (String × Json)) : Bool :=
  match Members.get? "additionalProperties" parent with
  | some (.bool false) | some (.object _) => true
  | _ => false

def otherMembers? (sub : Json → Option Schema) (parent : List (String × Json)) (v : Json) :
    Option (Option Schema) := do
  let parts ← ((Members.get? "properties" parent).map (table? sub)).getD (some [])
  let patterns ← ((Members.get? "patternProperties" parent).map (patternTable? sub)).getD (some [])
  match v with
  | .bool true => return none
  | .bool false =>
    if Members.contains "properties" parent || Members.contains "patternProperties" parent then
      return some (.closed parts patterns)
    else
      return some .noMembers
  | v => return some (.members parts patterns (← sub v))

/--
The condition of the keyword for the items behind those with schemas of their own.
-/
def furtherItems? (sub : Json → Option Schema) (parent : List (String × Json)) (v : Json) :
    Option (Option Schema) :=
  match Members.get? "items" parent, v with
  | some (.array vs), .object _ => (sub v).map fun s => some (.items vs.length s)
  | some (.array vs), .bool false => some (some (.noItemsAfter vs.length))
  | _, _ => some none

/--
The condition of a keyword with the value `v` in the object `parent`, if it has one; `sub` reads the schemas
inside. Keywords that are not known have no condition. Formats, media types, encodings and names of schemas are not
among those that are known.
-/
def keyword? (sub : Json → Option Schema) (parent : List (String × Json)) (key : String) (v : Json) :
    Option (Option Schema) :=
  match key with
  | "additionalItems" => furtherItems? sub parent v
  | "additionalProperties" => otherMembers? sub parent v
  | "allOf" => (list? sub v).map fun ss => some (.all ss)
  | "anyOf" => (list? sub v).map fun ss => some (.any ss)
  | "const" => some (some (.constant v))
  | "contains" => (sub v).map fun s => some (.contains s)
  | "dependencies" => (table? (dependency? sub) v).map fun ps => some (.dependencies ps)
  | "enum" => v.items?.map fun vs => some (.options vs)
  | "exclusiveMaximum" => (number? v).map fun n => some (.bound .below n)
  | "exclusiveMinimum" => (number? v).map fun n => some (.bound .above n)
  | "if" =>
    let branch (key : String) : Option Schema :=
      ((Members.get? key parent).map sub).getD (some .accept)
    if Members.contains "then" parent || Members.contains "else" parent then do
      return some (.choose (← sub v) (← branch "then") (← branch "else"))
    else
      some none
  | "items" =>
    match v with
    | .array vs => (vs.mapM sub).map fun ss => some (.itemsAt ss)
    | .object _ | .bool false => (sub v).map fun s => some (.items 0 s)
    | _ => some none
  | "maxItems" => (limit? v).map fun n => some (.most .items n)
  | "maxLength" => (limit? v).map fun n => some (.most .characters n)
  | "maxProperties" => (limit? v).map fun n => some (.most .properties n)
  | "maximum" => (number? v).map fun n => some (.bound .atMost n)
  | "minItems" => (limit? v).map fun n => some (.least .items n)
  | "minLength" => (limit? v).map fun n => some (.least .characters n)
  | "minProperties" => (limit? v).map fun n => some (.least .properties n)
  | "minimum" => (number? v).map fun n => some (.bound .atLeast n)
  | "multipleOf" => (number? v).map fun n => some (.multipleOf n.toDouble)
  | "not" => (sub v).map fun s => some (.no v s)
  | "oneOf" => (list? sub v).map fun ss => some (.one ss)
  | "pattern" => v.string?.bind fun s => (Pattern.read? s).map fun p => some (.pattern s p)
  | "patternProperties" =>
    if takesMembers parent then some none
    else (patternTable? sub v).map fun ps => some (.patternProperties ps)
  | "properties" =>
    if takesMembers parent then some none else (table? sub v).map fun ps => some (.properties ps)
  | "propertyNames" =>
    match v with
    | .object _ => (sub v).map fun s => some (.keyNames s)
    | .bool false => some (some .noKeys)
    | _ => some none
  | "required" => (texts? v).map fun keys => some (.required keys)
  | "type" => (kinds? v).map fun ks => some (.kinds ks)
  | "uniqueItems" => some (if v = .bool true then some .uniqueItems else none)
  | _ => some none

/--
The schema of a value that is nested at most `depth` deep. A reference stands alone, whatever is beside it.
-/
def ofJsonWithin : (depth : Nat) → Json → Option Schema
  | _, .bool true => some .accept
  | _, .bool false => some .refuse
  | depth + 1, .object ms =>
    match Members.get? "$ref" ms with
    | some v => v.string?.map .ref
    | none => do
      let parts ← ms.mapM fun (k, v) => keyword? (ofJsonWithin depth) ms k v
      return .all (parts.filterMap id)
  | _, _ => none

end Schema
end Triage
