import Triage.Json.Compare
import Triage.Json.Writer

/-!
This module contains the faults that a schema finds in a value, with their places and their wording.
-/

namespace Triage
namespace Schema

/--
The kinds of values that a schema can ask for, in the order in which they are listed.
-/
inductive Kind where
  | array
  | boolean
  | integer
  | null
  | number
  | object
  | string
deriving DecidableEq

namespace Kind

def all : List Kind := [array, boolean, integer, null, number, object, string]

def name : Kind → String
  | array => "array"
  | boolean => "boolean"
  | integer => "integer"
  | null => "null"
  | number => "number"
  | object => "object"
  | string => "string"

def admits (v : Json) : Kind → Bool
  | array => match v with | .array _ => true | _ => false
  | boolean => match v with | .bool _ => true | _ => false
  | integer => match v with | .number n => n.isWhole | _ => false
  | null => match v with | .null => true | _ => false
  | number => match v with | .number _ => true | _ => false
  | object => match v with | .object _ => true | _ => false
  | string => match v with | .string _ => true | _ => false

end Kind

/--
The bounds of numbers.
-/
inductive Bound where
  | atLeast
  | atMost
  | above
  | below
deriving DecidableEq

/--
What sizes are counted in.
-/
inductive Measure where
  | characters
  | items
  | properties
deriving DecidableEq

/--
What texts are asked to be by a name.
-/
inductive Convention where
  /-- Of a format, such as that of dates. -/
  | format (name : String)
  /-- A document of a media type. -/
  | mediaType (name : String)
  /-- Bytes in an encoding. -/
  | encoding (name : String)
deriving DecidableEq

/--
What is wrong with a value.
-/
inductive Fault where
  | refused (v : Json)
  | kind (v : Json) (kinds : List Kind)
  | missing (key : String)
  | tooSmall (v : Json) (unit : Measure) (limit : Nat)
  | tooLarge (v : Json) (unit : Measure) (limit : Nat)
  | bound (v : Json) (bound : Bound) (limit : Json.Number)
  | multiple (v : Json) (divisor : Double)
  | option (v : Json) (options : List Json)
  | constant (expected : Json)
  | repeatedItems (v : Json)
  | unexpectedKeys (keys : List String)
  | unexpectedItems (items : List Json)
  | noneContained (v : Json)
  | noneOfAny (v : Json)
  | noneOfOne (v : Json)
  | severalOfOne (v : Json)
  | forbidden (schema : Json) (v : Json)
  | pattern (v : Json) (pattern : String)
  | unconventional (v : Json) (convention : Convention)
  | reference (target : String)

namespace Fault

def unitName (n : Nat) : Measure → String
  | .characters => if n = 1 then "character" else "characters"
  | .items => if n = 1 then "item" else "items"
  | .properties => if n = 1 then "property" else "properties"

/--
The end of the list of what was not expected.
-/
def unexpectedEnd (n : Nat) : String :=
  if n = 1 then " was unexpected)" else " were unexpected)"

/--
The decimal of a divisor: positional, and without a point if it is whole.
-/
def divisorText (x : Double) : String :=
  String.ofList (Decimal.Layout.plain.render x)

def message : Fault → String
  | refused v => "False schema does not allow " ++ v.compact
  | kind v kinds =>
    let names := kinds.map fun k => "\"" ++ k.name ++ "\""
    match names with
    | [name] => v.compact ++ " is not of type " ++ name
    | _ => v.compact ++ " is not of types " ++ ", ".intercalate names
  | missing key => (Json.string key).compact ++ " is a required property"
  | tooSmall v unit limit =>
    match unit with
    | .characters => v.compact ++ " is shorter than " ++ toString limit ++ " " ++ unitName limit unit
    | _ => v.compact ++ " has less than " ++ toString limit ++ " " ++ unitName limit unit
  | tooLarge v unit limit =>
    match unit with
    | .characters => v.compact ++ " is longer than " ++ toString limit ++ " " ++ unitName limit unit
    | _ => v.compact ++ " has more than " ++ toString limit ++ " " ++ unitName limit unit
  | bound v b limit =>
    let relation :=
      match b with
      | .atLeast => " is less than the minimum of "
      | .atMost => " is greater than the maximum of "
      | .above => " is less than or equal to the minimum of "
      | .below => " is greater than or equal to the maximum of "
    v.compact ++ relation ++ (Json.number limit).compact
  | multiple v divisor => v.compact ++ " is not a multiple of " ++ divisorText divisor
  | option v options => v.compact ++ " is not one of " ++ (Json.array options).compact
  | constant expected => expected.compact ++ " was expected"
  | repeatedItems v => v.compact ++ " has non-unique elements"
  | unexpectedKeys keys =>
    "Additional properties are not allowed (" ++ ", ".intercalate (keys.map fun k => "'" ++ k ++ "'")
      ++ unexpectedEnd keys.length
  | unexpectedItems items =>
    "Additional items are not allowed (" ++ ", ".intercalate (items.map Json.compact)
      ++ unexpectedEnd items.length
  | noneContained v => "None of " ++ v.compact ++ " are valid under the given schema"
  | noneOfAny v => v.compact ++ " is not valid under any of the schemas listed in the 'anyOf' keyword"
  | noneOfOne v => v.compact ++ " is not valid under any of the schemas listed in the 'oneOf' keyword"
  | severalOfOne v =>
    v.compact ++ " is valid under more than one of the schemas listed in the 'oneOf' keyword"
  | forbidden schema v => schema.compact ++ " is not allowed for " ++ v.compact
  | pattern v p => v.compact ++ " does not match \"" ++ p ++ "\""
  | unconventional v (.format name) => v.compact ++ " is not a \"" ++ name ++ "\""
  | unconventional v (.mediaType name) => v.compact ++ " is not compliant with \"" ++ name ++ "\" media type"
  | unconventional v (.encoding name) => v.compact ++ " is not compliant with \"" ++ name ++ "\" content encoding"
  | reference target => "Invalid reference: json-schema:///" ++ target

end Fault

/--
A fault with its place: the keys and indices that lead to it.
-/
structure Violation where
  path : List String
  fault : Fault

namespace Violation

/--
A key as a part of a pointer: `~` and `/` are written as `~0` and `~1`.
-/
def pointerPart (key : String) : String :=
  String.ofList <| key.toList.flatMap fun c =>
    if c = '~' then ['~', '0'] else if c = '/' then ['~', '1'] else [c]

def pointer (parts : List String) : String :=
  String.join (parts.map ("/" ++ ·))

/--
A pointer as it is shown: without the slashes at its start, with dots in place of the others, and `$` if nothing
is left.
-/
def shownPointer (pointer : String) : String :=
  let cs := pointer.toList.dropWhile (· == '/')
  if cs.isEmpty then "$" else String.ofList (cs.map fun c => if c = '/' then '.' else c)

def message (v : Violation) : String :=
  shownPointer (pointer (v.path.map pointerPart)) ++ ": " ++ v.fault.message

end Violation
end Schema
end Triage
