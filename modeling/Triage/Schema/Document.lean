import Triage.Json.Depth
import Triage.Schema.Reader
import Triage.Text.Digits

/-!
This module contains schemas together with the document that their references point into, and the check of a
document against the rules for schemas.
-/

namespace Triage
namespace Schema

def count : Schema :=
  .all [.bound .atLeast (.integer .zero), .kinds [.integer]]

def text : Schema := .kinds [.string]

def number : Schema := .kinds [.number]

def textList : Schema :=
  .all [.items 0 text, .kinds [.array], .uniqueItems]

def isPattern : Schema :=
  .conventional (.format "regex") fun s => (Pattern.read? s).isSome

def self : Schema := .ref "#"

/--
A list of schemas that is not empty.
-/
def schemaList : Schema :=
  .all [.items 0 self, .least .items 1, .kinds [.array]]

def schemaTable : Schema :=
  .all [.members [] [] self, .kinds [.object]]

def kindName : Schema :=
  .options (Kind.all.map fun k => .string k.name)

def rules : Schema :=
  .all [
    .properties [
      ("$comment", text),
      ("$id", text),
      ("$ref", text),
      ("$schema", text),
      ("additionalItems", self),
      ("additionalProperties", self),
      ("allOf", schemaList),
      ("anyOf", schemaList),
      ("contains", self),
      ("contentEncoding", text),
      ("contentMediaType", text),
      ("definitions", schemaTable),
      ("dependencies", .all [.members [] [] (.any [self, textList]), .kinds [.object]]),
      ("description", text),
      ("else", self),
      ("enum", .kinds [.array]),
      ("examples", .kinds [.array]),
      ("exclusiveMaximum", number),
      ("exclusiveMinimum", number),
      ("format", text),
      ("if", self),
      ("items", .any [self, schemaList]),
      ("maxItems", count),
      ("maxLength", count),
      ("maxProperties", count),
      ("maximum", number),
      ("minItems", count),
      ("minLength", count),
      ("minProperties", count),
      ("minimum", number),
      ("multipleOf", .all [.bound .above (.integer .zero), .kinds [.number]]),
      ("not", self),
      ("oneOf", schemaList),
      ("pattern", .all [isPattern, .kinds [.string]]),
      ("patternProperties", .all [schemaTable, .keyNames isPattern]),
      ("properties", schemaTable),
      ("propertyNames", self),
      ("readOnly", .kinds [.boolean]),
      ("required", textList),
      ("then", self),
      ("title", text),
      ("type", .any [
        kindName,
        .all [.items 0 kindName, .least .items 1, .kinds [.array], .uniqueItems]]),
      ("uniqueItems", .kinds [.boolean])],
    .kinds [.boolean, .object]]

/--
The faults that a schema finds if references are followed at most `hops` times one inside of another. A
reference that leads nowhere is a fault of the whole value.
-/
def faultsWithin (lookup : String → Option Schema) : (hops : Nat) → Schema → Finder
  | 0, s => s.faults fun target _ _ => [⟨[], .reference target⟩]
  | hops + 1, s =>
    s.faults fun target path v =>
      match lookup target with
      | some s => faultsWithin lookup hops s path v
      | none => [⟨[], .reference target⟩]

def ruleFaults (v : Json) : List Violation :=
  faultsWithin (fun _ => some rules) v.depth rules [] v

/--
A schema in its document. `foreign` gives the schemas that references lead to which point to no place in the document.
-/
structure Document where
  root : Json
  schema : Schema
  foreign : String → Option Schema := fun _ => none

namespace Document

/--
A part of a pointer as a key: percent signs introduce bytes, and `~0` and `~1` stand for `~` and `/`.
-/
def keyOfPart? (part : String) : Option String := do
  let bytes ← decode part.toUTF8.toList
  let s ← String.fromUTF8? ⟨bytes.toArray⟩
  return String.ofList (unescape s.toList)
where
  decode : List UInt8 → Option (List UInt8)
    | [] => some []
    | b :: c :: d :: rest =>
      if b = '%'.toUInt8 then do
        let high ← Text.hexDigit? (Char.ofNat c.toNat)
        let low ← Text.hexDigit? (Char.ofNat d.toNat)
        return (high * 16 + low).toUInt8 :: (← decode rest)
      else do return b :: (← decode (c :: d :: rest))
    | b :: rest => do return b :: (← decode rest)
  unescape : List Char → List Char
    | '~' :: '1' :: cs => '/' :: unescape cs
    | '~' :: '0' :: cs => '~' :: unescape cs
    | c :: cs => c :: unescape cs
    | [] => []

def follow (v : Json) : List String → Option Json
  | [] => some v
  | k :: ks =>
    match v with
    | .object ms => (Members.get? k ms).bind fun w => follow w ks
    | .array vs =>
      (Text.natOfDigits? 10 k.toList).bind fun i => (vs[i]?).bind fun w => follow w ks
    | _ => none

/--
The schema that a reference points to: the document itself, a part of it, or a schema of another place.
-/
def lookup (d : Document) (target : String) : Option Schema :=
  match target.toList with
  | ['#'] | [] => some d.schema
  | '#' :: '/' :: cs => do
    let keys ← (String.ofList cs).splitOn "/" |>.mapM keyOfPart?
    let v ← follow d.root keys
    ofJsonWithin v.depth v
  | _ => d.foreign target

/--
The faults of a value. References are followed as often as a value of its depth can make it necessary.
-/
def faults (d : Document) (v : Json) : List Violation :=
  faultsWithin d.lookup (v.depth * (d.root.size + 1)) d.schema [] v

/--
The document of a value, if the value keeps the rules for schemas.
-/
def ofJson? (v : Json) : Option Document :=
  if (ruleFaults v).isEmpty then (ofJsonWithin v.depth v).map fun s => { root := v, schema := s } else none

def reportLimit : Nat := 5

/--
The report on a value: the wording of its first faults.
-/
def report (d : Document) (v : Json) : List String :=
  ((d.faults v).take reportLimit).map Violation.message

end Document
end Schema
end Triage
