import Triage.Schema.Document

/-!
This module contains what compiles schemas, and which schemas are read by `Document.ofJson?` as they are meant. These have no
formats, no content in other notations and no names of their own, refer to places in their own document only, and have
patterns of the notation that is read. Whatever else a library makes of other schemas is left open.
-/

namespace Triage
namespace Schema

/--
Whether a keyword with this value is read as it is meant.
-/
def isRead (key : String) (v : Json) : Bool :=
  match key, v with
  | "$id", _ | "format", _ | "contentEncoding", _ | "contentMediaType", _ => false
  | "$ref", .string target => target.toList.head? == some '#'
  | "pattern", .string s => (Pattern.read? s).isSome
  | "patternProperties", .object ms => ms.all fun (k, _) => (Pattern.read? k).isSome
  | _, _ => true

mutual

/--
Whether a schema has keywords only that are read as they are meant. Keys of other tables in it are taken for keywords too.
-/
def isCovered : Json → Bool
  | .array vs => areCovered vs
  | .object ms => membersAreCovered ms
  | .null | .bool _ | .number _ | .string _ => true
termination_by structural v => v

def areCovered : List Json → Bool
  | [] => true
  | v :: vs => isCovered v && areCovered vs
termination_by structural vs => vs

def membersAreCovered : List (String × Json) → Bool
  | [] => true
  | (k, v) :: ms => isRead k v && isCovered v && membersAreCovered ms
termination_by structural ms => ms

end

/--
What compiles schemas: `Document.ofJson?` for those that it covers, and anything for all others.
-/
structure Library where
  compile : Json → Option Document
  agrees : ∀ v, isCovered v = true → compile v = Document.ofJson? v

/--
The library that passes over the keywords which `keyword?` does not know.
-/
def Library.plain : Library where
  compile := Document.ofJson?
  agrees _ _ := rfl

end Schema
end Triage
