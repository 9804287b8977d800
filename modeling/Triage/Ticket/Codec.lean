import Triage.Json.Fields
import Triage.Ticket

/-!
This module contains the JSON form of tickets.
-/

namespace Triage

open Json

namespace Ticket

def Field.toJson (f : Field) : Json :=
  .object [
    ("name", .string f.name),
    ("label", ofString? f.label),
    ("label_for_customers", ofString? f.labelForCustomers),
    ("type", ofString? f.kind)]

def Field.ofJson? (v : Json) : Option Field := do
  let f ← Fields.ofJson? ["name", "label", "label_for_customers", "type"] v
  return {
    name := ← f.required "name" Decode.string
    label := ← f.orDefault "label" (Fields.nullable Decode.string) none
    labelForCustomers := ← f.orDefault "label_for_customers" (Fields.nullable Decode.string) none
    kind := ← f.orDefault "type" (Fields.nullable Decode.string) none }

def keys : List String :=
  ["ticket_id", "subject", "description", "description_text", "conversations", "custom_fields",
    "ticket_fields"]

def toJson (t : Ticket) : Json :=
  .object <|
    [("ticket_id", .string t.id), ("subject", .string t.subject),
      ("description", .string t.description)]
    ++ memberIf "description_text" (t.legacyDescription.map .string)
    ++ [("conversations", .array t.conversations), ("custom_fields", .object t.customFields),
      ("ticket_fields", .array (t.fields.map Field.toJson))]

def ofJson? (v : Json) : Option Ticket := do
  let f ← Fields.ofJson? keys v
  return {
    id := ← f.required "ticket_id" Decode.string
    subject := ← f.orDefault "subject" Decode.string ""
    description := ← f.orDefault "description" Decode.string ""
    legacyDescription := ← f.orDefault "description_text" (Fields.nullable Decode.string) none
    conversations := ← f.orDefault "conversations" (Decode.list Decode.value) []
    customFields := ← f.orDefault "custom_fields" Decode.object []
    fields := ← f.orDefault "ticket_fields" (Decode.list Field.ofJson?) [] }

end Ticket
end Triage
