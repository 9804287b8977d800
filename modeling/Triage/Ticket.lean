import Triage.Json.Value
import Triage.Text.Blank

/-!
This module contains helpdesk tickets in their normalized form, and the summary of the fields that an
analysis may propose values for.
-/

namespace Triage

/--
The definition of a field of tickets.
-/
structure Ticket.Field where
  name : String
  label : Option String
  labelForCustomers : Option String
  kind : Option String
deriving DecidableEq

/--
A ticket. `legacyDescription` is an older place for the description.
-/
structure Ticket where
  id : String
  subject : String
  description : String
  legacyDescription : Option String
  conversations : List Json
  customFields : Json.Object
  fields : List Ticket.Field
deriving DecidableEq

namespace Ticket

/--
The label of a field: the one for agents if it is not empty, else the one for customers.
-/
def Field.displayLabel (f : Field) : String :=
  match f.label with
  | some label => if label = "" then f.labelForCustomers.getD "" else label
  | none => f.labelForCustomers.getD ""

def Field.summary (f : Field) : String :=
  "- " ++ f.name ++ " (" ++ f.displayLabel ++ "): " ++ f.kind.getD ""

/--
The number of fields that a summary lists; the rest is left out.
-/
def summaryLimit : Nat := 30

def summarize (fields : List Field) : String :=
  if fields.isEmpty then "(no field schema)"
  else "\n".intercalate ((fields.take summaryLimit).map Field.summary)

/--
The description, or the one in the older place if it is empty.
-/
def effectiveDescription (t : Ticket) : String :=
  if t.description = "" then t.legacyDescription.getD "" else t.description

end Ticket
end Triage
