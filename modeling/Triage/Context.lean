import Triage.Analysis
import Triage.Ticket

/-!
This module contains the context of a prompt: everything about a ticket that a prompt can name.
-/

namespace Triage

/--
What a prompt can name.
-/
structure Context where
  ticketId : String
  subject : String
  description : String
  conversations : List Json
  customFields : Json.Object
  fieldsSummary : String
  similarCases : List Json
  articles : List Json
  includeEvidence : Bool
  responseTone : String
deriving DecidableEq

namespace Context

/--
The text, or `placeholder` if the text holds nothing but blanks.
-/
def orPlaceholder (text placeholder : String) : String :=
  if Text.isAllBlank text then placeholder else text

def build (t : Ticket) (options : Analysis.Options) (similarCases articles : List Json) : Context :=
  { ticketId := t.id
    subject := orPlaceholder t.subject "(no subject)"
    description := orPlaceholder t.effectiveDescription "(no description)"
    conversations := t.conversations
    customFields := t.customFields
    fieldsSummary := Ticket.summarize t.fields
    similarCases := similarCases
    articles := articles
    includeEvidence := options.includeEvidence
    responseTone := options.responseTone }

def retrievalCount (c : Context) : Nat :=
  c.similarCases.length + c.articles.length

def toJson (c : Context) : Json :=
  .object [
    ("conversations", .array c.conversations),
    ("custom_fields", .object c.customFields),
    ("description", .string c.description),
    ("include_evidence", .bool c.includeEvidence),
    ("kb_articles", .array c.articles),
    ("response_tone", .string c.responseTone),
    ("similar_cases", .array c.similarCases),
    ("subject", .string c.subject),
    ("ticket_fields_summary", .string c.fieldsSummary),
    ("ticket_id", .string c.ticketId)]

end Context
end Triage
