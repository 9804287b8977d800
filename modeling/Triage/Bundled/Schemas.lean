import Triage.Text.Lines

/-!
This module contains the texts of the schemas for tickets and for their analyses.
-/

namespace Triage
namespace Bundled

def ticketSchema : String :=
  Text.ofLines [
    "\x7b",
    "  \"$schema\": \"http://json-schema.org/draft-07/schema#\",",
    "  \"title\": \"Normalized ticket input\",",
    "  \"type\": \"object\",",
    "  \"required\": [\"ticket_id\"],",
    "  \"properties\": \x7b",
    "    \"ticket_id\": \x7b\"type\": \"string\", \"minLength\": 1\x7d,",
    "    \"subject\": \x7b\"type\": \"string\"\x7d,",
    "    \"description\": \x7b\"type\": \"string\"\x7d,",
    "    \"description_text\": \x7b\"type\": \"string\"\x7d,",
    "    \"conversations\": \x7b",
    "      \"type\": \"array\",",
    "      \"items\": \x7b\"type\": \"object\"\x7d",
    "    \x7d,",
    "    \"custom_fields\": \x7b\"type\": \"object\"\x7d,",
    "    \"ticket_fields\": \x7b",
    "      \"type\": \"array\",",
    "      \"items\": \x7b",
    "        \"type\": \"object\",",
    "        \"required\": [\"name\"],",
    "        \"properties\": \x7b",
    "          \"name\": \x7b\"type\": \"string\"\x7d,",
    "          \"label\": \x7b\"type\": [\"string\", \"null\"]\x7d,",
    "          \"label_for_customers\": \x7b\"type\": [\"string\", \"null\"]\x7d,",
    "          \"type\": \x7b\"type\": [\"string\", \"null\"]\x7d",
    "        \x7d",
    "      \x7d",
    "    \x7d",
    "  \x7d",
    "\x7d"]

def analysisSchema : String :=
  Text.ofLines [
    "\x7b",
    "  \"$schema\": \"http://json-schema.org/draft-07/schema#\",",
    "  \"title\": \"Ticket analysis result\",",
    "  \"type\": \"object\",",
    "  \"required\": [\"analysis_id\", \"analysis\", \"gate\", \"meta\", \"success\"],",
    "  \"properties\": \x7b",
    "    \"analysis_id\": \x7b\"type\": \"string\", \"minLength\": 1\x7d,",
    "    \"gate\": \x7b\"type\": \"string\", \"enum\": [\"CONFIRM\", \"EDIT\", \"DECIDE\", \"TEACH\"]\x7d,",
    "    \"success\": \x7b\"type\": \"boolean\"\x7d,",
    "    \"error\": \x7b\"type\": [\"string\", \"null\"]\x7d,",
    "    \"analysis\": \x7b",
    "      \"type\": \"object\",",
    "      \"properties\": \x7b",
    "        \"confidence\": \x7b\"type\": \"number\", \"minimum\": 0, \"maximum\": 1\x7d,",
    "        \"intent\": \x7b\"type\": [\"string\", \"null\"]\x7d,",
    "        \"sentiment\": \x7b\"type\": [\"string\", \"null\"]\x7d,",
    "        \"root_cause\": \x7b\"type\": [\"string\", \"null\"]\x7d,",
    "        \"resolution\": \x7b\"type\": \"array\"\x7d,",
    "        \"open_questions\": \x7b\"type\": \"array\"\x7d,",
    "        \"risk_tags\": \x7b\"type\": \"array\"\x7d,",
    "        \"evidence\": \x7b\"type\": \"array\"\x7d,",
    "        \"field_proposals\": \x7b",
    "          \"type\": \"array\",",
    "          \"items\": \x7b",
    "            \"type\": \"object\",",
    "            \"required\": [\"field_name\"],",
    "            \"properties\": \x7b",
    "              \"field_name\": \x7b\"type\": \"string\"\x7d",
    "            \x7d",
    "          \x7d",
    "        \x7d",
    "      \x7d",
    "    \x7d,",
    "    \"meta\": \x7b",
    "      \"type\": \"object\",",
    "      \"required\": [\"llm_provider\", \"llm_model\", \"prompt_version\", \"latency_ms\", \"created_at\"],",
    "      \"properties\": \x7b",
    "        \"llm_provider\": \x7b\"type\": \"string\"\x7d,",
    "        \"llm_model\": \x7b\"type\": \"string\"\x7d,",
    "        \"prompt_version\": \x7b\"type\": \"string\"\x7d,",
    "        \"latency_ms\": \x7b\"type\": \"integer\", \"minimum\": 0\x7d,",
    "        \"retrieval_count\": \x7b\"type\": \"integer\", \"minimum\": 0\x7d,",
    "        \"created_at\": \x7b\"type\": \"string\"\x7d,",
    "        \"used_fallback\": \x7b\"type\": \"boolean\"\x7d,",
    "        \"attempts\": \x7b\"type\": \"integer\", \"minimum\": 0\x7d",
    "      \x7d",
    "    \x7d",
    "  \x7d",
    "\x7d"]

end Bundled
end Triage
