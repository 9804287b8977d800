import Triage.Template.Body.Reader

/-!
This module contains templates: texts with tags that print values, choose, repeat and name.
-/

namespace Triage
namespace Template

/--
The body of a template, if the template is well formed.
-/
def read? (template : String) : Option Body := do
  let tokens ← Token.scan? template
  let ((body, _), _) ← (Body.read (16 * tokens.length + 16) []).run tokens
  return body

/--
The names at the start of a template: the members of an object.
-/
def scopeOf : Json → Scope
  | .object members => Value.ofMembers members
  | _ => []

/--
The text of a template with the members of `context` as its names, if the template is well formed and uses
the values of names in ways that they allow.
-/
def render? (template : String) (context : Json) : Option String := do
  let body ← read? template
  let (text, _) ← body.render (scopeOf context)
  return text

end Template
end Triage
