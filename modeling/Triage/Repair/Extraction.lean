/-!
This module contains the choice of the part of a text that can be a JSON object or array: prose in front of
it and behind it is cut off.
-/

namespace Triage
namespace Repair

/--
The part of a text from the first `left` to the last `right`, if the latter stands behind the former.
-/
def between? (left right : Char) (cs : List Char) : Option (List Char) :=
  let rest := cs.dropWhile (· ≠ left)
  let part := (rest.reverse.dropWhile (· ≠ right)).reverse
  if part.isEmpty then none else some part

/--
The part of a text from the first opening to the last closing brace, else the one between brackets, else
the whole text.
-/
def extract (cs : List Char) : List Char :=
  match between? '{' '}' cs with
  | some part => part
  | none => (between? '[' ']' cs).getD cs

end Repair
end Triage
