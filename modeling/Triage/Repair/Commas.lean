import Triage.Repair.Place
import Triage.Text.Blank

/-!
This module contains the removal of trailing commas: a comma outside of strings whose next character that
is not blank closes a container is dropped together with the blanks behind it.
-/

namespace Triage
namespace Repair

open Text

def isCloser (c : Char) : Bool :=
  c = '}' || c = ']'

/--
Whether the first character that is not blank closes a container.
-/
def closesNext : List Char → Bool
  | [] => false
  | c :: cs => if isBlank c then closesNext cs else isCloser c

def dropCommas (cs : List Char) : List Char :=
  go .outside false cs
where
  /--
  The rest of a text from a place on; `skipping` says that blanks behind a dropped comma are dropped too.
  -/
  go (place : Place) (skipping : Bool) : List Char → List Char
    | [] => []
    | c :: cs =>
      if skipping && isBlank c then go place true cs
      else if place = .outside ∧ c = ',' ∧ closesNext cs then go place true cs
      else c :: go (place.next c) false cs

end Repair
end Triage
