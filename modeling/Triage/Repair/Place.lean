/-!
This module contains the places at which a character of damaged JSON text can stand: outside of strings,
inside a string, or right after a backslash inside a string.
-/

namespace Triage
namespace Repair

/--
Where a character stands.
-/
inductive Place where
  | outside
  | inside
  | escaped
deriving DecidableEq

namespace Place

def next (place : Place) (c : Char) : Place :=
  match place with
  | .outside => if c = '"' then .inside else .outside
  | .inside => if c = '\\' then .escaped else if c = '"' then .outside else .inside
  | .escaped => .inside

def after (place : Place) (cs : List Char) : Place :=
  cs.foldl next place

@[simp]
theorem after_nil (place : Place) : place.after [] = place := rfl

@[simp]
theorem after_cons (place : Place) (c : Char) (cs : List Char) :
    place.after (c :: cs) = (place.next c).after cs := rfl

theorem after_append (place : Place) (cs ds : List Char) :
    place.after (cs ++ ds) = (place.after cs).after ds :=
  List.foldl_append

end Place
end Repair
end Triage
