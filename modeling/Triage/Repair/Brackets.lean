import Triage.Repair.Place

/-!
This module contains the completion of a text that breaks off: a string that is still open is closed, and
so are the open containers, the innermost first.
-/

namespace Triage
namespace Repair

/--
What is open at some point of a text: the place, and the closing characters of the open containers, the
innermost first.
-/
structure Nesting where
  place : Place
  closers : List Char
deriving DecidableEq

namespace Nesting

def start : Nesting := ⟨.outside, []⟩

/--
What is open after a character. A closing character that does not fit the innermost container is ignored.
-/
def next (n : Nesting) (c : Char) : Nesting :=
  let place := n.place.next c
  match n.place with
  | .outside =>
    if c = '{' then ⟨place, '}' :: n.closers⟩
    else if c = '[' then ⟨place, ']' :: n.closers⟩
    else if c = '}' ∨ c = ']' then
      match n.closers with
      | d :: closers => if c = d then ⟨place, closers⟩ else ⟨place, d :: closers⟩
      | [] => ⟨place, []⟩
    else ⟨place, n.closers⟩
  | _ => ⟨place, n.closers⟩

def after (n : Nesting) (cs : List Char) : Nesting :=
  cs.foldl next n

def closing (n : Nesting) : List Char :=
  if n.place = .outside then n.closers else '"' :: n.closers

@[simp]
theorem after_nil (n : Nesting) : n.after [] = n := rfl

@[simp]
theorem after_cons (n : Nesting) (c : Char) (cs : List Char) :
    n.after (c :: cs) = (n.next c).after cs := rfl

@[simp]
theorem place_next (n : Nesting) (c : Char) : (n.next c).place = n.place.next c := by
  unfold next
  grind

theorem place_after (n : Nesting) (cs : List Char) : (n.after cs).place = n.place.after cs := by
  induction cs generalizing n with
  | nil => rfl
  | cons c cs ih => rw [after_cons, ih, place_next, Place.after_cons]

theorem after_append (n : Nesting) (cs ds : List Char) :
    n.after (cs ++ ds) = (n.after cs).after ds :=
  List.foldl_append

end Nesting

def balance (cs : List Char) : List Char :=
  cs ++ (Nesting.start.after cs).closing

end Repair
end Triage
