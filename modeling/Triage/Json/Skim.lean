import Triage.Json.Reader

/-!
This module contains the reading of JSON text of which only the fields of records are wanted. What stands at other places is
skipped. It has to be well-formed as well, but no number is too large there, the halves of surrogate pairs may stand alone, and
there may be any number of open containers.
-/

namespace Triage
namespace Json

/--
What is wanted of a value.
-/
inductive Shape where
  /-- The value, which should be no container. -/
  | single
  /-- The items of an array. -/
  | list (item : Shape)
  /-- The fields of a record, in their order. -/
  | record (fields : List (String × Shape))

namespace Shape

/--
What is wanted of an item of an array, unless it is skipped. A record may be an array of its fields.
-/
def item? (i : Nat) : Shape → Option Shape
  | .single => none
  | .list item => some item
  | .record fields => fields[i]?.map Prod.snd

/--
What is wanted of a member of an object, unless it is skipped.
-/
def member? (key : String) : Shape → Option Shape
  | .single | .list _ => none
  | .record fields => Members.get? key fields

/--
What is wanted of the value that is read inside of some containers, unless it is skipped.
-/
def within? (s : Shape) : List Frame → Option Shape
  | [] => some s
  | .array items :: stack => (s.within? stack).bind (item? items.length)
  | .member _ key :: stack => (s.within? stack).bind (member? key)

end Shape

/--
The position inside a string whose escaped code units do not matter.
-/
def Escape.unvalued : Escape → Escape
  | .unit _ _ left => .unit Option.none 0 left
  | escape => escape

namespace Reader

/--
The reader after a character of a value that is skipped. A number is complete there, but it has no value.
-/
def skip (r : Reader) (c : Char) : Option Reader :=
  let limit := r.stack.length + 2
  match r.phase with
  | .text text escape => step limit { r with phase := .text text escape.unvalued } c
  | .keyText members text escape => step limit { r with phase := .keyText members text escape.unvalued } c
  | .digits state =>
    match extend? state c with
    | some state => some { r with phase := .digits state }
    | none => (numeral? state).bind fun _ => between limit (close r.stack .null) c
  | _ => r.step limit c

def skim (s : Shape) (r : Reader) (c : Char) : Option Reader :=
  match s.within? r.stack with
  | some _ => r.step depthLimit c
  | none => r.skip c

def runSkimming (s : Shape) (r : Reader) : List Char → Option Reader
  | [] => some r
  | c :: cs => (r.skim s c).bind fun r => r.runSkimming s cs

end Reader

/--
What is wanted of the value of a text, with something or other for what is skipped.
-/
def skim? (s : Shape) (text : String) : Option Json :=
  (Reader.start.runSkimming s text.toList).bind Reader.finish

end Json
end Triage
