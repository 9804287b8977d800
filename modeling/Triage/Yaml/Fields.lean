import Triage.Decimal.Numeral
import Triage.Json.Members
import Triage.Text.Digits
import Triage.Yaml.Node

/-!
This module contains the reading of typed values from YAML. A plain scalar is a number or a truth value if
it is written like one and such a value is asked for; where a text is asked for, every scalar is its text.
-/

namespace Triage
namespace Yaml

open Decimal

namespace Node

def text? : Node → Option String
  | .scalar text _ => some text
  | _ => none

def isEmpty : Node → Bool
  | .scalar text plain => plain && text.isEmpty
  | _ => false

/--
Whether a node says that there is no value.
-/
def isNull : Node → Bool
  | .scalar text plain => plain && ["", "~", "null", "Null", "NULL"].contains text
  | _ => false

/--
The text of a scalar, unless the node says that there is no value.
-/
def optionalText? (n : Node) : Option (Option String) :=
  if n.isNull then some none else n.text?.map some

def bool? : Node → Option Bool
  | .scalar text true =>
    if ["true", "True", "TRUE"].contains text then some true
    else if ["false", "False", "FALSE"].contains text then some false
    else none
  | _ => none

/--
The natural number that a text stands for, with a plus sign if any: `0x`, `0o` and `0b` introduce other
bases than ten, and with base ten no digits follow a leading zero.
-/
def natOfText? (cs : List Char) : Option Nat :=
  let cs :=
    match cs with
    | '+' :: cs => cs
    | cs => cs
  match cs with
  | '0' :: 'x' :: digits => Text.natOfDigits? 16 digits
  | '0' :: 'o' :: digits => Text.natOfDigits? 8 digits
  | '0' :: 'b' :: digits => Text.natOfDigits? 2 digits
  | '0' :: _ :: _ => none
  | cs => Text.natOfDigits? 10 cs

/--
A natural number that fits 32 bits.
-/
def uint32? : Node → Option UInt32
  | .scalar text true =>
    (natOfText? text.toList).bind fun n => if n < UInt32.size then some n.toUInt32 else none
  | _ => none

/--
A floating point number. A numeral that is too large for one is none.
-/
def double? : Node → Option Double
  | .scalar text true =>
    if [".inf", ".Inf", ".INF", "+.inf", "+.Inf", "+.INF"].contains text then some (Binary.infinite false)
    else if ["-.inf", "-.Inf", "-.INF"].contains text then some (Binary.infinite true)
    else if [".nan", ".NaN", ".NAN"].contains text then some .nan
    else
      match text.toList with
      | '+' :: '+' :: _ | '+' :: '-' :: _ => none
      | cs =>
        (Numeral.read? cs).bind fun n => if n.toDouble.isFinite then some n.toDouble else none
  | _ => none

/--
The items of a list; there are none where nothing is written.
-/
def items? : Node → Option (List Node)
  | .list items => some items
  | n => if n.isEmpty then some [] else none

/--
The entries of a map whose keys are texts; there are none where nothing is written.
-/
def fields? : Node → Option (Members Node)
  | .map entries => entries.mapM fun (key, value) => key.text?.map (·, value)
  | n => if n.isEmpty then some [] else none

/--
A map from texts to texts, in increasing order of the keys. Of entries with one key the last counts.
-/
def texts? (n : Node) : Option (Members String) :=
  n.fields?.bind fun fields =>
    (fields.mapM fun (m : String × Node) => m.2.text?.map (m.1, ·)).map Members.sorted

/--
The entries of a map that has none of the `known` keys twice.
-/
def record? (known : List String) (n : Node) : Option (Members Node) :=
  n.fields?.bind fun fields =>
    if known.all fun key => (fields.filter (·.1 == key)).length ≤ 1 then some fields else none

end Node

/--
The value of a field, or `default` if the field is not there.
-/
def fieldOr {α : Type} (fields : Members Node) (key : String) (read : Node → Option α) (default : α) :
    Option α :=
  match fields.get? key with
  | some n => read n
  | none => some default

end Yaml
end Triage
