import Triage.Template.Expr
import Triage.Text.Blank
import Triage.Text.Case

/-!
This module contains the operations, filters and tests of templates. Each of them fails on values that it
has no meaning for. Of the filters and tests those are here whose names are listed; an engine has more of them.
-/

namespace Triage
namespace Template
namespace Value

/--
The least natural number that is no integer of the language.
-/
def integerLimit : Nat := 1 <<< 127

/--
An integer, if it fits 128 bits with a sign.
-/
def ofInt? (n : Int) : Option Value :=
  if -integerLimit ≤ n ∧ n < integerLimit then some (.integer n) else none

def arithmetic (onIntegers : Int → Int → Option Int) (onReals : Double → Double → Double) (x y : Value) :
    Option Value :=
  match pair? x y with
  | some (.integers a b) => (onIntegers a b).bind ofInt?
  | some (.reals a b) => some (.real (onReals a b))
  | none => none

/--
The quotient of two floating point numbers without its fraction, such that the remainder is not negative.
-/
def floorQuotient (a b : Double) : Double :=
  let q := a.div b
  let whole : Double :=
    match q.truncate? with
    | some n => Binary.ofScaled n 0 q.isNegative
    | none => q
  let r := a.rem b
  if r.lt 0 then if Binary.lt 0 b then whole.sub (Binary.ofInt 1) else whole.add (Binary.ofInt 1) else whole

/--
How often something is repeated, if a value can say so.
-/
def times? (v : Value) : Option Nat :=
  v.integer?.bind fun n => if 0 ≤ n then some n.toNat else none

/--
The sum of numbers; texts and lists are put together.
-/
def add : Value → Value → Option Value
  | .text s, .text t => some (.text (s ++ t))
  | .list xs, .list ys => some (.list (xs ++ ys))
  | x, y => arithmetic (fun a b => some (a + b)) Binary.add x y

/--
The product of numbers; texts and lists are repeated.
-/
def mul : Value → Value → Option Value
  | .text s, n | n, .text s => n.times?.map fun k => .text (String.join (List.replicate k s))
  | .list xs, n | n, .list xs => n.times?.map fun k => .list (List.replicate k xs).flatten
  | x, y => arithmetic (fun a b => some (a * b)) Binary.mul x y

/--
The quotient of numbers, which is always a floating point number.
-/
def div (x y : Value) : Option Value :=
  match x.real?, y.real? with
  | some a, some b => some (.real (a.div b))
  | _, _ => none

/--
Whether `part` occurs in a text.
-/
def occursIn (part : List Char) : List Char → Bool
  | [] => part.isEmpty
  | c :: cs => part.isPrefixOf (c :: cs) || occursIn part cs

/--
Whether a value is an item of a list, a name in a map or a part of a text.
-/
def isMember (v : Value) : Value → Option Bool
  | .undefined => some false
  | .text s => some (occursIn v.shown.toList s.toList)
  | .list items => some (items.any (isEqual · v))
  | .map members =>
    match v with
    | .text key => some (Members.contains key members)
    | _ => some false
  | _ => none

/--
The property of the name `key`. What is not there has no properties, not even undefined ones.
-/
def property (key : String) : Value → Option Value
  | .undefined => none
  | .map members => some ((Members.get? key members).getD .undefined)
  | _ => some .undefined

/--
The place in a sequence that an integer stands for; negative ones count from the end.
-/
def place? (length : Nat) (v : Value) : Option Nat :=
  v.integer?.bind fun n =>
    if 0 ≤ n then some n.toNat
    else if n.natAbs ≤ length then some (length - n.natAbs)
    else none

def item (key : Value) : Value → Option Value
  | .undefined => none
  | .map members =>
    match key with
    | .text k => some ((Members.get? k members).getD .undefined)
    | _ => some .undefined
  | .list items =>
    some (((place? items.length key).bind fun i => items[i]?).getD .undefined)
  | .text s =>
    let cs := s.toList
    some (((place? cs.length key).bind fun i => (cs[i]?).map fun c => .text c.toString).getD .undefined)
  | _ => some .undefined

/--
The values that a loop over a value goes through.
-/
def steps : Value → Option (List Value)
  | .undefined | .null => some []
  | .text s => some (s.toList.map fun c => .text c.toString)
  | .list items => some items
  | .map members => some (members.map fun (k, _) => .text k)
  | _ => none

/--
The values that a value is taken apart into.
-/
def parts : Value → Option (List Value)
  | .list items => some items
  | .map members => some (members.map fun (k, _) => .text k)
  | _ => none

end Value

namespace Operation

def run : Operation → Value → Value → Option Value
  | add, x, y => x.add y
  | sub, x, y => Value.arithmetic (fun a b => some (a - b)) Binary.sub x y
  | mul, x, y => x.mul y
  | div, x, y => x.div y
  | divFloor, x, y =>
    Value.arithmetic (fun a b => if b = 0 then none else some (a / b)) Value.floorQuotient x y
  | mod, x, y => Value.arithmetic (fun a b => if b = 0 then none else some (a % b)) Binary.rem x y
  | concat, x, y => some (.text (x.shown ++ y.shown))
  | equal, x, y => some (.bool (x.isEqual y))
  | unequal, x, y => some (.bool !(x.isEqual y))
  | less, x, y => some (.bool (x.order y == .lt))
  | lessEqual, x, y => some (.bool (x.order y != .gt))
  | greater, x, y => some (.bool (x.order y == .gt))
  | greaterEqual, x, y => some (.bool (x.order y != .lt))
  | member, x, y => (x.isMember y).map Value.bool

end Operation

namespace Filter

/--
An argument that may be left out; nothing counts as left out.
-/
def given? : Value → Option Value
  | .undefined | .null => none
  | v => some v

/--
The value in place of what is not there, or with the flag, in place of everything that does not count as true.
-/
def default (v : Value) : List Value → Option Value
  | [] => some (if v.isDefined then v else .text "")
  | [other] => some (if v.isDefined then v else other)
  | [other, flag] =>
    match given? flag with
    | none => some (if v.isDefined then v else other)
    | some (.bool b) => some (if !v.isDefined || (b && !v.isTrue) then other else v)
    | some _ => none
  | _ => none

def length : Value → Option Value
  | .text s => some (.integer s.toList.length)
  | .list items => some (.integer items.length)
  | .map members => some (.integer members.length)
  | _ => none

def trim (v : Value) : List Value → Option Value
  | [] => some (trimmed Text.isBlank)
  | [chars] =>
    match given? chars with
    | none => some (trimmed Text.isBlank)
    | some chars => some (trimmed fun c => chars.shown.toList.contains c)
  | _ => none
where
  trimmed (p : Char → Bool) : Value :=
    .text (String.ofList (((v.shown.toList.dropWhile p).reverse.dropWhile p).reverse))

/--
What a list of values looks like one after another, with a text between them once anything stands in front.
-/
def joined (between : String) (vs : List Value) : String :=
  vs.foldl (fun s v => if s.isEmpty then v.shown else s ++ between ++ v.shown) ""

def join (v : Value) : List Value → Option Value
  | [] => v.steps.map fun vs => .text (joined "" vs)
  | [between] => v.steps.map fun vs => .text (joined (((given? between).map Value.shown).getD "") vs)
  | _ => none

def first : Value → Option Value
  | .undefined | .null => none
  | v => v.steps.map fun vs => vs.head?.getD .undefined

def last : Value → Option Value
  | .map _ | .undefined | .null => none
  | v => v.steps.map fun vs => vs.getLast?.getD .undefined

def items : Value → Option Value
  | .map members => some (.list (members.map fun (k, v) => .list [.text k, v]))
  | _ => none

/--
A text with its first letter in upper case and all others in lower case.
-/
def capitalized (s : String) : String :=
  match s.toList with
  | [] => ""
  | c :: cs => Text.uppercased c.toString ++ Text.lowercased (String.ofList cs)

/--
The names of the filters that `run` knows.
-/
def names : List String :=
  ["default", "d", "length", "count", "string", "bool", "upper", "lower", "capitalize", "trim", "join", "first", "last", "items"]

def run (name : String) (v : Value) (arguments : List Value) : Option Value :=
  match name, arguments with
  | "default", _ | "d", _ => default v arguments
  | "length", [] | "count", [] => length v
  | "string", [] => some (.text v.shown)
  | "bool", [] => some (.bool v.isTrue)
  | "upper", [] => some (.text (Text.uppercased v.shown))
  | "lower", [] => some (.text (Text.lowercased v.shown))
  | "capitalize", [] => some (.text (capitalized v.shown))
  | "trim", _ => trim v arguments
  | "join", _ => join v arguments
  | "first", [] => first v
  | "last", [] => last v
  | "items", [] => items v
  | _, _ => none

end Filter

namespace Test

/--
The names of the tests that `run` knows.
-/
def names : List String :=
  ["defined", "undefined", "none", "boolean", "number", "integer", "float", "string", "sequence", "mapping", "true", "false",
    "odd", "even", "startingwith", "endingwith", "eq", "equalto", "ne", "lt", "lessthan", "le", "gt", "greaterthan", "ge"]

def isNumber : Value → Bool
  | .integer _ | .real _ => true
  | _ => false

/--
Whether a value is an integer with a remainder by two for which `p` holds.
-/
def hasParity (p : Int → Bool) (v : Value) : Bool :=
  v.integer?.any fun n => p (n % 2)

def run (name : String) (v : Value) (arguments : List Value) : Option Bool :=
  match name, arguments with
  | "defined", [] => some v.isDefined
  | "undefined", [] => some !v.isDefined
  | "none", [] => some v.isNull
  | "boolean", [] => some (v matches .bool _)
  | "number", [] => some (isNumber v)
  | "integer", [] => some (v matches .integer _)
  | "float", [] => some (v matches .real _)
  | "string", [] => some (v matches .text _)
  | "sequence", [] => some (v matches .list _)
  | "mapping", [] => some (v matches .map _)
  | "true", [] => some (v matches .bool true)
  | "false", [] => some (v matches .bool false)
  | "odd", [] => some (hasParity (· != 0) v)
  | "even", [] => some (hasParity (· == 0) v)
  | "startingwith", [w] => some (w.shown.toList.isPrefixOf v.shown.toList)
  | "endingwith", [w] => some (w.shown.toList.isSuffixOf v.shown.toList)
  | "eq", [w] | "equalto", [w] => some (v.isEqual w)
  | "ne", [w] => some !(v.isEqual w)
  | "lt", [w] | "lessthan", [w] => some (v.order w == .lt)
  | "le", [w] => some (v.order w != .gt)
  | "gt", [w] | "greaterthan", [w] => some (v.order w == .gt)
  | "ge", [w] => some (v.order w != .lt)
  | _, _ => none

end Test
end Template
end Triage
