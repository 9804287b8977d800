import Triage.Json.Value
import Triage.Text.Quoted

/-!
This module contains the values of templates: the JSON values, a value for what is not there, and integers
without the bounds that JSON has. It says what they look like in a text, which of them count as true, and
how they compare.
-/

namespace Triage
namespace Template

/--
A value of a template. The names in a map increase.
-/
inductive Value where
  | undefined
  | null
  | bool (b : Bool)
  | integer (n : Int)
  | real (x : Double)
  | text (s : String)
  | list (items : List Value)
  | map (members : List (String × Value))

namespace Value

instance : Inhabited Value := ⟨.undefined⟩

mutual

def ofJson : Json → Value
  | .null => .null
  | .bool b => .bool b
  | .number (.integer n) => .integer n.val
  | .number (.real x _) => .real x
  | .string s => .text s
  | .array items => .list (ofItems items)
  | .object members => .map (ofMembers members)
termination_by structural v => v

def ofItems : List Json → List Value
  | [] => []
  | v :: vs => ofJson v :: ofItems vs
termination_by structural vs => vs

def ofMembers : List (String × Json) → List (String × Value)
  | [] => []
  | (k, v) :: ms => (k, ofJson v) :: ofMembers ms
termination_by structural ms => ms

end

def isDefined : Value → Bool
  | .undefined => false
  | _ => true

def isNull : Value → Bool
  | .null => true
  | _ => false

/--
Whether a value counts as true. Zero, nothing, and what is empty does not.
-/
def isTrue : Value → Bool
  | .undefined | .null => false
  | .bool b => b
  | .integer n => n != 0
  | .real x => !x.isZero
  | .text s => !s.isEmpty
  | .list items => !items.isEmpty
  | .map members => !members.isEmpty

/--
The layout of floating point numbers: always positional, and always with a point.
-/
def realLayout : Decimal.Layout :=
  { positional := none, pointZero := true, tie := .up, infinityText := "inf", nanText := "NaN" }

def separated : List (List Char) → List Char
  | [] => []
  | [cs] => cs
  | cs :: rest => cs ++ [',', ' '] ++ separated rest

mutual

def inner : Value → List Char
  | .undefined => "Undefined".toList
  | .null => "None".toList
  | .bool b => if b then "True".toList else "False".toList
  | .integer n => Json.Number.integerChars n
  | .real x => realLayout.render x
  | .text s => Text.quoted s.toList
  | .list items => '[' :: (separated (innerItems items) ++ [']'])
  | .map members => '\x7b' :: (separated (innerMembers members) ++ ['\x7d'])
termination_by structural v => v

def innerItems : List Value → List (List Char)
  | [] => []
  | v :: vs => inner v :: innerItems vs
termination_by structural vs => vs

def innerMembers : List (String × Value) → List (List Char)
  | [] => []
  | (k, v) :: ms => (Text.quoted k.toList ++ [':', ' '] ++ inner v) :: innerMembers ms
termination_by structural ms => ms

end

/--
What a value looks like in a text. A text is itself, and what is not there is nothing.
-/
def shown : Value → String
  | .undefined => ""
  | .text s => s
  | v => String.ofList v.inner

def integer? : Value → Option Int
  | .bool b => some (if b then 1 else 0)
  | .integer n => some n
  | .real x => if x.isInteger then x.truncate? else none
  | _ => none

/--
The floating point number nearest to a number or a truth value.
-/
def real? : Value → Option Double
  | .bool b => some (Binary.ofInt (if b then 1 else 0))
  | .integer n => some (Binary.ofInt n)
  | .real x => some x
  | _ => none

/--
Two numbers of one kind. A truth value counts as an integer, and an integer beside a floating point number
as such a number.
-/
inductive Pair where
  | integers (a b : Int)
  | reals (a b : Double)

/--
Two values as numbers of one kind.
-/
def pair? (x y : Value) : Option Pair :=
  match x, y with
  | .real a, _ => y.real?.map (.reals a)
  | _, .real b => x.real?.map (.reals · b)
  | _, _ =>
    match x.integer?, y.integer? with
    | some a, some b => some (.integers a b)
    | _, _ => none

/--
The place of a kind of values among the kinds, by which values of different kinds are ordered.
-/
def rank : Value → Nat
  | .undefined => 0
  | .null => 1
  | .bool _ => 2
  | .integer _ | .real _ => 3
  | .text _ => 4
  | .list _ => 5
  | .map _ => 6

def isEqualNumber (x y : Value) : Bool :=
  match pair? x y with
  | some (.integers a b) => a == b
  | some (.reals a b) => a.eq b
  | none => false

mutual

/--
Whether two values are equal. Numbers are equal if they have the same value, whatever their kind is.
-/
def isEqual : Value → Value → Bool
  | .undefined, .undefined => true
  | .null, .null => true
  | .text s, .text t => s == t
  | .list xs, .list ys => areEqual xs ys
  | .map xs, .map ys => areEqualMembers xs ys
  | .bool b, y => isEqualNumber (.bool b) y
  | .integer n, y => isEqualNumber (.integer n) y
  | .real a, y => isEqualNumber (.real a) y
  | _, _ => false
termination_by structural x => x

def areEqual : List Value → List Value → Bool
  | [], [] => true
  | x :: xs, y :: ys => isEqual x y && areEqual xs ys
  | _, _ => false
termination_by structural xs => xs

def areEqualMembers : List (String × Value) → List (String × Value) → Bool
  | [], [] => true
  | (k, x) :: xs, (l, y) :: ys => k == l && isEqual x y && areEqualMembers xs ys
  | _, _ => false
termination_by structural xs => xs

end

/--
The place of a floating point number among all of them, the negative zero below zero and `nan` above all.
-/
def position : Double → Int
  | .nan => UInt64.size
  | .signed negative r _ => if negative then -(r : Int) - 1 else r

mutual

/--
The order of two values. Values of different kinds are ordered by their kinds.
-/
def order : Value → Value → Ordering
  | .text s, .text t => compare s t
  | .list xs, .list ys => orderItems xs ys
  | .map xs, .map ys => orderMembers xs ys
  | x, y =>
    if x.rank = y.rank then
      match pair? x y with
      | some (.integers a b) => compare a b
      | some (.reals a b) => compare (position a) (position b)
      | none => .eq
    else
      compare x.rank y.rank
termination_by structural x => x

def orderItems : List Value → List Value → Ordering
  | [], [] => .eq
  | [], _ :: _ => .lt
  | _ :: _, [] => .gt
  | x :: xs, y :: ys => (order x y).then (orderItems xs ys)
termination_by structural xs => xs

def orderMembers : List (String × Value) → List (String × Value) → Ordering
  | [], [] => .eq
  | [], _ :: _ => .lt
  | _ :: _, [] => .gt
  | (k, x) :: xs, (l, y) :: ys => ((compare k l).then (order x y)).then (orderMembers xs ys)
termination_by structural xs => xs

end

end Value
end Template
end Triage
