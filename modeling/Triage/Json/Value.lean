import Triage.Json.Members
import Triage.Json.Number

/-!
This module contains the JSON values. A value read from text keeps the members of its objects as they were
written; `Json.canonical` puts them in increasing order by name and keeps the last of several members with
one name. All values that this library stores or writes are canonical.
-/

namespace Triage

/--
A JSON value.
-/
inductive Json where
  | null
  | bool (b : Bool)
  | number (n : Json.Number)
  | string (s : String)
  | array (items : List Json)
  | object (members : List (String × Json))

namespace Json

abbrev Object := Members Json

instance : Inhabited Json := ⟨.null⟩

mutual

def decEq : (x y : Json) → Decidable (x = y)
  | .null, .null => .isTrue rfl
  | .bool a, .bool b =>
    if h : a = b then .isTrue (by rw [h]) else .isFalse (by simpa using h)
  | .number a, .number b =>
    if h : a = b then .isTrue (by rw [h]) else .isFalse (by simpa using h)
  | .string a, .string b =>
    if h : a = b then .isTrue (by rw [h]) else .isFalse (by simpa using h)
  | .array xs, .array ys =>
    match decEqItems xs ys with
    | .isTrue h => .isTrue (by rw [h])
    | .isFalse h => .isFalse (by simpa using h)
  | .object xs, .object ys =>
    match decEqMembers xs ys with
    | .isTrue h => .isTrue (by rw [h])
    | .isFalse h => .isFalse (by simpa using h)
  | .null, .bool _ | .null, .number _ | .null, .string _ | .null, .array _ | .null, .object _
  | .bool _, .null | .bool _, .number _ | .bool _, .string _ | .bool _, .array _ | .bool _, .object _
  | .number _, .null | .number _, .bool _ | .number _, .string _ | .number _, .array _
  | .number _, .object _ | .string _, .null | .string _, .bool _ | .string _, .number _
  | .string _, .array _ | .string _, .object _ | .array _, .null | .array _, .bool _
  | .array _, .number _ | .array _, .string _ | .array _, .object _ | .object _, .null
  | .object _, .bool _ | .object _, .number _ | .object _, .string _ | .object _, .array _ =>
    .isFalse (by simp)
termination_by structural x => x

def decEqItems : (xs ys : List Json) → Decidable (xs = ys)
  | [], [] => .isTrue rfl
  | [], _ :: _ | _ :: _, [] => .isFalse (by simp)
  | x :: xs, y :: ys =>
    match decEq x y, decEqItems xs ys with
    | .isTrue h, .isTrue h' => .isTrue (by rw [h, h'])
    | .isFalse h, _ => .isFalse (by simp [h])
    | _, .isFalse h => .isFalse (by simp [h])
termination_by structural xs => xs

def decEqMembers : (xs ys : List (String × Json)) → Decidable (xs = ys)
  | [], [] => .isTrue rfl
  | [], _ :: _ | _ :: _, [] => .isFalse (by simp)
  | (k, x) :: xs, (l, y) :: ys =>
    if hk : k = l then
      match decEq x y, decEqMembers xs ys with
      | .isTrue h, .isTrue h' => .isTrue (by rw [hk, h, h'])
      | .isFalse h, _ => .isFalse (by simp [h])
      | _, .isFalse h => .isFalse (by simp [h])
    else
      .isFalse (by simp [hk])
termination_by structural xs => xs

end

instance : DecidableEq Json := decEq

mutual

/--
The value with the members of all its objects in increasing order, the last of equal names kept.
-/
def canonical : Json → Json
  | .array items => .array (canonicalItems items)
  | .object members => .object (Members.sorted (canonicalMembers members))
  | .null => .null
  | .bool b => .bool b
  | .number n => .number n
  | .string s => .string s
termination_by structural v => v

def canonicalItems : List Json → List Json
  | [] => []
  | v :: vs => v.canonical :: canonicalItems vs
termination_by structural vs => vs

def canonicalMembers : List (String × Json) → List (String × Json)
  | [] => []
  | (k, v) :: ms => (k, v.canonical) :: canonicalMembers ms
termination_by structural ms => ms

end

mutual

/--
Whether all objects in a value have their members in increasing order by name.
-/
def Canonical : Json → Prop
  | .array items => CanonicalItems items
  | .object members => Members.Increasing members ∧ CanonicalMembers members
  | .null | .bool _ | .number _ | .string _ => True
termination_by structural v => v

def CanonicalItems : List Json → Prop
  | [] => True
  | v :: vs => v.Canonical ∧ CanonicalItems vs
termination_by structural vs => vs

def CanonicalMembers : List (String × Json) → Prop
  | [] => True
  | (_, v) :: ms => v.Canonical ∧ CanonicalMembers ms
termination_by structural ms => ms

end

def ofUInt64 (n : UInt64) : Json :=
  .number (.integer (.ofUInt64 n))

def ofUInt32 (n : UInt32) : Json :=
  .number (.integer (.ofUInt32 n))

/--
The number for a floating point number; infinities and `nan` become `null`.
-/
def ofDouble (x : Double) : Json :=
  if h : x.isFinite = true then .number (.real x h) else .null

/--
The string or `null`.
-/
def ofString? : Option String → Json
  | some s => .string s
  | none => .null

def items? : Json → Option (List Json)
  | .array items => some items
  | _ => none

def members? : Json → Option Object
  | .object members => some members
  | _ => none

def string? : Json → Option String
  | .string s => some s
  | _ => none

def double? : Json → Option Double
  | .number n => some n.toDouble
  | _ => none

/--
The value of the member `key` of an object.
-/
def member? (key : String) : Json → Option Json
  | .object members => Members.get? key members
  | _ => none

/--
Whether a value is `null`.
-/
def isNull : Json → Bool
  | .null => true
  | _ => false

theorem keys_canonicalMembers (members : List (String × Json)) :
    (canonicalMembers members).map Prod.fst = members.map Prod.fst := by
  induction members with
  | nil => rfl
  | cons m rest ih =>
    obtain ⟨k, v⟩ := m
    rw [canonicalMembers, List.map_cons, List.map_cons, ih]

theorem get?_canonicalMembers (key : String) (members : List (String × Json)) :
    Members.get? key (canonicalMembers members) = (Members.get? key members).map canonical := by
  induction members with
  | nil => rfl
  | cons m rest ih =>
    obtain ⟨k, v⟩ := m
    rw [canonicalMembers, Members.get?, Members.get?]
    split
    · rfl
    · exact ih

/--
The canonical form of an object whose names occur once has the canonical forms of its values.
-/
theorem get?_sorted_canonicalMembers {members : List (String × Json)} (hkeys : (members.map Prod.fst).Nodup)
    (key : String) :
    Members.get? key (Members.sorted (canonicalMembers members)) = (Members.get? key members).map canonical := by
  rw [Members.get?_sorted (by rwa [keys_canonicalMembers]), get?_canonicalMembers]

end Json
end Triage
