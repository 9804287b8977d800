import Triage.Pattern.Reader
import Triage.Schema.Fault

/-!
This module contains schemas and the faults that they find. A schema is a condition on values; a reference
stands for another schema of the same document.
-/

namespace Triage

/--
A condition on values. Most conditions are about values of one kind and hold for all others.
-/
inductive Schema where
  | accept
  | refuse
  | ref (target : String)
  | all (parts : List Schema)
  | any (parts : List Schema)
  | one (parts : List Schema)
  /-- No value that `s` accepts; `text` is how `s` is written. -/
  | no (text : Json) (s : Schema)
  | choose (condition passed failed : Schema)
  | kinds (ks : List Schema.Kind)
  | constant (expected : Json)
  | options (vs : List Json)
  | bound (b : Schema.Bound) (limit : Json.Number)
  | multipleOf (divisor : Double)
  | least (unit : Schema.Measure) (limit : Nat)
  | most (unit : Schema.Measure) (limit : Nat)
  | pattern (text : String) (p : Pattern)
  /-- A text of which `holds` holds. -/
  | conventional (convention : Schema.Convention) (holds : String → Bool)
  | uniqueItems
  /-- Some item. -/
  | contains (s : Schema)
  /-- All items behind the first `skipped` ones. -/
  | items (skipped : Nat) (s : Schema)
  /-- The first items, one schema for each. -/
  | itemsAt (parts : List Schema)
  | noItemsAfter (count : Nat)
  | required (keys : List String)
  | dependencies (parts : List (String × Schema))
  | keyNames (s : Schema)
  /-- No key, as none would be accepted. -/
  | noKeys
  /-- No member, as none would be accepted. -/
  | noMembers
  | properties (parts : List (String × Schema))
  | patternProperties (parts : List (Pattern × Schema))
  /-- Every member, by the schema of its key, those of patterns for its key, or else `others`. -/
  | members (parts : List (String × Schema)) (patterns : List (Pattern × Schema)) (others : Schema)
  /-- Every member, by the schema of its key and those of patterns for its key, and none besides. -/
  | closed (parts : List (String × Schema)) (patterns : List (Pattern × Schema))

namespace Schema

abbrev Finder := List String → Json → List Violation

/--
The single fault, unless a condition holds.
-/
def demand (holds : Bool) (path : List String) (fault : Fault) : List Violation :=
  if holds then [] else [⟨path, fault⟩]

/--
The size of a value, if it is counted in the given unit.
-/
def size? (unit : Schema.Measure) (v : Json) : Option Nat :=
  match unit, v with
  | .characters, .string s => some s.toList.length
  | .items, .array vs => some vs.length
  | .properties, .object ms => some ms.length
  | _, _ => none

def keeps (b : Bound) (limit n : Json.Number) : Bool :=
  match b with
  | .atLeast => n.order limit != .lt
  | .atMost => n.order limit != .gt
  | .above => n.order limit == .gt
  | .below => n.order limit == .lt

/--
The distance from one to the next floating point number.
-/
def epsilon : Double := Binary.ofRatio false 1 (1 <<< 52)

/--
Whether a number is a multiple of another one. For a divisor that is not whole the quotient may have a small
fraction, or a negative one.
-/
def isMultiple (divisor x : Double) : Bool :=
  if divisor.isInteger then x.isInteger && (x.rem divisor).isZero
  else
    let q := x.div divisor
    if q.isFinite then (q.rem (Binary.ofInt 1)).lt epsilon else isMultipleExact
where
  isMultipleExact : Bool :=
    match x.scaled?, divisor.scaled? with
    | some (m, e), some (n, f) =>
      let (a, b, _) := Binary.aligned m e n f
      a % b == 0
    | _, _ => true

/--
Whether a value is the expected one. Numbers may differ by less than `epsilon`.
-/
def isExpected (expected v : Json) : Bool :=
  match expected, v with
  | .number a, .number b =>
    let d := a.toDouble.sub b.toDouble
    d.lt epsilon && (-d).lt epsilon
  | _, _ => expected.isSame v

/--
The largest number of items that are compared by what they stand for.
-/
def compareLimit : Nat := 15

/--
Whether no two items are the same. In long lists a number is the same only if it is written as the same kind
of number.
-/
def areUnique (vs : List Json) : Bool :=
  go (if vs.length ≤ compareLimit then Json.isSame else fun a b => decide (a = b)) vs
where
  go (same : Json → Json → Bool) : List Json → Bool
    | [] => true
    | v :: vs => !vs.any (same v) && go same vs

mutual

/--
The faults that a schema finds; `find` says what references find.
-/
def faults (find : String → Finder) : Schema → Finder
  | accept, _, _ => []
  | refuse, path, v => [⟨path, .refused v⟩]
  | ref target, path, v => find target path v
  | all parts, path, v => faultsOfAll find parts path v
  | any parts, path, v => demand (accepting find parts v != 0) path (.noneOfAny v)
  | one parts, path, v =>
    match accepting find parts v with
    | 0 => [⟨path, .noneOfOne v⟩]
    | 1 => []
    | _ => [⟨path, .severalOfOne v⟩]
  | no text s, path, v => demand (!(faults find s [] v).isEmpty) path (.forbidden text v)
  | choose condition passed failed, path, v =>
    if (faults find condition [] v).isEmpty then faults find passed path v
    else faults find failed path v
  | kinds ks, path, v => demand (ks.any (·.admits v)) path (.kind v ks)
  | constant expected, path, v => demand (isExpected expected v) path (.constant expected)
  | options vs, path, v => demand (vs.any (·.isSame v)) path (.option v vs)
  | bound b limit, path, v =>
    match v with
    | .number n => demand (keeps b limit n) path (.bound v b limit)
    | _ => []
  | multipleOf divisor, path, v =>
    match v with
    | .number n => demand (isMultiple divisor n.toDouble) path (.multiple v divisor)
    | _ => []
  | least unit limit, path, v =>
    demand ((size? unit v).all (limit ≤ ·)) path (.tooSmall v unit limit)
  | most unit limit, path, v =>
    demand ((size? unit v).all (· ≤ limit)) path (.tooLarge v unit limit)
  | pattern text p, path, v =>
    match v with
    | .string s => demand (p.occursIn s) path (.pattern v text)
    | _ => []
  | conventional convention holds, path, v =>
    match v with
    | .string s => demand (holds s) path (.unconventional v convention)
    | _ => []
  | uniqueItems, path, v =>
    match v with
    | .array vs => demand (areUnique vs) path (.repeatedItems v)
    | _ => []
  | contains s, path, v =>
    match v with
    | .array vs => demand (vs.any fun w => (faults find s [] w).isEmpty) path (.noneContained v)
    | _ => []
  | items skipped s, path, v =>
    match v with
    | .array vs =>
      (vs.zipIdx.drop skipped).flatMap fun (w, i) => faults find s (path ++ [toString i]) w
    | _ => []
  | itemsAt parts, path, v =>
    match v with
    | .array vs => faultsOfItems find parts path 0 vs
    | _ => []
  | noItemsAfter count, path, v =>
    match v with
    | .array vs => demand (vs.length ≤ count) path (.unexpectedItems (vs.drop count))
    | _ => []
  | required keys, path, v =>
    match v with
    | .object ms =>
      (keys.filter fun k => !Members.contains k ms).map fun k => ⟨path, .missing k⟩
    | _ => []
  | dependencies parts, path, v =>
    match v with
    | .object ms => faultsOfDependencies find parts path ms
    | _ => []
  | keyNames s, path, v =>
    match v with
    | .object ms =>
      ms.flatMap fun (k, _) =>
        (faults find s [] (.string k)).map fun violation => ⟨path, violation.fault⟩
    | _ => []
  | noKeys, path, v =>
    match v with
    | .object ms => demand ms.isEmpty path (.refused v)
    | _ => []
  | noMembers, path, v =>
    match v with
    | .object ((_, w) :: _) => [⟨path, .refused w⟩]
    | _ => []
  | properties parts, path, v =>
    match v with
    | .object ms => faultsOfProperties find parts path ms
    | _ => []
  | patternProperties parts, path, v =>
    match v with
    | .object ms => faultsOfPatterns find parts path ms
    | _ => []
  | members parts patterns others, path, v =>
    match v with
    | .object ms =>
      ms.flatMap fun (k, w) =>
        let matching := faultsOfMatching find patterns (path ++ [k]) k w
        match faultsOfKey find parts (path ++ [k]) k w with
        | some found => found ++ matching.flatten
        | none => if matching.isEmpty then faults find others (path ++ [k]) w else matching.flatten
    | _ => []
  | closed parts patterns, path, v =>
    match v with
    | .object ms =>
      let known := ms.map fun (k, w) =>
        let matching := faultsOfMatching find patterns (path ++ [k]) k w
        match faultsOfKey find parts (path ++ [k]) k w with
        | some found => (k, true, found ++ matching.flatten)
        | none => (k, !matching.isEmpty, matching.flatten)
      let unexpected := (known.filter fun (_, isKnown, _) => !isKnown).map (·.1)
      known.flatMap (fun (_, _, found) => found) ++ demand unexpected.isEmpty path (.unexpectedKeys unexpected)
    | _ => []
termination_by structural s => s

def faultsOfAll (find : String → Finder) : List Schema → Finder
  | [], _, _ => []
  | s :: ss, path, v => faults find s path v ++ faultsOfAll find ss path v
termination_by structural ss => ss

/--
The number of schemas that find no fault.
-/
def accepting (find : String → Finder) : List Schema → Json → Nat
  | [], _ => 0
  | s :: ss, v => (if (faults find s [] v).isEmpty then 1 else 0) + accepting find ss v
termination_by structural ss => ss

/--
The faults that schemas find in the items from the one with the number `index` on.
-/
def faultsOfItems (find : String → Finder) :
    List Schema → List String → Nat → List Json → List Violation
  | [], _, _, _ => []
  | s :: ss, path, index, vs =>
    match vs with
    | [] => []
    | v :: vs =>
      faults find s (path ++ [toString index]) v ++ faultsOfItems find ss path (index + 1) vs
termination_by structural ss => ss

/--
The faults that the schemas of keys find in an object that has them.
-/
def faultsOfDependencies (find : String → Finder) :
    List (String × Schema) → List String → List (String × Json) → List Violation
  | [], _, _ => []
  | (k, s) :: parts, path, ms =>
    (if Members.contains k ms then faults find s path (.object ms) else [])
      ++ faultsOfDependencies find parts path ms
termination_by structural parts => parts

/--
The faults that the schemas of keys find in the members of the keys.
-/
def faultsOfProperties (find : String → Finder) :
    List (String × Schema) → List String → List (String × Json) → List Violation
  | [], _, _ => []
  | (k, s) :: parts, path, ms =>
    (match Members.get? k ms with
      | some v => faults find s (path ++ [k]) v
      | none => [])
      ++ faultsOfProperties find parts path ms
termination_by structural parts => parts

/--
The faults that the schemas of patterns find in the members whose keys match.
-/
def faultsOfPatterns (find : String → Finder) :
    List (Pattern × Schema) → List String → List (String × Json) → List Violation
  | [], _, _ => []
  | (p, s) :: parts, path, ms =>
    (ms.flatMap fun (k, v) => if p.occursIn k then faults find s (path ++ [k]) v else [])
      ++ faultsOfPatterns find parts path ms
termination_by structural parts => parts

/--
The faults that the schema of a key finds in its member, if it has a schema.
-/
def faultsOfKey (find : String → Finder) :
    List (String × Schema) → List String → String → Json → Option (List Violation)
  | [], _, _, _ => none
  | (k, s) :: parts, path, key, v =>
    if k = key then some (faults find s path v) else faultsOfKey find parts path key v
termination_by structural parts => parts

/--
The faults that the schemas of the patterns for a key find in its member, one list for each pattern.
-/
def faultsOfMatching (find : String → Finder) :
    List (Pattern × Schema) → List String → String → Json → List (List Violation)
  | [], _, _, _ => []
  | (p, s) :: parts, path, key, v =>
    if p.occursIn key then faults find s path v :: faultsOfMatching find parts path key v
    else faultsOfMatching find parts path key v
termination_by structural parts => parts

end

end Schema
end Triage
