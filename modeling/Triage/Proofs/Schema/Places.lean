import Triage.Proofs.Loading
import Triage.Proofs.Schema.Pointers

/-!
This module contains where in a value the faults are that a schema finds in it, and what is shown of these places. A place is shown
by all names and indices that lead to it, unless the first of them is the empty name.
-/

namespace Triage

namespace Json

/--
Whether a path leads from a value to one inside of it, by a name for each object on the way and an index for each array.
-/
inductive HasAt : Json → List String → Json → Prop where
  | here {v : Json} : HasAt v [] v
  | member {ms : List (String × Json)} {key : String} {v w : Json} {path : List String} (h : (key, v) ∈ ms)
      (hrest : HasAt v path w) : HasAt (.object ms) (key :: path) w
  | item {vs : List Json} {i : Nat} {v w : Json} {path : List String} (h : vs[i]? = some v) (hrest : HasAt v path w) :
      HasAt (.array vs) (toString i :: path) w

variable {root v w : Json} {path more : List String} {ms : List (String × Json)} {vs : List Json}

theorem HasAt.trans (h : HasAt root path v) (h' : HasAt v more w) : HasAt root (path ++ more) w := by
  induction h with
  | here => exact h'
  | member hmem _ ih => exact .member hmem (ih h')
  | item hitem _ ih => exact .item hitem (ih h')

theorem HasAt.ofMember {key : String} (h : HasAt root path (.object ms)) (hmem : (key, v) ∈ ms) :
    HasAt root (path ++ [key]) v :=
  h.trans (.member hmem .here)

theorem HasAt.ofItem {i : Nat} (h : HasAt root path (.array vs)) (hitem : vs[i]? = some v) :
    HasAt root (path ++ [toString i]) v :=
  h.trans (.item hitem .here)

end Json

namespace Schema

/--
Whether faults are told of places that a value has.
-/
def Placed (root : Json) (violations : List Violation) : Prop :=
  ∀ violation ∈ violations, ∃ w, root.HasAt violation.path w

/--
Whether all faults that are found in a value inside of another one are told of places that the other one has.
-/
def Places (root : Json) (find : Finder) : Prop :=
  ∀ path v, root.HasAt path v → Placed root (find path v)

variable {root v w : Json} {path : List String} {found more : List Violation} {find : String → Finder}

theorem placed_nil : Placed root [] :=
  List.forall_mem_nil _

theorem placed_single (h : root.HasAt path v) (fault : Fault) : Placed root [⟨path, fault⟩] := by
  intro violation hmem
  rw [List.mem_singleton.mp hmem]
  exact ⟨v, h⟩

theorem placed_demand (h : root.HasAt path v) (holds : Bool) (fault : Fault) : Placed root (demand holds path fault) := by
  cases holds with
  | true => exact placed_nil
  | false => exact placed_single h fault

theorem Placed.append (h : Placed root found) (h' : Placed root more) : Placed root (found ++ more) := by
  intro violation hmem
  exact (List.mem_append.mp hmem).elim (h violation) (h' violation)

theorem placed_map {α : Type} {xs : List α} (h : root.HasAt path v) (fault : α → Fault) :
    Placed root (xs.map fun x => ⟨path, fault x⟩) := by
  intro violation hmem
  obtain ⟨x, -, rfl⟩ := List.mem_map.mp hmem
  exact ⟨v, h⟩

theorem placed_flatMap {α : Type} {xs : List α} {f : α → List Violation} (h : ∀ x ∈ xs, Placed root (f x)) :
    Placed root (xs.flatMap f) := by
  intro violation hmem
  obtain ⟨x, hx, hviolation⟩ := List.mem_flatMap.mp hmem
  exact h x hx violation hviolation

mutual

/--
A schema tells its faults of places that the whole value has, if the references do.
-/
theorem places_faults (hfind : ∀ target, Places root (find target)) : (s : Schema) → Places root (s.faults find)
  | .accept, _, _, _ => placed_nil
  | .refuse, _, _, h => placed_single h _
  | .ref target, path, v, h => hfind target path v h
  | .all parts, path, v, h => placed_faultsOfAll hfind parts path v h
  | .any _, _, _, h | .no _ _, _, _, h | .kinds _, _, _, h | .constant _, _, _, h | .options _, _, _, h
  | .least _ _, _, _, h | .most _ _, _, _, h => placed_demand h _ _
  | .one parts, path, v, h => by
    rw [faults]
    split
    . exact placed_single h _
    . exact placed_nil
    . exact placed_single h _
  | .choose condition passed failed, path, v, h => by
    rw [faults]
    split
    . exact places_faults hfind passed path v h
    . exact places_faults hfind failed path v h
  | .bound _ _, path, v, h | .multipleOf _, path, v, h => by
    cases v with
    | number n => exact placed_demand h _ _
    | _ => exact placed_nil
  | .pattern _ _, path, v, h | .conventional _ _, path, v, h => by
    cases v with
    | string s => exact placed_demand h _ _
    | _ => exact placed_nil
  | .uniqueItems, path, v, h | .contains _, path, v, h | .noItemsAfter _, path, v, h => by
    cases v with
    | array vs => exact placed_demand h _ _
    | _ => exact placed_nil
  | .noKeys, path, v, h => by
    cases v with
    | object ms => exact placed_demand h _ _
    | _ => exact placed_nil
  | .noMembers, path, v, h => by
    cases v with
    | object ms =>
      cases ms with
      | nil => exact placed_nil
      | cons => exact placed_single h _
    | _ => exact placed_nil
  | .required _, path, v, h => by
    cases v with
    | object ms => exact placed_map h _
    | _ => exact placed_nil
  | .keyNames s, path, v, h => by
    cases v with
    | object ms => exact placed_flatMap fun _ _ => placed_map h _
    | _ => exact placed_nil
  | .items skipped s, path, v, h => by
    cases v with
    | array vs =>
      apply placed_flatMap
      rintro ⟨w, i⟩ hmem
      have hitem := List.mem_zipIdx_iff_getElem?.mp (List.mem_of_mem_drop hmem)
      exact places_faults hfind s _ w (h.ofItem hitem)
    | _ => exact placed_nil
  | .itemsAt parts, path, v, h => by
    cases v with
    | array vs =>
      apply placed_faultsOfItems hfind parts path 0
      intro j w hitem
      rw [Nat.zero_add]
      exact h.ofItem hitem
    | _ => exact placed_nil
  | .dependencies parts, path, v, h => by
    cases v with
    | object ms => exact placed_faultsOfDependencies hfind parts path ms h
    | _ => exact placed_nil
  | .properties parts, path, v, h => by
    cases v with
    | object ms => exact placed_faultsOfProperties hfind parts path ms h
    | _ => exact placed_nil
  | .patternProperties parts, path, v, h => by
    cases v with
    | object ms => exact placed_faultsOfPatterns hfind parts path ms h
    | _ => exact placed_nil
  | .members parts patterns others, path, v, h => by
    cases v with
    | object ms =>
      apply placed_flatMap
      rintro ⟨k, w⟩ hmem
      have hmember := h.ofMember hmem
      have hmatching := placed_faultsOfMatching hfind patterns _ k w hmember
      dsimp only
      split
      . next found hfound => exact (placed_faultsOfKey hfind parts _ k w hmember found hfound).append hmatching
      . split
        . exact places_faults hfind others _ w hmember
        . exact hmatching
    | _ => exact placed_nil
  | .closed parts patterns, path, v, h => by
    cases v with
    | object ms =>
      apply Placed.append _ (placed_demand h _ _)
      rw [List.flatMap_map]
      apply placed_flatMap
      rintro ⟨k, w⟩ hmem
      have hmember := h.ofMember hmem
      have hmatching := placed_faultsOfMatching hfind patterns _ k w hmember
      dsimp only
      split
      . next found hfound => exact (placed_faultsOfKey hfind parts _ k w hmember found hfound).append hmatching
      . exact hmatching
    | _ => exact placed_nil
termination_by structural s => s

theorem placed_faultsOfAll (hfind : ∀ target, Places root (find target)) :
    (parts : List Schema) → Places root (faultsOfAll find parts)
  | [], _, _, _ => placed_nil
  | s :: ss, path, v, h => (places_faults hfind s path v h).append (placed_faultsOfAll hfind ss path v h)
termination_by structural parts => parts

theorem placed_faultsOfItems (hfind : ∀ target, Places root (find target)) :
    (parts : List Schema) → (path : List String) → (index : Nat) → (vs : List Json) →
      (∀ j w, vs[j]? = some w → root.HasAt (path ++ [toString (index + j)]) w) →
        Placed root (faultsOfItems find parts path index vs)
  | [], _, _, _, _ => placed_nil
  | _ :: _, _, _, [], _ => placed_nil
  | s :: ss, path, index, v :: vs, h => by
    apply Placed.append
    . exact places_faults hfind s _ v (h 0 v rfl)
    . apply placed_faultsOfItems hfind ss path (index + 1) vs
      intro j w hitem
      rw [Nat.add_assoc, Nat.add_comm 1 j]
      exact h (j + 1) w hitem
termination_by structural parts => parts

theorem placed_faultsOfDependencies (hfind : ∀ target, Places root (find target)) :
    (parts : List (String × Schema)) → (path : List String) → (ms : List (String × Json)) → root.HasAt path (.object ms) →
      Placed root (faultsOfDependencies find parts path ms)
  | [], _, _, _ => placed_nil
  | (k, s) :: parts, path, ms, h => by
    rw [faultsOfDependencies]
    apply Placed.append _ (placed_faultsOfDependencies hfind parts path ms h)
    split
    . exact places_faults hfind s path _ h
    . exact placed_nil
termination_by structural parts => parts

theorem placed_faultsOfProperties (hfind : ∀ target, Places root (find target)) :
    (parts : List (String × Schema)) → (path : List String) → (ms : List (String × Json)) → root.HasAt path (.object ms) →
      Placed root (faultsOfProperties find parts path ms)
  | [], _, _, _ => placed_nil
  | (k, s) :: parts, path, ms, h => by
    rw [faultsOfProperties]
    apply Placed.append _ (placed_faultsOfProperties hfind parts path ms h)
    split
    . next v hget => exact places_faults hfind s _ v (h.ofMember (Members.mem_of_get? hget))
    . exact placed_nil
termination_by structural parts => parts

theorem placed_faultsOfPatterns (hfind : ∀ target, Places root (find target)) :
    (parts : List (Pattern × Schema)) → (path : List String) → (ms : List (String × Json)) → root.HasAt path (.object ms) →
      Placed root (faultsOfPatterns find parts path ms)
  | [], _, _, _ => placed_nil
  | (p, s) :: parts, path, ms, h => by
    rw [faultsOfPatterns]
    apply Placed.append _ (placed_faultsOfPatterns hfind parts path ms h)
    apply placed_flatMap
    rintro ⟨k, v⟩ hmem
    dsimp only
    split
    . exact places_faults hfind s _ v (h.ofMember hmem)
    . exact placed_nil
termination_by structural parts => parts

theorem placed_faultsOfKey (hfind : ∀ target, Places root (find target)) :
    (parts : List (String × Schema)) → (path : List String) → (key : String) → (v : Json) → root.HasAt path v →
      (found : List Violation) → faultsOfKey find parts path key v = some found → Placed root found
  | [], _, _, _, _, _, hfound => by contradiction
  | (k, s) :: parts, path, key, v, h, found, hfound => by
    rw [faultsOfKey] at hfound
    split at hfound
    . cases hfound
      exact places_faults hfind s path v h
    . exact placed_faultsOfKey hfind parts path key v h found hfound
termination_by structural parts => parts

theorem placed_faultsOfMatching (hfind : ∀ target, Places root (find target)) :
    (parts : List (Pattern × Schema)) → (path : List String) → (key : String) → (v : Json) → root.HasAt path v →
      Placed root (faultsOfMatching find parts path key v).flatten
  | [], _, _, _, _ => placed_nil
  | (p, s) :: parts, path, key, v, h => by
    rw [faultsOfMatching]
    split
    . exact (places_faults hfind s path v h).append (placed_faultsOfMatching hfind parts path key v h)
    . exact placed_faultsOfMatching hfind parts path key v h
termination_by structural parts => parts

end

theorem places_faultsWithin (lookup : String → Option Schema) (hops : Nat) (s : Schema) :
    Places root (faultsWithin lookup hops s) := by
  induction hops generalizing s with
  | zero =>
    apply places_faults
    intro target path v h
    exact placed_single .here _
  | succ hops ih =>
    apply places_faults
    intro target path v h
    dsimp only
    split
    . next s' _ => exact ih s' path v h
    . exact placed_single .here _

theorem Document.placed_faults (d : Document) (v : Json) : Placed v (d.faults v) :=
  places_faultsWithin _ _ _ [] v .here

open Violation

/--
How a fault in a value is told: it is one of a place in the value, and exactly if the first name on the way there is not empty, its
message begins with all names and indices on the way. Then only the whole value is told as `$`, and what has that name.
-/
structure Located (root : Json) (violation : Violation) : Prop where
  place : ∃ w, root.HasAt violation.path w
  shown : violation.message = placeText (violation.path.map pointerPart) ++ ": " ++ violation.fault.message ↔
    violation.path.head? ≠ some ""
  whole : violation.path.head? ≠ some "" →
    (shownPointer (pointer (violation.path.map pointerPart)) = "$" ↔ violation.path = [] ∨ violation.path = ["$"])

theorem head?_map_pointerPart : (path.map pointerPart).head? = some "" ↔ path.head? = some "" := by
  rw [List.head?_map, Option.map_eq_some_iff]
  simp only [pointerPart_eq_empty_iff, exists_eq_right]

theorem map_pointerPart_eq_dollar : path.map pointerPart = ["$"] ↔ path = ["$"] := by
  rw [List.map_eq_singleton_iff]
  simp only [pointerPart_eq_dollar_iff]
  grind

theorem not_mem_map_pointerPart (path : List String) : ∀ part ∈ path.map pointerPart, '/' ∉ part.toList :=
  List.forall_mem_map.mpr fun key _ => not_mem_pointerPart key

theorem located {violation : Violation} (h : ∃ w, root.HasAt violation.path w) : Located root violation where
  place := h
  shown := by
    unfold Violation.message
    rw [String.append_left_inj, String.append_left_inj, shownPointer_eq_placeText_iff (not_mem_map_pointerPart _),
      ne_eq, head?_map_pointerPart]
  whole := by
    intro hhead
    rw [(shownPointer_eq_placeText_iff (not_mem_map_pointerPart _)).mpr (by rwa [ne_eq, head?_map_pointerPart]),
      placeText_eq_dollar_iff, List.map_eq_nil_iff, map_pointerPart_eq_dollar]

theorem Validator.load_ne_invalid (files : Files) (s : Validator) (name : String) (messages : List String) :
    (s.load files name).1 ≠ .error (.invalid name messages) := by
  unfold load
  dsimp only
  cases hget : s.catalog.loaded.get? name with
  | some d =>
    rw [Catalog.load_of_get? hget]
    exact nofun
  | none =>
    rw [Catalog.load_of_none hget]
    unfold fetch
    split
    . exact nofun
    . split
      . exact nofun
      . split <;> exact nofun

/--
Pointers are shown by their parts with dots between them, and as `$` if there are none, exactly if they do not begin with an empty
part. An empty first part is not shown at all. So a validation reports each fault by one name or index for each level that the
place of the fault lies below the whole value, unless the first of them is the empty name.
-/
theorem Validator.validate_locates (parts : List String) (files : Files) (s : Validator) (name : String) (v : Json) :
    ((∀ part ∈ parts, '/' ∉ part.toList) →
      (shownPointer (pointer parts) = placeText parts ↔ parts.head? ≠ some "") ∧
      (parts.head? ≠ some "" → (shownPointer (pointer parts) = "$" ↔ parts = [] ∨ parts = ["$"])) ∧
      shownPointer (pointer ("" :: parts)) = shownPointer (pointer parts)) ∧
    ∀ messages, (s.validate files name v).1 = .error (.invalid name messages) →
      ∃ d, (s.load files name).1 = .ok d ∧
        ∀ message ∈ messages, ∃ violation ∈ d.faults v, message = violation.message ∧ Located v violation := by
  constructor
  . intro hslash
    have hshown := shownPointer_eq_placeText_iff hslash
    refine ⟨hshown, ?_, shownPointer_of_empty parts⟩
    intro hhead
    rw [hshown.mpr hhead]
    exact placeText_eq_dollar_iff
  . intro messages hinvalid
    cases hload : (s.load files name).1 with
    | error e =>
      rw [validate_of_error hload] at hinvalid
      rw [Except.error.inj hinvalid] at hload
      exact absurd hload (load_ne_invalid files s name messages)
    | ok d =>
      rw [validate_of_load hload] at hinvalid
      split at hinvalid
      . contradiction
      . cases hinvalid
        refine ⟨d, rfl, ?_⟩
        intro message hmessage
        obtain ⟨violation, htaken, rfl⟩ := List.mem_map.mp hmessage
        have hfault := List.mem_of_mem_take htaken
        exact ⟨violation, hfault, rfl, located (d.placed_faults v violation hfault)⟩

/--
A fault in the member with the empty name is told as one of the whole value.
-/
theorem Validator.validate_loses_empty_name :
    let files : Files := ⟨[
      (["schemas"], .directory),
      (["schemas", "s.json"], .text "\x7b\"additionalProperties\":\x7b\"type\":\"string\"\x7d\x7d")]⟩
    let v : Json := .object [("", .null)]
    v.HasAt [""] .null ∧
      ((ofDirectory "schemas").validate files "s" v).1 = .error (.invalid "s" ["$: null is not of type \"string\""]) ∧
      shownPointer (pointer [""]) = "$" ∧ ".".intercalate [""] ≠ "$" := by
  refine ⟨.member List.mem_cons_self .here, ?_, ?_, ?_⟩ <;> decide +kernel

end Schema
end Triage
