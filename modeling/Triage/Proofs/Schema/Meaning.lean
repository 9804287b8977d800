import Triage.Proofs.Json.Order
import Triage.Schema.Document

/-!
This module contains the conditions that schemas stand for, apart from the faults that are reported where a condition does
not hold. The condition of a schema is put together from those of its parts.
-/

namespace Triage

namespace Members

variable {α : Type}

theorem contains_iff {key : String} {members : Members α} :
    members.contains key = true ↔ (members.get? key).isSome = true := by
  unfold contains
  induction members with
  | nil => simp [get?]
  | cons m rest ih =>
    obtain ⟨k, v⟩ := m
    rw [List.any_cons, get?]
    by_cases hk : k = key
    . simp [hk]
    . rw [if_neg hk, ← ih]
      simp [hk]

end Members

/-! What is asked of values. -/

namespace Json

def IsObject (v : Json) : Prop := ∃ ms, v = .object ms

def IsArray (v : Json) : Prop := ∃ vs, v = .array vs

def IsArrayOf (P : Json → Prop) (v : Json) : Prop := ∃ vs, v = .array vs ∧ ∀ w ∈ vs, P w

def IsString (v : Json) : Prop := ∃ s, v = .string s

def IsNonemptyString (v : Json) : Prop := ∃ s, v = .string s ∧ s ≠ ""

def IsStringOrNull (v : Json) : Prop := ∃ s?, v = ofString? s?

def IsBool (v : Json) : Prop := ∃ b, v = .bool b

/--
Whether a value has a member of this name, and the right one.
-/
def Has (v : Json) (key : String) (P : Json → Prop) : Prop := ∃ w, v.member? key = some w ∧ P w

/--
Whether a value has the right member of this name if it has one.
-/
def MayHave (v : Json) (key : String) (P : Json → Prop) : Prop := ∀ w, v.member? key = some w → P w

theorem has_iff {v : Json} {key : String} {P : Json → Prop} :
    v.Has key P ↔ (v.member? key).isSome = true ∧ v.MayHave key P := by
  unfold Has MayHave
  cases v.member? key <;> simp

end Json

namespace Schema

attribute [local simp] faults

variable {find : String → Finder} {s : Schema} {parts : List Schema} {P Q : Json → Prop}

/--
Whether a schema finds no fault exactly in the values that a condition holds for, wherever they stand.
-/
def Means (find : String → Finder) (s : Schema) (P : Json → Prop) : Prop :=
  ∀ path v, s.faults find path v = [] ↔ P v

theorem demand_eq_nil_iff {holds : Bool} {path : List String} {fault : Fault} :
    demand holds path fault = [] ↔ holds = true := by
  cases holds <;> simp [demand]

theorem Means.congr (h : Means find s P) (hiff : ∀ v, P v ↔ Q v) : Means find s Q := by
  intro path v
  rw [h path v, hiff v]

theorem means_all_nil : Means find (.all []) fun _ => True := by
  intro path v
  simp [faultsOfAll]

theorem means_all_cons (hs : Means find s P) (hparts : Means find (.all parts) Q) :
    Means find (.all (s :: parts)) fun v => P v ∧ Q v := by
  intro path v
  have hrest := hparts path v
  rw [faults] at hrest ⊢
  rw [faultsOfAll, List.append_eq_nil_iff, hs path v, hrest]

theorem means_kinds (ks : List Kind) : Means find (.kinds ks) fun v => ks.any (·.admits v) = true := by
  intro path v
  rw [faults, demand_eq_nil_iff]

theorem means_options (vs : List Json) : Means find (.options vs) fun v => vs.any (·.isSame v) = true := by
  intro path v
  rw [faults, demand_eq_nil_iff]

theorem keeps_atLeast_iff (limit n : Json.Number) : keeps .atLeast limit n = true ↔ limit.value ≤ n.value := by
  unfold keeps
  rw [Json.Number.order_eq, bne_iff_ne, ne_eq, compare_lt_iff_lt, not_lt]

theorem keeps_atMost_iff (limit n : Json.Number) : keeps .atMost limit n = true ↔ n.value ≤ limit.value := by
  unfold keeps
  rw [Json.Number.order_eq, bne_iff_ne, ne_eq, compare_gt_iff_gt, not_lt]

theorem means_atLeast (limit : Json.Number) :
    Means find (.bound .atLeast limit) fun v => ∀ n, v = .number n → limit.value ≤ n.value := by
  intro path v
  cases v with
  | number n => simp [demand_eq_nil_iff, keeps_atLeast_iff]
  | _ => simp

theorem means_atMost (limit : Json.Number) :
    Means find (.bound .atMost limit) fun v => ∀ n, v = .number n → n.value ≤ limit.value := by
  intro path v
  cases v with
  | number n => simp [demand_eq_nil_iff, keeps_atMost_iff]
  | _ => simp

theorem means_leastCharacters (limit : Nat) :
    Means find (.least .characters limit) fun v => ∀ s, v = .string s → limit ≤ s.toList.length := by
  intro path v
  cases v with
  | string s => simp [demand_eq_nil_iff, size?]
  | _ => simp [demand, size?]

theorem means_required (keys : List String) :
    Means find (.required keys) fun v => v.IsObject → ∀ key ∈ keys, (v.member? key).isSome = true := by
  intro path v
  cases v with
  | object ms =>
    rw [faults]
    simp [Members.contains_iff, Json.IsObject, Json.member?]
  | _ => simp [Json.IsObject]

theorem means_items (h : Means find s P) : Means find (.items 0 s) fun v => ∀ vs, v = .array vs → ∀ w ∈ vs, P w := by
  intro path v
  cases v with
  | array vs =>
    rw [faults]
    simp only [List.drop_zero, List.flatMap_eq_nil_iff]
    constructor
    . intro hall vs' heq w hw
      cases heq
      obtain ⟨i, hi⟩ := List.mem_iff_getElem?.mp hw
      -- the place of the item is only told in the fault
      exact (h _ w).mp (hall (w, i) (List.mem_zipIdx_iff_getElem?.mpr hi))
    . intro hall m hm
      exact (h _ m.1).mpr (hall vs rfl m.1 (List.fst_mem_of_mem_zipIdx hm))
  | _ => simp

theorem means_properties_nil (find : String → Finder) : Means find (.properties []) fun _ => True := by
  intro path v
  cases v <;> simp [faultsOfProperties]

theorem means_properties_cons (key : String) {table : List (String × Schema)} (hs : Means find s P)
    (htable : Means find (.properties table) Q) :
    Means find (.properties ((key, s) :: table)) fun v => v.MayHave key P ∧ Q v := by
  intro path v
  dsimp only
  rw [← htable path v]
  cases v with
  | object ms =>
    rw [faults, faults, faultsOfProperties, List.append_eq_nil_iff, Json.MayHave, Json.member?]
    cases Members.get? key ms with
    | none => simp
    | some w => simp [hs _ w]
  | _ => simp [Json.MayHave, Json.member?]

/-! Conditions on the kind of a value, which most schemas are made of. -/

theorem means_object : Means find (.kinds [.object]) Json.IsObject := by
  apply (means_kinds _).congr
  intro v
  cases v <;> simp [Kind.admits, Json.IsObject]

theorem means_array : Means find (.kinds [.array]) Json.IsArray := by
  apply (means_kinds _).congr
  intro v
  cases v <;> simp [Kind.admits, Json.IsArray]

theorem means_string : Means find (.kinds [.string]) Json.IsString := by
  apply (means_kinds _).congr
  intro v
  cases v <;> simp [Kind.admits, Json.IsString]

theorem means_stringOrNull : Means find (.kinds [.null, .string]) Json.IsStringOrNull := by
  apply (means_kinds _).congr
  intro v
  cases v <;> simp [Kind.admits, Json.IsStringOrNull, Json.ofString?, Option.exists]

theorem means_bool : Means find (.kinds [.boolean]) Json.IsBool := by
  apply (means_kinds _).congr
  intro v
  cases v <;> simp [Kind.admits, Json.IsBool]

/--
A schema with a single condition.
-/
theorem means_single (h : Means find s P) : Means find (.all [s]) P :=
  (means_all_cons h means_all_nil).congr fun v => by simp

theorem means_nonemptyString : Means find (.all [.least .characters 1, .kinds [.string]]) Json.IsNonemptyString := by
  apply (means_all_cons (means_leastCharacters 1) (means_single means_string)).congr
  intro v
  cases v with
  | string s => simp [Json.IsString, Json.IsNonemptyString, Nat.one_le_iff_ne_zero, List.length_eq_zero_iff]
  | _ => simp [Json.IsString, Json.IsNonemptyString]

/--
A schema for arrays and for each of their items.
-/
theorem means_arrayOf (h : Means find s P) : Means find (.all [.items 0 s, .kinds [.array]]) (Json.IsArrayOf P) := by
  apply (means_all_cons (means_items h) (means_single means_array)).congr
  intro v
  constructor
  . rintro ⟨hitems, vs, hvs⟩
    exact ⟨vs, hvs, hitems vs hvs⟩
  . rintro ⟨vs, rfl, hitems⟩
    refine ⟨?_, vs, rfl⟩
    intro ws heq
    cases heq
    exact hitems

/--
A schema for objects, for some of their members, and for the names of those that have to be there.
-/
theorem means_objectWith {table : List (String × Schema)} (h : Means find (.properties table) P) (keys : List String) :
    Means find (.all [.properties table, .required keys, .kinds [.object]])
      fun v => v.IsObject ∧ (∀ key ∈ keys, (v.member? key).isSome = true) ∧ P v := by
  apply (means_all_cons h (means_all_cons (means_required keys) (means_single means_object))).congr
  intro v
  constructor
  . rintro ⟨hproperties, hrequired, hobject⟩
    exact ⟨hobject, hrequired hobject, hproperties⟩
  . rintro ⟨hobject, hrequired, hproperties⟩
    exact ⟨hproperties, fun _ => hrequired, hobject⟩

/-! Documents. -/

theorem exists_faultsWithin_eq (lookup : String → Option Schema) (hops : Nat) (s : Schema) :
    ∃ find, faultsWithin lookup hops s = s.faults find := by
  cases hops with
  | zero => exact ⟨_, rfl⟩
  | succ hops => exact ⟨_, rfl⟩

/--
A document without references reports nothing on exactly the values that the condition of its schema holds for.
-/
theorem Document.report_eq_nil_iff {d : Document} (h : ∀ find, Means find d.schema P) (v : Json) :
    d.report v = [] ↔ P v := by
  obtain ⟨find, hfind⟩ := exists_faultsWithin_eq d.lookup (v.depth * (d.root.size + 1)) d.schema
  unfold report Document.faults
  rw [List.map_eq_nil_iff, List.take_eq_nil_iff, hfind, h find [] v]
  simp [reportLimit]

end Schema
end Triage
