import Triage.Analysis

/-!
This module contains what selecting fields does to an analysis. The proposals for the selected fields stay in their
order, and so does all else. Selections may be made in any order, and a later one never brings a proposal back.
-/

namespace Triage

namespace Members

variable {α : Type}

theorem erase_cons (key k : String) (v : α) (rest : Members α) :
    erase key ((k, v) :: rest) = if k = key then erase key rest else (k, v) :: erase key rest := by
  unfold erase
  by_cases hk : k = key <;> simp [hk]

theorem erase_insert (key : String) (value : α) (members : Members α) :
    (members.insert key value).erase key = members.erase key := by
  induction members with
  | nil => simp [insert, erase]
  | cons m rest ih =>
    obtain ⟨k, v⟩ := m
    rw [insert]
    split
    . rw [erase_cons, if_pos rfl]
    . split
      . next heq => rw [heq, erase_cons, erase_cons, if_pos rfl, if_pos rfl]
      . rw [erase_cons, erase_cons, ih]

/--
Of two values that are put under one name the later one stays.
-/
theorem insert_insert (key : String) (old value : α) (members : Members α) :
    (members.insert key old).insert key value = members.insert key value := by
  have hself : ¬key < key := String.lt_irrefl key
  induction members with
  | nil => rw [insert, insert, insert, if_neg hself, if_pos rfl]
  | cons m rest ih =>
    obtain ⟨k, v⟩ := m
    by_cases hlt : key < k
    . rw [insert, if_pos hlt, insert, if_neg hself, if_pos rfl, insert, if_pos hlt]
    . by_cases heq : key = k
      . rw [insert, if_neg hlt, if_pos heq, insert, if_neg hself, if_pos rfl, insert, if_neg hlt, if_pos heq]
      . rw [insert, if_neg hlt, if_neg heq, insert, if_neg hlt, if_neg heq, ih, insert, if_neg hlt, if_neg heq]

end Members

namespace Analysis

/--
Whether a proposal is for one of the selected fields: it is an object that names the field with a text.
-/
def Proposes (selected : List String) (proposal : Json) : Prop :=
  ∃ members field, proposal = .object members ∧ Members.get? "field_name" members = some (.string field) ∧
    field ∈ selected

/--
The proposals that an analysis offers: the items of an array, and none if there is no array in their place.
-/
inductive Offers (analysis : Json.Object) : List Json → Prop where
  | listed {ps : List Json} (h : analysis.get? proposalsKey = some (.array ps)) : Offers analysis ps
  | unlisted (h : ∀ ps, analysis.get? proposalsKey ≠ some (.array ps)) : Offers analysis []

/--
The second analysis offers those proposals of the first one that `keeps` holds of, in an array and in the same order.
All its other members are those of the first one.
-/
structure Narrowed (keeps : Json → Prop) [DecidablePred keeps] (analysis narrowed : Json.Object) : Prop where
  others : narrowed.erase proposalsKey = analysis.erase proposalsKey
  proposals : ∃ ps, Offers analysis ps ∧
    narrowed.get? proposalsKey = some (.array (ps.filter fun p => decide (keeps p)))

variable {A B : List String} {a : Json.Object}

theorem isSelected_iff {proposal : Json} : isSelected A proposal = true ↔ Proposes A proposal := by
  unfold isSelected Proposes
  cases proposal with
  | object members =>
    unfold Json.member?
    dsimp only
    cases hname : Members.get? "field_name" members with
    | none => simp [hname]
    | some v => cases v <;> simp [Json.string?, hname]
  | _ => simp [Json.member?]

instance (selected : List String) : DecidablePred (Proposes selected) :=
  fun _ => decidable_of_iff _ isSelected_iff

theorem decide_proposes (proposal : Json) : decide (Proposes A proposal) = isSelected A proposal := by
  rw [← Bool.coe_iff_coe, decide_eq_true_iff, isSelected_iff]

theorem offers_proposals (a : Json.Object) : Offers a (proposals a) := by
  unfold proposals
  cases h : a.get? proposalsKey with
  | none => exact .unlisted (by simp [h])
  | some v =>
    cases v with
    | array ps => exact .listed h
    | _ => exact .unlisted (by simp [h])

theorem proposals_insert (ps : List Json) (a : Json.Object) : proposals (a.insert proposalsKey (.array ps)) = ps := by
  unfold proposals
  rw [Members.get?_insert_self]
  rfl

theorem select_nil (a : Json.Object) : select [] a = a := rfl

theorem select_of_ne_nil (h : A ≠ []) (a : Json.Object) :
    select A a = a.insert proposalsKey (.array ((proposals a).filter fun p => decide (Proposes A p))) := by
  have hempty : A.isEmpty = false := List.isEmpty_eq_false_iff.mpr h
  unfold select
  rw [hempty, if_neg Bool.false_ne_true]
  simp only [decide_proposes]

theorem proposals_select (h : A ≠ []) (a : Json.Object) :
    proposals (select A a) = (proposals a).filter fun p => decide (Proposes A p) := by
  rw [select_of_ne_nil h, proposals_insert]

theorem proposals_select_sublist (A : List String) (a : Json.Object) :
    (proposals (select A a)).Sublist (proposals a) := by
  by_cases h : A = []
  . subst h
    exact List.Sublist.refl (proposals a)
  . rw [proposals_select h]
    exact List.filter_sublist

theorem select_select (hA : A ≠ []) (hB : B ≠ []) (a : Json.Object) :
    select B (select A a) =
      a.insert proposalsKey (.array ((proposals a).filter fun p => decide (Proposes A p ∧ Proposes B p))) := by
  rw [select_of_ne_nil hB, proposals_select hA, select_of_ne_nil hA, Members.insert_insert, List.filter_filter]
  simp only [Bool.decide_and, Bool.and_comm]

theorem select_comm (hA : A ≠ []) (hB : B ≠ []) (a : Json.Object) :
    select B (select A a) = select A (select B a) := by
  rw [select_select hA hB, select_select hB hA]
  simp only [and_comm]

theorem select_self (hA : A ≠ []) (a : Json.Object) : select A (select A a) = select A a := by
  rw [select_select hA hA, select_of_ne_nil hA]
  simp only [and_self]

theorem select_congr (hA : A ≠ []) (h : ∀ field, field ∈ B ↔ field ∈ A) (a : Json.Object) :
    select B a = select A a := by
  have hB : B ≠ [] := by
    obtain ⟨field, hfield⟩ := List.exists_mem_of_ne_nil A hA
    exact List.ne_nil_of_mem ((h field).mpr hfield)
  have hsame (p : Json) : Proposes B p ↔ Proposes A p := by
    unfold Proposes
    simp only [h]
  rw [select_of_ne_nil hA, select_of_ne_nil hB]
  simp only [hsame]

theorem narrowed_insert (keeps : Json → Prop) [DecidablePred keeps] (a : Json.Object) :
    Narrowed keeps a (a.insert proposalsKey (.array ((proposals a).filter fun p => decide (keeps p)))) := by
  constructor
  . exact Members.erase_insert _ _ a
  . exact ⟨proposals a, offers_proposals a, Members.get?_insert_self _ _ a⟩

/--
A selection of fields keeps the proposals for these fields and all other members. It may be made again or list its
fields in another way. A second selection takes proposals away and never brings one back; two selections keep what both of them
keep, whichever is made first. To select nothing changes nothing.
-/
theorem select_narrows (a : Json.Object) :
    select [] a = a ∧
    ∀ A, A ≠ [] →
      Narrowed (Proposes A) a (select A a) ∧
      select A (select A a) = select A a ∧
      (∀ A', (∀ field, field ∈ A' ↔ field ∈ A) → select A' a = select A a) ∧
      (∀ B, (proposals (select B (select A a))).Sublist (proposals (select A a))) ∧
      ∀ B, B ≠ [] →
        select B (select A a) = select A (select B a) ∧
        Narrowed (fun p => Proposes A p ∧ Proposes B p) a (select B (select A a)) := by
  refine ⟨select_nil a, ?_⟩
  intro A hA
  refine ⟨?_, select_self hA a, ?_, ?_, ?_⟩
  . rw [select_of_ne_nil hA]
    exact narrowed_insert _ a
  . intro A' h
    exact select_congr hA h a
  . intro B
    exact proposals_select_sublist B (select A a)
  . intro B hB
    refine ⟨select_comm hA hB a, ?_⟩
    rw [select_select hA hB]
    exact narrowed_insert _ a

/--
Two selections without a field in common leave no proposal, rather than all of them.
-/
theorem select_narrows_disjoint :
    let a : Json.Object := [
      ("field_proposals", .array [
        .object [("field_name", .string "priority")], .object [("field_name", .string "status")], .string "priority"]),
      ("intent", .string "billing")]
    (select ["priority"] a).get? proposalsKey = some (.array [.object [("field_name", .string "priority")]]) ∧
    (select ["status"] (select ["priority"] a)).get? proposalsKey = some (.array []) ∧
    select ["status"] (select ["priority"] a) = select ["priority"] (select ["status"] a) := by
  intro a
  obtain ⟨-, hselect⟩ := select_narrows a
  obtain ⟨⟨-, ps, hps, hone⟩, -, -, -, hsecond⟩ := hselect ["priority"] (by decide)
  obtain ⟨hcomm, -, qs, hqs, hboth⟩ := hsecond ["status"] (by decide)
  refine ⟨?_, ?_, hcomm⟩
  . rw [hone]
    cases hps with
    | listed h =>
      cases h
      decide +kernel
    | unlisted h => exact absurd rfl (h _)
  . rw [hboth]
    cases hqs with
    | listed h =>
      cases h
      decide +kernel
    | unlisted h => exact absurd rfl (h _)

end Analysis
end Triage
