import Triage.Proofs.Json.RoundTrip

/-!
This module contains the proof that the canonical form of a value is canonical, and that objects stay canonical when
members are put into them.
-/

namespace Triage

namespace Members

variable {α : Type}

theorem mem_insert {key : String} {value : α} {m : String × α} {members : Members α}
    (h : m ∈ members.insert key value) : m = (key, value) ∨ m ∈ members := by
  induction members with
  | nil => exact Or.inl (List.mem_singleton.mp h)
  | cons n rest ih =>
    obtain ⟨k, v⟩ := n
    rw [insert] at h
    split at h
    . exact List.mem_cons.mp h
    . split at h
      . cases List.mem_cons.mp h with
        | inl h => exact Or.inl h
        | inr h => exact Or.inr (List.mem_cons_of_mem _ h)
      . cases List.mem_cons.mp h with
        | inl h =>
          rw [h]
          exact Or.inr List.mem_cons_self
        | inr h =>
          apply (ih h).imp_right
          exact List.mem_cons_of_mem _

theorem Increasing.insert {members : Members α} (h : members.Increasing) (key : String) (value : α) :
    (members.insert key value).Increasing := by
  induction members with
  | nil => exact List.pairwise_singleton _ _
  | cons m rest ih =>
    obtain ⟨k, v⟩ := m
    have hcons := List.pairwise_cons.mp h
    rw [Members.insert]
    split
    . rename_i hlt
      refine List.pairwise_cons.mpr ⟨?_, h⟩
      intro m hm
      cases List.mem_cons.mp hm with
      | inl hm =>
        rw [hm]
        exact hlt
      | inr hm => exact String.lt_trans hlt (hcons.1 m hm)
    . split
      . rename_i heq
        subst heq
        exact List.pairwise_cons.mpr hcons
      . rename_i hnlt hne
        have hgt : k < key := by
          apply Classical.byContradiction
          intro hngt
          exact hne (String.le_antisymm (String.not_lt.mp hngt) (String.not_lt.mp hnlt))
        refine List.pairwise_cons.mpr ⟨?_, ih hcons.2⟩
        intro m hm
        cases mem_insert hm with
        | inl hm =>
          rw [hm]
          exact hgt
        | inr hm => exact hcons.1 m hm

theorem Increasing.nodup {members : Members α} (h : members.Increasing) : (members.map Prod.fst).Nodup := by
  rw [List.Nodup, List.pairwise_map]
  apply List.Pairwise.imp _ h
  intro a b hlt heq
  rw [heq] at hlt
  exact String.lt_irrefl _ hlt

/--
What holds of the empty list and is kept by every insertion of a member holds of the sorted members.
-/
theorem sorted_induction {members : Members α} {P : Members α → Prop} (hnil : P [])
    (hinsert : ∀ acc m, m ∈ members → P acc → P (acc.insert m.1 m.2)) : P (sorted members) := by
  have hfold (acc : Members α) (hacc : P acc) : P (members.foldl (fun acc m => acc.insert m.1 m.2) acc) := by
    induction members generalizing acc with
    | nil => exact hacc
    | cons m rest ih =>
      apply ih
      . intro acc n hn
        exact hinsert acc n (List.mem_cons_of_mem _ hn)
      . exact hinsert acc m List.mem_cons_self hacc
  exact hfold [] hnil

theorem increasing_sorted (members : Members α) : (sorted members).Increasing := by
  apply sorted_induction List.Pairwise.nil
  intro acc m _ hacc
  exact Increasing.insert hacc m.1 m.2

theorem mem_of_mem_sorted {m : String × α} {members : Members α} (h : m ∈ sorted members) : m ∈ members := by
  have hall : ∀ n ∈ sorted members, n ∈ members := by
    apply sorted_induction (P := fun acc => ∀ n ∈ acc, n ∈ members)
    . intro n hn
      cases hn
    . intro acc n hn hacc m hm
      cases mem_insert hm with
      | inl hm =>
        rw [hm]
        exact hn
      | inr hm => exact hacc m hm
  exact hall m h

end Members

namespace Json

theorem canonicalItems_iff {vs : List Json} : CanonicalItems vs ↔ ∀ v ∈ vs, v.Canonical := by
  induction vs with
  | nil => simp [CanonicalItems]
  | cons v vs ih => rw [CanonicalItems, ih, List.forall_mem_cons]

theorem canonicalMembers_iff {ms : List (String × Json)} : CanonicalMembers ms ↔ ∀ m ∈ ms, m.2.Canonical := by
  induction ms with
  | nil => simp [CanonicalMembers]
  | cons m ms ih =>
    obtain ⟨k, v⟩ := m
    rw [CanonicalMembers, ih, List.forall_mem_cons]

theorem mem_canonicalMembers {m : String × Json} {ms : List (String × Json)} (h : m ∈ canonicalMembers ms) :
    ∃ v, (m.1, v) ∈ ms ∧ m.2 = v.canonical := by
  induction ms with
  | nil => cases h
  | cons n ms ih =>
    obtain ⟨k, v⟩ := n
    cases List.mem_cons.mp h with
    | inl h =>
      rw [h]
      exact ⟨v, List.mem_cons_self, rfl⟩
    | inr h =>
      obtain ⟨w, hw, heq⟩ := ih h
      exact ⟨w, List.mem_cons_of_mem _ hw, heq⟩

/--
Whether the members of an object are in order and their values canonical.
-/
abbrev Object.Canonical (members : Object) : Prop :=
  (Json.object members).Canonical

theorem Object.Canonical.insert {members : Object} (h : members.Canonical) (key : String) {v : Json}
    (hv : v.Canonical) : Object.Canonical (Members.insert key v members) := by
  refine ⟨Members.Increasing.insert h.1 key v, canonicalMembers_iff.mpr ?_⟩
  intro m hm
  cases Members.mem_insert hm with
  | inl hm =>
    rw [hm]
    exact hv
  | inr hm => exact canonicalMembers_iff.mp h.2 m hm

theorem Object.canonical_sorted {members : List (String × Json)} (h : CanonicalMembers members) :
    Object.Canonical (Members.sorted members) := by
  refine ⟨Members.increasing_sorted members, canonicalMembers_iff.mpr ?_⟩
  intro m hm
  exact canonicalMembers_iff.mp h m (Members.mem_of_mem_sorted hm)

mutual

theorem canonical_canonical : (v : Json) → v.canonical.Canonical
  | .null | .bool _ | .number _ | .string _ => trivial
  | .array items => canonicalItems_canonicalItems items
  | .object members => Object.canonical_sorted (canonicalMembers_canonicalMembers members)
termination_by structural v => v

theorem canonicalItems_canonicalItems : (vs : List Json) → CanonicalItems (canonicalItems vs)
  | [] => trivial
  | v :: vs => ⟨canonical_canonical v, canonicalItems_canonicalItems vs⟩
termination_by structural vs => vs

theorem canonicalMembers_canonicalMembers : (ms : List (String × Json)) → CanonicalMembers (canonicalMembers ms)
  | [] => trivial
  | (_, v) :: ms => ⟨canonical_canonical v, canonicalMembers_canonicalMembers ms⟩
termination_by structural ms => ms

end

theorem canonical_of_get? {ms : List (String × Json)} (h : Object.Canonical ms) {key : String} {v : Json}
    (hget : Members.get? key ms = some v) : v.Canonical :=
  canonicalMembers_iff.mp h.2 _ (Members.mem_of_get? hget)

theorem canonical_of_parse? {text : String} {v : Json} (h : Json.parse? text = some v) : v.Canonical := by
  obtain ⟨w, -, rfl⟩ := Option.map_eq_some_iff.mp h
  exact canonical_canonical w

end Json
end Triage
