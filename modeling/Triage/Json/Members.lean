/-!
This module contains lists of named values as they occur in objects: lookup, and insertion that keeps the
names in increasing order by code point, without duplicates.
-/

namespace Triage

/--
Named values in a list.
-/
abbrev Members (α : Type) := List (String × α)

namespace Members

variable {α β : Type}

/--
The first value of the name `key`.
-/
def get? (key : String) : Members α → Option α
  | [] => none
  | (k, v) :: rest => if k = key then some v else get? key rest

/--
Put a value under the name `key` into a list with increasing names; an older value of that name is replaced.
-/
def insert (key : String) (value : α) : Members α → Members α
  | [] => [(key, value)]
  | (k, v) :: rest =>
    if key < k then (key, value) :: (k, v) :: rest
    else if key = k then (key, value) :: rest
    else (k, v) :: insert key value rest

/--
The list with increasing names that has, for each name, the last value in `members`.
-/
def sorted (members : Members α) : Members α :=
  members.foldl (fun acc (k, v) => acc.insert k v) []

/--
The values under all names but `key`.
-/
def erase (key : String) (members : Members α) : Members α :=
  members.filter fun (k, _) => k ≠ key

/--
Whether there is a value under the name `key`.
-/
def contains (key : String) (members : Members α) : Bool :=
  members.any fun (k, _) => k = key

def Increasing (members : Members α) : Prop :=
  members.Pairwise fun a b => a.1 < b.1

theorem get?_insert_self (key : String) (value : α) (members : Members α) :
    (members.insert key value).get? key = some value := by
  induction members with
  | nil => simp [insert, get?]
  | cons m rest ih =>
    obtain ⟨k, v⟩ := m
    simp only [insert]
    split
    · simp [get?]
    · split
      · simp [get?]
      · next h₂ => simp [get?, Ne.symm h₂, ih]

theorem get?_insert_of_ne {key other : String} (value : α) (members : Members α) (h : other ≠ key) :
    (members.insert key value).get? other = members.get? other := by
  induction members with
  | nil => simp [insert, get?, Ne.symm h]
  | cons m rest ih =>
    obtain ⟨k, v⟩ := m
    simp only [insert]
    split
    · simp [get?, Ne.symm h]
    · split
      · next h₂ => subst h₂; simp [get?, Ne.symm h]
      · simp only [get?, ih]

theorem get?_eq_none_of_not_mem {key : String} {members : Members α} (h : key ∉ members.map Prod.fst) :
    members.get? key = none := by
  induction members with
  | nil => rfl
  | cons m rest ih =>
    obtain ⟨k, v⟩ := m
    rw [List.map_cons, List.mem_cons, not_or] at h
    rw [get?, if_neg (Ne.symm h.1), ih h.2]

theorem mem_of_get? {key : String} {value : α} {members : Members α} (h : members.get? key = some value) :
    (key, value) ∈ members := by
  induction members with
  | nil => contradiction
  | cons m rest ih =>
    obtain ⟨k, v⟩ := m
    rw [get?] at h
    split at h
    · next hk =>
      cases h
      rw [hk]
      exact List.mem_cons_self
    · exact List.mem_cons_of_mem _ (ih h)

theorem get?_of_mem {key : String} {value : α} {members : Members α} (hkeys : (members.map Prod.fst).Nodup)
    (h : (key, value) ∈ members) : members.get? key = some value := by
  induction members with
  | nil => contradiction
  | cons m rest ih =>
    obtain ⟨k, v⟩ := m
    rw [List.map_cons, List.nodup_cons] at hkeys
    rw [List.mem_cons] at h
    cases h with
    | inl h =>
      cases h
      rw [get?, if_pos rfl]
    | inr h =>
      have hne : k ≠ key := by
        rintro rfl
        exact hkeys.1 (List.mem_map.mpr ⟨_, h, rfl⟩)
      rw [get?, if_neg hne, ih hkeys.2 h]

theorem get?_sorted {members : Members α} (hkeys : (members.map Prod.fst).Nodup) (key : String) :
    (sorted members).get? key = members.get? key := by
  have hfold (acc : Members α) : (members.foldl (fun acc (k, v) => acc.insert k v) acc).get? key =
      (members.get? key).or (acc.get? key) := by
    induction members generalizing acc with
    | nil => rfl
    | cons m rest ih =>
      obtain ⟨k, v⟩ := m
      rw [List.map_cons, List.nodup_cons] at hkeys
      rw [List.foldl_cons, ih hkeys.2, get?]
      by_cases hk : k = key
      · subst hk
        rw [get?_eq_none_of_not_mem hkeys.1, get?_insert_self, if_pos rfl]
        rfl
      · rw [get?_insert_of_ne _ _ (Ne.symm hk), if_neg hk]
  have := hfold []
  rwa [get?, Option.or_none] at this

end Members
end Triage
