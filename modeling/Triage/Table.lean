/-!
This module contains tables: rows that are found by their names and stay in the order in which their names
came.
-/

namespace Triage

/--
Rows with their names.
-/
structure Table (α : Type) where
  rows : List (String × α)

namespace Table

variable {α : Type}

def empty : Table α := ⟨[]⟩

def get? (t : Table α) (name : String) : Option α :=
  t.rows.lookup name

/--
Put a row in the place of the row of the same name, or behind all others if there is none.
-/
def put (t : Table α) (name : String) (row : α) : Table α :=
  ⟨go t.rows⟩
where
  go : List (String × α) → List (String × α)
    | [] => [(name, row)]
    | (other, old) :: rest => if other = name then (name, row) :: rest else (other, old) :: go rest

def names (t : Table α) : List String :=
  t.rows.map Prod.fst

@[simp]
theorem get?_empty (name : String) : (empty : Table α).get? name = none := rfl

@[simp]
theorem get?_put_self (t : Table α) (name : String) (row : α) : (t.put name row).get? name = some row := by
  unfold put get?
  generalize t.rows = rows
  induction rows with
  | nil => simp [put.go]
  | cons r rest ih =>
    obtain ⟨other, old⟩ := r
    simp only [put.go]
    split
    · simp
    · next h => simp [List.lookup_cons, beq_false_of_ne (Ne.symm h), ih]

theorem get?_put_of_ne (t : Table α) {name other : String} (row : α) (h : other ≠ name) :
    (t.put name row).get? other = t.get? other := by
  unfold put get?
  generalize t.rows = rows
  induction rows with
  | nil => simp [put.go, h]
  | cons r rest ih =>
    obtain ⟨key, old⟩ := r
    simp only [put.go]
    split
    · next hk => subst hk; simp [List.lookup_cons, beq_false_of_ne h]
    · simp only [List.lookup_cons, ih]

theorem get?_put (t : Table α) (name other : String) (row : α) :
    (t.put name row).get? other = if other = name then some row else t.get? other := by
  split
  . next h =>
    rw [h, get?_put_self]
  . next h =>
    rw [get?_put_of_ne t row h]

theorem get?_eq_none_iff {t : Table α} {name : String} : t.get? name = none ↔ name ∉ t.names := by
  unfold get? names
  rw [List.lookup_eq_none_iff]
  constructor
  . intro h hmem
    obtain ⟨r, hr, hname⟩ := List.mem_map.mp hmem
    simpa [hname] using h r hr
  . intro h r hr
    rw [bne_iff_ne]
    intro hname
    apply h
    rw [hname]
    exact List.mem_map_of_mem hr

theorem names_put (t : Table α) (name : String) (row : α) :
    (t.put name row).names = if name ∈ t.names then t.names else t.names ++ [name] := by
  unfold put names
  generalize t.rows = rows
  induction rows with
  | nil => simp [put.go]
  | cons r rest ih =>
    obtain ⟨other, old⟩ := r
    simp only [put.go]
    split
    . next h =>
      simp [h]
    . next h =>
      simp only [List.map_cons, ih, List.mem_cons, Ne.symm h, false_or]
      split <;> simp

theorem rows_put_of_none {t : Table α} {name : String} (h : t.get? name = none) (row : α) :
    (t.put name row).rows = t.rows ++ [(name, row)] := by
  unfold get? at h
  unfold put
  dsimp only
  generalize t.rows = rows at h
  induction rows with
  | nil => rfl
  | cons r rest ih =>
    obtain ⟨other, old⟩ := r
    rw [List.lookup_cons] at h
    by_cases hname : name = other
    . simp [hname] at h
    . rw [beq_false_of_ne hname] at h
      rw [put.go, if_neg (Ne.symm hname), ih h, List.cons_append]

/--
The later one of two rows of the same name stays.
-/
theorem put_put (t : Table α) (name : String) (old row : α) : (t.put name old).put name row = t.put name row := by
  unfold put
  dsimp only
  congr 1
  generalize t.rows = rows
  induction rows with
  | nil => simp [put.go]
  | cons r rest ih =>
    obtain ⟨other, first⟩ := r
    by_cases hname : other = name
    . simp [put.go, hname]
    . simp [put.go, hname, ih]

theorem nodup_names_put {t : Table α} (h : t.names.Nodup) (name : String) (row : α) :
    (t.put name row).names.Nodup := by
  rw [names_put]
  split
  . exact h
  . next hname =>
    rw [List.nodup_append]
    refine ⟨h, List.pairwise_singleton _ name, ?_⟩
    intro a ha b hb
    rw [List.mem_singleton] at hb
    rw [hb]
    rintro rfl
    exact hname ha

theorem mem_rows_iff {t : Table α} (h : t.names.Nodup) {name : String} {row : α} :
    (name, row) ∈ t.rows ↔ t.get? name = some row := by
  unfold names at h
  unfold get?
  generalize t.rows = rows at h
  induction rows with
  | nil => simp
  | cons r rest ih =>
    obtain ⟨other, old⟩ := r
    rw [List.map_cons, List.nodup_cons] at h
    rw [List.mem_cons, ih h.2, List.lookup_cons]
    by_cases hname : name = other
    . subst hname
      have : rest.lookup name = none := get?_eq_none_iff (t := ⟨rest⟩).mpr h.1
      simp [this, eq_comm]
    . simp [hname, beq_false_of_ne hname]

/--
The order of the names aside, a table is what is found under its names.
-/
theorem rows_perm_of_get?_eq {t u : Table α} (ht : t.names.Nodup) (hu : u.names.Nodup)
    (h : ∀ name, t.get? name = u.get? name) : t.rows.Perm u.rows := by
  rw [List.perm_ext_iff_of_nodup]
  . intro r
    obtain ⟨name, row⟩ := r
    rw [mem_rows_iff ht, mem_rows_iff hu, h]
  . exact List.Pairwise.of_map Prod.fst (fun _ _ => mt (congrArg Prod.fst)) ht
  . exact List.Pairwise.of_map Prod.fst (fun _ _ => mt (congrArg Prod.fst)) hu

end Table
end Triage
