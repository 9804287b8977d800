import Triage.Proofs.Json.RoundTrip
import Triage.Store.Codec

/-!
This module contains the proof that the text of a store is read again as the store.
-/

namespace Triage

namespace Table

variable {α β : Type}

def map (f : α → β) (t : Table α) : Table β :=
  ⟨t.rows.map fun (name, row) => (name, f row)⟩

theorem get?_map (f : α → β) (t : Table α) (name : String) : (t.map f).get? name = (t.get? name).map f := by
  unfold map get?
  dsimp only
  induction t.rows with
  | nil => rfl
  | cons r rest ih =>
    obtain ⟨other, row⟩ := r
    rw [List.map_cons, List.lookup_cons, List.lookup_cons, ih]
    cases name == other <;> rfl

end Table

namespace Json

/--
A value with at most `n` containers inside of one another that is read again from its text, if this is not too deep.
-/
structure Writable (n : Nat) (v : Json) : Prop where
  containers : v.containers ≤ n
  numbers : v.NumbersSurvive

theorem Writable.array {vs : List Json} {n : Nat} (h : ∀ v ∈ vs, Writable n v) : Writable (n + 1) (.array vs) := by
  induction vs with
  | nil => exact ⟨Nat.le_add_left 1 n, trivial⟩
  | cons v vs ih =>
    rw [List.forall_mem_cons] at h
    have hrest := (ih h.2).containers
    unfold Json.containers at hrest
    constructor
    . unfold Json.containers containersOfItems
      rw [Nat.add_le_add_iff_right, Nat.max_le]
      exact ⟨h.1.containers, Nat.le_of_succ_le_succ hrest⟩
    . exact ⟨h.1.numbers, (ih h.2).numbers⟩

theorem Writable.object {ms : List (String × Json)} {n : Nat} (h : ∀ m ∈ ms, Writable n m.2) :
    Writable (n + 1) (.object ms) := by
  induction ms with
  | nil => exact ⟨Nat.le_add_left 1 n, trivial⟩
  | cons m ms ih =>
    obtain ⟨k, v⟩ := m
    rw [List.forall_mem_cons] at h
    have hrest := (ih h.2).containers
    unfold Json.containers at hrest
    constructor
    . unfold Json.containers containersOfMembers
      rw [Nat.add_le_add_iff_right, Nat.max_le]
      exact ⟨h.1.containers, Nat.le_of_succ_le_succ hrest⟩
    . exact ⟨h.1.numbers, (ih h.2).numbers⟩

theorem Writable.string (s : String) (n : Nat) : Writable n (.string s) :=
  ⟨Nat.zero_le n, trivial⟩

theorem Writable.ofString? (s : Option String) (n : Nat) : Writable n (ofString? s) := by
  cases s <;> exact ⟨Nat.zero_le n, trivial⟩

namespace Fields

theorem ofJson?_object {names : List String} {members : List (String × Json)}
    (hknown : members.all (fun (k, _) => names.contains k) = true) (hnodup : (members.map Prod.fst).Nodup) :
    ofJson? names (.object members) = some ⟨members, false⟩ := by
  have hfilter : members.filter (fun (k, _) => names.contains k) = members := by
    rw [List.filter_eq_self]
    rwa [List.all_eq_true] at hknown
  unfold ofJson?
  dsimp only
  rw [hfilter, if_pos hnodup]

theorem nullable_ofString? (s : Option String) : nullable Decode.string (ofString? s) = some s := by
  cases s <;> rfl

end Fields
end Json

namespace Store

open Json

/--
A number as it is read again from the text of a store: the two zeros are not kept apart, and `nan` becomes zero.
-/
def rereadNumber (x : Double) : Double :=
  let key := x.key?.getD 0
  Binary.ofRank (decide (key < 0)) key.natAbs

def RecordRow.reread (row : RecordRow) : RecordRow :=
  { row with confidence := rereadNumber row.confidence }

def reread (s : Store) : Store :=
  { s with records := s.records.map RecordRow.reread }

theorem natAbs_key?_le (x : Double) : (x.key?.getD 0).natAbs ≤ 9218868437227405312 := by
  have hinfinity : BinaryFormat.double.infinity = 9218868437227405312 := by decide
  cases x with
  | nan => decide
  | signed negative rank bounded =>
    rw [hinfinity] at bounded
    cases negative with
    | false => simpa [Binary.key?] using bounded
    | true => simpa [Binary.key?] using bounded

theorem rank?_ofRank (x : Double) : rank? (ofRank x) = some (rereadNumber x) := by
  have hbound := natAbs_key?_le x
  have hfits : Integer.ofInt? (x.key?.getD 0) = some ⟨x.key?.getD 0, by omega, by omega⟩ := by
    unfold Integer.ofInt?
    rw [dif_pos (by omega)]
  unfold ofRank rank?
  rw [hfits]
  rfl

/-! The fields of a row are read one after the other, and each one from the member with its name. -/

theorem bind_eq_some {α β : Type} {x : Option α} {a : α} {f : α → Option β} {b : β} (hx : x = some a)
    (hf : f a = some b) : x >>= f = some b := by
  rw [hx]
  exact hf

theorem RunRow.ofJson?_toJson (row : RunRow) : ofJson? row.toJson = some row := by
  apply bind_eq_some (Fields.ofJson?_object (by rfl) (by simp))
  iterate 3 apply bind_eq_some rfl
  apply bind_eq_some (Fields.nullable_ofString? row.gate)
  apply bind_eq_some rfl
  apply bind_eq_some (Fields.nullable_ofString? row.error)
  apply bind_eq_some rfl
  apply bind_eq_some (Fields.nullable_ofString? row.completedAt)
  rfl

theorem RecordRow.ofJson?_toJson (row : RecordRow) : ofJson? row.toJson = some row.reread := by
  apply bind_eq_some (Fields.ofJson?_object (by rfl) (by simp))
  iterate 4 apply bind_eq_some rfl
  apply bind_eq_some (Fields.nullable_ofString? row.rootCause)
  apply bind_eq_some rfl
  apply bind_eq_some (rank?_ofRank row.confidence)
  apply bind_eq_some (Fields.nullable_ofString? row.intent)
  apply bind_eq_some (Fields.nullable_ofString? row.sentiment)
  iterate 6 apply bind_eq_some rfl
  rfl

theorem tableOfJson?_tableToJson {α : Type} {encode : α → Json} {decode : Json → Option α} {f : α → α}
    (h : ∀ row, decode (encode row) = some (f row)) (t : Table α) :
    tableOfJson? decode (tableToJson encode t) = some (t.map f) := by
  have hrows (rows : List (String × α)) :
      (rows.map fun (id, row) => Json.array [.string id, encode row]).mapM (namedRow? decode) =
        some (rows.map fun (id, row) => (id, f row)) := by
    induction rows with
    | nil => rfl
    | cons r rest ih =>
      obtain ⟨id, row⟩ := r
      have hrow : namedRow? decode (.array [.string id, encode row]) = some (id, f row) := by
        unfold namedRow?
        dsimp only
        rw [h]
        rfl
      rw [List.map_cons, List.mapM_cons, hrow, ih]
      rfl
  unfold tableOfJson? tableToJson Decode.list
  dsimp only
  rw [hrows]
  rfl

theorem ofJson?_toJson (s : Store) : ofJson? s.toJson = some s.reread := by
  have hruns : tableOfJson? RunRow.ofJson? (tableToJson RunRow.toJson s.runs) = some (s.runs.map id) :=
    tableOfJson?_tableToJson RunRow.ofJson?_toJson s.runs
  have hrecords := tableOfJson?_tableToJson RecordRow.ofJson?_toJson s.records
  have hid : s.runs.map id = s.runs := by
    unfold Table.map
    simp
  rw [hid] at hruns
  apply bind_eq_some (Fields.ofJson?_object (by rfl) (by simp))
  apply bind_eq_some hruns
  apply bind_eq_some hrecords
  rfl

theorem writable_ofRank (x : Double) (n : Nat) : Writable n (ofRank x) :=
  ⟨Nat.zero_le n, trivial⟩

theorem RunRow.writable_toJson (row : RunRow) : Writable 1 row.toJson := by
  apply Writable.object
  simp [Writable.string, Writable.ofString?]

theorem RecordRow.writable_toJson (row : RecordRow) : Writable 1 row.toJson := by
  apply Writable.object
  simp [Writable.string, Writable.ofString?, writable_ofRank]

theorem writable_tableToJson {α : Type} {encode : α → Json} {n : Nat} (h : ∀ row, Writable n (encode row))
    (t : Table α) : Writable (n + 2) (tableToJson encode t) := by
  apply Writable.array
  intro v hv
  obtain ⟨⟨id, row⟩, -, rfl⟩ := List.mem_map.mp hv
  apply Writable.array
  simp [Writable.string, h row]

theorem writable_toJson (s : Store) : Writable 4 s.toJson := by
  apply Writable.object
  simp [writable_tableToJson RunRow.writable_toJson, writable_tableToJson RecordRow.writable_toJson]

/--
The text of a store is read again as the store, but for numbers that are none.
-/
theorem ofText?_toText (s : Store) : ofText? s.toText = some s.reread := by
  have hread : read? s.toText = some s.toJson := by
    apply read?_compact
    . exact Nat.le_trans s.writable_toJson.containers (by decide)
    . exact s.writable_toJson.numbers
  have hne : s.toText.isEmpty = false := by
    cases hempty : s.toText.isEmpty with
    | false => rfl
    | true =>
      rw [String.isEmpty_iff.mp hempty] at hread
      contradiction
  unfold ofText?
  rw [hne, hread, if_neg Bool.false_ne_true, Option.bind_some, ofJson?_toJson]

end Store
end Triage
