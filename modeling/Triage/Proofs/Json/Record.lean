import Mathlib.Data.List.Nodup
import Triage.Json.Fields
import Triage.Proofs.Json.Skim

/-!
This module contains what a decoder finds in a record: its fields by their names, whether the record is an object or an array.
Members that are no fields are not found, and what skipping leaves of a record has the same fields.
-/

namespace Triage

theorem Members.get?_filter_known {α : Type} {known : List String} {key : String} (hkey : key ∈ known) (members : Members α) :
    Members.get? key (members.filter fun (k, _) => known.contains k) = members.get? key := by
  induction members with
  | nil => rfl
  | cons m rest ih =>
    obtain ⟨k, v⟩ := m
    by_cases hk : k = key
    . subst hk
      rw [List.filter_cons_of_pos (by simpa using hkey), Members.get?, Members.get?, if_pos rfl, if_pos rfl]
    . have hrest (more : Members α) : Members.get? key ((k, v) :: more) = more.get? key := by
        rw [Members.get?, if_neg hk]
      simp only [List.filter_cons]
      split
      . rw [hrest, hrest, ih]
      . rw [hrest, ih]

namespace Json

/--
Whether a value can stand for a record with fields of the given names: an object that has none of them twice, or an array that
has no more items.
-/
inductive IsRecord (names : List String) : Json → Prop where
  | object {members : List (String × Json)} (h : ∀ name ∈ names, (members.map Prod.fst).count name ≤ 1) :
      IsRecord names (.object members)
  | array {items : List Json} (h : items.length ≤ names.length) : IsRecord names (.array items)

/--
The value of a field: the member with its name, or the item at its place.
-/
def field? (names : List String) (key : String) : Json → Option Json
  | .object members => Members.get? key members
  | .array items => Members.get? key (names.zip items)
  | _ => none

namespace Fields

variable {names : List String} {v : Json} {f : Fields}

theorem nodup_known_iff (names : List String) (members : List (String × Json)) :
    ((members.filter fun (k, _) => names.contains k).map Prod.fst).Nodup ↔
      ∀ name ∈ names, (members.map Prod.fst).count name ≤ 1 := by
  have hfilter : (members.filter fun (k, _) => names.contains k).map Prod.fst =
      (members.map Prod.fst).filter fun k => names.contains k := by
    rw [List.filter_map]
    rfl
  rw [hfilter, List.nodup_iff_count_le_one]
  constructor
  . intro h name hname
    have hcount := h name
    rwa [List.count_filter (by simpa using hname)] at hcount
  . intro h name
    by_cases hname : name ∈ names
    . rw [List.count_filter (by simpa using hname)]
      exact h name hname
    . rw [List.count_eq_zero_of_not_mem (by simp [hname])]
      exact Nat.zero_le 1

theorem exists_ofJson? (h : IsRecord names v) : ∃ f, ofJson? names v = some f := by
  unfold ofJson?
  cases h with
  | object honce => exact ⟨_, if_pos ((nodup_known_iff _ _).mpr honce)⟩
  | array hlength => exact ⟨_, if_pos hlength⟩

/--
What a decoder is given of a record: its fields, and whether they are in their order.
-/
theorem of_ofJson? (h : ofJson? names v = some f) :
    IsRecord names v ∧ (∀ key ∈ names, Members.get? key f.given = field? names key v) ∧ f.inOrder = v.items?.isSome := by
  unfold ofJson? at h
  cases v with
  | object members =>
    dsimp only at h
    split at h
    . next hnodup =>
      cases h
      exact ⟨.object ((nodup_known_iff _ _).mp hnodup), fun key hkey => Members.get?_filter_known hkey members, rfl⟩
    . contradiction
  | array items =>
    dsimp only at h
    split at h
    . next hlength =>
      cases h
      exact ⟨.array hlength, fun key hkey => rfl, rfl⟩
    . contradiction
  | _ => contradiction

/--
A decoder of records needs a record, and then it goes by the fields.
-/
theorem bind_ofJson?_iff {α : Type} {read : Fields → Option α} {x : α} {P : Prop}
    (h : ∀ f : Fields, (∀ key ∈ names, Members.get? key f.given = field? names key v) → f.inOrder = v.items?.isSome →
      (read f = some x ↔ P)) :
    (ofJson? names v).bind read = some x ↔ IsRecord names v ∧ P := by
  constructor
  . intro hread
    obtain ⟨f, hf, hx⟩ := Option.bind_eq_some_iff.mp hread
    obtain ⟨hrecord, hgiven, horder⟩ := of_ofJson? hf
    exact ⟨hrecord, (h f hgiven horder).mp hx⟩
  . rintro ⟨hrecord, hp⟩
    obtain ⟨f, hf⟩ := exists_ofJson? hrecord
    obtain ⟨-, hgiven, horder⟩ := of_ofJson? hf
    exact Option.bind_eq_some_iff.mpr ⟨f, hf, (h f hgiven horder).mpr hp⟩

end Fields

/-! Members that are no fields. -/

/--
Two values that are the same as records with fields of the given names.
-/
structure SameFields (names : List String) (v w : Json) : Prop where
  isRecord : IsRecord names v ↔ IsRecord names w
  fields : ∀ name ∈ names, field? names name v = field? names name w
  inOrder : v.items?.isSome = w.items?.isSome

theorem get?_append_cons_of_ne {key name : String} (hne : key ≠ name) (front back : List (String × Json)) (v : Json) :
    Members.get? name (front ++ (key, v) :: back) = Members.get? name (front ++ back) := by
  induction front with
  | nil => exact if_neg hne
  | cons m front ih =>
    obtain ⟨k, w⟩ := m
    rw [List.cons_append, List.cons_append, Members.get?, Members.get?, ih]

theorem sameFields_of_unknown {names : List String} {key : String} (hkey : key ∉ names) (front back : List (String × Json))
    (v : Json) : SameFields names (.object (front ++ (key, v) :: back)) (.object (front ++ back)) := by
  have hne : ∀ name ∈ names, key ≠ name := by
    rintro name hname rfl
    exact hkey hname
  have hcount : ∀ name ∈ names, ((front ++ (key, v) :: back).map Prod.fst).count name =
      ((front ++ back).map Prod.fst).count name := by
    intro name hname
    simp [List.count_append, List.count_cons_of_ne (hne name hname)]
  constructor
  . constructor
    . rintro ⟨h⟩
      exact .object fun name hname => hcount name hname ▸ h name hname
    . rintro ⟨h⟩
      exact .object fun name hname => (hcount name hname).symm ▸ h name hname
  . exact fun name hname => get?_append_cons_of_ne (hne name hname) front back v
  . rfl

/--
Whether a member that is no field may be put into an object and taken out of it again.
-/
def IgnoresUnknown (names : List String) (Describes : Json → Prop) : Prop :=
  ∀ key v front back, key ∉ names →
    (Describes (.object (front ++ (key, v) :: back)) ↔ Describes (.object (front ++ back)))

theorem ignoresUnknown_of_congr {names : List String} {Describes : Json → Prop}
    (h : ∀ v w, SameFields names v w → (Describes v ↔ Describes w)) : IgnoresUnknown names Describes :=
  fun _ v front back hkey => h _ _ (sameFields_of_unknown hkey front back v)

/-! What is left of a record by skipping. -/

variable {names : List String} {fields : List (String × Shape)} {v w : Json}

theorem SameFor.isRecord (h : SameFor (some (.record fields)) v w) (hnames : fields.map Prod.fst = names)
    (hrecord : IsRecord names v) : IsRecord names w := by
  subst hnames
  cases hrecord with
  | object honce =>
    cases h with
    | single _ _ hmembers => contradiction
    | object hnames =>
      rw [hnames] at honce
      exact .object honce
  | array hlength =>
    cases h with
    | single _ hitems => contradiction
    | array hsame =>
      rw [hsame] at hlength
      exact .array hlength

theorem get?_zip (hfields : (fields.map Prod.fst).Nodup) {i : Nat} {key : String} {s : Shape}
    (h : fields[i]? = some (key, s)) (items : List Json) :
    Members.get? key ((fields.map Prod.fst).zip items) = items[i]? := by
  induction fields generalizing i items with
  | nil => contradiction
  | cons field fields ih =>
    obtain ⟨k, t⟩ := field
    rw [List.map_cons, List.nodup_cons] at hfields
    cases items with
    | nil => rfl
    | cons item items =>
      rw [List.map_cons, List.zip_cons_cons, Members.get?]
      cases i with
      | zero =>
        cases h
        exact if_pos rfl
      | succ i =>
        rw [List.getElem?_cons_succ] at h
        have hne : k ≠ key := by
          rintro rfl
          exact hfields.1 (List.mem_map.mpr ⟨_, List.mem_of_getElem? h, rfl⟩)
        rw [if_neg hne, ih hfields.2 h, List.getElem?_cons_succ]

theorem rel_get? {members members' : List (String × Json)} {key : String} {s : Option Shape}
    (hnames : members.map Prod.fst = members'.map Prod.fst)
    (h : ∀ (i : Nat) (m m' : String × Json), members[i]? = some m → members'[i]? = some m' → m.1 = key → SameFor s m.2 m'.2) :
    Option.Rel (SameFor s) (Members.get? key members) (Members.get? key members') := by
  induction members generalizing members' with
  | nil =>
    cases members' with
    | nil => exact .none
    | cons m' members' => contradiction
  | cons m members ih =>
    cases members' with
    | nil => contradiction
    | cons m' members' =>
      obtain ⟨k, v⟩ := m
      obtain ⟨k', w⟩ := m'
      rw [List.map_cons, List.map_cons, List.cons.injEq] at hnames
      obtain ⟨rfl, hrest⟩ := hnames
      rw [Members.get?, Members.get?]
      split
      . next hkey => exact .some (h 0 _ _ rfl rfl hkey)
      . apply ih hrest
        intro i m m' hm hm'
        exact h (i + 1) m m' hm hm'

/--
A field that is wanted is there after skipping if it was before, and it is the same as far as it is wanted.
-/
theorem SameFor.rel_field? (h : SameFor (some (.record fields)) v w) (hnames : fields.map Prod.fst = names)
    (hfields : names.Nodup) {i : Nat} {key : String} {s : Shape} (hi : fields[i]? = some (key, s)) :
    Option.Rel (SameFor (some s)) (field? names key v) (field? names key w) := by
  subst hnames
  cases h with
  | single _ hitems hmembers =>
    cases v with
    | array => contradiction
    | object => contradiction
    | _ => exact .none
  | @array _ items items' hlength hsame =>
    unfold field?
    dsimp only
    rw [get?_zip hfields hi, get?_zip hfields hi]
    cases hv : items[i]? with
    | none =>
      have hw : items'[i]? = none := by
        rw [List.getElem?_eq_none_iff] at hv ⊢
        omega
      rw [hw]
      exact .none
    | some v =>
      obtain ⟨hlt, -⟩ := List.getElem?_eq_some_iff.mp hv
      have hw : items'[i]? = some items'[i] := List.getElem?_eq_getElem (by omega)
      have hitem : Shape.item? i (.record fields) = some s := by
        unfold Shape.item?
        dsimp only
        rw [hi]
        rfl
      rw [hw]
      exact .some (hitem ▸ hsame i v _ hv hw)
  | object hnames hsame =>
    apply rel_get? hnames
    intro j m m' hm hm' hkey
    have hmember : Shape.member? m.1 (.record fields) = some s := by
      rw [hkey]
      exact Members.get?_of_mem hfields (List.mem_of_getElem? hi)
    exact hmember ▸ hsame j m m' hm hm'

theorem SameFor.eq_of_single {s : Shape} (h : SameFor (some s) v w) (hitems : v.items? = none) (hmembers : v.members? = none) :
    v = w := by
  cases h with
  | single => rfl
  | array => contradiction
  | object => contradiction

theorem SameFor.isSome_items?_eq {s : Shape} (h : SameFor (some s) v w) : v.items?.isSome = w.items?.isSome := by
  cases h <;> rfl

theorem SameFor.symm {s : Option Shape} (h : SameFor s v w) : SameFor s w v := by
  induction h with
  | skipped v w => exact .skipped w v
  | single s hitems hmembers => exact .single s hitems hmembers
  | array hlength _ ih =>
    apply SameFor.array hlength.symm
    intro i v w hv hw
    exact ih i w v hw hv
  | @object s members members' hnames _ ih =>
    apply SameFor.object hnames.symm
    intro i m m' hm hm'
    have hkey : m'.1 = m.1 := by
      have hget : (members.map Prod.fst)[i]? = (members'.map Prod.fst)[i]? := by rw [hnames]
      rw [List.getElem?_map, List.getElem?_map, hm, hm'] at hget
      exact Option.some.inj hget
    rw [← hkey]
    exact ih i m' m hm' hm

end Json
end Triage
