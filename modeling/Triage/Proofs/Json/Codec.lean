import Triage.Proofs.Binary.Finite
import Triage.Proofs.Json.Canonical
import Triage.Proofs.Store.Text
import Triage.Proofs.Timestamp.Text

/-!
This module contains encoders and decoders that undo each other. Those of single values are put together to those of
lists, of values that can be `null`, and of records with named fields.
-/

namespace Triage

namespace Json

theorem Number.isFinite_toDouble (n : Number) : n.toDouble.isFinite = true := by
  cases n with
  | integer n =>
    have hlower := n.lower
    have hupper := n.upper
    exact Binary.isFinite_ofInt (by omega)
  | real x finite => exact finite

/--
Whether every value that can be encoded is decoded again, and whether nothing else is ever decoded. What is decoded is the
canonical form of what has been encoded.
-/
structure RoundTrips {α : Type} (encode : α → Json) (decode : Json → Option α) (Encodable : α → Prop) : Prop where
  decode_encode (x : α) (h : Encodable x) : decode (encode x).canonical = some x
  encodable (v : Json) (x : α) (h : decode v = some x) : Encodable x

namespace RoundTrips

variable {α : Type} {encode : α → Json} {decode : Json → Option α} {Encodable : α → Prop}

theorem string : RoundTrips .string Decode.string fun _ => True :=
  ⟨fun _ _ => rfl, fun _ _ _ => trivial⟩

theorem bool : RoundTrips .bool Decode.bool fun _ => True :=
  ⟨fun _ _ => rfl, fun _ _ _ => trivial⟩

theorem natBelow?_toNat {limit n : Nat} (h : n < limit) (lower : -9223372036854775808 ≤ (n : Int))
    (upper : (n : Int) < 18446744073709551616) :
    Decode.natBelow? limit (.number (.integer ⟨n, lower, upper⟩)) = some n := by
  unfold Decode.natBelow?
  dsimp only
  rw [if_pos (by omega), Int.toNat_natCast]

theorem uint64 : RoundTrips ofUInt64 Decode.uint64 fun _ => True := by
  constructor
  . intro n _
    unfold Decode.uint64 ofUInt64 canonical Integer.ofUInt64
    rw [natBelow?_toNat n.toNat_lt]
    simp
  . exact fun _ _ _ => trivial

theorem uint32 : RoundTrips ofUInt32 Decode.uint32 fun _ => True := by
  constructor
  . intro n _
    unfold Decode.uint32 ofUInt32 canonical Integer.ofUInt32
    rw [natBelow?_toNat n.toNat_lt]
    simp
  . exact fun _ _ _ => trivial

theorem double : RoundTrips ofDouble Decode.double fun x => x.isFinite = true := by
  constructor
  . intro x h
    unfold ofDouble
    rw [dif_pos h]
    rfl
  . intro v x h
    cases v with
    | number n =>
      cases h
      exact n.isFinite_toDouble
    | _ => cases h

theorem value : RoundTrips id Decode.value Canonical := by
  constructor
  . intro v h
    unfold Decode.value
    rw [id, canonical_of_canonical v h, canonical_of_canonical v h]
  . intro v w h
    cases h
    exact canonical_canonical v

theorem object : RoundTrips .object Decode.object Object.Canonical := by
  constructor
  . intro m h
    unfold Decode.object
    rw [canonical_of_canonical _ h, canonical_of_canonical _ h]
    rfl
  . intro v m h
    unfold Decode.object at h
    cases hv : v.canonical with
    | object members =>
      have hcanonical := canonical_canonical v
      rw [hv] at h hcanonical
      cases h
      exact hcanonical
    | _ =>
      rw [hv] at h
      cases h

/--
Lists of values that are decoded again are decoded again.
-/
theorem list (h : RoundTrips encode decode Encodable) :
    RoundTrips (fun xs => .array (xs.map encode)) (Decode.list decode) fun xs => ∀ x ∈ xs, Encodable x := by
  constructor
  . intro xs hxs
    rw [canonical]
    change (canonicalItems (xs.map encode)).mapM decode = some xs
    induction xs with
    | nil => rfl
    | cons x xs ih =>
      rw [List.forall_mem_cons] at hxs
      rw [List.map_cons, canonicalItems, List.mapM_cons, h.decode_encode x hxs.1, ih hxs.2]
      rfl
  . intro v xs hxs
    cases v with
    | array vs =>
      change vs.mapM decode = some xs at hxs
      induction vs generalizing xs with
      | nil =>
        cases hxs
        exact fun x hx => nomatch hx
      | cons v vs ih =>
        rw [List.mapM_cons] at hxs
        obtain ⟨x, hx, hxs⟩ := Option.bind_eq_some_iff.mp hxs
        obtain ⟨rest, hrest, hxs⟩ := Option.bind_eq_some_iff.mp hxs
        cases hxs
        exact List.forall_mem_cons.mpr ⟨h.encodable v x hx, ih rest hrest⟩
    | _ => cases hxs

theorem values : RoundTrips .array (Decode.list Decode.value) fun vs => ∀ v ∈ vs, v.Canonical := by
  simpa using value.list

theorem nullable_of_ne {v : Json} (h : v ≠ .null) : Fields.nullable decode v = (decode v).map some := by
  cases v with
  | null => exact absurd rfl h
  | _ => rfl

/--
Values that can be `null` are decoded again if no value is encoded as `null`.
-/
theorem nullable (h : RoundTrips encode decode Encodable) (hnull : ∀ x, (encode x).canonical ≠ .null) :
    RoundTrips (fun x? => (x?.map encode).getD .null) (Fields.nullable decode) fun x? => ∀ x ∈ x?, Encodable x := by
  constructor
  . intro x? hx
    cases x? with
    | none => rfl
    | some x =>
      rw [Option.map_some, Option.getD_some, nullable_of_ne (hnull x), h.decode_encode x (hx x rfl)]
      rfl
  . intro v x? hx? x hx
    cases hx
    unfold Fields.nullable at hx?
    split at hx?
    . cases hx?
    . obtain ⟨y, hy, heq⟩ := Option.map_eq_some_iff.mp hx?
      cases heq
      exact h.encodable _ x hy

theorem nullableString : RoundTrips ofString? (Fields.nullable Decode.string) fun _ => True := by
  constructor
  . intro s? _
    cases s? <;> rfl
  . exact fun _ _ _ => trivial

end RoundTrips

/-! The fields of a record are read from the canonical form of its members. -/

namespace Fields

/--
Whether the fields that a record was given are the canonical forms of its members.
-/
structure AreOf (f : Fields) (ms : List (String × Json)) : Prop where
  get?_given (key : String) : Members.get? key f.given = (Members.get? key ms).map canonical
  inOrder : f.inOrder = false

theorem bind_ofJson?_canonical {β : Type} {names : List String} {ms : List (String × Json)} {read : Fields → Option β}
    {x : β} (hknown : ∀ key ∈ ms.map Prod.fst, key ∈ names) (hkeys : (ms.map Prod.fst).Nodup)
    (h : ∀ f : Fields, f.AreOf ms → read f = some x) : ofJson? names (Json.object ms).canonical >>= read = some x := by
  have hgiven : ofJson? names (Json.object ms).canonical = some ⟨Members.sorted (canonicalMembers ms), false⟩ := by
    rw [canonical]
    apply ofJson?_object
    . rw [List.all_eq_true]
      intro m hm
      have hkey : m.1 ∈ (canonicalMembers ms).map Prod.fst := List.mem_map_of_mem (Members.mem_of_mem_sorted hm)
      rw [keys_canonicalMembers] at hkey
      simpa using hknown m.1 hkey
    . exact (Members.increasing_sorted _).nodup
  apply Store.bind_eq_some hgiven
  exact h _ ⟨get?_sorted_canonicalMembers hkeys, rfl⟩

variable {α : Type} {encode : α → Json} {decode : Json → Option α} {Encodable : α → Prop}
  {f : Fields} {ms : List (String × Json)} {key : String} {x : α}

theorem AreOf.required (hf : f.AreOf ms) (h : RoundTrips encode decode Encodable)
    (hget : Members.get? key ms = some (encode x)) (hx : Encodable x) : f.required key decode = some x := by
  unfold Fields.required
  rw [hf.get?_given, hget]
  exact h.decode_encode x hx

theorem AreOf.orDefault (hf : f.AreOf ms) (h : RoundTrips encode decode Encodable)
    (hget : Members.get? key ms = some (encode x)) (hx : Encodable x) (fallback : α) :
    f.orDefault key decode fallback = some x := by
  unfold Fields.orDefault
  rw [hf.get?_given, hget]
  exact h.decode_encode x hx

/--
A member that is left out is decoded as a missing value.
-/
theorem AreOf.orDefault_memberIf (hf : f.AreOf ms) (h : RoundTrips encode decode Encodable)
    (hnull : ∀ x, (encode x).canonical ≠ .null) {o : Option α} (hget : Members.get? key ms = o.map encode)
    (hx : ∀ x ∈ o, Encodable x) : f.orDefault key (nullable decode) none = some o := by
  cases o with
  | none =>
    unfold Fields.orDefault
    rw [hf.get?_given, hget]
    rfl
  | some x => exact hf.orDefault (h.nullable hnull) hget hx none

theorem AreOf.optional (hf : f.AreOf ms) {encode : Option α → Json} {Encodable : Option α → Prop}
    (h : RoundTrips encode (nullable decode) Encodable) {o : Option α}
    (hget : Members.get? key ms = some (encode o)) (hx : Encodable o) : f.optional key decode = some o := by
  unfold Fields.optional
  rw [hf.get?_given, hget]
  exact h.decode_encode o hx

theorem encodable_of_required (h : RoundTrips encode decode Encodable) (hx : f.required key decode = some x) :
    Encodable x := by
  obtain ⟨v, -, hv⟩ := Option.bind_eq_some_iff.mp hx
  exact h.encodable v x hv

theorem encodable_of_orDefault (h : RoundTrips encode decode Encodable) {fallback : α} (hfallback : Encodable fallback)
    (hx : f.orDefault key decode fallback = some x) : Encodable x := by
  unfold orDefault at hx
  split at hx
  . exact h.encodable _ x hx
  . cases hx
    exact hfallback

theorem encodable_of_optional {encode : Option α → Json} {Encodable : Option α → Prop}
    (h : RoundTrips encode (nullable decode) Encodable) (hnone : Encodable none) {x? : Option α}
    (hx : f.optional key decode = some x?) : Encodable x? := by
  unfold optional at hx
  split at hx
  . exact h.encodable _ x? hx
  . split at hx
    . cases hx
    . cases hx
      exact hnone

end Fields

end Json
end Triage
