import Triage.Binary.Basic

/-!
This module contains the order of floating point numbers: it is total on all numbers but `nan`, which is related to nothing
and counts for nothing in a maximum.
-/

namespace Triage
namespace Binary

variable {fmt : BinaryFormat} {x y z : Binary fmt}

theorem compare_eq_some_iff {o : Ordering} :
    x.compare y = some o ↔ ∃ a b, x.key? = some a ∧ y.key? = some b ∧ Ord.compare a b = o := by
  unfold compare
  cases x.key? <;> cases y.key? <;> simp

theorem lt_iff : x.lt y = true ↔ ∃ a b, x.key? = some a ∧ y.key? = some b ∧ a < b := by
  unfold lt
  rw [beq_iff_eq, compare_eq_some_iff]
  simp only [Int.compare_eq_lt]

theorem le_iff : x.le y = true ↔ ∃ a b, x.key? = some a ∧ y.key? = some b ∧ a ≤ b := by
  unfold le
  rw [Bool.or_eq_true, beq_iff_eq, beq_iff_eq, compare_eq_some_iff, compare_eq_some_iff]
  constructor
  . rintro (⟨a, b, hx, hy, h⟩ | ⟨a, b, hx, hy, h⟩)
    . exact ⟨a, b, hx, hy, Int.le_of_lt (Int.compare_eq_lt.mp h)⟩
    . exact ⟨a, b, hx, hy, Int.le_of_eq (Int.compare_eq_eq.mp h)⟩
  . rintro ⟨a, b, hx, hy, h⟩
    cases Int.lt_or_eq_of_le h with
    | inl hlt => exact .inl ⟨a, b, hx, hy, Int.compare_eq_lt.mpr hlt⟩
    | inr heq => exact .inr ⟨a, b, hx, hy, Int.compare_eq_eq.mpr heq⟩

theorem exists_key (h : x ≠ .nan) : ∃ a, x.key? = some a := by
  cases x with
  | nan => contradiction
  | signed negative rank bounded => exact ⟨_, rfl⟩

theorem ne_nan_of_le (h : x.le y = true) : x ≠ .nan ∧ y ≠ .nan := by
  obtain ⟨a, b, hx, hy, -⟩ := le_iff.mp h
  constructor
  . rintro rfl
    contradiction
  . rintro rfl
    contradiction

theorem le_trans (hxy : x.le y = true) (hyz : y.le z = true) : x.le z = true := by
  obtain ⟨a, b, hx, hy, hab⟩ := le_iff.mp hxy
  obtain ⟨b', c, hy', hz, hbc⟩ := le_iff.mp hyz
  obtain rfl : b' = b := by
    rw [hy] at hy'
    exact (Option.some.inj hy').symm
  exact le_iff.mpr ⟨a, c, hx, hz, Int.le_trans hab hbc⟩

theorem le_of_lt (h : x.lt y = true) : x.le y = true := by
  obtain ⟨a, b, hx, hy, hab⟩ := lt_iff.mp h
  exact le_iff.mpr ⟨a, b, hx, hy, Int.le_of_lt hab⟩

theorem lt_iff_not_le (hx : x ≠ .nan) (hy : y ≠ .nan) : x.lt y = true ↔ ¬ y.le x = true := by
  obtain ⟨a, ha⟩ := exists_key hx
  obtain ⟨b, hb⟩ := exists_key hy
  rw [lt_iff, le_iff]
  simp [ha, hb]

/--
The maximum is below what both operands are below, but a first operand that is `nan` does not matter.
-/
theorem max_le_iff (hy : y ≠ .nan) : (x.max y).le z = true ↔ (x = .nan ∨ x.le z = true) ∧ y.le z = true := by
  by_cases hx : x = .nan
  . subst hx
    simp [max]
  . have hmax : x.max y = if x.lt y then y else x := by
      cases x with
      | nan => contradiction
      | signed => cases y with
        | nan => contradiction
        | signed => rfl
    rw [hmax, or_iff_right hx]
    split
    . next hlt =>
      exact ⟨fun h => ⟨le_trans (le_of_lt hlt) h, h⟩, fun h => h.2⟩
    . next hlt =>
      rw [lt_iff_not_le hx hy, Classical.not_not] at hlt
      exact ⟨fun h => ⟨h, le_trans hlt h⟩, fun h => h.1⟩

end Binary
end Triage
