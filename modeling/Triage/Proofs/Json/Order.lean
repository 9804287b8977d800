import Mathlib.Algebra.Order.Field.Power
import Mathlib.Algebra.Order.Field.Rat
import Triage.Json.Compare

/-!
This module contains the proof that the order of numbers is the order of the rational numbers that they stand for.
-/

namespace Triage
namespace Json

/--
The rational number that a number stands for.
-/
def Number.value (x : Number) : ℚ :=
  x.scaled.1 * 2 ^ x.scaled.2

@[simp]
theorem Number.value_integer (n : Integer) : (Number.integer n).value = n.val := by
  unfold value scaled
  simp

/--
An integer times a power of two is a larger integer times a smaller power.
-/
theorem shiftLeft_mul_zpow (m : Int) {e l : Int} (h : l ≤ e) :
    ((m <<< (e - l).toNat : Int) : ℚ) * 2 ^ l = m * 2 ^ e := by
  have hshift : ((e - l).toNat : Int) = e - l := Int.toNat_of_nonneg (by omega)
  rw [Int.shiftLeft_eq, Int.cast_mul, Int.cast_pow, Int.cast_ofNat, ← zpow_natCast, hshift, mul_assoc,
    ← zpow_add₀ (by norm_num), Int.sub_add_cancel]

theorem Number.order_eq (x y : Number) : x.order y = compare x.value y.value := by
  unfold order value Binary.aligned
  dsimp only
  generalize hlow : min x.scaled.2 y.scaled.2 = low
  have hx := shiftLeft_mul_zpow x.scaled.1 (e := x.scaled.2) (l := low) (by omega)
  have hy := shiftLeft_mul_zpow y.scaled.1 (e := y.scaled.2) (l := low) (by omega)
  rw [← hx, ← hy]
  generalize x.scaled.1 <<< (x.scaled.2 - low).toNat = a
  generalize y.scaled.1 <<< (y.scaled.2 - low).toNat = b
  have hscale : StrictMono fun n : Int => (n : ℚ) * 2 ^ low := by
    intro m n hmn
    exact mul_lt_mul_of_pos_right (Int.cast_lt.mpr hmn) (zpow_pos (by norm_num) low)
  rw [← cmp_eq_compare, ← cmp_eq_compare, ← hscale.cmp_map_eq a b]

end Json
end Triage
