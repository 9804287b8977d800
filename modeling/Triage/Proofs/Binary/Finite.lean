import Mathlib.Algebra.Order.Ring.Nat
import Triage.Binary.Round

/-!
This module contains bounds of floating point numbers of 64 bits: numbers that are far from too large are rounded to
finite ones, and so are their products and quotients.
-/

namespace Triage
namespace Binary

theorem divNearest_le (num den : Nat) : divNearest num den ≤ num / den + 1 := by
  unfold divNearest
  dsimp only
  split
  . omega
  . split
    . omega
    . split <;> omega

/--
A quotient has at most 54 bits in front of its unit if the unit is at most 53 bits below it.
-/
theorem divNearest_shift_le {num den a b : Nat} {unit : Int} (hnum : num < 2 ^ (a + 1)) (hden : 2 ^ b ≤ den)
    (hunit : (a : Int) - b - 53 ≤ unit) :
    divNearest (num <<< (-unit).toNat) (den <<< unit.toNat) ≤ 2 ^ 54 := by
  have hdiv : (num <<< (-unit).toNat) / (den <<< unit.toNat) < 2 ^ 54 := by
    rw [Nat.shiftLeft_eq, Nat.shiftLeft_eq]
    apply Nat.div_lt_of_lt_mul
    have hexponent : a + 1 + (-unit).toNat ≤ b + unit.toNat + 54 := by omega
    calc num * 2 ^ (-unit).toNat
      _ < 2 ^ (a + 1) * 2 ^ (-unit).toNat := Nat.mul_lt_mul_of_pos_right hnum (Nat.two_pow_pos _)
      _ = 2 ^ (a + 1 + (-unit).toNat) := (Nat.pow_add ..).symm
      _ ≤ 2 ^ (b + unit.toNat + 54) := Nat.pow_le_pow_right (by decide) hexponent
      _ = 2 ^ b * 2 ^ unit.toNat * 2 ^ 54 := by rw [Nat.pow_add, Nat.pow_add]
      _ ≤ den * 2 ^ unit.toNat * 2 ^ 54 := Nat.mul_le_mul_right _ (Nat.mul_le_mul_right _ hden)
  exact Nat.le_trans (divNearest_le _ _) hdiv

theorem log2Ratio_bounds (num den : Nat) :
    (num.log2 : Int) - den.log2 - 1 ≤ log2Ratio num den ∧ log2Ratio num den ≤ (num.log2 : Int) - den.log2 := by
  unfold log2Ratio
  dsimp only
  split <;> omega

theorem block_double : BinaryFormat.double.block = 2 ^ 52 := by decide

theorem infinity_double : BinaryFormat.double.infinity = 2047 * 2 ^ 52 := by decide

/--
The rank of a quotient below `2 ^ k`, with some room.
-/
theorem roundRank_le {num den k : Nat} (h : num < den * 2 ^ k) : roundRank .double num den ≤ (k + 1026) * 2 ^ 52 := by
  unfold roundRank
  split
  . exact Nat.zero_le _
  . rename_i hne
    have hnum : num ≠ 0 := by omega
    have hden : den ≠ 0 := by omega
    have hlog : num.log2 < den.log2 + k + 1 := by
      rw [Nat.log2_lt hnum]
      calc num
        _ < den * 2 ^ k := h
        _ ≤ 2 ^ (den.log2 + 1) * 2 ^ k := Nat.mul_le_mul_right _ (Nat.le_of_lt Nat.lt_log2_self)
        _ = 2 ^ (den.log2 + k + 1) := by rw [← Nat.pow_add]; congr 1; omega
    have hratio := log2Ratio_bounds num den
    have hleast : BinaryFormat.double.least = -1074 := rfl
    have hprecision : BinaryFormat.double.precision = 53 := rfl
    dsimp only
    rw [hleast, hprecision, block_double]
    generalize hunit : Max.max (-1074 : Int) (log2Ratio num den - (53 - 1 : Nat)) = unit
    have hlower : (num.log2 : Int) - den.log2 - 53 ≤ unit := by omega
    have hupper : unit ≤ k - 52 ∨ unit = -1074 := by omega
    have hdiv := divNearest_shift_le Nat.lt_log2_self (Nat.log2_self_le hden) hlower
    have hunits : (unit - -1074).toNat ≤ k + 1022 := by omega
    calc (unit - -1074).toNat * 2 ^ 52 + divNearest (num <<< (-unit).toNat) (den <<< unit.toNat)
      _ ≤ (k + 1022) * 2 ^ 52 + 2 ^ 54 := Nat.add_le_add (Nat.mul_le_mul_right _ hunits) hdiv
      _ = (k + 1026) * 2 ^ 52 := by omega

/--
The rank of a natural number but zero, with some room.
-/
theorem le_roundRank {num : Nat} (h : 0 < num) : 1021 * 2 ^ 52 ≤ roundRank .double num 1 := by
  have hratio := log2Ratio_bounds num 1
  have hone : Nat.log2 1 = 0 := by decide
  have hleast : BinaryFormat.double.least = -1074 := rfl
  have hprecision : BinaryFormat.double.precision = 53 := rfl
  unfold roundRank
  rw [if_neg (by omega)]
  dsimp only
  rw [hleast, hprecision, block_double]
  generalize hunit : Max.max (-1074 : Int) (log2Ratio num 1 - (53 - 1 : Nat)) = unit
  have hunits : 1021 ≤ (unit - -1074).toNat := by omega
  calc 1021 * 2 ^ 52
    _ ≤ (unit - -1074).toNat * 2 ^ 52 := Nat.mul_le_mul_right _ hunits
    _ ≤ _ := Nat.le_add_right _ _

theorem isFinite_ofRatio {num den k : Nat} (h : num < den * 2 ^ k) (hk : k ≤ 1000) (negative : Bool) :
    isFinite (ofRatio negative num den : Double) = true := by
  have hrank := roundRank_le h
  have hinfinity := infinity_double
  unfold ofRatio ofRank isFinite
  simp only [decide_eq_true_eq]
  omega

theorem isFinite_ofScaled {m e : Int} {k : Nat} (h : m.natAbs * 2 ^ e.toNat < 2 ^ (-e).toNat * 2 ^ k) (hk : k ≤ 1000)
    (zeroSign : Bool) : isFinite (ofScaled m e zeroSign : Double) = true := by
  unfold ofScaled
  apply isFinite_ofRatio _ hk
  rwa [Nat.shiftLeft_eq, Nat.one_shiftLeft]

theorem isFinite_ofInt {n : Int} (h : n.natAbs < 2 ^ 64) : isFinite (ofInt n : Double) = true := by
  unfold ofInt
  apply isFinite_ofScaled (k := 64) _ (by decide)
  simp only [Int.toNat_zero, Int.neg_zero, Nat.pow_zero, Nat.mul_one, Nat.one_mul]
  exact h

theorem isFinite_neg (x : Double) : isFinite (-x) = isFinite x := by
  cases x <;> rfl

/--
A number that is smaller than `2 ^ k`, as told by its significand and its exponent.
-/
structure Within (k : Int) (x : Double) (m e : Int) : Prop where
  scaled : x.scaled? = some (m, e)
  significand : m.natAbs < 2 ^ 53
  exponent : e + 53 ≤ k

theorem significand_lt (rank : Nat) : Binary.significand .double rank < 2 ^ 53 := by
  unfold Binary.significand
  rw [block_double]
  split <;> omega

theorem exists_within_ofRatio {num den k : Nat} (h : num < den * 2 ^ k) (hk : k ≤ 1000) (negative : Bool) :
    ∃ m e, Within (k + 4) (ofRatio negative num den) m e ∧
      e = Binary.exponent .double (roundRank .double num den) ∧
      m.natAbs = Binary.significand .double (roundRank .double num den) := by
  have hrank := roundRank_le h
  have hinfinity := infinity_double
  have hlt : roundRank .double num den < BinaryFormat.double.infinity := by omega
  have hmin : min (roundRank .double num den) BinaryFormat.double.infinity = roundRank .double num den := by omega
  have hexponent : Binary.exponent .double (roundRank .double num den) + 53 ≤ k + 4 := by
    have hleast : BinaryFormat.double.least = -1074 := rfl
    unfold Binary.exponent
    rw [block_double, hleast]
    omega
  have hscaled : (ofRatio negative num den : Double).scaled? =
      some (if negative then -(Binary.significand .double (roundRank .double num den) : Int)
        else Binary.significand .double (roundRank .double num den),
        Binary.exponent .double (roundRank .double num den)) := by
    unfold ofRatio ofRank scaled?
    simp only [hmin, hlt, if_true]
  refine ⟨_, _, ⟨hscaled, ?_, hexponent⟩, rfl, ?_⟩
  . have := significand_lt (roundRank .double num den)
    split <;> omega
  . split <;> omega

theorem isFinite_mul {x y : Double} {j k m e n f : Int} (hx : Within j x m e) (hy : Within k y n f)
    (h : j + k ≤ 1000) : (x.mul y).isFinite = true := by
  have hexponent := hx.exponent
  have hexponent' := hy.exponent
  have hproduct : (m * n).natAbs < 2 ^ 53 * 2 ^ 53 := by
    rw [Int.natAbs_mul]
    exact Nat.mul_lt_mul'' hx.significand hy.significand
  unfold mul
  rw [hx.scaled, hy.scaled]
  apply isFinite_ofScaled (k := (j + k).toNat) _ (by omega)
  calc (m * n).natAbs * 2 ^ (e + f).toNat
    _ < 2 ^ 53 * 2 ^ 53 * 2 ^ (e + f).toNat := Nat.mul_lt_mul_of_pos_right hproduct (Nat.two_pow_pos _)
    _ = 2 ^ (53 + 53 + (e + f).toNat) := by rw [Nat.pow_add, Nat.pow_add]
    _ ≤ 2 ^ ((-(e + f)).toNat + (j + k).toNat) := Nat.pow_le_pow_right (by decide) (by omega)
    _ = 2 ^ (-(e + f)).toNat * 2 ^ (j + k).toNat := Nat.pow_add ..

theorem isFinite_div {x y : Double} {j k m e n f : Int} (hx : Within j x m e) (hy : Within k y n f) (hn : n ≠ 0)
    (h : j - f ≤ 1000) : (x.div y).isFinite = true := by
  have hexponent := hx.exponent
  have hpos : 1 ≤ n.natAbs := Int.natAbs_pos.mpr hn
  unfold div
  rw [hx.scaled, hy.scaled]
  dsimp only
  rw [if_neg hn]
  apply isFinite_ofRatio (k := (j - f).toNat) _ (by omega)
  rw [Nat.shiftLeft_eq, Nat.shiftLeft_eq]
  calc m.natAbs * 2 ^ (e - f).toNat
    _ < 2 ^ 53 * 2 ^ (e - f).toNat := Nat.mul_lt_mul_of_pos_right hx.significand (Nat.two_pow_pos _)
    _ = 2 ^ (53 + (e - f).toNat) := (Nat.pow_add ..).symm
    _ ≤ 2 ^ ((-(e - f)).toNat + (j - f).toNat) := Nat.pow_le_pow_right (by decide) (by omega)
    _ = 1 * 2 ^ (-(e - f)).toNat * 2 ^ (j - f).toNat := by rw [Nat.pow_add, Nat.one_mul]
    _ ≤ n.natAbs * 2 ^ (-(e - f)).toNat * 2 ^ (j - f).toNat :=
      Nat.mul_le_mul_right _ (Nat.mul_le_mul_right _ hpos)

end Binary
end Triage
