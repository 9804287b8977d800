import Mathlib.Algebra.Order.Ring.Nat
import Triage.Decimal.Shortest

/-!
This module contains bounds of the shortest decimals of floating point numbers: how many digits they have, and how large
their exponents of ten are.
-/

namespace Triage

namespace Binary

variable (fmt : BinaryFormat)

theorem block_pos : 0 < fmt.block := by
  unfold BinaryFormat.block
  rw [Nat.one_shiftLeft]
  exact Nat.two_pow_pos _

theorem significand_lt_two_mul (rank : Nat) : significand fmt rank < 2 * fmt.block := by
  have hblock := block_pos fmt
  have hmod := Nat.mod_lt rank hblock
  unfold significand
  split <;> omega

theorem significand_pos {rank : Nat} (h : 0 < rank) : 0 < significand fmt rank := by
  have hblock := block_pos fmt
  unfold significand
  split <;> omega

end Binary

namespace Decimal

theorem width_le_iff {n k : Nat} : width n ≤ k ↔ n < 10 ^ k := by
  unfold width
  split
  . next hn =>
    rw [hn]
    exact ⟨fun _ => Nat.pow_pos (by decide), fun _ => Nat.zero_le k⟩
  . next hn =>
    cases k with
    | zero =>
      have hpos : 0 < (Nat.toDigits 10 n).length := Nat.length_toDigits_pos
      rw [Nat.pow_zero]
      omega
    | succ k => exact Nat.length_toDigits_le_iff (by decide) (Nat.succ_pos k)

variable {num den : Nat}

theorem width_div_le_iff (hden : 0 < den) {k : Nat} : width (num / den) ≤ k ↔ num < den * 10 ^ k := by
  rw [width_le_iff, Nat.div_lt_iff_lt_mul hden, Nat.mul_comm]

theorem width_div_pos (hden : 0 < den) (h : den ≤ num) : 0 < width (num / den) := by
  rw [← Nat.not_le, width_div_le_iff hden]
  omega

/--
For a quotient below one, the zeros behind its point are counted.
-/
theorem width_ceil_le_iff (hnum : 0 < num) {k : Nat} :
    width ((den + num - 1) / num - 1) ≤ k ↔ den ≤ num * 10 ^ k := by
  have hpos : 0 < 10 ^ k := Nat.pow_pos (by decide)
  have hceil : (den + num - 1) / num - 1 < 10 ^ k ↔ (den + num - 1) / num < 10 ^ k + 1 := by omega
  rw [width_le_iff, hceil, Nat.div_lt_iff_lt_mul hnum, Nat.add_mul, Nat.one_mul, Nat.mul_comm (10 ^ k)]
  omega

/-! The exponent of ten of the leading digit of a quotient. -/

theorem log10Ratio_le {k : Nat} (hden : 0 < den) (h : num < den * 10 ^ k) : log10Ratio num den ≤ k := by
  unfold log10Ratio
  split
  . have hwidth := (width_div_le_iff hden).mpr h
    omega
  . omega

theorem le_log10Ratio {k : Nat} (hnum : 0 < num) (hden : 0 < den) (h : den ≤ num * 10 ^ k) :
    -(k : Int) ≤ log10Ratio num den := by
  unfold log10Ratio
  split
  . next hle =>
    have hwidth := width_div_pos hden hle
    omega
  . have hwidth := (width_ceil_le_iff hnum).mpr h
    omega

/--
Up to the leading digit of a quotient there is at least one.
-/
theorem le_of_log10Ratio (hnum : 0 < num) (hden : 0 < den) {e : Int} (h : e ≤ log10Ratio num den) :
    den * 10 ^ e.toNat ≤ num * 10 ^ (-e).toNat := by
  unfold log10Ratio at h
  split at h
  . next hle =>
    have hpos := width_div_pos hden hle
    have hleading : den * 10 ^ (width (num / den) - 1) ≤ num := by
      rw [← Nat.not_lt, ← width_div_le_iff hden]
      omega
    calc den * 10 ^ e.toNat
      _ ≤ den * 10 ^ (width (num / den) - 1) := Nat.mul_le_mul_left _ (Nat.pow_le_pow_right (by decide) (by omega))
      _ ≤ num := hleading
      _ ≤ num * 10 ^ (-e).toNat := Nat.le_mul_of_pos_right _ (Nat.pow_pos (by decide))
  . have hzeros := (width_ceil_le_iff hnum).mp (Nat.le_refl (width ((den + num - 1) / num - 1)))
    have hzero : e.toNat = 0 := by omega
    calc den * 10 ^ e.toNat
      _ = den := by rw [hzero, Nat.pow_zero, Nat.mul_one]
      _ ≤ num * 10 ^ width ((den + num - 1) / num - 1) := hzeros
      _ ≤ num * 10 ^ (-e).toNat := Nat.mul_le_mul_left _ (Nat.pow_le_pow_right (by decide) (by omega))

/--
Behind the leading digit of a quotient, `j` more digits make a number of at most `j + 1` digits.
-/
theorem lt_of_log10Ratio (hnum : 0 < num) (hden : 0 < den) {e : Int} {j : Nat} (h : log10Ratio num den ≤ e + j) :
    num * 10 ^ (-e).toNat < 10 ^ (j + 1) * (den * 10 ^ e.toNat) := by
  have hten (a b : Nat) (hab : a ≤ b) : 10 ^ a ≤ 10 ^ b := Nat.pow_le_pow_right (by decide) hab
  unfold log10Ratio at h
  split at h
  . have hlt := (width_div_le_iff hden).mp (Nat.le_refl (width (num / den)))
    calc num * 10 ^ (-e).toNat
      _ < den * 10 ^ width (num / den) * 10 ^ (-e).toNat := Nat.mul_lt_mul_of_pos_right hlt (Nat.pow_pos (by decide))
      _ = den * 10 ^ (width (num / den) + (-e).toNat) := by rw [Nat.mul_assoc, Nat.pow_add]
      _ ≤ den * 10 ^ (j + 1 + e.toNat) := Nat.mul_le_mul_left _ (hten _ _ (by omega))
      _ = 10 ^ (j + 1) * (den * 10 ^ e.toNat) := by rw [Nat.pow_add, Nat.mul_left_comm]
  . next hlt =>
    generalize hw : width ((den + num - 1) / num - 1) = w at h
    have hpos : ¬w ≤ 0 := by
      rw [← hw, width_ceil_le_iff hnum]
      omega
    have hzeros : num * 10 ^ (w - 1) < den := by
      rw [← Nat.not_le, ← width_ceil_le_iff hnum, hw]
      omega
    have hexponent : (-e).toNat ≤ w - 1 + (j + 1) + e.toNat := by omega
    calc num * 10 ^ (-e).toNat
      _ ≤ num * 10 ^ (w - 1 + (j + 1) + e.toNat) := Nat.mul_le_mul_left _ (hten _ _ hexponent)
      _ = num * 10 ^ (w - 1) * (10 ^ (j + 1) * 10 ^ e.toNat) := by
        rw [Nat.add_assoc, Nat.pow_add, Nat.pow_add, Nat.mul_assoc]
      _ < den * (10 ^ (j + 1) * 10 ^ e.toNat) :=
        Nat.mul_lt_mul_of_pos_right hzeros (Nat.mul_pos (Nat.pow_pos (by decide)) (Nat.pow_pos (by decide)))
      _ = 10 ^ (j + 1) * (den * 10 ^ e.toNat) := Nat.mul_left_comm ..

/--
A decimal of few digits with an exponent in a range.
-/
structure Moderate (low high : Int) (d : Decimal) : Prop where
  positive : 0 < d.digits
  digits : d.digits ≤ 10 ^ 18
  lower : low ≤ d.exponent
  upper : d.exponent ≤ high

theorem Moderate.weaken {low high low' high' : Int} {d : Decimal} (h : Moderate low high d) (hlow : low' ≤ low)
    (hhigh : high ≤ high') : Moderate low' high' d :=
  ⟨h.positive, h.digits, Int.le_trans hlow h.lower, Int.le_trans h.upper hhigh⟩

/-! The search for a point in an interval. -/

/--
The point of the grid `10 ^ e` at the value of an interval or below it.
-/
def Interval.floor (i : Interval) (e : Int) : Nat :=
  i.value * Nat.pow 10 (-e).toNat / (i.den * Nat.pow 10 e.toNat)

theorem Interval.of_pick? {i : Interval} {tie : Tie} {e : Int} {d : Decimal} (h : i.pick? tie e = some d) :
    d = ⟨i.floor e, e⟩ ∨ d = ⟨i.floor e + 1, e⟩ := by
  unfold pick? at h
  dsimp only at h
  split at h
  . exact .inl (Option.some.inj h).symm
  . exact .inr (Option.some.inj h).symm
  . contradiction
  . split at h
    . exact .inl (Option.some.inj h).symm
    . exact .inr (Option.some.inj h).symm
    . exact .inr (Option.some.inj h).symm
    . split at h
      . exact .inl (Option.some.inj h).symm
      . exact .inr (Option.some.inj h).symm

theorem Interval.floor_bounds {i : Interval} {e : Int} (hvalue : 0 < i.value) (hden : 0 < i.den)
    (hle : e ≤ log10Ratio i.value i.den) (hlt : log10Ratio i.value i.den ≤ e + 17) :
    0 < i.floor e ∧ i.floor e < 10 ^ 18 := by
  have hpos : 0 < i.den * Nat.pow 10 e.toNat := Nat.mul_pos hden (Nat.pow_pos (by decide))
  unfold floor
  constructor
  . rw [Nat.div_pos_iff]
    exact ⟨hpos, le_of_log10Ratio hvalue hden hle⟩
  . rw [Nat.div_lt_iff_lt_mul hpos]
    exact lt_of_log10Ratio (j := 17) hvalue hden hlt

theorem moderate_search {i : Interval} {tie : Tie} {fuel : Nat} {e : Int} (hvalue : 0 < i.value) (hden : 0 < i.den)
    (hle : e ≤ log10Ratio i.value i.den) (hlt : log10Ratio i.value i.den ≤ e - fuel + 17) :
    Moderate (e - fuel) e (search tie i fuel e) := by
  induction fuel generalizing e with
  | zero =>
    obtain ⟨hpos, hfloor⟩ := Interval.floor_bounds hvalue hden hle (by omega)
    exact ⟨hpos, Nat.le_of_lt hfloor, Int.le_of_eq (Int.sub_zero e), Int.le_refl e⟩
  | succ fuel ih =>
    unfold search
    cases hpick : i.pick? tie e with
    | none => exact (ih (e := e - 1) (by omega) (by omega)).weaken (by omega) (by omega)
    | some d =>
      obtain ⟨hpos, hfloor⟩ := Interval.floor_bounds (e := e) hvalue hden hle (by omega)
      rw [Option.getD_some]
      rcases Interval.of_pick? hpick with rfl | rfl
      . exact ⟨hpos, Nat.le_of_lt hfloor, by dsimp only; omega, Int.le_refl e⟩
      . exact ⟨Nat.succ_pos _, hfloor, by dsimp only; omega, Int.le_refl e⟩

/--
Zeros at the end of the digits are counted by the exponent.
-/
theorem strip_eq (d : Decimal) :
    ∃ zeros : Nat, d.digits = (strip d).digits * 10 ^ zeros ∧ (strip d).exponent = d.exponent + zeros := by
  have hgo (fuel : Nat) (d : Decimal) : ∃ zeros : Nat, d.digits = (strip.go fuel d).digits * 10 ^ zeros ∧
      (strip.go fuel d).exponent = d.exponent + zeros := by
    induction fuel generalizing d with
    | zero => exact ⟨0, (Nat.mul_one _).symm, (Int.add_zero _).symm⟩
    | succ fuel ih =>
      unfold strip.go
      split
      . next h =>
        obtain ⟨zeros, hdigits, hexponent⟩ := ih ⟨d.digits / 10, d.exponent + 1⟩
        dsimp only at hdigits hexponent
        refine ⟨zeros + 1, ?_, ?_⟩
        . rw [Nat.pow_succ, ← Nat.mul_assoc, ← hdigits]
          omega
        . rw [hexponent]
          omega
      . exact ⟨0, (Nat.mul_one _).symm, (Int.add_zero _).symm⟩
  exact hgo d.digits d

theorem Moderate.strip {low high : Int} {d : Decimal} (h : Moderate low high d) :
    Moderate low (high + 18) (strip d) := by
  obtain ⟨zeros, hdigits, hexponent⟩ := strip_eq d
  have hpositive := h.positive
  have hlower := h.lower
  have hupper := h.upper
  have hpos : 0 < (Decimal.strip d).digits := by
    rw [hdigits] at hpositive
    exact Nat.pos_of_mul_pos_right hpositive
  have hle : (Decimal.strip d).digits ≤ d.digits := by
    rw [hdigits]
    exact Nat.le_mul_of_pos_right _ (Nat.pow_pos (by decide))
  have hzeros : zeros ≤ 18 := by
    rw [← Nat.pow_le_pow_iff_right (a := 10) (by decide)]
    calc 10 ^ zeros
      _ ≤ (Decimal.strip d).digits * 10 ^ zeros := Nat.le_mul_of_pos_left _ hpos
      _ = d.digits := hdigits.symm
      _ ≤ 10 ^ 18 := h.digits
  exact ⟨hpos, Nat.le_trans hle h.digits, by omega, by omega⟩

/--
The exponents of ten of the leading digits of floating point numbers of 32 bits but zero.
-/
theorem log10Ratio_single {rank : Nat} (hrank : 0 < rank) (h : rank < BinaryFormat.single.infinity) {i : Interval}
    (hi : i = .ofRank .single rank) :
    0 < i.value ∧ 0 < i.den ∧ -46 ≤ log10Ratio i.value i.den ∧ log10Ratio i.value i.den ≤ 39 := by
  have hblock : BinaryFormat.single.block = 2 ^ 23 := by decide
  have hinfinity : BinaryFormat.single.infinity = 255 * 2 ^ 23 := by decide
  have hleast : BinaryFormat.single.least = -149 := rfl
  have hm := Binary.significand_lt_two_mul .single rank
  have hpos := Binary.significand_pos .single hrank
  have hexponent : -149 ≤ Binary.exponent .single rank ∧ Binary.exponent .single rank ≤ 104 := by
    unfold Binary.exponent
    rw [hleast, hblock]
    omega
  have hvalue : i.value = 4 * Binary.significand .single rank * 2 ^ (Binary.exponent .single rank - 2).toNat := by
    simp only [hi, Interval.ofRank, Nat.one_shiftLeft]
  have hden : i.den = 2 ^ (-(Binary.exponent .single rank - 2)).toNat := by
    simp only [hi, Interval.ofRank, Nat.one_shiftLeft]
  generalize Binary.significand .single rank = m at hm hpos hvalue
  generalize Binary.exponent .single rank = e at hexponent hvalue hden
  have hvaluePos : 0 < i.value := by
    rw [hvalue]
    exact Nat.mul_pos (by omega) (Nat.two_pow_pos _)
  have hdenPos : 0 < i.den := by
    rw [hden]
    exact Nat.two_pow_pos _
  refine ⟨hvaluePos, hdenPos, ?_, ?_⟩
  . apply le_log10Ratio (k := 46) hvaluePos hdenPos
    calc i.den
      _ = 2 ^ (-(e - 2)).toNat := hden
      _ ≤ 2 ^ 151 := Nat.pow_le_pow_right (by decide) (by omega)
      _ ≤ 1 * 10 ^ 46 := by decide
      _ ≤ i.value * 10 ^ 46 := Nat.mul_le_mul_right _ hvaluePos
  . apply log10Ratio_le (k := 39) hdenPos
    calc i.value
      _ = 4 * m * 2 ^ (e - 2).toNat := hvalue
      _ ≤ 4 * m * 2 ^ 102 := Nat.mul_le_mul_left _ (Nat.pow_le_pow_right (by decide) (by omega))
      _ < 2 ^ 26 * 2 ^ 102 := Nat.mul_lt_mul_of_pos_right (by omega) (by decide)
      _ ≤ 1 * 10 ^ 39 := by decide
      _ ≤ i.den * 10 ^ 39 := Nat.mul_le_mul_right _ hdenPos

/--
The shortest decimals of floating point numbers of 32 bits but zero.
-/
theorem moderate_shortest (tie : Tie) {rank : Nat} (hrank : 0 < rank) (h : rank < BinaryFormat.single.infinity) :
    Moderate (-70) 60 (shortest .single tie rank) := by
  obtain ⟨hvalue, hden, hlow, hhigh⟩ := log10Ratio_single hrank h rfl
  unfold shortest
  rw [if_neg (Nat.pos_iff_ne_zero.mp hrank)]
  dsimp only
  generalize Interval.ofRank .single rank = i at hvalue hden hlow hhigh
  have hsearch : Moderate (log10Ratio i.value i.den - (17 : Nat)) (log10Ratio i.value i.den)
      (search tie i 17 (log10Ratio i.value i.den)) :=
    moderate_search hvalue hden (Int.le_refl _) (by omega)
  exact hsearch.strip.weaken (by omega) (by omega)

end Decimal
end Triage
