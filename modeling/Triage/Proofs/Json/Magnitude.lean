import Triage.Json.Number
import Triage.Proofs.Binary.Finite

/-!
This module contains the numerals that are no larger and no smaller than some powers of ten: each of them is a number.
-/

namespace Triage
namespace Json
namespace Numeral

open Binary (Within)

theorem absorb_le {significand : Nat} (h : significand ≤ significandLimit) (cs : List Char) :
    (absorb significand cs).1 ≤ significandLimit ∧ (absorb significand cs).2 ≤ cs.length := by
  induction cs generalizing significand with
  | nil => exact ⟨h, Nat.le_refl 0⟩
  | cons c cs ih =>
    unfold absorb
    split
    . next hlimit =>
      have hrest := ih hlimit
      exact ⟨hrest.1, Nat.succ_le_succ hrest.2⟩
    . exact ⟨h, Nat.zero_le _⟩

theorem exists_within_ofInt {s : Nat} (hs : s < 2 ^ 64) : ∃ m e, Within 68 (Binary.ofInt s) m e := by
  have hlt : (s : Int).natAbs <<< (0 : Int).toNat < (1 <<< (-(0 : Int)).toNat) * 2 ^ 64 := by
    simpa using hs
  let negative := if (s : Int) = 0 then false else (s : Int) < 0
  obtain ⟨m, e, hwithin, -⟩ := Binary.exists_within_ofRatio hlt (by decide) negative
  exact ⟨m, e, hwithin⟩

theorem exists_within_powerOfTen {n : Nat} (hn : n ≤ 200) :
    ∃ m e, Within (4 * n + 5) (powerOfTen n) m e ∧ m ≠ 0 ∧ -54 ≤ e := by
  have hlt : Nat.pow 10 n < 1 * 2 ^ (4 * n + 1) := by
    calc 10 ^ n
      _ ≤ (2 ^ 4) ^ n := Nat.pow_le_pow_left (by decide) n
      _ = 2 ^ (4 * n) := (Nat.pow_mul ..).symm
      _ < 1 * 2 ^ (4 * n + 1) := by
        have := Nat.two_pow_pos (4 * n)
        rw [Nat.pow_succ]
        omega
  obtain ⟨m, e, hwithin, he, hm⟩ := Binary.exists_within_ofRatio hlt (by omega) false
  have hrank : 1021 * 2 ^ 52 ≤ Binary.roundRank .double (Nat.pow 10 n) 1 :=
    Binary.le_roundRank (Nat.pow_pos (by decide))
  generalize Binary.roundRank .double (Nat.pow 10 n) 1 = rank at he hm hrank
  refine ⟨m, e, ?_, ?_, ?_⟩
  . rwa [show ((4 * n + 1 : Nat) : Int) + 4 = 4 * n + 5 by omega] at hwithin
  . rintro rfl
    unfold Binary.significand at hm
    rw [Binary.block_double] at hm
    split at hm <;> omega
  . rw [he]
    unfold Binary.exponent
    rw [Binary.block_double, show BinaryFormat.double.least = -1074 from rfl]
    omega

/--
A significand times a power of ten that is far from the limits of the exponent.
-/
theorem exists_scale {s : Nat} {exponent : Int} (hs : s < 2 ^ 64) (hlow : -200 ≤ exponent) (hhigh : exponent ≤ 200) :
    ∃ x, scale s exponent = some x ∧ x.isFinite = true := by
  obtain ⟨m, e, hwithin⟩ := exists_within_ofInt hs
  unfold scale
  split
  . obtain ⟨n, f, hpower, -, -⟩ := exists_within_powerOfTen (n := exponent.toNat) (by omega)
    have hfinite := Binary.isFinite_mul hwithin hpower (by omega)
    refine ⟨_, ?_, hfinite⟩
    unfold scale.scaleUp
    rw [if_pos (by unfold maxPower; omega)]
    dsimp only
    rw [if_pos hfinite]
  . obtain ⟨n, f, hpower, hn, hf⟩ := exists_within_powerOfTen (n := (-exponent).toNat) (by omega)
    have hfinite := Binary.isFinite_div hwithin hpower hn (by omega)
    refine ⟨_, ?_, hfinite⟩
    unfold scale.scaleDown
    rw [if_pos (by unfold maxPower; omega)]

/--
The same with a written exponent, which is far from what would be out of range.
-/
theorem exists_scale_moveExponent {s written : Nat} {start : Int} (down : Bool) (hs : s < 2 ^ 64) (hlow : -100 ≤ start)
    (hhigh : start ≤ 100) (hwritten : written ≤ 100) :
    ∃ x, (if exponentLimit < written then if s ≠ 0 ∧ !down then none else some 0
      else scale s (moveExponent start down written)) = some x ∧ x.isFinite = true := by
  have hreach : exponentLimit = 2147483647 := rfl
  rw [if_neg (by omega)]
  unfold moveExponent
  split <;> exact exists_scale hs (by omega) (by omega)

/--
A numeral of a hundred digits at most on each side of the point, with an exponent of a hundred at most.
-/
structure Short (n : Numeral) : Prop where
  whole : n.whole.length ≤ 100
  fraction : ∀ cs, n.fraction = some cs → cs.length ≤ 100
  exponent : ∀ down cs, n.exponent = some (down, cs) → natOfDigits cs ≤ 100

theorem Short.exists_magnitude? {n : Numeral} (h : n.Short) : ∃ x, n.magnitude? = some x ∧ x.isFinite = true := by
  obtain ⟨negative, whole, fraction, exponent⟩ := n
  have hlimit : significandLimit = 2 ^ 64 - 1 := by decide
  have habsorb := absorb_le (Nat.zero_le significandLimit) whole
  have hlength : whole.length ≤ 100 := h.whole
  unfold magnitude?
  cases fraction with
  | none =>
    cases exponent with
    | none =>
      dsimp only
      exact exists_scale (by omega) (by omega) (by omega)
    | some written =>
      obtain ⟨down, cs⟩ := written
      dsimp only
      exact exists_scale_moveExponent down (by omega) (by omega) (by omega) (h.exponent down cs rfl)
  | some behind =>
    have hfraction : behind.length ≤ 100 := h.fraction behind rfl
    have hmore := absorb_le habsorb.1 behind
    cases exponent with
    | none =>
      dsimp only
      exact exists_scale (by omega) (by omega) (by omega)
    | some written =>
      obtain ⟨down, cs⟩ := written
      dsimp only
      exact exists_scale_moveExponent down (by omega) (by omega) (by omega) (h.exponent down cs rfl)

theorem Short.exists_real? {n : Numeral} (h : n.Short) : ∃ v, n.real? = some v := by
  obtain ⟨x, hx, hfinite⟩ := h.exists_magnitude?
  have hsigned : (if n.negative then -x else x).isFinite = true := by
    split
    . rwa [Binary.isFinite_neg]
    . exact hfinite
  refine ⟨.real _ hsigned, ?_⟩
  unfold real?
  rw [hx, Option.bind_some]
  dsimp only
  rw [dif_pos hsigned]

/--
A numeral with a point or an exponent is no integer, and a short one is in range.
-/
theorem Short.exists_value? {n : Numeral} (h : n.Short) (hreal : n.fraction.isSome ∨ n.exponent.isSome) :
    ∃ v, n.value? = some v := by
  obtain ⟨v, hv⟩ := h.exists_real?
  refine ⟨v, ?_⟩
  unfold value?
  split
  . next hfraction hexponent =>
    rw [hfraction, hexponent] at hreal
    simp at hreal
  . exact hv

end Numeral
end Json
end Triage
