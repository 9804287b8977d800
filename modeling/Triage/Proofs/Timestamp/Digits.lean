import Mathlib.Data.List.TakeWhile
import Triage.Timestamp

/-!
This module contains numbers in a fixed width. They are read again as they are, and their texts are ordered as they are.
-/

namespace Triage
namespace Timestamp

/--
How many numbers there are with no more than `width` digits.
-/
def digitLimit : (width : Nat) → Nat
  | 0 => 1
  | width + 1 => digitLimit width * 10

/--
The last `width` decimal digits of `n`.
-/
def lastDigits : (width n : Nat) → List Char
  | 0, _ => []
  | width + 1, n => lastDigits width (n / 10) ++ [Nat.digitChar (n % 10)]

variable {width m n : Nat}

@[simp]
theorem length_lastDigits (width n : Nat) : (lastDigits width n).length = width := by
  induction width generalizing n with
  | zero => rfl
  | succ width ih => rw [lastDigits, List.length_append, ih, List.length_singleton]

theorem digitLimit_pos (width : Nat) : 0 < digitLimit width := by
  induction width with
  | zero => exact Nat.one_pos
  | succ width ih =>
    rw [digitLimit]
    omega

theorem isDigit_of_mem_lastDigits {c : Char} (h : c ∈ lastDigits width n) : c.isDigit = true := by
  induction width generalizing n with
  | zero => simp [lastDigits] at h
  | succ width ih =>
    rw [lastDigits, List.mem_append, List.mem_singleton] at h
    cases h with
    | inl h => exact ih h
    | inr h =>
      rw [h, Nat.isDigit_digitChar, decide_eq_true_iff]
      omega

theorem lastDigits_zero (width : Nat) : lastDigits width 0 = List.replicate width '0' := by
  induction width with
  | zero => rfl
  | succ width ih =>
    rw [lastDigits, Nat.zero_div, ih, List.replicate_succ']
    rfl

theorem padded_eq (hwidth : 0 < width) (h : n < digitLimit width) : padded width n = lastDigits width n := by
  induction width generalizing n with
  | zero => omega
  | succ width ih =>
    rw [digitLimit] at h
    by_cases hn : n < 10
    . have hdiv : n / 10 = 0 := by omega
      have hmod : n % 10 = n := by omega
      unfold padded
      rw [Nat.toDigits_of_lt_base hn, lastDigits, hdiv, hmod, lastDigits_zero]
      rfl
    . have hpos : 0 < width := by
        apply Nat.pos_of_ne_zero
        rintro rfl
        rw [digitLimit] at h
        omega
      have hfront : padded width (n / 10) = lastDigits width (n / 10) := by
        apply ih hpos
        omega
      unfold padded at hfront ⊢
      rw [Nat.toDigits_of_base_le (by omega) (by omega), lastDigits, ← hfront]
      simp

theorem foldl_lastDigits (h : n < digitLimit width) :
    (lastDigits width n).foldl (fun n c => n * 10 + (c.toNat - '0'.toNat)) 0 = n := by
  induction width generalizing n with
  | zero =>
    rw [digitLimit] at h
    have hn : n = 0 := by omega
    rw [hn]
    rfl
  | succ width ih =>
    rw [digitLimit] at h
    have hfront := ih (n := n / 10) (by omega)
    have hlast : (Nat.digitChar (n % 10)).toNat = 48 + n % 10 := Nat.toNat_digitChar_of_lt_ten (by omega)
    have hzero : '0'.toNat = 48 := rfl
    rw [lastDigits, List.foldl_append, hfront, List.foldl_cons, List.foldl_nil, hlast, hzero]
    omega

/--
A number is read from the front of a text if the reader stops behind it: because it has as many digits as are taken, or
because no digit follows.
-/
theorem readNumber?_lastDigits_append {limit : Nat} (cs : List Char) (hwidth : 0 < width) (hlimit : width ≤ limit)
    (h : n < digitLimit width) (hstop : (cs.take (limit - width)).takeWhile Char.isDigit = []) :
    readNumber? limit (lastDigits width n ++ cs) = some (n, cs) := by
  have htake : (lastDigits width n ++ cs).take limit = lastDigits width n ++ cs.take (limit - width) := by
    rw [List.take_append, length_lastDigits, List.take_of_length_le (by simpa using hlimit)]
  have hdigits : (lastDigits width n ++ cs.take (limit - width)).takeWhile Char.isDigit = lastDigits width n := by
    rw [List.takeWhile_append_of_pos fun c hc => isDigit_of_mem_lastDigits hc, hstop, List.append_nil]
  have hne : (lastDigits width n).isEmpty = false := by
    rw [List.isEmpty_eq_false_iff, ← List.length_pos_iff, length_lastDigits]
    exact hwidth
  unfold readNumber?
  dsimp only
  rw [htake, hdigits, hne, foldl_lastDigits h, List.drop_left]
  rfl

theorem digitChar_lt_iff (hm : m < 10) (hn : n < 10) : Nat.digitChar m < Nat.digitChar n ↔ m < n := by
  have hm' : (Nat.digitChar m).toNat = 48 + m := Nat.toNat_digitChar_of_lt_ten hm
  have hn' : (Nat.digitChar n).toNat = 48 + n := Nat.toNat_digitChar_of_lt_ten hn
  rw [Char.lt_def, UInt32.lt_iff_toNat_lt]
  change (Nat.digitChar m).toNat < (Nat.digitChar n).toNat ↔ m < n
  omega

theorem digitChar_inj (hm : m < 10) (hn : n < 10) : Nat.digitChar m = Nat.digitChar n ↔ m = n := by
  constructor
  . intro h
    have hm' : (Nat.digitChar m).toNat = 48 + m := Nat.toNat_digitChar_of_lt_ten hm
    have hn' : (Nat.digitChar n).toNat = 48 + n := Nat.toNat_digitChar_of_lt_ten hn
    rw [h] at hm'
    omega
  . intro h
    rw [h]

/--
Texts that begin with numbers of the same width are in the order of these numbers first.
-/
theorem lex_lastDigits_append_iff (hm : m < digitLimit width) (hn : n < digitLimit width) (cs ds : List Char) :
    List.Lex (· < ·) (lastDigits width m ++ cs) (lastDigits width n ++ ds) ↔
      m < n ∨ m = n ∧ List.Lex (· < ·) cs ds := by
  induction width generalizing m n cs ds with
  | zero =>
    rw [digitLimit] at hm hn
    have heq : m = n := by omega
    simp [lastDigits, heq]
  | succ width ih =>
    rw [digitLimit] at hm hn
    rw [lastDigits, lastDigits, List.append_assoc, List.append_assoc, ih (by omega) (by omega),
      List.singleton_append, List.singleton_append, List.cons_lex_cons_iff, digitChar_lt_iff (by omega) (by omega),
      digitChar_inj (by omega) (by omega)]
    by_cases hlast : List.Lex (· < ·) cs ds
    . simp only [hlast, and_true]
      omega
    . simp only [hlast, and_false, or_false]
      omega

end Timestamp
end Triage
