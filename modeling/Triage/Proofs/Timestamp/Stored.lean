import Mathlib.Data.List.Lex
import Triage.Proofs.Timestamp.Digits

/-!
This module contains the order of points in time, and the texts that are stored of them. The texts of the years `0` to
`9999` are ordered as the points in time are.
-/

namespace Triage
namespace Timestamp

/--
The parts of a point in time, the largest unit first.
-/
def fields (t : Timestamp) : List Int :=
  [t.year, t.month, t.day, t.hour, t.minute, t.second, t.nano]

instance : LT Timestamp := ⟨fun t u => List.Lex (· < ·) t.fields u.fields⟩

instance : LE Timestamp := ⟨fun t u => ¬ u < t⟩

instance (t u : Timestamp) : Decidable (t < u) := inferInstanceAs (Decidable (List.Lex (· < ·) t.fields u.fields))

instance (t u : Timestamp) : Decidable (t ≤ u) := inferInstanceAs (Decidable (¬ u < t))

/--
Whether the year of a point in time is written with four digits and no sign.
-/
def HasPlainYear (t : Timestamp) : Prop :=
  0 ≤ t.year ∧ t.year ≤ 9999

instance (t : Timestamp) : Decidable t.HasPlainYear :=
  inferInstanceAs (Decidable (0 ≤ t.year ∧ t.year ≤ 9999))

variable {t u : Timestamp}

theorem not_lt : ¬ t < u ↔ u ≤ t := Iff.rfl

theorem month_lt (t : Timestamp) : t.month < digitLimit 2 := by
  have := t.validDate
  simp only [digitLimit]
  omega

theorem day_lt (t : Timestamp) : t.day < digitLimit 2 := by
  have hdate := t.validDate
  have hdays : Calendar.daysIn t.year t.month ≤ 31 := by
    unfold Calendar.daysIn
    split
    . split <;> omega
    . split <;> omega
  simp only [digitLimit]
  omega

theorem hour_lt (t : Timestamp) : t.hour < digitLimit 2 := by
  have := t.validTime
  simp only [digitLimit]
  omega

theorem minute_lt (t : Timestamp) : t.minute < digitLimit 2 := by
  have := t.validTime
  simp only [digitLimit]
  omega

theorem second_lt (t : Timestamp) : t.second < digitLimit 2 := by
  have := t.validTime
  simp only [digitLimit]
  omega

theorem micro_lt (t : Timestamp) : t.nano / 1000 < digitLimit 6 := by
  have := t.validTime
  simp only [digitLimit]
  omega

theorem HasPlainYear.lt (h : t.HasPlainYear) : t.year.toNat < digitLimit 4 := by
  unfold HasPlainYear at h
  simp only [digitLimit]
  omega

theorem toList_stored (h : t.HasPlainYear) :
    t.stored.toList =
      lastDigits 4 t.year.toNat ++ '-' :: (lastDigits 2 t.month ++ '-' :: (lastDigits 2 t.day ++ 'T' ::
        (lastDigits 2 t.hour ++ ':' :: (lastDigits 2 t.minute ++ ':' :: (lastDigits 2 t.second ++ '.' ::
          (lastDigits 6 (t.nano / 1000) ++ ['Z'])))))) := by
  unfold stored secondsChars yearChars
  have hyear : 0 ≤ t.year ∧ t.year ≤ 9999 := h
  rw [if_pos hyear, padded_eq (by decide) h.lt, padded_eq (by decide) t.month_lt, padded_eq (by decide) t.day_lt,
    padded_eq (by decide) t.hour_lt, padded_eq (by decide) t.minute_lt, padded_eq (by decide) t.second_lt,
    padded_eq (by decide) t.micro_lt]
  simp

theorem stored_lt_iff (ht : t.HasPlainYear) (hu : u.HasPlainYear) : t.stored < u.stored ↔ t.toMicros < u.toMicros := by
  change List.Lex (· < ·) t.stored.toList u.stored.toList ↔ List.Lex (· < ·) t.toMicros.fields u.toMicros.fields
  have hmark (c : Char) (cs ds : List Char) : List.Lex (· < ·) (c :: cs) (c :: ds) ↔ List.Lex (· < ·) cs ds := by
    simp [List.cons_lex_cons_iff]
  have hend (cs : List Char) : ¬ List.Lex (· < ·) cs cs := List.lex_irrefl Char.lt_irrefl cs
  rw [toList_stored ht, toList_stored hu, lex_lastDigits_append_iff ht.lt hu.lt,
    hmark, lex_lastDigits_append_iff t.month_lt u.month_lt, hmark, lex_lastDigits_append_iff t.day_lt u.day_lt,
    hmark, lex_lastDigits_append_iff t.hour_lt u.hour_lt, hmark, lex_lastDigits_append_iff t.minute_lt u.minute_lt,
    hmark, lex_lastDigits_append_iff t.second_lt u.second_lt, hmark, lex_lastDigits_append_iff t.micro_lt u.micro_lt]
  have hyear := ht.1
  have hyear' := hu.1
  unfold fields toMicros
  simp only [List.cons_lex_cons_iff, hend, List.not_lex_nil, and_false, or_false]
  omega

theorem stored_le_iff (ht : t.HasPlainYear) (hu : u.HasPlainYear) : t.stored ≤ u.stored ↔ t.toMicros ≤ u.toMicros := by
  rw [← String.not_lt, stored_lt_iff hu ht, not_lt]

end Timestamp
end Triage
