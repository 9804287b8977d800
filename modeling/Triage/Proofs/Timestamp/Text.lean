import Triage.Proofs.Timestamp.Stored

/-!
This module contains the proofs that the texts of a point in time are read again as this point in time: the one that is
shown with all of its nanoseconds and in every year that can be read, and the one that is stored up to the microsecond and
in the years of four digits.
-/

namespace Triage
namespace Timestamp

variable {width n : Nat} {cs : List Char}

/-! Numbers in no less than a fixed width. -/

theorem padded_of_base_le (h : 10 ≤ n) : padded width n = padded (width - 1) (n / 10) ++ [Nat.digitChar (n % 10)] := by
  unfold padded
  dsimp only
  rw [Nat.toDigits_of_base_le (by decide) h, List.length_append, List.length_singleton, List.append_assoc,
    Nat.sub_sub, Nat.add_comm 1]

/--
A padded number is written with its last digits, which are all it has.
-/
theorem exists_padded_eq (width n : Nat) : ∃ k, 0 < k ∧ n < digitLimit k ∧ padded width n = lastDigits k n := by
  induction n using Nat.strongRecOn generalizing width with
  | ind n ih =>
    by_cases hn : n < 10
    . refine ⟨width - 1 + 1, Nat.succ_pos _, ?_, ?_⟩
      . have hpos := digitLimit_pos (width - 1)
        rw [digitLimit]
        omega
      . have hdiv : n / 10 = 0 := by omega
        have hmod : n % 10 = n := by omega
        unfold padded
        rw [Nat.toDigits_of_lt_base hn, lastDigits, hdiv, hmod, lastDigits_zero]
        rfl
    . obtain ⟨k, hk, hlt, heq⟩ := ih (n / 10) (by omega) (width - 1)
      refine ⟨k + 1, Nat.succ_pos k, ?_, ?_⟩
      . rw [digitLimit]
        omega
      . rw [padded_of_base_le (by omega), heq, lastDigits]

/-! Readers at the front of a text. -/

theorem isBlank_of_isDigit {c : Char} (h : c.isDigit = true) : Text.isBlank c = false := by
  apply Text.isBlank_of_isAlphanum
  unfold Char.isAlphanum
  rw [h, Bool.or_true]

theorem trimStart_cons {c : Char} (h : Text.isBlank c = false) : Text.trimStart (c :: cs) = c :: cs := by
  unfold Text.trimStart
  rw [List.dropWhile_cons_of_neg (by rw [h]; exact Bool.false_ne_true)]

theorem exists_lastDigits_eq_cons (hwidth : 0 < width) (n : Nat) :
    ∃ c ds, lastDigits width n = c :: ds ∧ c.isDigit = true := by
  cases hdigits : lastDigits width n with
  | nil =>
    have hlength := length_lastDigits width n
    rw [hdigits, List.length_nil] at hlength
    omega
  | cons c ds =>
    have hc : c ∈ lastDigits width n := by
      rw [hdigits]
      exact List.mem_cons_self
    exact ⟨c, ds, rfl, isDigit_of_mem_lastDigits hc⟩

theorem trimStart_lastDigits (hwidth : 0 < width) :
    Text.trimStart (lastDigits width n ++ cs) = lastDigits width n ++ cs := by
  obtain ⟨c, ds, heq, hc⟩ := exists_lastDigits_eq_cons hwidth n
  rw [heq]
  exact trimStart_cons (isBlank_of_isDigit hc)

theorem readMark?_cons (mark : Char) (h : Text.isBlank mark = false) : readMark? mark (mark :: cs) = some cs := by
  unfold readMark?
  rw [trimStart_cons h]
  exact if_pos rfl

theorem readField?_lastDigits (h : n < digitLimit 2) : readField? 2 (lastDigits 2 n ++ cs) = some (n, cs) := by
  unfold readField?
  rw [trimStart_lastDigits (by decide)]
  exact readNumber?_lastDigits_append _ (by decide) (Nat.le_refl 2) h (by simp)

theorem readYear?_minus (cs : List Char) :
    readYear? ('-' :: cs) = (readNumber? cs.length cs).map fun (n, rest) => (-(n : Int), rest) := by
  unfold readYear?
  rw [trimStart_cons (by decide)]
  rfl

theorem readYear?_plus (cs : List Char) :
    readYear? ('+' :: cs) = (readNumber? cs.length cs).map fun (n, rest) => ((n : Int), rest) := by
  unfold readYear?
  rw [trimStart_cons (by decide)]
  rfl

theorem readYear?_lastDigits (h : n < digitLimit 4) : readYear? (lastDigits 4 n ++ cs) = some ((n : Int), cs) := by
  have hread := readNumber?_lastDigits_append cs (by decide) (Nat.le_refl 4) h (by simp)
  obtain ⟨c, ds, heq, hc⟩ := exists_lastDigits_eq_cons (Nat.succ_pos 3) n
  unfold readYear?
  rw [trimStart_lastDigits (by decide)]
  rw [heq] at hread ⊢
  split
  . rename_i hminus
    rw [(List.cons.inj hminus).1] at hc
    exact absurd hc (by decide)
  . rename_i hplus
    rw [(List.cons.inj hplus).1] at hc
    exact absurd hc (by decide)
  . rw [hread]
    rfl

/--
The year of a text ends at the mark behind it, no matter how many digits it has.
-/
theorem readYear?_yearChars (year : Int) : readYear? (yearChars year ++ '-' :: cs) = some (year, '-' :: cs) := by
  unfold yearChars
  split
  . rename_i hplain
    have hlt : year.toNat < digitLimit 4 := by
      simp only [digitLimit]
      omega
    rw [padded_eq (by decide) hlt, readYear?_lastDigits hlt, Int.toNat_of_nonneg hplain.1]
  . obtain ⟨k, hk, hlt, heq⟩ := exists_padded_eq 4 year.natAbs
    have hlimit : k ≤ (lastDigits k year.natAbs ++ '-' :: cs).length := by
      rw [List.length_append, length_lastDigits]
      exact Nat.le_add_right k _
    have hstop (j : Nat) : (('-' :: cs).take j).takeWhile Char.isDigit = [] := by
      cases j <;> rfl
    have hread := readNumber?_lastDigits_append _ hk hlimit hlt (hstop _)
    rw [heq, List.cons_append]
    split
    . rename_i hneg
      have hyear : -(year.natAbs : Int) = year := by omega
      rw [readYear?_minus, hread, Option.map_some]
      dsimp only
      rw [hyear]
    . rename_i hnonneg
      have hyear : (year.natAbs : Int) = year := by omega
      rw [readYear?_plus, hread, Option.map_some]
      dsimp only
      rw [hyear]

theorem readFraction?_dot (cs : List Char) :
    readFraction? ('.' :: cs) = (readNumber? 9 cs).map fun (n, rest) =>
      (n * Nat.pow 10 (9 - (cs.length - rest.length)), rest.dropWhile Char.isDigit) := rfl

/--
A fraction of `width` digits is read in nanoseconds.
-/
theorem readFraction?_padded (hwidth : 0 < width) (hlimit : width ≤ 9) (h : n < digitLimit width) :
    readFraction? ('.' :: padded width n ++ 'Z' :: cs) = some (n * Nat.pow 10 (9 - width), 'Z' :: cs) := by
  have hstop : (('Z' :: cs).take (9 - width)).takeWhile Char.isDigit = [] := by
    cases 9 - width <;> rfl
  rw [padded_eq hwidth h, List.cons_append, readFraction?_dot,
    readNumber?_lastDigits_append _ hwidth hlimit h hstop, Option.map_some]
  dsimp only
  rw [List.length_append, length_lastDigits, Nat.add_sub_cancel_right]
  rfl

theorem readFraction?_fractionChars (h : n < 1000000000) :
    readFraction? (fractionChars n ++ 'Z' :: cs) = some (n, 'Z' :: cs) := by
  unfold fractionChars
  split
  . rename_i hzero
    rw [hzero]
    rfl
  . split
    . have hlt : n / 1000000 < digitLimit 3 := by
        simp only [digitLimit]
        omega
      rw [readFraction?_padded (by decide) (by decide) hlt]
      have hcancel : n / 1000000 * 1000000 = n := by omega
      exact congrArg (fun n => some (n, 'Z' :: cs)) hcancel
    . split
      . have hlt : n / 1000 < digitLimit 6 := by
          simp only [digitLimit]
          omega
        rw [readFraction?_padded (by decide) (by decide) hlt]
        have hcancel : n / 1000 * 1000 = n := by omega
        exact congrArg (fun n => some (n, 'Z' :: cs)) hcancel
      . have hlt : n < digitLimit 9 := by
          simp only [digitLimit]
          omega
        rw [readFraction?_padded (by decide) (by decide) hlt]
        have hcancel : n * 1 = n := by omega
        exact congrArg (fun n => some (n, 'Z' :: cs)) hcancel

/-! The whole text. -/

variable {t : Timestamp} {s : String}

theorem ofParts?_eq (t : Timestamp) : ofParts? t.year t.month t.day t.hour t.minute t.second t.nano = some t := by
  unfold ofParts?
  rw [dif_pos t.validDate, dif_pos t.validTime]

theorem ofLocal?_zero (t : Timestamp) : t.ofLocal? 0 = some t := by
  have htime := t.validTime
  have hnonneg : ¬ ((t.hour * 60 + t.minute : Nat) - 0 : Int) < 0 := by omega
  have hday : ((t.hour * 60 + t.minute : Nat) - 0 : Int) < 1440 := by omega
  have hhour : (((t.hour * 60 + t.minute : Nat) - 0 : Int) % 1440).toNat / 60 = t.hour := by omega
  have hminute : (((t.hour * 60 + t.minute : Nat) - 0 : Int) % 1440).toNat % 60 = t.minute := by omega
  unfold ofLocal?
  dsimp only
  rw [if_neg hnonneg, if_pos hday, hhour, hminute]
  exact ofParts?_eq t

theorem readDigits?_lastDigits (hwidth : 0 < width) (h : n < digitLimit width) :
    readDigits? width (lastDigits width n ++ cs) = some (n, cs) := by
  have htake : (lastDigits width n ++ cs).take width = lastDigits width n := by
    rw [List.take_append_of_le_length (by simp), List.take_of_length_le (by simp)]
  have hdigits : (lastDigits width n).takeWhile Char.isDigit = lastDigits width n := by
    apply List.takeWhile_eq_self_iff.mpr
    intro c hc
    exact isDigit_of_mem_lastDigits hc
  unfold readDigits?
  rw [htake, hdigits, if_pos (length_lastDigits width n)]
  apply readNumber?_lastDigits_append cs hwidth (Nat.le_refl width) h
  simp

theorem dropMark?_cons (mark : Char) (cs : List Char) : dropMark? mark (mark :: cs) = some cs := by
  simp [dropMark?]

/--
A stored text is read again up to the microsecond.
-/
theorem ofStored?_stored (h : t.HasPlainYear) : ofStored? t.stored = some t.toMicros := by
  have hyear : ((t.year.toNat : Nat) : Int) = t.year := Int.toNat_of_nonneg h.1
  have hnano : t.nano / 1000 * Nat.pow 10 (9 - 6) = t.toMicros.nano := rfl
  have hzone : readZone? ['Z'] = some (0, []) := rfl
  have hmicros : lastDigits 6 (t.nano / 1000) = padded 6 (t.nano / 1000) := (padded_eq (by decide) t.micro_lt).symm
  unfold ofStored?
  rw [toList_stored h, readDigits?_lastDigits (by decide) h.lt]
  dsimp only [Option.bind_eq_bind, Option.bind_some]
  rw [dropMark?_cons, Option.bind_some, readDigits?_lastDigits (by decide) t.month_lt]
  dsimp only [Option.bind_some]
  rw [dropMark?_cons, Option.bind_some, readDigits?_lastDigits (by decide) t.day_lt]
  dsimp only [Option.bind_some]
  rw [if_neg (by decide), readDigits?_lastDigits (by decide) t.hour_lt]
  dsimp only [Option.bind_some]
  rw [dropMark?_cons, Option.bind_some, readDigits?_lastDigits (by decide) t.minute_lt]
  dsimp only [Option.bind_some]
  rw [dropMark?_cons, Option.bind_some, readDigits?_lastDigits (by decide) t.second_lt]
  dsimp only [Option.bind_some]
  rw [hmicros, ← List.cons_append, readFraction?_padded (by decide) (by decide) t.micro_lt]
  dsimp only [Option.bind_some]
  rw [hzone]
  dsimp only [Option.bind_some]
  rw [if_neg (by decide), hyear, hnano]
  change (ofParts? t.toMicros.year t.toMicros.month t.toMicros.day t.toMicros.hour t.toMicros.minute t.toMicros.second
    t.toMicros.nano).bind (fun t => t.ofLocal? 0) = some t.toMicros
  rw [ofParts?_eq, Option.bind_some, ofLocal?_zero]

theorem toList_text (t : Timestamp) :
    t.text.toList =
      yearChars t.year ++ '-' :: (lastDigits 2 t.month ++ '-' :: (lastDigits 2 t.day ++ 'T' ::
        (lastDigits 2 t.hour ++ ':' :: (lastDigits 2 t.minute ++ ':' :: (lastDigits 2 t.second ++
          (fractionChars t.nano ++ ['Z'])))))) := by
  unfold text secondsChars
  rw [padded_eq (by decide) t.month_lt, padded_eq (by decide) t.day_lt, padded_eq (by decide) t.hour_lt,
    padded_eq (by decide) t.minute_lt, padded_eq (by decide) t.second_lt]
  simp only [String.toList_ofList, List.append_assoc, List.cons_append]

/--
The text of a point in time is read again as this point in time, to the nanosecond.
-/
theorem parse?_text (h : inYears t.year = true) : parse? t.text = some t := by
  have hoffset : readOffset? ['Z'] = some (0, []) := rfl
  unfold parse?
  rw [toList_text, readYear?_yearChars]
  dsimp only [Option.bind_eq_bind, Option.bind_some]
  rw [readMark?_cons '-' (by decide), Option.bind_some, readField?_lastDigits t.month_lt]
  dsimp only [Option.bind_some]
  rw [readMark?_cons '-' (by decide), Option.bind_some, readField?_lastDigits t.day_lt]
  dsimp only [Option.bind_some]
  rw [if_neg (by decide), readField?_lastDigits t.hour_lt]
  dsimp only [Option.bind_some]
  rw [readMark?_cons ':' (by decide), Option.bind_some, readField?_lastDigits t.minute_lt]
  dsimp only [Option.bind_some]
  rw [readMark?_cons ':' (by decide), Option.bind_some, readField?_lastDigits t.second_lt]
  dsimp only [Option.bind_some]
  rw [readFraction?_fractionChars t.validTime.2.2.2]
  dsimp only [Option.bind_some]
  rw [hoffset]
  dsimp only [Option.bind_some]
  rw [if_neg (by decide), h, if_neg (by decide), ofParts?_eq, Option.bind_some, ofLocal?_zero, Option.bind_some, h,
    if_neg (by decide)]
  rfl

/--
Only years that are in range are ever read, although the offset of a text can lead into another year.
-/
theorem inYears_of_parse? (h : parse? s = some t) : inYears t.year = true := by
  unfold parse? at h
  -- the year, the month and the day
  iterate 5 obtain ⟨_, _, h⟩ := Option.bind_eq_some_iff.mp h
  split at h
  split at h
  . dsimp only at h
    split at h
    . cases h
    . -- the hour, the minute, the second, its fraction and the offset
      iterate 7 obtain ⟨_, _, h⟩ := Option.bind_eq_some_iff.mp h
      split at h
      . cases h
      . split at h
        . cases h
        . iterate 2 obtain ⟨_, _, h⟩ := Option.bind_eq_some_iff.mp h
          split at h
          . cases h
          . rename_i hyear
            cases h
            simpa using hyear
  . cases h

end Timestamp
end Triage
