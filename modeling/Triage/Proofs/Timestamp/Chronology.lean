import Triage.Proofs.Timestamp.Text
import Triage.Store.Row

/-!
This module contains the time line: the number of the day, the second and the nanosecond that a point in time falls on. The
order of points in time by their parts is the order on the time line, and so is the order of the bytes of their stored texts.
-/

namespace Triage

namespace Calendar

/--
The number of days from the start of the year zero to the start of a year.
-/
def daysBeforeYear (year : Int) : Int :=
  year * 365 + (year + 3) / 4 - (year + 99) / 100 + (year + 399) / 400

/--
The number of days from the start of a year to the start of one of its months.
-/
def daysBeforeMonth (year : Int) : (month : Nat) → Nat
  | 0 => 0
  | 1 => 0
  | month + 2 => daysBeforeMonth year (month + 1) + daysIn year (month + 1)

/--
The number of a day. The first day of the year zero is number one.
-/
def dayNumber (year : Int) (month day : Nat) : Int :=
  daysBeforeYear year + daysBeforeMonth year month + day

variable {year year' : Int} {month month' day day' : Nat}

theorem daysBeforeMonth_succ (year : Int) (hmonth : 1 ≤ month) :
    daysBeforeMonth year (month + 1) = daysBeforeMonth year month + daysIn year month := by
  cases month with
  | zero => omega
  | succ month => rfl

theorem daysBeforeYear_succ (year : Int) :
    daysBeforeYear (year + 1) = daysBeforeYear year + daysBeforeMonth year 13 := by
  simp only [daysBeforeYear, daysBeforeMonth, daysIn, isLeapYear, Bool.and_eq_true, Bool.or_eq_true, beq_iff_eq,
    bne_iff_ne]
  simp
  split
  . omega
  . omega

theorem dayNumber_dayAfter (h : 1 ≤ month ∧ month ≤ 12 ∧ 1 ≤ day ∧ day ≤ daysIn year month) :
    let next := dayAfter year month day
    dayNumber next.1 next.2.1 next.2.2 = dayNumber year month day + 1 := by
  unfold dayAfter dayNumber
  split
  . dsimp only
    omega
  . split
    . have hmonth := daysBeforeMonth_succ year h.1
      dsimp only
      omega
    . have hmonth : month = 12 := by omega
      have hyear := daysBeforeYear_succ year
      have hfirst : daysBeforeMonth (year + 1) 1 = 0 := rfl
      have hlast : daysBeforeMonth year 13 = daysBeforeMonth year 12 + daysIn year 12 := rfl
      subst hmonth
      dsimp only
      omega

theorem daysBeforeMonth_add_le (year : Int) (hmonth : 1 ≤ month) (h : month < month') :
    daysBeforeMonth year month + daysIn year month ≤ daysBeforeMonth year month' := by
  induction month', h using Nat.le_induction with
  | base =>
    rw [daysBeforeMonth_succ year hmonth]
  | succ month' h ih =>
    have hnext := daysBeforeMonth_succ year (Nat.le_trans hmonth (Nat.le_of_lt h))
    omega

theorem daysBeforeYear_add_le (h : year < year') :
    daysBeforeYear year + daysBeforeMonth year 13 ≤ daysBeforeYear year' := by
  rw [← daysBeforeYear_succ]
  unfold daysBeforeYear
  omega

/--
The days are numbered in the order of their dates.
-/
theorem dayNumber_lt (h : 1 ≤ month ∧ month ≤ 12 ∧ 1 ≤ day ∧ day ≤ daysIn year month) (h' : 1 ≤ day')
    (hlt : year < year' ∨ year = year' ∧ (month < month' ∨ month = month' ∧ day < day')) :
    dayNumber year month day < dayNumber year' month' day' := by
  unfold dayNumber
  rcases hlt with hyear | ⟨rfl, hmonth | ⟨rfl, hday⟩⟩
  . have hbefore := daysBeforeYear_add_le hyear
    have hwithin : daysBeforeMonth year month + daysIn year month ≤ daysBeforeMonth year 13 :=
      daysBeforeMonth_add_le year h.1 (by omega)
    omega
  . have hbefore := daysBeforeMonth_add_le year h.1 hmonth
    omega
  . omega

end Calendar

namespace Text

/--
The bytes of a text.
-/
def bytes (s : String) : List UInt8 :=
  s.toUTF8.data.toList

theorem bytes_ofList {cs : List Char} (h : ∀ c ∈ cs, c.toNat < 128) :
    bytes (String.ofList cs) = cs.map fun c => c.toNat.toUInt8 := by
  have hbytes : bytes (String.ofList cs) = cs.flatMap String.utf8EncodeChar := by
    unfold bytes String.toUTF8
    rw [String.toByteArray_ofList]
    simp [List.utf8Encode]
  rw [hbytes]
  clear hbytes
  induction cs with
  | nil => rfl
  | cons c cs ih =>
    have hc : c.toNat ≤ 127 := Nat.le_of_lt_succ (h c List.mem_cons_self)
    rw [List.flatMap_cons, List.map_cons, ih fun d hd => h d (List.mem_cons_of_mem c hd)]
    simp [String.utf8EncodeChar, hc]

theorem lt_iff_of_ascii {c d : Char} (hc : c.toNat < 128) (hd : d.toNat < 128) :
    c.toNat.toUInt8 < d.toNat.toUInt8 ↔ c < d := by
  rw [UInt8.lt_iff_toNat_lt, Char.lt_def, UInt32.lt_iff_toNat_lt]
  change c.toNat % 256 < d.toNat % 256 ↔ c.toNat < d.toNat
  omega

theorem eq_iff_of_ascii {c d : Char} (hc : c.toNat < 128) (hd : d.toNat < 128) :
    c.toNat.toUInt8 = d.toNat.toUInt8 ↔ c = d := by
  rw [← UInt8.toNat_inj, ← Char.toNat_inj]
  change c.toNat % 256 = d.toNat % 256 ↔ c.toNat = d.toNat
  omega

/--
Texts of ASCII characters are in the same order as their bytes.
-/
theorem bytes_lt_iff {s t : String} (hs : ∀ c ∈ s.toList, c.toNat < 128) (ht : ∀ c ∈ t.toList, c.toNat < 128) :
    bytes s < bytes t ↔ s < t := by
  have hlex (cs ds : List Char) (hcs : ∀ c ∈ cs, c.toNat < 128) (hds : ∀ d ∈ ds, d.toNat < 128) :
      List.Lex (· < ·) (cs.map fun c => c.toNat.toUInt8) (ds.map fun c => c.toNat.toUInt8) ↔
        List.Lex (· < ·) cs ds := by
    induction cs generalizing ds with
    | nil => cases ds <;> simp
    | cons c cs ih =>
      cases ds with
      | nil => simp
      | cons d ds =>
        simp only [List.mem_cons, forall_eq_or_imp] at hcs hds
        rw [List.map_cons, List.map_cons, List.cons_lex_cons_iff, List.cons_lex_cons_iff,
          lt_iff_of_ascii hcs.1 hds.1, eq_iff_of_ascii hcs.1 hds.1, ih ds hcs.2 hds.2]
  have hbytes := hlex s.toList t.toList hs ht
  rw [← bytes_ofList hs, ← bytes_ofList ht, String.ofList_toList, String.ofList_toList] at hbytes
  exact hbytes

end Text

namespace Timestamp

variable {t u : Timestamp}

theorem fields_inj : t.fields = u.fields ↔ t = u := by
  constructor
  . intro h
    cases t
    cases u
    simpa [fields, Int.natCast_inj] using h
  . intro h
    rw [h]

/--
The second that a point in time falls on, counted from the day before the first one of the year zero. A leap second makes
the second before it a longer one, and is not counted.
-/
def seconds (t : Timestamp) : Int :=
  Calendar.dayNumber t.year t.month t.day * 86400 + t.hour * 3600 + t.minute * 60 + min t.second 59

/--
The nanoseconds since the start of the second that is counted. In a leap second there are more than the usual ones.
-/
def nanos (t : Timestamp) : Nat :=
  if t.second = 60 then 1000000000 + t.nano else t.nano

/--
Whether a point in time comes before another one on the time line.
-/
def Precedes (t u : Timestamp) : Prop :=
  t.seconds < u.seconds ∨ t.seconds = u.seconds ∧ t.nanos < u.nanos

instance (t u : Timestamp) : Decidable (t.Precedes u) :=
  inferInstanceAs (Decidable (_ ∨ _))

theorem precedes_of_date_lt (h : t.year < u.year ∨ t.year = u.year ∧ (t.month < u.month ∨ t.month = u.month ∧ t.day < u.day)) :
    t.Precedes u := by
  have hday := Calendar.dayNumber_lt t.validDate u.validDate.2.2.1 h
  have htime := t.validTime
  left
  unfold seconds
  omega

theorem precedes_of_time_lt (hyear : t.year = u.year) (hmonth : t.month = u.month) (hday : t.day = u.day)
    (h : t.hour < u.hour ∨ t.hour = u.hour ∧ (t.minute < u.minute ∨ t.minute = u.minute ∧
      (t.second < u.second ∨ t.second = u.second ∧ t.nano < u.nano))) :
    t.Precedes u := by
  have htime := t.validTime
  have htime' := u.validTime
  unfold Precedes seconds nanos
  rw [hyear, hmonth, hday]
  generalize Calendar.dayNumber u.year u.month u.day = d
  rcases h with hhour | ⟨hhour, hminute | ⟨hminute, hsecond | ⟨hsecond, hnano⟩⟩⟩
  . omega
  . omega
  . -- The leap second is in the same second as the one before it, after all its nanoseconds.
    split <;> split <;> omega
  . rw [hhour, hminute, hsecond]
    split <;> omega

theorem precedes_of_lt (h : t < u) : t.Precedes u := by
  change List.Lex (· < ·) t.fields u.fields at h
  simp only [fields, List.cons_lex_cons_iff, List.not_lex_nil, and_false, or_false, Int.ofNat_lt,
    Int.natCast_inj] at h
  rcases h with hyear | ⟨hyear, hmonth | ⟨hmonth, hday | ⟨hday, htime⟩⟩⟩
  . exact precedes_of_date_lt (.inl hyear)
  . exact precedes_of_date_lt (.inr ⟨hyear, .inl hmonth⟩)
  . exact precedes_of_date_lt (.inr ⟨hyear, .inr ⟨hmonth, hday⟩⟩)
  . exact precedes_of_time_lt hyear hmonth hday htime

theorem Precedes.asymm (h : t.Precedes u) : ¬ u.Precedes t := by
  unfold Precedes at *
  omega

theorem lt_iff_precedes : t < u ↔ t.Precedes u := by
  constructor
  . apply precedes_of_lt
  . intro h
    have hle : ¬ u < t := fun hlt => h.asymm (precedes_of_lt hlt)
    by_contra hnot
    rw [fields_inj.mp (List.le_antisymm hle hnot)] at h
    exact h.asymm h

/--
What is dropped is the part of a microsecond that has passed.
-/
theorem position_toMicros (t : Timestamp) :
    t.toMicros.seconds = t.seconds ∧ t.toMicros.nanos = t.nanos / 1000 * 1000 := by
  refine ⟨rfl, ?_⟩
  unfold nanos toMicros
  dsimp only
  split
  . omega
  . rfl

theorem stored_toMicros (t : Timestamp) : t.toMicros.stored = t.stored := by
  have hmicros : t.toMicros.nano / 1000 = t.nano / 1000 := by
    change t.nano / 1000 * 1000 / 1000 = t.nano / 1000
    omega
  unfold stored
  rw [hmicros]
  rfl

theorem ascii_of_mem_stored (h : t.HasPlainYear) {c : Char} (hc : c ∈ t.stored.toList) : c.toNat < 128 := by
  have hdigit {width n : Nat} (hmem : c ∈ lastDigits width n) : c.toNat < 128 := by
    have hdigit := isDigit_of_mem_lastDigits hmem
    simp only [Char.isDigit, Bool.and_eq_true, decide_eq_true_eq, UInt32.le_iff_toNat_le] at hdigit
    have hle : c.toNat ≤ 57 := hdigit.2
    omega
  rw [toList_stored h] at hc
  simp only [List.mem_append, List.mem_cons, List.not_mem_nil, or_false] at hc
  rcases hc with hc | rfl | hc | rfl | hc | rfl | hc | rfl | hc | rfl | hc | rfl | hc | rfl
  all_goals first
    | exact hdigit hc
    | decide

end Timestamp

theorem Store.storedTime_stored {t : Timestamp} (h : t.HasPlainYear) (now : Timestamp) :
    storedTime now t.stored = t.toMicros := by
  unfold storedTime
  rw [Timestamp.ofStored?_stored h]
  rfl

/--
A stored text says when something was, up to the microsecond and whatever the present time is, and the bytes of stored
texts are in the order of time. Leap seconds are no exception.
-/
theorem Timestamp.stored_chronological {t u : Timestamp} (ht : t.HasPlainYear) (hu : u.HasPlainYear) :
    (∀ now, Store.storedTime now t.stored = t.toMicros) ∧
    (t.toMicros.seconds = t.seconds ∧ t.toMicros.nanos = t.nanos / 1000 * 1000) ∧
    (Text.bytes t.stored < Text.bytes u.stored ↔ t.toMicros.Precedes u.toMicros) ∧
    (t.stored = u.stored ↔ t.toMicros = u.toMicros) := by
  refine ⟨Store.storedTime_stored ht, position_toMicros t, ?_, ?_⟩
  . rw [Text.bytes_lt_iff (fun c => ascii_of_mem_stored ht) (fun c => ascii_of_mem_stored hu), stored_lt_iff ht hu,
      lt_iff_precedes]
  . constructor
    . intro h
      rw [← Store.storedTime_stored ht .epoch, h, Store.storedTime_stored hu]
    . intro h
      rw [← stored_toMicros, h, stored_toMicros]

theorem Timestamp.stored_chronological_leap :
    let t : Timestamp := ⟨2016, 12, 31, 23, 59, 60, 999999999, by decide, by decide⟩
    let u : Timestamp := ⟨2017, 1, 1, 0, 0, 0, 1, by decide, by decide⟩
    t.HasPlainYear ∧ u.HasPlainYear ∧ Store.storedTime .epoch t.stored = t.toMicros ∧
      Text.bytes t.stored < Text.bytes u.stored ∧ ¬ Text.bytes u.stored < Text.bytes t.stored := by
  intro t u
  have ht : t.HasPlainYear := by decide
  have hu : u.HasPlainYear := by decide
  have hlater := stored_chronological ht hu
  have hearlier := stored_chronological hu ht
  refine ⟨ht, hu, hlater.1 .epoch, ?_, ?_⟩
  . rw [hlater.2.2.1]
    decide
  . rw [hearlier.2.2.1]
    decide

end Triage
