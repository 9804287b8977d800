import Triage.Proofs.Json.Magnitude
import Triage.Proofs.Json.Numeric

/-!
This module contains the spellings of numerals, which are read as the numerals again.
-/

namespace Triage
namespace Json

namespace Digits

/--
The position behind a digit that goes on in the same part of a number.
-/
theorem foldlM_digits (position : List Char → Digits)
    (hposition : ∀ digits c, c.isDigit = true → Reader.extend? (position digits) c = some (position (c :: digits)))
    {cs : List Char} (hcs : ∀ c ∈ cs, c.isDigit = true) (digits : List Char) :
    cs.foldlM Reader.extend? (position digits) = some (position (cs.reverse ++ digits)) := by
  induction cs generalizing digits with
  | nil => rfl
  | cons c cs ih =>
    rw [List.forall_mem_cons] at hcs
    rw [List.foldlM_cons, hposition digits c hcs.1, Option.bind_eq_bind, Option.bind_some, ih hcs.2, List.reverse_cons,
      List.append_assoc, List.singleton_append]

/--
The position behind the digits in front of the point, and behind those of a fraction if there is one.
-/
def mantissa (negative : Bool) (whole : List Char) : Option (List Char) → Digits
  | none => .whole negative whole
  | some digits => .fraction negative whole digits

theorem extend?_mantissa (negative : Bool) (whole : List Char) (fraction : Option (List Char)) :
    Reader.extend? (mantissa negative whole fraction) 'e' = some (.mark negative whole fraction) := by
  cases fraction <;> rfl

end Digits

namespace Numeral

def signChars (negative : Bool) : List Char :=
  if negative then ['-'] else []

def fractionChars : Option (List Char) → List Char
  | none => []
  | some cs => '.' :: cs

/--
An exponent with its sign, which is always written.
-/
def exponentChars : Option (Bool × List Char) → List Char
  | none => []
  | some (down, cs) => 'e' :: (if down then '-' else '+') :: cs

def spelling (n : Numeral) : List Char :=
  signChars n.negative ++ n.whole ++ fractionChars n.fraction ++ exponentChars n.exponent

/--
A numeral that can be spelled: no part of it is empty, and there is no zero in front.
-/
structure Proper (n : Numeral) : Prop where
  whole : ∃ c cs, n.whole = c :: cs ∧ (c = '0' → cs = [])
  wholeDigits : ∀ c ∈ n.whole, c.isDigit = true
  fraction : ∀ cs, n.fraction = some cs → cs ≠ [] ∧ ∀ c ∈ cs, c.isDigit = true
  exponent : ∀ down cs, n.exponent = some (down, cs) → cs ≠ [] ∧ ∀ c ∈ cs, c.isDigit = true

namespace Proper

variable {n : Numeral}

theorem read?_whole (h : n.Proper) :
    Digits.read? (signChars n.negative ++ n.whole) = some (.whole n.negative n.whole.reverse) := by
  obtain ⟨c, cs, hwhole, hzero⟩ := h.whole
  have hdigits := h.wholeDigits
  rw [hwhole, List.forall_mem_cons] at hdigits
  have hrest : cs.foldlM Reader.extend? (.whole n.negative [c]) = some (.whole n.negative n.whole.reverse) := by
    rw [hwhole, List.reverse_cons]
    by_cases hc : c = '0'
    . rw [hzero hc]
      rfl
    . exact foldlM_whole hdigits.2 (List.cons_ne_nil c []) (by simpa using hc)
  rw [← hrest, hwhole]
  cases n.negative with
  | true => simp [signChars, Digits.read?, Digits.read?.begin?, Reader.extend?, hdigits.1]
  | false =>
    have hminus : c ≠ '-' := by
      rintro rfl
      exact absurd hdigits.1 (by decide)
    simp [signChars, Digits.read?, Digits.read?.begin?, hminus, hdigits.1]

theorem foldlM_fraction (h : n.Proper) (whole : List Char) :
    (fractionChars n.fraction).foldlM Reader.extend? (.whole n.negative whole) =
      some (Digits.mantissa n.negative whole (n.fraction.map List.reverse)) := by
  cases hfraction : n.fraction with
  | none => rfl
  | some cs =>
    obtain ⟨hne, hcs⟩ := h.fraction cs hfraction
    cases cs with
    | nil => contradiction
    | cons c cs =>
      rw [List.forall_mem_cons] at hcs
      have hpoint : Reader.extend? (.whole n.negative whole) '.' = some (.point n.negative whole) := rfl
      have hfirst : Reader.extend? (.point n.negative whole) c = some (.fraction n.negative whole [c]) := by
        unfold Reader.extend?
        dsimp only
        rw [if_pos hcs.1]
      have hrest := Digits.foldlM_digits (.fraction n.negative whole)
        (fun digits c hc => by unfold Reader.extend?; dsimp only; rw [if_pos hc]) hcs.2 [c]
      simp only [fractionChars, List.foldlM_cons, hpoint, hfirst, hrest, Option.bind_eq_bind, Option.bind_some]
      rw [Option.map_some, List.reverse_cons]
      rfl

/--
What has been read of a numeral with an exponent.
-/
theorem foldlM_exponent {whole cs : List Char} {fraction : Option (List Char)} (down : Bool) (hne : cs ≠ [])
    (hcs : ∀ c ∈ cs, c.isDigit = true) :
    (exponentChars (some (down, cs))).foldlM Reader.extend? (Digits.mantissa n.negative whole fraction) =
      some (.exponent n.negative whole fraction down cs.reverse) := by
  cases cs with
  | nil => contradiction
  | cons c cs =>
    rw [List.forall_mem_cons] at hcs
    have hsign : Reader.extend? (.mark n.negative whole fraction) (if down then '-' else '+') =
        some (.sign n.negative whole fraction down) := by
      cases down <;> rfl
    have hfirst : Reader.extend? (.sign n.negative whole fraction down) c =
        some (.exponent n.negative whole fraction down [c]) := by
      unfold Reader.extend?
      dsimp only
      rw [if_pos hcs.1]
    have hrest := Digits.foldlM_digits (.exponent n.negative whole fraction down)
      (fun digits c hc => by unfold Reader.extend?; dsimp only; rw [if_pos hc]) hcs.2 [c]
    simp only [exponentChars, List.foldlM_cons, Digits.extend?_mantissa, hsign, hfirst, hrest, Option.bind_eq_bind,
      Option.bind_some]
    rw [List.reverse_cons]

theorem numberOf?_spelling (h : n.Proper) : numberOf? n.spelling = n.value? := by
  have hmantissa : Digits.read? (signChars n.negative ++ n.whole ++ fractionChars n.fraction) =
      some (Digits.mantissa n.negative n.whole.reverse (n.fraction.map List.reverse)) := by
    rw [Digits.read?_append h.read?_whole]
    exact h.foldlM_fraction n.whole.reverse
  have hfraction : (n.fraction.map List.reverse).map List.reverse = n.fraction := by
    cases n.fraction <;> simp
  unfold spelling
  obtain ⟨negative, whole, fraction, exponent⟩ := n
  cases exponent with
  | none =>
    have hnumeral : Reader.numeral? (Digits.mantissa negative whole.reverse (fraction.map List.reverse)) =
        some ⟨negative, whole, fraction, none⟩ := by
      cases fraction <;> simp [Digits.mantissa, Reader.numeral?]
    dsimp only at hmantissa ⊢
    rw [exponentChars, List.append_nil, numberOf?_eq hmantissa, hnumeral, Option.bind_some]
  | some exponent =>
    obtain ⟨down, cs⟩ := exponent
    obtain ⟨hne, hcs⟩ := h.exponent down cs rfl
    have hread := Digits.read?_append hmantissa (exponentChars (some (down, cs)))
    rw [foldlM_exponent down hne hcs] at hread
    dsimp only at hread hfraction ⊢
    rw [numberOf?_eq hread, Reader.numeral?, List.reverse_reverse, List.reverse_reverse, hfraction, Option.bind_some]

/--
A short numeral with a point or an exponent is spelled like a number.
-/
theorem exists_number (h : n.Proper) (hshort : n.Short) (hreal : n.fraction.isSome ∨ n.exponent.isSome) :
    ∃ v, numberOf? n.spelling = some v := by
  rw [h.numberOf?_spelling]
  exact hshort.exists_value? hreal

theorem isNumeric_of_mem_spelling (h : n.Proper) {c : Char} (hc : c ∈ n.spelling) : isNumeric c = true := by
  unfold spelling at hc
  simp only [List.mem_append] at hc
  rcases hc with ((hc | hc) | hc) | hc
  . cases hnegative : n.negative with
    | true =>
      rw [hnegative, signChars, if_pos rfl, List.mem_singleton] at hc
      rw [hc]
      rfl
    | false =>
      rw [hnegative] at hc
      contradiction
  . exact isNumeric_of_isDigit (h.wholeDigits c hc)
  . cases hfraction : n.fraction with
    | none =>
      rw [hfraction] at hc
      contradiction
    | some cs =>
      rw [hfraction, fractionChars, List.mem_cons] at hc
      rcases hc with rfl | hc
      . rfl
      . exact isNumeric_of_isDigit ((h.fraction cs hfraction).2 c hc)
  . cases hexponent : n.exponent with
    | none =>
      rw [hexponent] at hc
      contradiction
    | some exponent =>
      obtain ⟨down, cs⟩ := exponent
      rw [hexponent, exponentChars, List.mem_cons, List.mem_cons] at hc
      rcases hc with rfl | rfl | hc
      . rfl
      . cases down <;> rfl
      . exact isNumeric_of_isDigit ((h.exponent down cs hexponent).2 c hc)

end Proper
end Numeral
end Json
end Triage
