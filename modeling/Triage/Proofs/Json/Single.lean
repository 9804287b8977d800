import Triage.Proofs.Decimal.Shortest
import Triage.Proofs.Json.Spelling

/-!
This module contains the proof that the texts of floating point numbers of 32 bits are literals of numbers.
-/

namespace Triage
namespace Json

/--
A text of digits that is the spelling of a short numeral with a point or an exponent.
-/
structure Spells (cs : List Char) (n : Numeral) : Prop where
  unsigned : n.negative = false
  spelling : n.spelling = cs
  proper : n.Proper
  short : n.Short
  real : n.fraction.isSome ∨ n.exponent.isSome

variable {cs : List Char} {n : Numeral}

theorem Numeral.Proper.exists_isLiteral (h : n.Proper) (hshort : n.Short)
    (hreal : n.fraction.isSome ∨ n.exponent.isSome) : ∃ v, IsLiteral n.spelling v := by
  obtain ⟨v, hv⟩ := h.exists_number hshort hreal
  exact ⟨v, hv, fun _ => h.isNumeric_of_mem_spelling⟩

theorem Spells.exists_isLiteral (h : Spells cs n) : ∃ v, IsLiteral cs v := by
  rw [← h.spelling]
  exact h.proper.exists_isLiteral h.short h.real

theorem Spells.exists_isLiteral_neg (h : Spells cs n) : ∃ v, IsLiteral ('-' :: cs) v := by
  have hspelling : ({ n with negative := true } : Numeral).spelling = '-' :: cs := by
    rw [← h.spelling, Numeral.spelling, Numeral.spelling, h.unsigned]
    rfl
  have hproper : ({ n with negative := true } : Numeral).Proper :=
    ⟨h.proper.whole, h.proper.wholeDigits, h.proper.fraction, h.proper.exponent⟩
  have hshort : ({ n with negative := true } : Numeral).Short := ⟨h.short.whole, h.short.fraction, h.short.exponent⟩
  rw [← hspelling]
  exact hproper.exists_isLiteral hshort h.real

/--
Digits on both sides of a point.
-/
theorem spells_fraction {c : Char} {whole fraction : List Char} (hzero : c = '0' → whole = [])
    (hwhole : ∀ d ∈ c :: whole, d.isDigit = true) (hlength : whole.length < 100) (hne : fraction ≠ [])
    (hfraction : ∀ d ∈ fraction, d.isDigit = true) (hlength' : fraction.length ≤ 100) :
    Spells (c :: whole ++ '.' :: fraction) ⟨false, c :: whole, some fraction, none⟩ where
  unsigned := rfl
  spelling := by simp [Numeral.spelling, Numeral.signChars, Numeral.fractionChars, Numeral.exponentChars]
  proper :=
    { whole := ⟨c, whole, rfl, hzero⟩
      wholeDigits := hwhole
      fraction := by
        rintro _ ⟨⟩
        exact ⟨hne, hfraction⟩
      exponent := by
        intro down cs h
        contradiction }
  short :=
    { whole := hlength
      fraction := by
        rintro _ ⟨⟩
        exact hlength'
      exponent := by
        intro down cs h
        contradiction }
  real := .inl rfl

/--
One digit, more behind a point if there are any, and an exponent.
-/
theorem spells_exponent {c : Char} {exponent : Nat} (fraction : Option (List Char)) (down : Bool)
    (hc : c.isDigit = true)
    (hfraction : ∀ cs, fraction = some cs → cs ≠ [] ∧ (∀ d ∈ cs, d.isDigit = true) ∧ cs.length ≤ 100)
    (hexponent : exponent ≤ 100) :
    Spells (c :: Numeral.fractionChars fraction ++ Numeral.exponentChars (some (down, Nat.toDigits 10 exponent)))
      ⟨false, [c], fraction, some (down, Nat.toDigits 10 exponent)⟩ where
  unsigned := rfl
  spelling := by simp [Numeral.spelling, Numeral.signChars]
  proper :=
    { whole := ⟨c, [], rfl, fun _ => rfl⟩
      wholeDigits := by
        intro d hd
        rw [List.mem_singleton.mp hd, hc]
      fraction := fun cs h => ⟨(hfraction cs h).1, (hfraction cs h).2.1⟩
      exponent := by
        rintro _ _ ⟨⟩
        exact ⟨Nat.toDigits_ne_nil, fun _ => isDigit_of_mem_toDigits⟩ }
  short :=
    { whole := (by decide : 1 ≤ 100)
      fraction := fun cs h => (hfraction cs h).2.2
      exponent := by
        rintro _ _ ⟨⟩
        rwa [natOfDigits_toDigits] }
  real := .inr rfl

end Json

namespace Decimal

open Json

variable {d : Decimal}

/--
The digits of a moderate decimal, with no zero in front.
-/
theorem Moderate.digitChars {low high : Int} (h : Moderate low high d) :
    ∃ c cs, d.digitChars = c :: cs ∧ c ≠ '0' ∧ cs.length ≤ 18 := by
  obtain ⟨c, cs, hchars, hzero⟩ := toDigits_eq_cons d.digits
  have hpositive := h.positive
  have hlength : d.digitChars.length ≤ 19 := by
    unfold Decimal.digitChars
    rw [Nat.length_toDigits_le_iff (by decide) (by decide)]
    exact Nat.lt_of_le_of_lt h.digits (by decide)
  change d.digitChars = c :: cs at hchars
  refine ⟨c, cs, hchars, ?_, ?_⟩
  . intro hc
    have := hzero hc
    omega
  . rw [hchars, List.length_cons] at hlength
    omega

theorem leading_eq {c : Char} {cs : List Char} (h : d.digitChars = c :: cs) :
    d.leading = d.exponent + (cs.length : Int) := by
  unfold leading
  rw [h, List.length_cons]
  omega

theorem isDigit_of_mem_zeros {n : Nat} {c : Char} (h : c ∈ List.replicate n '0') : c.isDigit = true := by
  rw [List.eq_of_mem_replicate h]
  rfl

theorem isDigit_of_mem_zero (c : Char) (h : c ∈ ['0']) : c.isDigit = true :=
  isDigit_of_mem_zeros (n := 1) h

theorem Moderate.exists_spells_positional (h : Moderate (-70) 60 d) : ∃ n, Spells (positionalChars true d) n := by
  obtain ⟨c, cs, hchars, hc, hlength⟩ := h.digitChars
  have hlower := h.lower
  have hupper := h.upper
  have hleading := leading_eq hchars
  have hdigits (e : Char) (he : e ∈ c :: cs) : e.isDigit = true := by
    rw [← hchars] at he
    exact isDigit_of_mem_toDigits he
  have hzero {rest : List Char} (h : c = '0') : rest = [] := absurd h hc
  unfold positionalChars
  dsimp only
  rw [hchars]
  split
  . -- all digits stand in front of the point
    have hwhole (e : Char) (he : e ∈ c :: (cs ++ List.replicate d.exponent.toNat '0')) : e.isDigit = true := by
      rw [← List.cons_append, List.mem_append] at he
      rcases he with he | he
      . exact hdigits e he
      . exact isDigit_of_mem_zeros he
    have hshort : (cs ++ List.replicate d.exponent.toNat '0').length < 100 := by
      rw [List.length_append, List.length_replicate]
      omega
    exact ⟨_, spells_fraction hzero hwhole hshort (List.cons_ne_nil '0' []) isDigit_of_mem_zero (by decide)⟩
  . split
    . -- the point stands between the digits
      obtain ⟨k, hk⟩ : ∃ k, (d.leading + 1).toNat = k + 1 := ⟨d.leading.toNat, by omega⟩
      have hfront (e : Char) (he : e ∈ c :: cs.take k) : e.isDigit = true := by
        rw [← List.take_succ_cons] at he
        exact hdigits e (List.mem_of_mem_take he)
      have hback (e : Char) (he : e ∈ cs.drop k) : e.isDigit = true :=
        hdigits e (List.mem_cons_of_mem c (List.mem_of_mem_drop he))
      have hne : cs.drop k ≠ [] := by
        rw [ne_eq, List.drop_eq_nil_iff]
        omega
      rw [hk, List.take_succ_cons, List.drop_succ_cons]
      refine ⟨_, spells_fraction hzero hfront ?_ hne hback ?_⟩
      . rw [List.length_take]
        omega
      . rw [List.length_drop]
        omega
    . -- all digits stand behind the point
      have hback (e : Char) (he : e ∈ List.replicate (-(d.leading + 1)).toNat '0' ++ c :: cs) : e.isDigit = true := by
        rcases List.mem_append.mp he with he | he
        . exact isDigit_of_mem_zeros he
        . exact hdigits e he
      refine ⟨_, spells_fraction (fun _ => rfl) isDigit_of_mem_zero (by decide) ?_ hback ?_⟩
      . exact List.append_ne_nil_of_right_ne_nil _ (List.cons_ne_nil c cs)
      . rw [List.length_append, List.length_replicate, List.length_cons]
        omega

theorem Moderate.exists_spells_scientific (h : Moderate (-70) 60 d) : ∃ n, Spells (scientificChars d) n := by
  obtain ⟨c, cs, hchars, hc, hlength⟩ := h.digitChars
  have hlower := h.lower
  have hupper := h.upper
  have hleading := leading_eq hchars
  have hdigits (e : Char) (he : e ∈ c :: cs) : e.isDigit = true := by
    rw [← hchars] at he
    exact isDigit_of_mem_toDigits he
  have hexponent : d.leading.natAbs ≤ 100 := by omega
  have hsign : (if d.leading < 0 then '-' else '+') = if decide (d.leading < 0) then '-' else '+' := by simp
  unfold scientificChars
  dsimp only
  rw [hchars, hsign]
  cases cs with
  | nil => exact ⟨_, spells_exponent none _ (hdigits c List.mem_cons_self) (fun _ h => nomatch h) hexponent⟩
  | cons e es =>
    have hfraction (ds : List Char) (hds : some (e :: es) = some ds) :
        ds ≠ [] ∧ (∀ d ∈ ds, d.isDigit = true) ∧ ds.length ≤ 100 := by
      cases hds
      exact ⟨List.cons_ne_nil e es, fun d hd => hdigits d (List.mem_cons_of_mem c hd), by omega⟩
    exact ⟨_, spells_exponent (some (e :: es)) _ (hdigits c List.mem_cons_self) hfraction hexponent⟩

end Decimal

namespace Json

theorem exists_spells_single {rank : Nat} (h : rank < BinaryFormat.single.infinity) :
    ∃ n, Spells (Number.singleLayout.chars (Decimal.shortest .single Number.singleLayout.tie rank)) n := by
  cases rank with
  | zero =>
    exact ⟨_, spells_fraction (fun _ => rfl) Decimal.isDigit_of_mem_zero (by decide) (List.cons_ne_nil '0' [])
      Decimal.isDigit_of_mem_zero (by decide)⟩
  | succ rank =>
    have hmoderate := Decimal.moderate_shortest Number.singleLayout.tie (Nat.succ_pos rank) h
    generalize Decimal.shortest .single Number.singleLayout.tie (rank + 1) = d at hmoderate
    unfold Decimal.Layout.chars Number.singleLayout Number.doubleLayout
    dsimp only
    split
    . exact hmoderate.exists_spells_positional
    . exact hmoderate.exists_spells_scientific

theorem exists_isLiteral_single {x : Single} (h : x.isFinite = true) :
    ∃ v, IsLiteral (Number.singleLayout.render x) v := by
  cases x with
  | nan => contradiction
  | signed negative rank bounded =>
    have hrank : rank < BinaryFormat.single.infinity := of_decide_eq_true h
    obtain ⟨n, hn⟩ := exists_spells_single hrank
    unfold Decimal.Layout.render
    dsimp only
    rw [if_pos hrank]
    split
    . exact hn.exists_isLiteral_neg
    . exact hn.exists_isLiteral

end Json
end Triage
