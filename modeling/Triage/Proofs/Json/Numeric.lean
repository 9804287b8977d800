import Triage.Json.Writer
import Triage.Proofs.Json.Literal

/-!
This module contains the texts that are written of numbers, as literals that are read again.
-/

namespace Triage
namespace Json

/--
Whether a number is read again from its text. This is so for all integers.
-/
def Number.Survives : Number → Prop
  | .integer _ => True
  | .real x finite => Json.parse? (Json.number (.real x finite)).compact = some (.number (.real x finite))

/--
The characters that the texts of finite numbers are made of.
-/
def isNumeric (c : Char) : Bool :=
  c.isDigit || c == '-' || c == '+' || c == '.' || c == 'e'

theorem isNumeric_of_isDigit {c : Char} (h : c.isDigit = true) : isNumeric c = true := by
  simp [isNumeric, h]

theorem isDigit_of_mem_toDigits {n : Nat} {c : Char} (h : c ∈ Nat.toDigits 10 n) : c.isDigit = true :=
  Nat.isDigit_of_mem_toDigits (by decide) (by decide) h

theorem isNumeric_of_mem_toDigits {n : Nat} {c : Char} (h : c ∈ Nat.toDigits 10 n) : isNumeric c = true :=
  isNumeric_of_isDigit (isDigit_of_mem_toDigits h)

theorem isNumeric_of_mem_replicate {n : Nat} {c : Char} (h : c ∈ List.replicate n '0') : isNumeric c = true := by
  rw [List.eq_of_mem_replicate h]
  rfl

theorem isNumeric_of_mem_positionalChars {pointZero : Bool} {d : Decimal} {c : Char}
    (h : c ∈ Decimal.positionalChars pointZero d) : isNumeric c = true := by
  unfold Decimal.positionalChars at h
  dsimp only at h
  split at h
  . rw [List.mem_append, List.mem_append] at h
    rcases h with (h | h) | h
    . exact isNumeric_of_mem_toDigits h
    . exact isNumeric_of_mem_replicate h
    . split at h
      . simp only [List.mem_cons, List.not_mem_nil, or_false] at h
        rcases h with rfl | rfl <;> rfl
      . contradiction
  . split at h
    . rw [List.mem_append, List.mem_cons] at h
      rcases h with h | rfl | h
      . exact isNumeric_of_mem_toDigits (List.mem_of_mem_take h)
      . rfl
      . exact isNumeric_of_mem_toDigits (List.mem_of_mem_drop h)
    . rw [List.mem_cons, List.mem_cons, List.mem_append] at h
      rcases h with rfl | rfl | h | h
      . rfl
      . rfl
      . exact isNumeric_of_mem_replicate h
      . exact isNumeric_of_mem_toDigits h

theorem isNumeric_of_mem_scientificChars {d : Decimal} {c : Char} (h : c ∈ Decimal.scientificChars d) :
    isNumeric c = true := by
  have hdigits (c : Char) (hc : c ∈ d.digitChars) : isNumeric c = true := isNumeric_of_mem_toDigits hc
  unfold Decimal.scientificChars at h
  dsimp only at h
  rw [List.mem_append, List.mem_cons, List.mem_cons] at h
  rcases h with h | rfl | rfl | h
  . split at h
    . contradiction
    . next first hfirst =>
      apply hdigits
      rwa [hfirst]
    . next first rest hfirst =>
      rw [List.mem_cons, List.mem_cons] at h
      rcases h with rfl | rfl | h
      . exact hdigits _ (by simp [hfirst])
      . rfl
      . exact hdigits _ (by simp [hfirst, h])
  . rfl
  . split <;> rfl
  . exact isNumeric_of_mem_toDigits h

theorem isNumeric_of_mem_chars {n : Number} {c : Char} (h : c ∈ n.chars) : isNumeric c = true := by
  cases n with
  | integer n =>
    unfold Number.chars Number.integerChars at h
    dsimp only at h
    split at h
    . rw [List.mem_cons] at h
      rcases h with rfl | h
      . rfl
      . exact isNumeric_of_mem_toDigits h
    . exact isNumeric_of_mem_toDigits h
  | real x finite =>
    cases x with
    | nan => contradiction
    | signed negative rank bounded =>
      have hlayout (d : Decimal) (hc : c ∈ Number.doubleLayout.chars d) : isNumeric c = true := by
        unfold Decimal.Layout.chars Number.doubleLayout at hc
        dsimp only at hc
        split at hc
        . exact isNumeric_of_mem_positionalChars hc
        . exact isNumeric_of_mem_scientificChars hc
      have hfinite : rank < BinaryFormat.double.infinity := of_decide_eq_true finite
      unfold Number.chars Decimal.Layout.render at h
      dsimp only at h
      rw [if_pos hfinite] at h
      split at h
      . rw [List.mem_cons] at h
        rcases h with rfl | h
        . rfl
        . exact hlayout _ h
      . exact hlayout _ h

namespace Reader

variable {limit : Nat} {stack : List Frame} {state state' : Digits} {c : Char} {cs : List Char}

/-! What is read of a literal does not depend on where it stands. -/

theorem run_digits (h : cs.foldlM extend? state = some state') :
    run limit ⟨stack, .digits state⟩ cs = some ⟨stack, .digits state'⟩ := by
  induction cs generalizing state with
  | nil =>
    cases h
    rfl
  | cons c cs ih =>
    rw [List.foldlM_cons] at h
    obtain ⟨next, hnext, hrest⟩ := Option.bind_eq_some_iff.mp h
    rw [run, step]
    dsimp only
    rw [hnext]
    exact ih hrest

theorem not_isSpace_of_isNumeric (h : isNumeric c = true) : isSpace c = false := by
  rw [Bool.eq_false_iff]
  intro hspace
  unfold isSpace at hspace
  simp only [Bool.or_eq_true, beq_iff_eq] at hspace
  rcases hspace with ((rfl | rfl) | rfl) | rfl <;> contradiction

theorem open?_of_isNumeric (h : isNumeric c = true) :
    open? limit stack c = (Digits.read?.begin? c).map fun state => ⟨stack, .digits state⟩ := by
  unfold isNumeric at h
  simp only [Bool.or_eq_true, beq_iff_eq] at h
  unfold Digits.read?.begin?
  rcases h with (((h | rfl) | rfl) | rfl) | rfl
  . have hminus : c ≠ '-' := by
      rintro rfl
      contradiction
    rw [if_neg hminus, if_pos h]
    unfold open?
    split <;> simp_all
  . rfl
  . rfl
  . rfl
  . rfl

theorem run_literal (hcs : ∀ c ∈ cs, isNumeric c = true) (h : Digits.read? cs = some state) :
    run limit ⟨stack, .value⟩ cs = some ⟨stack, .digits state⟩ := by
  cases cs with
  | nil => cases h
  | cons c cs =>
    have hc : isNumeric c = true := hcs c List.mem_cons_self
    unfold Digits.read? at h
    obtain ⟨first, hfirst, hrest⟩ := Option.bind_eq_some_iff.mp h
    have hstep : step limit ⟨stack, .value⟩ c = some ⟨stack, .digits first⟩ := by
      rw [step_of_isBetween rfl, between, if_neg (Bool.eq_false_iff.mp (not_isSpace_of_isNumeric hc))]
      dsimp only
      rw [open?_of_isNumeric hc, hfirst]
      rfl
    rw [run, hstep]
    exact run_digits hrest

/--
A text of such characters that is read as a value at all is the literal of a number.
-/
theorem exists_literal_of_run {r : Reader} {v : Json} (hcs : ∀ c ∈ cs, isNumeric c = true)
    (hrun : start.run limit cs = some r) (hfinish : r.finish = some v) :
    ∃ state, Digits.read? cs = some state ∧ r = ⟨[], .digits state⟩ := by
  have hdigits (ds : List Char) (state : Digits) (hds : ∀ c ∈ ds, isNumeric c = true)
      (hrun : run limit ⟨[], .digits state⟩ ds = some r) :
      ∃ state', ds.foldlM extend? state = some state' ∧ r = ⟨[], .digits state'⟩ := by
    induction ds generalizing state with
    | nil =>
      cases hrun
      exact ⟨state, rfl, rfl⟩
    | cons d ds ih =>
      obtain ⟨next, hnext, hrest⟩ := run_cons_eq_some_iff.mp hrun
      rw [List.forall_mem_cons] at hds
      cases move_of_step hnext with
      | digits hextend =>
        obtain ⟨state', hfold, hr⟩ := ih _ hds.2 hrest
        refine ⟨state', ?_, hr⟩
        rw [List.foldlM_cons, hextend]
        exact hfold
      | endDigits hextend hnumber hmove =>
        -- Behind a number on its own there may be blanks only.
        cases hmove with
        | space hspace =>
          rw [not_isSpace_of_isNumeric hds.1] at hspace
          contradiction
      | space hspace hphase => contradiction
  cases cs with
  | nil =>
    cases hrun
    cases hfinish
  | cons c cs =>
    obtain ⟨next, hnext, hrest⟩ := run_cons_eq_some_iff.mp hrun
    rw [List.forall_mem_cons] at hcs
    have hopen : open? limit [] c = some next := by
      rw [step_of_isBetween rfl, between, if_neg (Bool.eq_false_iff.mp (not_isSpace_of_isNumeric hcs.1))] at hnext
      exact hnext
    rw [open?_of_isNumeric hcs.1] at hopen
    obtain ⟨first, hfirst, rfl⟩ := Option.map_eq_some_iff.mp hopen
    obtain ⟨state', hfold, hr⟩ := hdigits cs first hcs.2 hrest
    refine ⟨state', ?_, hr⟩
    unfold Digits.read?
    dsimp only
    rw [hfirst]
    exact hfold

end Reader

/-! Integers. -/

theorem natOfDigits_toDigits (n : Nat) : Numeral.natOfDigits (Nat.toDigits 10 n) = n := by
  have hfold (cs : List Char) (k : Nat) :
      cs.foldl (fun n c => n * 10 + Numeral.digit c) k = Nat.ofDigitChars 10 cs k := by
    unfold Nat.ofDigitChars Numeral.digit
    simp only [Nat.mul_comm]
  unfold Numeral.natOfDigits
  rw [hfold, Nat.ofDigitChars_ten_toDigits]

/--
There are no zeros in front of the digits of a number.
-/
theorem toDigits_eq_cons (n : Nat) : ∃ c cs, Nat.toDigits 10 n = c :: cs ∧ (c = '0' → n = 0) := by
  induction n using Nat.strongRecOn with
  | ind n ih =>
    by_cases hn : n < 10
    . refine ⟨Nat.digitChar n, [], Nat.toDigits_of_lt_base hn, ?_⟩
      intro hc
      have hval : (Nat.digitChar n).toNat = 48 + n := Nat.toNat_digitChar_of_lt_ten hn
      have hzero : ('0' : Char).toNat = 48 := rfl
      rw [hc, hzero] at hval
      omega
    . obtain ⟨c, cs, hfront, hc⟩ := ih (n / 10) (by omega)
      refine ⟨c, cs ++ [Nat.digitChar (n % 10)], ?_, ?_⟩
      . rw [Nat.toDigits_of_base_le (by decide) (by omega), hfront]
        rfl
      . intro hzero
        have := hc hzero
        omega

theorem foldlM_whole {negative : Bool} {digits cs : List Char} (hcs : ∀ c ∈ cs, c.isDigit = true)
    (hne : digits ≠ []) (hzero : digits ≠ ['0']) :
    cs.foldlM Reader.extend? (.whole negative digits) = some (.whole negative (cs.reverse ++ digits)) := by
  induction cs generalizing digits with
  | nil => rfl
  | cons c cs ih =>
    rw [List.forall_mem_cons] at hcs
    have hextend : Reader.extend? (.whole negative digits) c = some (.whole negative (c :: digits)) := by
      unfold Reader.extend?
      dsimp only
      rw [if_pos hcs.1, if_neg hzero]
    rw [List.foldlM_cons, hextend]
    have hrest := ih hcs.2 (List.cons_ne_nil c digits) (by simp [hne])
    rw [List.reverse_cons, List.append_assoc]
    exact hrest

theorem foldlM_toDigits (negative : Bool) (n : Nat) {c : Char} {cs : List Char} (h : Nat.toDigits 10 n = c :: cs) :
    cs.foldlM Reader.extend? (.whole negative [c]) = some (.whole negative (Nat.toDigits 10 n).reverse) := by
  obtain ⟨c', cs', h', hzero⟩ := toDigits_eq_cons n
  have hdigits (d : Char) (hd : d ∈ cs) : d.isDigit = true := by
    apply isDigit_of_mem_toDigits (n := n)
    rw [h]
    exact List.mem_cons_of_mem c hd
  rw [h] at h'
  cases h'
  by_cases hc : c = '0'
  . -- The only number that begins with a zero is zero.
    have hn := hzero hc
    rw [hn, Nat.toDigits_zero] at h
    cases h
    rw [hn]
    rfl
  . rw [foldlM_whole hdigits (by simp) (by simpa using hc), h]
    simp

theorem ofInt?_val (n : Integer) : Integer.ofInt? n.val = some n := by
  unfold Integer.ofInt?
  split
  . rfl
  . next h => exact absurd ⟨n.lower, n.upper⟩ h

theorem value?_toDigits_neg {n : Integer} (h : n.val < 0) :
    Numeral.value? ⟨true, Nat.toDigits 10 n.val.natAbs, none, none⟩ = some (.integer n) := by
  have habs : -((n.val.natAbs : Nat) : Int) = n.val := by omega
  have hne : ((n.val.natAbs : Nat) : Int) ≠ 0 := by omega
  unfold Numeral.value?
  simp only [natOfDigits_toDigits, habs, hne, ofInt?_val, if_true, if_false]

theorem value?_toDigits {n : Integer} (h : 0 ≤ n.val) :
    Numeral.value? ⟨false, Nat.toDigits 10 n.val.natAbs, none, none⟩ = some (.integer n) := by
  have habs : ((n.val.natAbs : Nat) : Int) = n.val := by omega
  unfold Numeral.value?
  simp only [natOfDigits_toDigits, habs, ofInt?_val, Bool.false_eq_true, if_false]

theorem numberOf?_integerChars (n : Integer) : numberOf? (Number.integerChars n.val) = some (.integer n) := by
  obtain ⟨c, cs, hdigits, -⟩ := toDigits_eq_cons n.val.natAbs
  have hc : c.isDigit = true := isDigit_of_mem_toDigits (n := n.val.natAbs) (by simp [hdigits])
  unfold Number.integerChars
  split
  . next hneg =>
    have hread : Digits.read? ('-' :: Nat.toDigits 10 n.val.natAbs) =
        some (.whole true (Nat.toDigits 10 n.val.natAbs).reverse) := by
      rw [← foldlM_toDigits true n.val.natAbs hdigits, hdigits]
      simp [Digits.read?, Digits.read?.begin?, Reader.extend?, hc]
    rw [numberOf?_eq hread, Reader.numeral?, Option.bind_some, List.reverse_reverse]
    exact value?_toDigits_neg hneg
  . next hneg =>
    have hminus : c ≠ '-' := by
      rintro rfl
      contradiction
    have hread : Digits.read? (Nat.toDigits 10 n.val.natAbs) =
        some (.whole false (Nat.toDigits 10 n.val.natAbs).reverse) := by
      rw [← foldlM_toDigits false n.val.natAbs hdigits, hdigits]
      simp [Digits.read?, Digits.read?.begin?, hminus, hc]
    rw [numberOf?_eq hread, Reader.numeral?, Option.bind_some, List.reverse_reverse]
    exact value?_toDigits (by omega)

theorem numberOf?_chars {n : Number} (h : n.Survives) : numberOf? n.chars = some n := by
  cases n with
  | integer n => exact numberOf?_integerChars n
  | real x finite =>
    obtain ⟨v, hread, hv⟩ := Option.map_eq_some_iff.mp h
    unfold read? readWithin compact at hread
    rw [String.toList_ofList] at hread
    obtain ⟨r, hrun, hfinish⟩ := Option.bind_eq_some_iff.mp hread
    have hcs (c : Char) (hc : c ∈ (Json.number (.real x finite)).compactChars) : isNumeric c = true :=
      isNumeric_of_mem_chars (n := .real x finite) hc
    obtain ⟨state, hliteral, rfl⟩ := Reader.exists_literal_of_run hcs hrun hfinish
    change Digits.read? (Number.real x finite).chars = some state at hliteral
    rw [numberOf?_eq hliteral]
    unfold Reader.finish at hfinish
    dsimp only at hfinish
    split at hfinish
    . next hclose =>
      obtain ⟨n, hnumber, hn⟩ := Reader.closeDigits_eq_some_iff.mp hclose
      cases hfinish
      cases hn
      cases hv
      exact hnumber
    . contradiction

/--
A text that is read as a number wherever it stands.
-/
structure IsLiteral (cs : List Char) (n : Number) : Prop where
  number : numberOf? cs = some n
  numeric : ∀ c ∈ cs, isNumeric c = true

theorem isLiteral_chars {n : Number} (h : n.Survives) : IsLiteral n.chars n :=
  ⟨numberOf?_chars h, fun _ => isNumeric_of_mem_chars⟩

end Json
end Triage
