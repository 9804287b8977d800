import Triage.Proofs.Json.Nesting
import Triage.Repair.Commas

/-!
This module contains the proof that a text which the reader of JSON accepts, complete or not, has no trailing
comma outside of its strings.
-/

namespace Triage
namespace Json
namespace Reader

open Repair Text

theorem isBlank_of_isSpace {c : Char} (h : isSpace c = true) : isBlank c = true := by
  unfold isSpace at h
  simp only [Bool.or_eq_true, beq_iff_eq] at h
  rcases h with ((rfl | rfl) | rfl) | rfl <;> rfl

theorem extend?_of_isCloser {c : Char} (h : isCloser c = true) (state : Digits) : extend? state c = none := by
  cases hextend : extend? state c with
  | none => rfl
  | some state' =>
    have hplain := isPlain_of_extend? hextend
    unfold isCloser at h
    simp only [Bool.or_eq_true, decide_eq_true_eq] at h
    rcases h with rfl | rfl <;> contradiction

theorem Opens.not_closer {limit : Nat} {stack : List Frame} {c : Char} {r : Reader}
    (h : Opens limit stack c r) : isBlank c = false ∧ isCloser c = false := by
  cases h with
  | digit hdigit =>
    refine ⟨isBlank_of_isAlphanum (by simp [Char.isAlphanum, hdigit]), ?_⟩
    unfold isCloser
    simp only [Bool.or_eq_false_iff, decide_eq_false_iff_not]
    constructor <;> rintro rfl <;> contradiction
  | word halpha =>
    refine ⟨isBlank_of_isAlphanum (by simp [Char.isAlphanum, halpha]), ?_⟩
    unfold isCloser
    simp only [Bool.or_eq_false_iff, decide_eq_false_iff_not]
    constructor <;> rintro rfl <;> contradiction
  | _ => exact ⟨rfl, rfl⟩

def BehindComma (r : Reader) : Prop :=
  r.phase = .value ∨ ∃ members, r.phase = .key members

theorem Move.behindComma {limit : Nat} {r r' : Reader} {c : Char} (h : Move limit r c r') (hc : c = ',')
    (hr : r.Sound) (hplace : r.phase.place = .outside) : r'.BehindComma := by
  induction h with
  | text => exact absurd hplace (place_ne_outside _)
  | endText => exact absurd hplace (place_ne_outside _)
  | keyText => exact absurd hplace (place_ne_outside _)
  | endKey => exact absurd hplace (place_ne_outside _)
  | word =>
    subst hc
    cases hr.1
  | endWord =>
    subst hc
    cases hr.1
  | digits h =>
    rcases mem_of_extend? h with h | h
    . simp [hc] at h
    . simp [hc] at h
  | endDigits _ _ _ ih =>
    refine ih hc (sound_close _ _) ?_
    exact congrArg Nesting.place (nesting_close _ _)
  | space h => simp [hc, isSpace] at h
  | value h =>
    subst hc
    cases h <;> contradiction
  | firstItem h =>
    subst hc
    cases h <;> contradiction
  | nextItem => exact .inl rfl
  | nextMember => exact .inr ⟨_, rfl⟩
  | _ => contradiction

/--
Behind a comma stand blanks, and then a character that closes nothing.
-/
theorem Move.of_behindComma {limit : Nat} {r r' : Reader} {c : Char} (h : Move limit r c r') (hr : r.BehindComma) :
    (isBlank c = true ∧ r'.BehindComma) ∨ (isBlank c = false ∧ isCloser c = false) := by
  obtain ⟨stack, phase⟩ := r
  unfold BehindComma at hr
  dsimp only at hr
  rcases hr with rfl | ⟨members, rfl⟩
  . cases h with
    | space hspace => exact .inl ⟨isBlank_of_isSpace hspace, .inl rfl⟩
    | value hopens => exact .inr hopens.not_closer
  . cases h with
    | space hspace => exact .inl ⟨isBlank_of_isSpace hspace, .inr ⟨members, rfl⟩⟩
    | key => exact .inr ⟨rfl, rfl⟩

theorem closesNext_of_behindComma {limit : Nat} {r r' : Reader} {cs : List Char} (hr : r.BehindComma)
    (h : r.run limit cs = some r') : closesNext cs = false := by
  induction cs generalizing r with
  | nil => rfl
  | cons c cs ih =>
    obtain ⟨next, hnext, hrest⟩ := run_cons_eq_some_iff.mp h
    unfold closesNext
    cases (move_of_step hnext).of_behindComma hr with
    | inl hblank =>
      rw [if_pos hblank.1]
      exact ih hblank.2 hrest
    | inr hother => rw [hother.1, if_neg Bool.false_ne_true, hother.2]

theorem dropCommas_go_of_run {limit : Nat} {r r' : Reader} {cs : List Char} (hr : r.Sound)
    (h : r.run limit cs = some r') : dropCommas.go r.phase.place false cs = cs := by
  induction cs generalizing r with
  | nil => rfl
  | cons c cs ih =>
    obtain ⟨next, hnext, hrest⟩ := run_cons_eq_some_iff.mp h
    have hmove := move_of_step hnext
    have hplace := hmove.place hr
    have hkept : ¬ (r.phase.place = .outside ∧ c = ',' ∧ closesNext cs = true) := by
      rintro ⟨houtside, hc, hcloses⟩
      rw [closesNext_of_behindComma (hmove.behindComma hc hr houtside) hrest] at hcloses
      contradiction
    unfold dropCommas.go
    rw [Bool.false_and, if_neg Bool.false_ne_true, if_neg hkept, hplace, ih (hmove.sound hr) hrest]

end Reader

theorem dropCommas_of_run {limit : Nat} {r : Reader} {cs : List Char}
    (h : Reader.start.run limit cs = some r) : Repair.dropCommas cs = cs :=
  Reader.dropCommas_go_of_run Reader.sound_start h

end Json
end Triage
