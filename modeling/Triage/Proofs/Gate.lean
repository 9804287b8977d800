import Triage.Gate
import Triage.Proofs.Binary.Order

/-!
This module contains the policy of gates: more confidence never asks for more oversight, a higher threshold never for less,
and a threshold counts only where it is stricter than the level that `edit` has by itself.
-/

namespace Triage
namespace Gate

open Binary

variable {confidence confidence' threshold threshold' : Double} {g : Gate}

theorem decideLevel_le_editLevel : decideLevel.le editLevel = true := by
  decide +kernel

theorem editLevel_le_confirmLevel : editLevel.le confirmLevel = true := by
  decide +kernel

/--
Whether a confidence is enough for a gate. A threshold that is `nan` is none.
-/
def Suffices (confidence threshold : Double) : Gate → Prop
  | .confirm => confirmLevel.le confidence = true
  | .edit => confirmLevel.le confidence = true ∨
    editLevel.le confidence = true ∧ (threshold = .nan ∨ threshold.le confidence = true)
  | .decide => decideLevel.le confidence = true
  | .teach => True

/--
The gate for a confidence is the one with the least oversight for which the confidence is enough.
-/
theorem oversight_ofConfidence_le_iff (g : Gate) :
    (ofConfidence confidence threshold).oversight ≤ g.oversight ↔ Suffices confidence threshold g := by
  have hedit : (threshold.max editLevel).le confidence = true ↔
      editLevel.le confidence = true ∧ (threshold = .nan ∨ threshold.le confidence = true) := by
    rw [max_le_iff (ne_nan_of_le editLevel_le_confirmLevel).1, and_comm]
  have hconfirm (h : confirmLevel.le confidence = true) : decideLevel.le confidence = true :=
    le_trans decideLevel_le_editLevel (le_trans editLevel_le_confirmLevel h)
  unfold ofConfidence
  split
  . next h =>
    cases g <;> simp [oversight, Suffices, h, hconfirm h]
  . split
    . next h h' =>
      have hlevel := hedit.mp h'
      cases g <;> simp [oversight, Suffices, h, hlevel, le_trans decideLevel_le_editLevel hlevel.1]
    . next h h' =>
      rw [hedit] at h'
      split
      . next h'' =>
        cases g <;> simp [oversight, Suffices, h, h', h'']
      . next h'' =>
        cases g <;> simp [oversight, Suffices, h, h', h'']

theorem suffices_ofConfidence (confidence threshold : Double) :
    Suffices confidence threshold (ofConfidence confidence threshold) :=
  (oversight_ofConfidence_le_iff _).mp (Nat.le_refl _)

theorem oversight_injective {g g' : Gate} (h : g.oversight = g'.oversight) : g = g' := by
  cases g <;> cases g' <;> first | rfl | contradiction

theorem Suffices.of_le (h : Suffices confidence threshold g) (hle : confidence.le confidence' = true) :
    Suffices confidence' threshold g := by
  cases g with
  | confirm => exact le_trans h hle
  | edit =>
    rcases h with hconfirm | ⟨hedit, hnan | hthreshold⟩
    . exact .inl (le_trans hconfirm hle)
    . exact .inr ⟨le_trans hedit hle, .inl hnan⟩
    . exact .inr ⟨le_trans hedit hle, .inr (le_trans hthreshold hle)⟩
  | decide => exact le_trans h hle
  | teach => trivial

theorem Suffices.of_threshold_le (h : Suffices confidence threshold' g) (hle : threshold.le threshold' = true) :
    Suffices confidence threshold g := by
  cases g with
  | edit =>
    rcases h with hconfirm | ⟨hedit, hnan | hthreshold⟩
    . exact .inl hconfirm
    . exact absurd hnan (ne_nan_of_le hle).2
    . exact .inr ⟨hedit, .inr (le_trans hle hthreshold)⟩
  | _ => exact h

theorem suffices_of_lax (h : threshold = .nan ∨ threshold.le editLevel = true) :
    Suffices confidence threshold g ↔ Suffices confidence editLevel g := by
  cases g with
  | edit =>
    have hthreshold (hedit : editLevel.le confidence = true) : threshold = .nan ∨ threshold.le confidence = true :=
      h.imp_right fun hle => le_trans hle hedit
    constructor
    . exact Or.imp_right fun ⟨hedit, _⟩ => ⟨hedit, .inr hedit⟩
    . exact Or.imp_right fun ⟨hedit, _⟩ => ⟨hedit, hthreshold hedit⟩
  | _ => rfl

theorem ofConfidence_eq_of_suffices (h : ∀ g, Suffices confidence threshold g ↔ Suffices confidence' threshold' g) :
    ofConfidence confidence threshold = ofConfidence confidence' threshold' := by
  apply oversight_injective
  apply Nat.le_antisymm
  . rw [oversight_ofConfidence_le_iff, h]
    exact suffices_ofConfidence confidence' threshold'
  . rw [oversight_ofConfidence_le_iff, ← h]
    exact suffices_ofConfidence confidence threshold

theorem ofConfidence_eq_confirm_iff :
    ofConfidence confidence threshold = .confirm ↔ confirmLevel.le confidence = true := by
  change _ ↔ Suffices confidence threshold .confirm
  rw [← oversight_ofConfidence_le_iff]
  cases ofConfidence confidence threshold <;> simp [oversight]

theorem ofConfidence_eq_teach_iff :
    ofConfidence confidence threshold = .teach ↔ ¬ decideLevel.le confidence = true := by
  change _ ↔ ¬ Suffices confidence threshold .decide
  rw [← oversight_ofConfidence_le_iff]
  cases ofConfidence confidence threshold <;> simp [oversight]

theorem ofConfidence_eq_edit_iff :
    ofConfidence confidence threshold = .edit ↔
      editLevel.le confidence = true ∧ confidence.lt confirmLevel = true ∧
        (threshold = .nan ∨ threshold.le confidence = true) := by
  have hgate : ofConfidence confidence threshold = .edit ↔
      Suffices confidence threshold .edit ∧ ¬ Suffices confidence threshold .confirm := by
    rw [← oversight_ofConfidence_le_iff, ← oversight_ofConfidence_le_iff]
    cases ofConfidence confidence threshold <;> simp [oversight]
  have hlt (h : editLevel.le confidence = true) :
      confidence.lt confirmLevel = true ↔ ¬ confirmLevel.le confidence = true :=
    lt_iff_not_le (ne_nan_of_le h).2 (ne_nan_of_le editLevel_le_confirmLevel).2
  rw [hgate]
  constructor
  . rintro ⟨hconfirm | ⟨hedit, hthreshold⟩, hnot⟩
    . exact absurd hconfirm hnot
    . exact ⟨hedit, (hlt hedit).mpr hnot, hthreshold⟩
  . rintro ⟨hedit, hless, hthreshold⟩
    exact ⟨.inr ⟨hedit, hthreshold⟩, (hlt hedit).mp hless⟩

/--
The policy of gates. Oversight never grows with the confidence and never shrinks with the threshold. A threshold that is `nan`
or at most the level of `edit` counts for nothing, and each one decides about `edit` only, between its level and that of
`confirm`. Nothing is trusted to a confidence that is `nan`.
-/
theorem ofConfidence_policy :
    (∀ confidence confidence' threshold : Double, confidence.le confidence' = true →
      (ofConfidence confidence' threshold).oversight ≤ (ofConfidence confidence threshold).oversight) ∧
    (∀ confidence threshold threshold' : Double, threshold.le threshold' = true →
      (ofConfidence confidence threshold).oversight ≤ (ofConfidence confidence threshold').oversight) ∧
    (∀ confidence threshold : Double, threshold = .nan ∨ threshold.le editLevel = true →
      ofConfidence confidence threshold = ofConfidence confidence editLevel) ∧
    (∀ confidence threshold : Double, ofConfidence confidence threshold = .edit ↔
      editLevel.le confidence = true ∧ confidence.lt confirmLevel = true ∧
        (threshold = .nan ∨ threshold.le confidence = true)) ∧
    (∀ confidence threshold threshold' : Double,
      (ofConfidence confidence threshold = .confirm ↔ ofConfidence confidence threshold' = .confirm) ∧
      (ofConfidence confidence threshold = .teach ↔ ofConfidence confidence threshold' = .teach)) ∧
    ∀ threshold : Double, ofConfidence .nan threshold = .teach := by
  refine ⟨?_, ?_, ?_, ?_, ?_, ?_⟩
  . intro confidence confidence' threshold hle
    rw [oversight_ofConfidence_le_iff]
    exact (suffices_ofConfidence confidence threshold).of_le hle
  . intro confidence threshold threshold' hle
    rw [oversight_ofConfidence_le_iff]
    exact (suffices_ofConfidence confidence threshold').of_threshold_le hle
  . intro confidence threshold h
    exact ofConfidence_eq_of_suffices fun g => suffices_of_lax h
  . intro confidence threshold
    exact ofConfidence_eq_edit_iff
  . intro confidence threshold threshold'
    constructor
    . rw [ofConfidence_eq_confirm_iff, ofConfidence_eq_confirm_iff]
    . rw [ofConfidence_eq_teach_iff, ofConfidence_eq_teach_iff]
  . intro threshold
    rw [ofConfidence_eq_teach_iff]
    intro h
    exact (ne_nan_of_le h).2 rfl

/--
At four fifths a threshold of 0.85 turns a review into a decision, infinite confidence is above it, and `nan` is no
threshold.
-/
theorem ofConfidence_policy_between :
    let confidence : Double := ofRatio false 4 5
    let threshold : Double := ofRatio false 17 20
    confidence.le (infinite false) = true ∧ editLevel.le threshold = true ∧
    (ofConfidence (infinite false) threshold).oversight ≤ (ofConfidence confidence threshold).oversight ∧
    (ofConfidence confidence editLevel).oversight ≤ (ofConfidence confidence threshold).oversight ∧
    ofConfidence confidence editLevel = .edit ∧ ofConfidence confidence threshold = .decide ∧
    ofConfidence confidence .nan = ofConfidence confidence editLevel := by
  intro confidence threshold
  have hconfidence : confidence.le (infinite false) = true := by
    decide +kernel
  have hthreshold : editLevel.le threshold = true := by
    decide +kernel
  obtain ⟨hgrows, htightens, hlax, -⟩ := ofConfidence_policy
  refine ⟨hconfidence, hthreshold, hgrows _ _ _ hconfidence, htightens _ _ _ hthreshold, ?_, ?_, ?_⟩
  . decide +kernel
  . decide +kernel
  . exact hlax confidence .nan (.inl rfl)

end Gate
end Triage
