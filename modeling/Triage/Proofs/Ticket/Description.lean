import Triage.Context

/-!
This module contains the description of a ticket as a prompt is given it. It is never blank, and the text of the ticket reaches
the prompt unless blanks in the place of the description hide the text in the older place.
-/

namespace Triage

namespace Text

/--
Whether a text has a character that is not blank.
-/
def IsVisible (s : String) : Prop :=
  ∃ c ∈ s.toList, isBlank c = false

theorem isAllBlank_eq_false_iff {s : String} : isAllBlank s = false ↔ IsVisible s := by
  unfold isAllBlank IsVisible
  simp only [List.all_eq_false, Bool.not_eq_true]

theorem not_isVisible_empty : ¬ IsVisible "" := by
  rintro ⟨c, hc, -⟩
  contradiction

end Text

open Text

namespace Ticket

/--
What a prompt is told if there is no description.
-/
def noDescription : String := "(no description)"

/--
Whether the older place has text.
-/
def HasLegacy (t : Ticket) : Prop :=
  ∃ text, t.legacyDescription = some text ∧ IsVisible text

/--
What stands for the description of a ticket: the first text that is not blank, from the place of the description or the
older one, as it is.
-/
inductive Describes (t : Ticket) : String → Prop where
  | current (h : IsVisible t.description) : Describes t t.description
  | legacy {text : String} (h : ¬ IsVisible t.description) (hlegacy : t.legacyDescription = some text)
      (hvisible : IsVisible text) : Describes t text
  | missing (h : ¬ IsVisible t.description) (hlegacy : ¬ t.HasLegacy) : Describes t noDescription

/--
Whether blanks, and not an empty text, stand in front of a text in the older place.
-/
def Hides (t : Ticket) : Prop :=
  t.description ≠ "" ∧ ¬ IsVisible t.description ∧ t.HasLegacy

theorem isVisible_noDescription : IsVisible noDescription :=
  ⟨'(', by decide, by decide⟩

theorem Describes.isVisible {t : Ticket} {d : String} (h : t.Describes d) : IsVisible d := by
  cases h with
  | current h => exact h
  | legacy _ _ hvisible => exact hvisible
  | missing => exact isVisible_noDescription

theorem isVisible_effectiveDescription_iff {t : Ticket} :
    IsVisible t.effectiveDescription ↔ IsVisible t.description ∨ t.description = "" ∧ t.HasLegacy := by
  unfold effectiveDescription
  split
  . next hempty =>
    rw [hempty, HasLegacy]
    cases t.legacyDescription <;> simp [not_isVisible_empty]
  . next hne =>
    simp [hne]

end Ticket

namespace Context

theorem orPlaceholder_of_isVisible {text : String} (h : IsVisible text) (placeholder : String) :
    orPlaceholder text placeholder = text := by
  unfold orPlaceholder
  rw [isAllBlank_eq_false_iff.mpr h]
  rfl

theorem orPlaceholder_of_not_isVisible {text : String} (h : ¬ IsVisible text) (placeholder : String) :
    orPlaceholder text placeholder = placeholder := by
  unfold orPlaceholder
  rw [← isAllBlank_eq_false_iff, Bool.not_eq_false] at h
  rw [if_pos h]

variable {t : Ticket}

theorem describes_of_not_hides (h : ¬ t.Hides) :
    t.Describes (orPlaceholder t.effectiveDescription Ticket.noDescription) := by
  by_cases hcurrent : IsVisible t.description
  . have hne : t.description ≠ "" := by
      intro hempty
      rw [hempty] at hcurrent
      exact not_isVisible_empty hcurrent
    have heffective : t.effectiveDescription = t.description := if_neg hne
    rw [heffective, orPlaceholder_of_isVisible hcurrent]
    exact .current hcurrent
  . by_cases hlegacy : t.HasLegacy
    . have hempty : t.description = "" := Classical.byContradiction fun hne => h ⟨hne, hcurrent, hlegacy⟩
      obtain ⟨text, htext, hvisible⟩ := hlegacy
      have heffective : t.effectiveDescription = text := by
        unfold Ticket.effectiveDescription
        rw [if_pos hempty, htext]
        rfl
      rw [heffective, orPlaceholder_of_isVisible hvisible]
      exact .legacy hcurrent htext hvisible
    . have heffective : ¬ IsVisible t.effectiveDescription := by
        rw [Ticket.isVisible_effectiveDescription_iff]
        simp [hcurrent, hlegacy]
      rw [orPlaceholder_of_not_isVisible heffective]
      exact .missing hcurrent hlegacy

theorem orPlaceholder_of_hides (h : t.Hides) :
    orPlaceholder t.effectiveDescription Ticket.noDescription = Ticket.noDescription := by
  obtain ⟨hne, hcurrent, -⟩ := h
  apply orPlaceholder_of_not_isVisible
  rw [Ticket.isVisible_effectiveDescription_iff]
  simp [hcurrent, hne]

/--
Where a text is hidden, what is said of the description is wrong unless the hidden text says the same.
-/
theorem describes_noDescription_of_hides (h : t.Hides) :
    t.Describes Ticket.noDescription ↔ t.legacyDescription = some Ticket.noDescription := by
  obtain ⟨-, hcurrent, hlegacy⟩ := h
  constructor
  . generalize hd : Ticket.noDescription = d
    intro hdescribes
    cases hdescribes with
    | current hvisible => exact absurd hvisible hcurrent
    | legacy _ htext _ => exact htext
    | missing _ hnone => exact absurd hlegacy hnone
  . intro htext
    exact .legacy hcurrent htext Ticket.isVisible_noDescription

theorem eq_noDescription_of_describes {d : String} (h : t.Describes d) (hcurrent : t.description ≠ Ticket.noDescription)
    (hlegacy : t.legacyDescription ≠ some Ticket.noDescription) :
    d = Ticket.noDescription ↔ ¬ IsVisible t.description ∧ ¬ t.HasLegacy := by
  cases h with
  | current hvisible => simp [hcurrent, hvisible]
  | legacy hblank htext hvisible =>
    have hhas : t.HasLegacy := ⟨_, htext, hvisible⟩
    rw [htext] at hlegacy
    simp only [hhas, not_true_eq_false, and_false, iff_false]
    rintro rfl
    exact hlegacy rfl
  | missing hblank hnone => simp [hblank, hnone]

/--
The description that a prompt is given is never blank, and it is what stands for the description of the ticket unless the
ticket hides text behind blanks. Then the prompt is told that there is none.
-/
theorem build_description (t : Ticket) (options : Analysis.Options) (similarCases articles : List Json) :
    let d := (build t options similarCases articles).description
    IsVisible d ∧
    (¬ t.Hides → t.Describes d) ∧
    (t.Hides → d = Ticket.noDescription ∧ (t.Describes d ↔ t.legacyDescription = some Ticket.noDescription)) ∧
    (t.description ≠ Ticket.noDescription → t.legacyDescription ≠ some Ticket.noDescription →
      (d = Ticket.noDescription ↔ ¬ IsVisible t.description ∧ ¬ t.HasLegacy ∨ t.Hides)) := by
  intro d
  have hd : d = orPlaceholder t.effectiveDescription Ticket.noDescription := rfl
  rw [hd]
  by_cases hhides : t.Hides
  . rw [orPlaceholder_of_hides hhides]
    exact ⟨Ticket.isVisible_noDescription, absurd hhides, fun _ => ⟨rfl, describes_noDescription_of_hides hhides⟩,
      fun _ _ => iff_of_true rfl (.inr hhides)⟩
  . have hdescribes := describes_of_not_hides hhides
    refine ⟨hdescribes.isVisible, fun _ => hdescribes, fun h => absurd h hhides, ?_⟩
    intro hcurrent hlegacy
    rw [eq_noDescription_of_describes hdescribes hcurrent hlegacy, or_iff_left hhides]

/--
The text in the older place reaches the prompt if the other place is empty.
-/
theorem build_description_legacy :
    let t : Ticket := ⟨"7", "", "", some "The key is lost.", [], [], []⟩
    let d := (build t .standard [] []).description
    ¬ t.Hides ∧ t.Describes d ∧ d ≠ Ticket.noDescription ∧ d = "The key is lost." := by
  intro t d
  have hhides : ¬ t.Hides := fun h => h.1 rfl
  obtain ⟨-, hdescribes, -, hmissing⟩ := build_description t .standard [] []
  refine ⟨hhides, hdescribes hhides, ?_, by decide⟩
  intro hd
  have hnone := (hmissing (by decide) (by decide)).mp hd
  rcases hnone with ⟨-, hnone⟩ | hhidden
  . exact hnone ⟨_, rfl, 'T', by decide, by decide⟩
  . exact hhides hhidden

/--
Two blanks hide the text that there is.
-/
theorem build_description_of_blanks :
    ¬ ∀ (t : Ticket) (options : Analysis.Options) (similarCases articles : List Json),
      t.Describes (build t options similarCases articles).description := by
  intro h
  let t : Ticket := ⟨"7", "", "  ", some "The key is lost.", [], [], []⟩
  have hhides : t.Hides := by
    refine ⟨by decide, ?_, "The key is lost.", rfl, 'T', by decide, by decide⟩
    rw [← isAllBlank_eq_false_iff]
    decide
  have hdescribes := h t .standard [] []
  have hd : (build t .standard [] []).description = Ticket.noDescription := orPlaceholder_of_hides hhides
  rw [hd, describes_noDescription_of_hides hhides] at hdescribes
  have hne : (some "The key is lost." : Option String) ≠ some Ticket.noDescription := by
    decide
  exact hne hdescribes

end Context
end Triage
