import Triage.Repair.Extraction

/-!
This module contains what is cut out of a text, by the first opening and the last closing character in it.
-/

namespace Triage
namespace Repair

variable {left right : Char} {before middle after cs : List Char}

theorem eq_append_cons_last {c : Char} (h : c ∈ cs) : ∃ front back, cs = front ++ c :: back ∧ c ∉ back := by
  obtain ⟨back, front, hreverse, hback⟩ := List.eq_append_cons_of_mem (List.mem_reverse.mpr h)
  refine ⟨front.reverse, back.reverse, ?_, by simpa using hback⟩
  have := congrArg List.reverse hreverse
  simpa using this

theorem dropWhile_of_not_mem {c : Char} (h : c ∉ before) (rest : List Char) :
    (before ++ rest).dropWhile (· ≠ c) = rest.dropWhile (· ≠ c) := by
  apply List.dropWhile_append_of_pos
  intro d hd
  rw [decide_eq_true_eq]
  rintro rfl
  exact h hd

theorem takeWhile_of_not_mem {c : Char} (h : c ∉ before) (rest : List Char) :
    (before ++ rest).takeWhile (· ≠ c) = before ++ rest.takeWhile (· ≠ c) := by
  apply List.takeWhile_append_of_pos
  intro d hd
  rw [decide_eq_true_eq]
  rintro rfl
  exact h hd

theorem between?_append (hbefore : left ∉ before) (hafter : right ∉ after) :
    between? left right (before ++ left :: (middle ++ right :: after)) = some (left :: (middle ++ [right])) := by
  have hreverse : (left :: (middle ++ right :: after)).reverse =
      after.reverse ++ right :: (left :: middle).reverse := by
    simp
  unfold between?
  dsimp only
  rw [dropWhile_of_not_mem hbefore, List.dropWhile_cons_of_neg (by simp), hreverse,
    dropWhile_of_not_mem (by simpa using hafter), List.dropWhile_cons_of_neg (by simp)]
  simp

theorem between?_of_not_mem (left : Char) (h : right ∉ cs) : between? left right cs = none := by
  have hrest : right ∉ (cs.dropWhile (· ≠ left)).reverse := by
    rw [List.mem_reverse]
    exact fun hmem => h ((List.dropWhile_sublist _).mem hmem)
  have hdrop := dropWhile_of_not_mem hrest []
  unfold between?
  dsimp only
  rw [List.append_nil] at hdrop
  rw [hdrop]
  rfl

theorem sublist_append_cons (hbefore : left ∉ before) {rest : List Char} :
    [left, right].Sublist (before ++ left :: rest) ↔ right ∈ rest := by
  rw [← List.singleton_sublist]
  constructor
  . intro h
    induction before with
    | nil => exact List.cons_sublist_cons.mp h
    | cons c before ih =>
      rw [List.mem_cons, not_or] at hbefore
      cases h with
      | cons _ h => exact ih hbefore.2 h
      | cons_cons => exact absurd rfl hbefore.1
  . intro h
    exact (List.cons_sublist_cons.mpr h).trans (List.sublist_append_right _ _)

theorem between?_of_sublist (h : [left, right].Sublist cs) :
    ∃ middle, between? left right cs = some (left :: (middle ++ [right])) := by
  obtain ⟨before, rest, rfl, hbefore⟩ := List.eq_append_cons_of_mem (h.mem List.mem_cons_self)
  rw [sublist_append_cons hbefore] at h
  obtain ⟨middle, after, rfl, hafter⟩ := eq_append_cons_last h
  exact ⟨middle, between?_append hbefore hafter⟩

theorem between?_of_not_sublist (hne : left ≠ right) (h : ¬ [left, right].Sublist cs) :
    between? left right cs = none := by
  by_cases hmem : left ∈ cs
  . obtain ⟨before, rest, rfl, hbefore⟩ := List.eq_append_cons_of_mem hmem
    rw [sublist_append_cons hbefore] at h
    have hrest : right ∉ left :: rest := by
      rw [List.mem_cons, not_or]
      exact ⟨hne.symm, h⟩
    have hcut := between?_of_not_mem left hrest
    unfold between? at hcut ⊢
    rwa [dropWhile_of_not_mem hbefore]
  . have hdrop := dropWhile_of_not_mem hmem []
    rw [List.append_nil] at hdrop
    unfold between?
    rw [hdrop]
    rfl

end Repair
end Triage
