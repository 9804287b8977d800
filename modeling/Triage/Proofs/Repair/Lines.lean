import Triage.Proofs.Repair.Tidy

/-!
This module contains the lines of a JSON text under the removal of code fences: up to a point outside of strings they
are kept, with a line feed for each line break.
-/

namespace Triage
namespace Repair

open Text Json

variable {limit : Nat} {r r' : Reader}

theorem run_lineFeeds {cs : List Char} (hr : r.Sound) (h : r.run limit cs = some r') :
    r.run limit (lineFeeds cs) = some r' := by
  induction cs generalizing r with
  | nil => exact h
  | cons c cs ih =>
    simp only [lineFeeds]
    split
    . next hreturn =>
      -- The carriage return is a blank in front of a line break, so it stands outside of strings.
      obtain ⟨rest, rfl⟩ := List.head?_eq_some_iff.mp hreturn.2
      have hblank : ∀ d ∈ [c], isBlank d = true := by
        rw [hreturn.1]
        simp [isBlank]
      exact ih hr (Reader.run_blanks_newline hr hblank h)
    . obtain ⟨next, hnext, hrest⟩ := Reader.run_cons_eq_some_iff.mp h
      exact Reader.run_cons_eq_some_iff.mpr ⟨next, hnext, ih ((Reader.move_of_step hnext).sound hr) hrest⟩

theorem unfenced?_of_tidy {line : List Char} (h : Tidy .outside line) (hend : Place.after .outside line = .outside) :
    unfenced? (chomp line) = some (chomp line) := by
  rcases blank_or_last line with hblank | ⟨front, last, blanks, rfl, hlast, hblanks⟩
  . exact unfenced?_of_blank fun c hc => hblank c (mem_of_mem_chomp hc)
  . have hreturn : last ≠ '\r' := ne_of_isBlank hlast rfl
    have hopens := (tidy_append.mp h).1.opensFence
    obtain ⟨kept, hkept, -, hback⟩ :=
      unfenced?_of_not_opensFence (chomp blanks) hopens hlast (h.ne_backtick hblanks hend)
    rw [chomp_append hreturn, hkept, hback fun c hc => hblanks c (mem_of_mem_chomp hc)]

theorem lines_last {front : List Char} {last : Char} (after : List Char) (hfront : '\n' ∉ front ++ [last])
    (hreturn : last ≠ '\r') :
    ∃ back rest, lines (front ++ last :: after) = (front ++ last :: back) :: rest ∧
      (∀ c ∈ back, c ∈ after) ∧ (∀ line ∈ rest, ∀ c ∈ line, c ∈ after) ∧
      (after = [] → back = [] ∧ rest = []) := by
  by_cases hafter : '\n' ∈ after
  . obtain ⟨back, rest, rfl, hback⟩ := List.eq_append_cons_of_mem hafter
    refine ⟨chomp back, lines rest, ?_, ?_, ?_, ?_⟩
    . have hline : '\n' ∉ front ++ last :: back := by
        rw [List.append_cons, List.mem_append, not_or]
        exact ⟨hfront, hback⟩
      have := lines_cons hline rest
      rw [chomp_append hreturn] at this
      simpa using this
    . intro c hc
      exact List.mem_append_left _ (mem_of_mem_chomp hc)
    . intro line hline c hc
      exact List.mem_append_right _ (List.mem_cons_of_mem _ (mem_of_mem_lines hline hc))
    . intro hnil
      simp at hnil
  . refine ⟨after, [], ?_, fun c hc => hc, by simp, fun h => ⟨h, rfl⟩⟩
    apply lines_of_not_mem
    . rw [List.append_cons, List.mem_append, not_or]
      exact ⟨hfront, hafter⟩
    . simp

/--
What is joined behind the first part of a line comes from the rest of the line or from other lines.
-/
theorem joinLines_payload (part back : List Char) (rest : List (List Char)) :
    ∃ tail, joinLines ((part ++ back) :: rest) = part ++ tail ∧
      (∀ c ∈ tail, c = '\n' ∨ c ∈ back ∨ ∃ line ∈ rest, c ∈ line) ∧
      (back = [] → rest = [] → tail = []) := by
  cases rest with
  | nil => exact ⟨back, rfl, fun c hc => .inr (.inl hc), fun h _ => h⟩
  | cons next rest =>
    refine ⟨back ++ '\n' :: joinLines (next :: rest), ?_, ?_, by simp⟩
    . rw [joinLines_cons _ (List.cons_ne_nil _ _), List.append_assoc]
    . intro c hc
      rw [List.mem_append, List.mem_cons] at hc
      rcases hc with hc | hc | hc
      . exact .inr (.inl hc)
      . exact .inl hc
      . exact (mem_joinLines hc).imp id .inr

/--
The lines from the one that the last character of a text stands on, if the part of this line up to there is kept.
-/
theorem unfenced_last {front : List Char} {last : Char} (after : List Char) (hfront : '\n' ∉ front ++ [last])
    (hreturn : last ≠ '\r') :
    ∃ back, ∀ part kept, unfenced? (front ++ last :: back) = some (part ++ kept) → (∀ c ∈ kept, c ∈ back) →
      ∃ tail, joinLines ((lines (front ++ last :: after)).filterMap unfenced?) = part ++ tail ∧
        (∀ c ∈ tail, c = '\n' ∨ c ∈ after) ∧ (after = [] → tail = []) := by
  obtain ⟨back, rest, hlines, hback, hrest, hnil⟩ := lines_last after hfront hreturn
  refine ⟨back, ?_⟩
  intro part kept hkept hmem
  obtain ⟨tail, hjoin, htail, htailnil⟩ := joinLines_payload part kept (rest.filterMap unfenced?)
  refine ⟨tail, ?_, ?_, ?_⟩
  . rw [hlines, List.filterMap_cons_some hkept, hjoin]
  . intro c hc
    rcases htail c hc with hc | hc | ⟨line, hline, hc⟩
    . exact .inl hc
    . exact .inr (hback c (hmem c hc))
    . obtain ⟨line', hline', hc⟩ := exists_line_of_mem hline hc
      exact .inr (hrest line' hline' c hc)
  . intro hafter
    obtain ⟨rfl, rfl⟩ := hnil hafter
    exact htailnil (List.eq_nil_iff_forall_not_mem.mpr fun c hc => List.not_mem_nil (hmem c hc)) rfl

/--
The lines of a tidy text are kept up to a character that ends the text outside of strings.
-/
theorem unfenced_of_tidy {front : List Char} {last : Char} (after : List Char) (hblank : isBlank last = false)
    (hlast : last ≠ '\x60') (h : Tidy .outside (front ++ [last])) :
    ∃ tail, joinLines ((lines (front ++ last :: after)).filterMap unfenced?) = lineFeeds front ++ last :: tail ∧
      (∀ c ∈ tail, c = '\n' ∨ c ∈ after) ∧ (after = [] → tail = []) := by
  have hnewline : last ≠ '\n' := ne_of_isBlank hblank rfl
  have hreturn : last ≠ '\r' := ne_of_isBlank hblank rfl
  -- The recursion is on the lines: the first one is kept as it is, and the rest is a shorter text of the same kind.
  by_cases hfront : '\n' ∈ front
  . obtain ⟨line, rest, hsplit, hline⟩ := List.eq_append_cons_of_mem hfront
    rw [hsplit, List.append_assoc, List.cons_append] at h
    obtain ⟨hfirst, hend, hrest⟩ := h.newline
    obtain ⟨tail, hjoin, htail⟩ := unfenced_of_tidy after hblank hlast hrest
    refine ⟨tail, ?_, htail⟩
    rw [hsplit, List.append_assoc, List.cons_append, lines_cons hline,
      List.filterMap_cons_some (unfenced?_of_tidy hfirst hend), joinLines_cons, hjoin, lineFeeds_cons hline]
    . simp
    . intro hnil
      rw [hnil] at hjoin
      simp [joinLines] at hjoin
  . rw [lineFeeds_of_not_mem hfront]
    have hall : '\n' ∉ front ++ [last] := by
      rw [List.mem_append, List.mem_singleton, not_or]
      exact ⟨hfront, hnewline.symm⟩
    obtain ⟨back, hback⟩ := unfenced_last after hall hreturn
    obtain ⟨kept, hkept, hmem, -⟩ := unfenced?_of_not_opensFence back (tidy_append.mp h).1.opensFence hblank hlast
    obtain ⟨tail, hjoin, htail⟩ := hback (front ++ [last]) kept (by rw [hkept, List.append_cons]) hmem
    exact ⟨tail, by rw [hjoin, List.append_assoc, List.singleton_append], htail⟩
termination_by front.length
decreasing_by
  rw [hsplit, List.length_append, List.length_cons]
  omega

/--
Without its fences a tidy text is the text itself, but for the blanks at its ends.
-/
theorem stripFences_of_tidy {front blanks : List Char} {last : Char} (hlast : isBlank last = false)
    (hblanks : ∀ c ∈ blanks, isBlank c = true) (h : Tidy .outside (front ++ [last]))
    (hend : Place.after .outside (front ++ [last]) = .outside) :
    stripFences (front ++ last :: blanks) = trimStart (lineFeeds (front ++ [last])) := by
  have hne : last ≠ '\x60' := h.ne_backtick (List.forall_mem_nil _) hend
  have hnewline : last ≠ '\n' := ne_of_isBlank hlast rfl
  have hline : lineFeeds [last] = [last] := by
    simp [lineFeeds]
  obtain ⟨tail, hjoin, htail, -⟩ := unfenced_of_tidy blanks hlast hne h
  have hblank : ∀ c ∈ tail, isBlank c = true := by
    intro c hc
    rcases htail c hc with rfl | hc
    . rfl
    . exact hblanks c hc
  unfold stripFences trim
  rw [hjoin, lineFeeds_append hnewline, hline, trimStart_append hlast, trimStart_append hlast, trimEnd_append hlast,
    trimEnd_of_blank hblank]

end Repair
end Triage
