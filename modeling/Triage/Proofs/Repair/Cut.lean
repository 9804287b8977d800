import Triage.Proofs.Repair.Extraction
import Triage.Proofs.Repair.Lines

/-!
This module contains what the repair cuts out of a text that can begin a JSON text: a first part of the text with a line
feed for each line break and without the blanks in front.
-/

namespace Triage
namespace Repair

open Text Json

variable {limit : Nat} {text part kept cut : List Char} {r r' : Reader}

theorem run_trimStart_lineFeeds (h : Reader.start.run limit text = some r) :
    Reader.start.run limit (trimStart (lineFeeds text)) = some r :=
  Reader.run_trimStart (run_lineFeeds Reader.sound_start h)

theorem unfenced?_last (hopens : opensFence text = false) :
    ∃ part, part <+: text ∧ unfenced? text = some part := by
  have hopen : dropMarker? fence (trim text) = none := by
    cases hdrop : dropMarker? fence (trim text) with
    | none => rfl
    | some rest =>
      obtain ⟨blanks, htrim⟩ := isPrefix_trimEnd (trimStart text)
      rw [dropMarker?_eq_some_iff] at hdrop
      unfold trim at hdrop
      have hfence : dropMarker? fence (trimStart text) = some (rest ++ blanks) := by
        rw [dropMarker?_eq_some_iff, ← htrim, hdrop, List.append_assoc]
      unfold opensFence at hopens
      rw [hfence] at hopens
      contradiction
  unfold unfenced?
  rw [hopen]
  refine ⟨_, ?_, rfl⟩
  cases hdrop : dropEndMarker? fence (trimEnd text) with
  | none => exact List.prefix_refl _
  | some rest =>
    rw [dropEndMarker?_eq_some_iff] at hdrop
    have hprefix := isPrefix_trimEnd text
    rw [hdrop] at hprefix
    exact (List.prefix_append _ _).trans hprefix

/--
Without its fences a tidy text is some first part of itself.
-/
theorem joinLines_of_tidy {text : List Char} (h : Tidy .outside text) :
    ∃ part, part <+: text ∧ joinLines ((lines text).filterMap unfenced?) = lineFeeds part := by
  -- The recursion is on the lines. Only the last one can be inside a string at its end, and be cut there.
  by_cases hnewline : '\n' ∈ text
  . obtain ⟨line, rest, hsplit, hline⟩ := List.eq_append_cons_of_mem hnewline
    rw [hsplit] at h ⊢
    obtain ⟨hfirst, hend, hrest⟩ := h.newline
    obtain ⟨part, hpart, hjoin⟩ := joinLines_of_tidy hrest
    rw [lines_cons hline, List.filterMap_cons_some (unfenced?_of_tidy hfirst hend)]
    by_cases hnil : (lines rest).filterMap unfenced? = []
    . refine ⟨chomp line, (isPrefix_chomp line).trans (List.prefix_append _ _), ?_⟩
      rw [hnil, lineFeeds_of_not_mem]
      . rfl
      . intro hmem
        exact hline (mem_of_mem_chomp hmem)
    . refine ⟨line ++ '\n' :: part, ?_, ?_⟩
      . simpa using hpart
      . rw [joinLines_cons _ hnil, hjoin, lineFeeds_cons hline]
  . cases text with
    | nil => exact ⟨[], List.prefix_refl _, rfl⟩
    | cons c cs =>
      obtain ⟨part, hpart, hunfenced⟩ := unfenced?_last h.opensFence
      refine ⟨part, hpart, ?_⟩
      rw [lines_of_not_mem hnewline (List.cons_ne_nil _ _), List.filterMap_cons_some hunfenced, lineFeeds_of_not_mem]
      . rfl
      . intro hmem
        exact hnewline (hpart.sublist.mem hmem)
termination_by text.length
decreasing_by
  rw [hsplit, List.length_append, List.length_cons]
  omega

theorem stripFences_part (h : Reader.start.run limit text = some r) :
    ∃ part, part <+: text ∧ stripFences text = trimStart (lineFeeds part) := by
  obtain ⟨part, hpart, hjoin⟩ := joinLines_of_tidy (tidy_of_run Reader.sound_start h)
  unfold stripFences trim
  rw [hjoin]
  rcases blank_or_last part with hblank | ⟨front, last, blanks, rfl, hlast, hblanks⟩
  . refine ⟨[], List.nil_prefix, ?_⟩
    rw [trimStart_of_blank fun c hc => hblank c ((lineFeeds_sublist part).mem hc)]
    rfl
  . have hnewline : last ≠ '\n' := ne_of_isBlank hlast rfl
    have hreturn : last ≠ '\r' := ne_of_isBlank hlast rfl
    refine ⟨front ++ [last], ?_, ?_⟩
    . rw [List.append_cons] at hpart
      exact (List.prefix_append _ _).trans hpart
    . have hcons (back : List Char) : lineFeeds (last :: back) = last :: lineFeeds back := by
        simp [lineFeeds, hreturn]
      rw [lineFeeds_append hnewline, lineFeeds_append hnewline, hcons, hcons, trimStart_append hlast,
        trimStart_append hlast, trimEnd_append hlast,
        trimEnd_of_blank fun c hc => hblanks c ((lineFeeds_sublist blanks).mem hc)]
      rfl

theorem extract_unbraced (hbrace : '}' ∉ text) (hbrackets : ¬ ['[', ']'].Sublist text) :
    extract (trimStart (lineFeeds text)) = trimStart (lineFeeds text) := by
  have hsublist : (trimStart (lineFeeds text)).Sublist text :=
    (List.dropWhile_sublist _).trans (lineFeeds_sublist text)
  unfold extract
  rw [between?_of_not_mem '{' fun hmem => hbrace (hsublist.mem hmem),
    between?_of_not_sublist (by decide) fun hpair => hbrackets (hpair.trans hsublist)]
  rfl

theorem extract_brackets (hbrace : '}' ∉ text) (hbrackets : ['[', ']'].Sublist text) :
    ∃ middle, extract (trimStart (lineFeeds text)) = '[' :: middle := by
  have hsublist : (trimStart (lineFeeds text)).Sublist text :=
    (List.dropWhile_sublist _).trans (lineFeeds_sublist text)
  have hblank : ∀ c ∈ ['[', ']'], isBlank c = false :=
    List.forall_mem_cons.mpr ⟨rfl, List.forall_mem_cons.mpr ⟨rfl, List.forall_mem_nil _⟩⟩
  have hpair := sublist_trimStart (sublist_lineFeeds hbrackets (by decide)) hblank
  obtain ⟨middle, hbetween⟩ := between?_of_sublist hpair
  refine ⟨middle ++ [']'], ?_⟩
  unfold extract
  rw [between?_of_not_mem '{' fun hmem => hbrace (hsublist.mem hmem), hbetween]
  rfl

theorem extract_braced (hhead : (trimStart (lineFeeds (kept ++ ['}']))).head? = some '{') (hcut : '}' ∉ cut) :
    extract (trimStart (lineFeeds (kept ++ '}' :: cut))) = trimStart (lineFeeds (kept ++ ['}'])) := by
  have hbrace (back : List Char) : trimStart (lineFeeds (kept ++ '}' :: back)) =
      trimStart (lineFeeds kept) ++ '}' :: lineFeeds back := by
    have hcons : lineFeeds ('}' :: back) = '}' :: lineFeeds back := by
      simp [lineFeeds]
    rw [lineFeeds_append (by decide), hcons, trimStart_append rfl]
  rw [hbrace] at hhead
  unfold extract
  rw [hbrace, hbrace]
  cases hkept : trimStart (lineFeeds kept) with
  | nil =>
    rw [hkept] at hhead
    simp at hhead
  | cons c middle =>
    rw [hkept] at hhead
    obtain rfl : c = '{' := by simpa using hhead
    have hbetween : between? '{' '}' ('{' :: (middle ++ '}' :: lineFeeds cut)) = some ('{' :: (middle ++ ['}'])) :=
      between?_append List.not_mem_nil fun hmem => hcut ((lineFeeds_sublist cut).mem hmem)
    rw [List.cons_append, hbetween]
    rfl

end Repair
end Triage
