import Triage.Text.Blank
import Triage.Text.Lines

/-!
This module contains the lines of texts that are put together, and the text with line feeds only, which its lines
make when they are joined again.
-/

namespace Triage
namespace Text

/--
A line without the carriage return that belongs to the line break behind it.
-/
def chomp (line : List Char) : List Char :=
  (lines.dropReturn line.reverse).reverse

/--
A text with every carriage return dropped that stands right before a line feed.
-/
def lineFeeds : List Char → List Char
  | [] => []
  | c :: cs => if c = '\r' ∧ cs.head? = some '\n' then lineFeeds cs else c :: lineFeeds cs

theorem ne_of_isBlank {c d : Char} (hc : isBlank c = false) (hd : isBlank d = true) : c ≠ d := by
  rintro rfl
  rw [hc] at hd
  contradiction

theorem chomp_concat (line : List Char) (c : Char) :
    chomp (line ++ [c]) = if c = '\r' then line else line ++ [c] := by
  unfold chomp
  rw [List.reverse_concat, lines.dropReturn]
  by_cases hc : c = '\r' <;> simp [hc]

theorem isPrefix_chomp (line : List Char) : chomp line <+: line := by
  rcases List.eq_nil_or_concat line with rfl | ⟨front, last, rfl⟩
  . exact List.prefix_refl _
  . rw [List.concat_eq_append, chomp_concat]
    split
    . apply List.prefix_append
    . exact List.prefix_refl _

theorem mem_of_mem_chomp {line : List Char} {c : Char} (h : c ∈ chomp line) : c ∈ line := by
  rcases List.eq_nil_or_concat line with rfl | ⟨front, last, rfl⟩
  . exact h
  . rw [List.concat_eq_append] at h ⊢
    rw [chomp_concat] at h
    split at h
    . exact List.mem_append_left _ h
    . exact h

theorem chomp_append {c : Char} (h : c ≠ '\r') (front back : List Char) :
    chomp (front ++ c :: back) = front ++ c :: chomp back := by
  rcases List.eq_nil_or_concat back with rfl | ⟨middle, last, rfl⟩
  . rw [chomp_concat, if_neg h]
    rfl
  . rw [List.concat_eq_append, ← List.cons_append, ← List.append_assoc, chomp_concat, chomp_concat]
    split <;> simp

theorem lines_go_append (line front back : List Char) :
    lines.go line (front ++ '\n' :: back) = lines.go line (front ++ ['\n']) ++ lines back := by
  induction front generalizing line with
  | nil => simp [lines.go, lines]
  | cons c front ih =>
    simp only [List.cons_append, lines.go]
    split
    . rw [ih, List.cons_append]
    . rw [ih]

theorem lines_append (front back : List Char) :
    lines (front ++ '\n' :: back) = lines (front ++ ['\n']) ++ lines back :=
  lines_go_append [] front back

theorem lines_cons {line : List Char} (h : '\n' ∉ line) (rest : List Char) :
    lines (line ++ '\n' :: rest) = chomp line :: lines rest := by
  have hgo (read : List Char) : lines.go read (line ++ '\n' :: rest) = chomp (read.reverse ++ line) :: lines rest := by
    induction line generalizing read with
    | nil => simp [lines.go, lines, chomp]
    | cons c line ih =>
      rw [List.mem_cons, not_or] at h
      simp only [List.cons_append, lines.go]
      rw [if_neg (Ne.symm h.1), ih h.2]
      simp
  exact hgo []

theorem lines_of_not_mem {line : List Char} (h : '\n' ∉ line) (hne : line ≠ []) : lines line = [line] := by
  have hgo (read : List Char) (hne : read.reverse ++ line ≠ []) : lines.go read line = [read.reverse ++ line] := by
    induction line generalizing read with
    | nil => simpa [lines.go] using hne
    | cons c line ih =>
      rw [List.mem_cons, not_or] at h
      simp only [lines.go]
      rw [if_neg (Ne.symm h.1)]
      cases line with
      | nil => simp [lines.go]
      | cons d line => simpa using ih h.2 (by simp) (c :: read) (by simp)
  exact hgo [] hne

theorem mem_of_mem_lines_go {read cs line : List Char} {c : Char} (hline : line ∈ lines.go read cs)
    (hc : c ∈ line) : c ∈ read ∨ c ∈ cs := by
  induction cs generalizing read with
  | nil =>
    simp only [lines.go] at hline
    split at hline
    . contradiction
    . rw [List.mem_singleton] at hline
      rw [hline, List.mem_reverse] at hc
      exact .inl hc
  | cons d cs ih =>
    simp only [lines.go] at hline
    split at hline
    . rw [List.mem_cons] at hline
      cases hline with
      | inl hline =>
        have hchomp : c ∈ chomp read.reverse := by
          unfold chomp
          rwa [List.reverse_reverse, ← hline]
        rw [← List.mem_reverse]
        exact .inl (mem_of_mem_chomp hchomp)
      | inr hline =>
        cases ih hline with
        | inl h => contradiction
        | inr h => exact .inr (List.mem_cons_of_mem d h)
    . have := ih hline
      rw [List.mem_cons, or_assoc, or_left_comm] at this
      rwa [List.mem_cons]

theorem mem_of_mem_lines {cs line : List Char} {c : Char} (hline : line ∈ lines cs) (hc : c ∈ line) : c ∈ cs := by
  cases mem_of_mem_lines_go hline hc with
  | inl h => contradiction
  | inr h => exact h

theorem lineFeeds_of_not_mem {cs : List Char} (h : '\n' ∉ cs) : lineFeeds cs = cs := by
  induction cs with
  | nil => rfl
  | cons c cs ih =>
    rw [List.mem_cons, not_or] at h
    have hhead : cs.head? ≠ some '\n' := fun hhead => h.2 (List.mem_of_head? hhead)
    simp [lineFeeds, hhead, ih h.2]

theorem lineFeeds_append {c : Char} (h : c ≠ '\n') (front back : List Char) :
    lineFeeds (front ++ c :: back) = lineFeeds front ++ lineFeeds (c :: back) := by
  induction front with
  | nil => rfl
  | cons d front ih =>
    have hhead : (front ++ c :: back).head? = some '\n' ↔ front.head? = some '\n' := by
      cases front with
      | nil => simp [h]
      | cons e front => simp
    simp only [List.cons_append, lineFeeds, hhead, ih]
    split <;> rfl

theorem lineFeeds_cons {line : List Char} (h : '\n' ∉ line) (rest : List Char) :
    lineFeeds (line ++ '\n' :: rest) = chomp line ++ '\n' :: lineFeeds rest := by
  rcases List.eq_nil_or_concat line with rfl | ⟨front, last, rfl⟩
  . rfl
  . rw [List.concat_eq_append, List.mem_append, not_or] at h
    rw [List.concat_eq_append, List.append_assoc, chomp_concat]
    have hlast : last ≠ '\n' := by
      rintro rfl
      exact h.2 (List.mem_singleton_self _)
    rw [List.singleton_append, lineFeeds_append hlast, lineFeeds_of_not_mem h.1]
    by_cases hreturn : last = '\r' <;> simp [lineFeeds, hreturn]

theorem lineFeeds_sublist (cs : List Char) : (lineFeeds cs).Sublist cs := by
  induction cs with
  | nil => exact .slnil
  | cons c cs ih =>
    simp only [lineFeeds]
    split
    . exact .cons c ih
    . exact .cons_cons c ih

theorem count_lineFeeds {c : Char} (h : c ≠ '\r') (cs : List Char) : (lineFeeds cs).count c = cs.count c := by
  induction cs with
  | nil => rfl
  | cons d cs ih =>
    simp only [lineFeeds]
    split
    . next hreturn =>
      have hne : d ≠ c := by
        rw [hreturn.1]
        exact h.symm
      rw [List.count_cons_of_ne hne, ih]
    . rw [List.count_cons, List.count_cons, ih]

theorem sublist_lineFeeds {cs ds : List Char} (h : ds.Sublist cs) (hreturn : '\r' ∉ ds) :
    ds.Sublist (lineFeeds cs) := by
  induction h with
  | slnil => exact .slnil
  | cons c h ih =>
    simp only [lineFeeds]
    split
    . exact ih hreturn
    . exact .cons c (ih hreturn)
  | cons_cons c h ih =>
    rw [List.mem_cons, not_or] at hreturn
    simp only [lineFeeds]
    rw [if_neg fun hc => hreturn.1 hc.1.symm]
    exact .cons_cons c (ih hreturn.2)

theorem joinLines_cons (line : List Char) {rest : List (List Char)} (h : rest ≠ []) :
    joinLines (line :: rest) = line ++ '\n' :: joinLines rest := by
  cases rest with
  | nil => contradiction
  | cons next rest => rfl

theorem mem_joinLines {ls : List (List Char)} {c : Char} (h : c ∈ joinLines ls) :
    c = '\n' ∨ ∃ line ∈ ls, c ∈ line := by
  induction ls with
  | nil => contradiction
  | cons line rest ih =>
    cases rest with
    | nil => exact .inr ⟨line, List.mem_singleton_self _, h⟩
    | cons next rest =>
      rw [joinLines_cons _ (List.cons_ne_nil _ _), List.mem_append, List.mem_cons] at h
      rcases h with h | h | h
      . exact .inr ⟨line, List.mem_cons_self, h⟩
      . exact .inl h
      . cases ih h with
        | inl hc => exact .inl hc
        | inr hc =>
          obtain ⟨line', hmem, hc⟩ := hc
          exact .inr ⟨line', List.mem_cons_of_mem _ hmem, hc⟩

theorem joinLines_append (front : List (List Char)) {back : List (List Char)} (h : back ≠ []) :
    ∃ text, joinLines (front ++ back) = text ++ joinLines back ∧
      ∀ c ∈ text, c = '\n' ∨ ∃ line ∈ front, c ∈ line := by
  induction front with
  | nil => exact ⟨[], rfl, by simp⟩
  | cons line front ih =>
    obtain ⟨text, hjoin, htext⟩ := ih
    refine ⟨line ++ '\n' :: text, ?_, ?_⟩
    . rw [List.cons_append, joinLines_cons _ (by simp [h]), hjoin]
      simp
    . intro c hc
      rw [List.mem_append, List.mem_cons] at hc
      rcases hc with hc | hc | hc
      . exact .inr ⟨line, List.mem_cons_self, hc⟩
      . exact .inl hc
      . cases htext c hc with
        | inl hc => exact .inl hc
        | inr hc =>
          obtain ⟨line', hmem, hc⟩ := hc
          exact .inr ⟨line', List.mem_cons_of_mem _ hmem, hc⟩

theorem isPrefix_trimEnd (cs : List Char) : trimEnd cs <+: cs := by
  have hsuffix : cs.reverse.dropWhile isBlank <:+ cs.reverse := List.dropWhile_suffix _
  unfold trimEnd
  rwa [← List.reverse_prefix, List.reverse_reverse] at hsuffix

theorem trimEnd_append {c : Char} (h : isBlank c = false) (front back : List Char) :
    trimEnd (front ++ c :: back) = front ++ c :: trimEnd back := by
  unfold trimEnd
  rw [List.reverse_append, List.reverse_cons, List.append_assoc, List.dropWhile_append]
  split
  . next hempty =>
    rw [List.isEmpty_iff] at hempty
    simp [hempty, h]
  . simp

theorem trimStart_append {c : Char} (h : isBlank c = false) (front back : List Char) :
    trimStart (front ++ c :: back) = trimStart front ++ c :: back := by
  unfold trimStart
  rw [List.dropWhile_append]
  split
  . next hempty =>
    rw [List.isEmpty_iff] at hempty
    simp [hempty, h]
  . rfl

theorem sublist_trimStart {cs ds : List Char} (h : ds.Sublist cs) (hblank : ∀ d ∈ ds, isBlank d = false) :
    ds.Sublist (trimStart cs) := by
  unfold trimStart
  induction h with
  | slnil => exact .slnil
  | @cons ds cs c h ih =>
    rw [List.dropWhile_cons]
    split
    . exact ih hblank
    . exact .cons c h
  | cons_cons c h ih =>
    rw [List.forall_mem_cons] at hblank
    rw [List.dropWhile_cons, hblank.1, if_neg Bool.false_ne_true]
    exact .cons_cons c h

theorem mem_of_mem_trimStart {cs : List Char} {c : Char} (h : c ∈ trimStart cs) : c ∈ cs :=
  (List.dropWhile_sublist _).mem h

theorem mem_of_mem_trimEnd {cs : List Char} {c : Char} (h : c ∈ trimEnd cs) : c ∈ cs := by
  unfold trimEnd at h
  rw [List.mem_reverse] at h
  exact List.mem_reverse.mp ((List.dropWhile_sublist _).mem h)

theorem trimStart_of_blank {cs : List Char} (h : ∀ c ∈ cs, isBlank c = true) : trimStart cs = [] := by
  unfold trimStart
  induction cs with
  | nil => rfl
  | cons c cs ih =>
    rw [List.forall_mem_cons] at h
    rw [List.dropWhile_cons, if_pos h.1, ih h.2]

theorem trimEnd_of_blank {cs : List Char} (h : ∀ c ∈ cs, isBlank c = true) : trimEnd cs = [] := by
  have hreverse : ∀ c ∈ cs.reverse, isBlank c = true := by simpa using h
  have := trimStart_of_blank hreverse
  unfold trimEnd
  unfold trimStart at this
  rw [this, List.reverse_nil]

theorem blank_or_last (cs : List Char) :
    (∀ c ∈ cs, isBlank c = true) ∨
      ∃ front last blanks, cs = front ++ last :: blanks ∧ isBlank last = false ∧
        ∀ c ∈ blanks, isBlank c = true := by
  induction cs with
  | nil => simp
  | cons c cs ih =>
    cases ih with
    | inl hblank =>
      cases hc : isBlank c with
      | true => exact .inl (List.forall_mem_cons.mpr ⟨hc, hblank⟩)
      | false => exact .inr ⟨[], c, cs, rfl, hc, hblank⟩
    | inr h =>
      obtain ⟨front, last, blanks, rfl, hlast, hblanks⟩ := h
      exact .inr ⟨c :: front, last, blanks, rfl, hlast, hblanks⟩

end Text
end Triage
