import Triage.Proofs.Repair.Fences

/-!
This module contains what the removal of code fences needs to know about a text so that it keeps the text: no line ends
inside a string, and no backtick stands outside of one. What the reader of JSON accepts is such a text.
-/

namespace Triage
namespace Repair

open Text Json

variable {place : Place} {line rest front blanks : List Char} {last : Char}

/--
Whether no line of a text ends inside a string and no backtick stands outside of strings, for a text that begins at the
given place.
-/
def Tidy (place : Place) : List Char → Prop
  | [] => True
  | c :: cs => (place = .outside → c ≠ '\x60') ∧ (place ≠ .outside → c ≠ '\n') ∧ Tidy (place.next c) cs

theorem tidy_append {cs ds : List Char} : Tidy place (cs ++ ds) ↔ Tidy place cs ∧ Tidy (place.after cs) ds := by
  induction cs generalizing place with
  | nil => simp [Tidy]
  | cons c cs ih => simp only [List.cons_append, Tidy, ih, Place.after_cons, and_assoc]

theorem next_eq_outside {c : Char} (h : c ≠ '"') : place.next c = .outside ↔ place = .outside := by
  unfold Place.next
  cases place <;> grind

theorem after_eq_outside {cs : List Char} (h : '"' ∉ cs) : place.after cs = .outside ↔ place = .outside := by
  induction cs generalizing place with
  | nil => rfl
  | cons c cs ih =>
    rw [List.mem_cons, not_or] at h
    rw [Place.after_cons, ih h.2, next_eq_outside (Ne.symm h.1)]

theorem Tidy.newline (h : Tidy .outside (line ++ '\n' :: rest)) :
    Tidy .outside line ∧ Place.after .outside line = .outside ∧ Tidy .outside rest := by
  obtain ⟨hline, -, hnewline, hrest⟩ := tidy_append.mp h
  have hend : Place.after .outside line = .outside := Classical.byContradiction fun hinside => hnewline hinside rfl
  rw [hend] at hrest
  exact ⟨hline, hend, hrest⟩

theorem Tidy.ne_backtick (h : Tidy place (front ++ last :: blanks)) (hblanks : ∀ c ∈ blanks, isBlank c = true)
    (hend : place.after (front ++ last :: blanks) = .outside) : last ≠ '\x60' := by
  rintro rfl
  -- A backtick stands inside a string, and the blanks behind it do not close the string.
  have hquote : '"' ∉ blanks := by
    intro hmem
    have := hblanks '"' hmem
    contradiction
  rw [Place.after_append, Place.after_cons, after_eq_outside hquote, next_eq_outside (by decide)] at hend
  exact (tidy_append.mp h).2.1 hend rfl

theorem Tidy.head?_trimStart (h : Tidy .outside line) : (trimStart line).head? ≠ some '\x60' := by
  unfold trimStart
  induction line with
  | nil => simp
  | cons c line ih =>
    rw [List.dropWhile_cons]
    split
    . next hblank =>
      have hquote : c ≠ '"' := by
        rintro rfl
        contradiction
      have hline := h.2.2
      rw [(next_eq_outside hquote).mpr rfl] at hline
      exact ih hline
    . simpa using h.1 rfl

theorem Tidy.opensFence (h : Tidy .outside line) : opensFence line = false := by
  unfold Repair.opensFence
  rw [dropMarker?_fence_of_head h.head?_trimStart]
  rfl

theorem tidy_of_move {limit : Nat} {r r' : Reader} {c : Char} {cs : List Char} (h : Reader.Move limit r c r')
    (hr : r.Sound) (hrest : Tidy r'.phase.place cs) : Tidy r.phase.place (c :: cs) := by
  refine ⟨?_, ?_, ?_⟩
  . intro houtside hc
    exact h.place_of_backtick hr hc houtside
  . rintro hinside rfl
    exact hinside h.place_of_newline
  . rwa [h.place hr]

theorem tidy_of_run {limit : Nat} {r r' : Reader} {cs : List Char} (hr : r.Sound) (h : r.run limit cs = some r') :
    Tidy r.phase.place cs := by
  induction cs generalizing r with
  | nil => trivial
  | cons c cs ih =>
    obtain ⟨next, hnext, hrest⟩ := Reader.run_cons_eq_some_iff.mp h
    have hmove := Reader.move_of_step hnext
    exact tidy_of_move hmove hr (ih (hmove.sound hr) hrest)

end Repair
end Triage
