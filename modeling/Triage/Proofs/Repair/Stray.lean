import Triage.Proofs.Json.Progress
import Triage.Proofs.Repair.Extraction
import Triage.Proofs.Repair.Tidy

/-!
This module contains a lenient reading of JSON text, which passes over stray commas in front of closing brackets. It is
the strict reading if there are none, and else there is no strict reading.
-/

namespace Triage
namespace Json
namespace Reader

open Repair Text

/--
Whether a character can stand in a run of stray commas.
-/
def isStray (c : Char) : Bool :=
  c = ',' || isSpace c

/--
What a text does to a reader that passes over runs of stray commas and blanks in front of closing brackets. The number
counts the commas of the longest run.
-/
inductive Lenient (limit : Nat) : Reader → List Char → Reader → Nat → Prop where
  | nil {r : Reader} : Lenient limit r [] r 0
  | step {r next r' : Reader} {c : Char} {cs : List Char} {n : Nat} (h : r.step limit c = some next)
      (hrest : Lenient limit next cs r' n) : Lenient limit r (c :: cs) r' n
  | stray {r next r' : Reader} {run : List Char} {c : Char} {cs : List Char} {n : Nat}
      (hplace : r.phase.place = .outside) (hrun : ∀ d ∈ run, isStray d = true) (hc : isCloser c = true)
      (h : r.step limit c = some next) (hrest : Lenient limit next cs r' n) :
      Lenient limit r (run ++ c :: cs) r' (max (run.count ',') n)

variable {limit n : Nat} {r r' next : Reader} {run cs : List Char} {c : Char}

theorem isStray_eq_true_iff : isStray c = true ↔ c = ',' ∨ isSpace c = true := by
  simp [isStray]

theorem isPlain_of_isStray (h : isStray c = true) : isPlain c = true :=
  isPlain_of_any rfl h

theorem isCloser_eq_true_iff : isCloser c = true ↔ c = '}' ∨ c = ']' := by
  simp [isCloser]

theorem isBlank_of_isCloser (h : isCloser c = true) : isBlank c = false := by
  rcases isCloser_eq_true_iff.mp h with rfl | rfl <;> rfl

theorem not_isSpace_of_isCloser (h : isCloser c = true) : isSpace c = false := by
  rcases isCloser_eq_true_iff.mp h with rfl | rfl <;> rfl

theorem ne_comma_of_isCloser (h : isCloser c = true) : c ≠ ',' := by
  rcases isCloser_eq_true_iff.mp h with rfl | rfl <;> decide

theorem isSpace_of_not_comma (hrun : ∀ d ∈ run, isStray d = true) (hcomma : ',' ∉ run) :
    ∀ d ∈ run, isSpace d = true := by
  intro d hd
  cases isStray_eq_true_iff.mp (hrun d hd) with
  | inl hd' => exact absurd (hd' ▸ hd) hcomma
  | inr hspace => exact hspace

theorem closesNext_stray (hrun : ∀ d ∈ run, isStray d = true) (hc : isCloser c = true) :
    closesNext (run ++ c :: cs) = true ↔ ',' ∉ run := by
  induction run with
  | nil => simp [closesNext, isBlank_of_isCloser hc, hc]
  | cons d run ih =>
    rw [List.forall_mem_cons] at hrun
    rcases isStray_eq_true_iff.mp hrun.1 with rfl | hspace
    . simp [closesNext, isBlank, isCloser]
    . have hne : ',' ≠ d := by
        rintro rfl
        contradiction
      simp [closesNext, isBlank_of_isSpace hspace, ih hrun.2, hne]

theorem run_of_isSpace (hr : r.phase.isBetween = true) (hrun : ∀ d ∈ run, isSpace d = true) :
    r.run limit (run ++ cs) = r.run limit cs := by
  induction run with
  | nil => rfl
  | cons d run ih =>
    rw [List.forall_mem_cons] at hrun
    rw [List.cons_append, run_cons_of_step (step_of_isSpace hrun.1 hr)]
    exact ih hrun.2

theorem step_space_of_closer {d : Char} (hr : r.Sound) (hplace : r.phase.place = .outside) (hc : isCloser c = true)
    (h : r.step limit c = some next) (hd : isSpace d = true) :
    ∃ mid, r.step limit d = some mid ∧ mid.phase.isBetween = true ∧ mid.step limit c = some next := by
  obtain ⟨stack, phase⟩ := r
  cases phase with
  | digits state =>
    -- Either character ends the number, and what is behind it can have more blanks.
    simp only [step, extend?_of_isCloser hc, Option.bind_eq_some_iff] at h
    obtain ⟨closed, hclosed, hbetween⟩ := h
    obtain ⟨number, -, rfl⟩ := closeDigits_eq_some_iff.mp hclosed
    refine ⟨close stack (.number number), ?_, isBetween_close _ _, ?_⟩
    . simp only [step, extend?_of_isSpace hd, hclosed, Option.bind_some]
      rw [← step_of_isBetween (isBetween_close _ _), step_of_isSpace hd (isBetween_close _ _)]
    . rwa [step_of_isBetween (isBetween_close _ _)]
  | word rest v =>
    have halpha : c.isAlpha = true := by
      cases move_of_step h with
      | word => exact (List.all_eq_true.mp hr.1) c List.mem_cons_self
      | endWord => exact (List.all_eq_true.mp hr.1) c List.mem_cons_self
      | space _ hphase => contradiction
    rcases isCloser_eq_true_iff.mp hc with rfl | rfl <;> contradiction
  | text text escape => exact absurd hplace (place_ne_outside _)
  | keyText members text escape => exact absurd hplace (place_ne_outside _)
  | _ => exact ⟨_, step_of_isSpace hd rfl, rfl, h⟩

theorem run_spaces_closer (hr : r.Sound) (hplace : r.phase.place = .outside)
    (hrun : ∀ d ∈ run, isSpace d = true) (hc : isCloser c = true) (h : r.step limit c = some next) :
    r.run limit (run ++ c :: cs) = next.run limit cs := by
  cases run with
  | nil => exact run_cons_of_step h
  | cons d run =>
    rw [List.forall_mem_cons] at hrun
    obtain ⟨mid, hmid, hbetween, hclose⟩ := step_space_of_closer hr hplace hc h hrun.1
    rw [List.cons_append, run_cons_of_step hmid, run_of_isSpace hbetween hrun.2, run_cons_of_step hclose]

theorem nesting_after_stray {closers : List Char} (hrun : ∀ d ∈ run, isStray d = true) :
    Nesting.after ⟨.outside, closers⟩ run = ⟨.outside, closers⟩ := by
  induction run with
  | nil => rfl
  | cons d run ih =>
    rw [List.forall_mem_cons] at hrun
    rw [Nesting.after_cons, next_of_isPlain (isPlain_of_isStray hrun.1)]
    exact ih hrun.2

theorem next_of_isStray (h : isStray c = true) : Place.next .outside c = .outside := by
  have hquote : c ≠ '"' := by
    rintro rfl
    contradiction
  exact (next_eq_outside hquote).mpr rfl

theorem place_after_stray (hrun : ∀ d ∈ run, isStray d = true) : Place.after .outside run = .outside := by
  have hquote : '"' ∉ run := by
    intro hmem
    have := hrun '"' hmem
    contradiction
  exact (after_eq_outside hquote).mpr rfl

theorem Lenient.nesting (h : Lenient limit r cs r' n) (hr : r.Sound) : r.nesting.after cs = r'.nesting := by
  induction h with
  | nil => rfl
  | step h _ ih =>
    have hmove := move_of_step h
    rw [Nesting.after_cons, hmove.nesting hr]
    exact ih (hmove.sound hr)
  | @stray r _ _ run _ _ _ hplace hrun _ h _ ih =>
    have hmove := move_of_step h
    have hafter : r.nesting.after run = r.nesting := by
      unfold Reader.nesting
      rw [hplace]
      exact nesting_after_stray hrun
    rw [Nesting.after_append, hafter, Nesting.after_cons, hmove.nesting hr]
    exact ih (hmove.sound hr)

theorem Lenient.place (h : Lenient limit r cs r' n) (hr : r.Sound) : r.phase.place.after cs = r'.phase.place := by
  have := congrArg Nesting.place (h.nesting hr)
  rwa [Nesting.place_after] at this

/--
Without the stray commas and the blanks around them, the text is read strictly.
-/
theorem Lenient.exists_run (h : Lenient limit r cs r' n) : ∃ ds, r.run limit ds = some r' := by
  induction h with
  | nil => exact ⟨[], rfl⟩
  | step h _ ih =>
    obtain ⟨ds, hds⟩ := ih
    exact ⟨_, run_cons_eq_some_iff.mpr ⟨_, h, hds⟩⟩
  | stray _ _ _ h _ ih =>
    obtain ⟨ds, hds⟩ := ih
    exact ⟨_, run_cons_eq_some_iff.mpr ⟨_, h, hds⟩⟩

theorem Lenient.sound (h : Lenient limit r cs r' n) (hr : r.Sound) : r'.Sound := by
  obtain ⟨ds, hds⟩ := h.exists_run
  exact sound_of_run hds hr

theorem Lenient.run_eq (h : Lenient limit r cs r' 0) (hr : r.Sound) : r.run limit cs = some r' := by
  generalize hn : 0 = n at h
  induction h with
  | nil => rfl
  | step h _ ih =>
    rw [run_cons_of_step h]
    exact ih ((move_of_step h).sound hr) hn
  | stray hplace hrun hc h _ ih =>
    have hzero := Nat.max_eq_zero_iff.mp hn.symm
    rw [run_spaces_closer hr hplace (isSpace_of_not_comma hrun (List.count_eq_zero.mp hzero.1)) hc h]
    exact ih ((move_of_step h).sound hr) hzero.2.symm

theorem not_comma_of_run (hr : r.Sound) (hplace : r.phase.place = .outside) (hrun : ∀ d ∈ run, isStray d = true)
    (hc : isCloser c = true) (h : r.run limit (run ++ c :: cs) = some r') : ',' ∉ run := by
  intro hcomma
  -- The last comma of the run cannot be read: it calls for an item or a member, and the container is closed.
  obtain ⟨front, back, rfl, hback⟩ := eq_append_cons_last hcomma
  rw [List.append_assoc, List.cons_append] at h
  obtain ⟨mid, hfront, hrest⟩ := run_append_eq_some_iff.mp h
  obtain ⟨last, hlast, hclose⟩ := run_cons_eq_some_iff.mp hrest
  have hmid := place_of_run hr hfront
  rw [hplace, place_after_stray (fun d hd => hrun d (List.mem_append_left _ hd))] at hmid
  have hbehind := (move_of_step hlast).behindComma rfl (sound_of_run hfront hr) hmid.symm
  have hblanks : ∀ d ∈ back, isStray d = true :=
    fun d hd => hrun d (List.mem_append_right _ (List.mem_cons_of_mem _ hd))
  have hnext := closesNext_of_behindComma hbehind hclose
  rw [(closesNext_stray hblanks hc).mpr hback] at hnext
  contradiction

theorem Lenient.eq_zero {r'' : Reader} (h : Lenient limit r cs r' n) (hr : r.Sound)
    (hstrict : r.run limit cs = some r'') : n = 0 := by
  induction h with
  | nil => rfl
  | step h _ ih =>
    rw [run_cons_of_step h] at hstrict
    exact ih ((move_of_step h).sound hr) hstrict
  | stray hplace hrun hc h _ ih =>
    have hcomma := not_comma_of_run hr hplace hrun hc hstrict
    rw [run_spaces_closer hr hplace (isSpace_of_not_comma hrun hcomma) hc h] at hstrict
    rw [List.count_eq_zero.mpr hcomma, ih ((move_of_step h).sound hr) hstrict]
    rfl

theorem tidy_of_stray (hrun : ∀ d ∈ run, isStray d = true) : Tidy .outside run := by
  induction run with
  | nil => trivial
  | cons d run ih =>
    rw [List.forall_mem_cons] at hrun
    refine ⟨?_, fun houtside => absurd rfl houtside, ?_⟩
    . rintro - rfl
      have := hrun.1
      contradiction
    . rw [next_of_isStray hrun.1]
      exact ih hrun.2

theorem Lenient.tidy (h : Lenient limit r cs r' n) (hr : r.Sound) : Tidy r.phase.place cs := by
  induction h with
  | nil => trivial
  | step h _ ih =>
    have hmove := move_of_step h
    exact tidy_of_move hmove hr (ih (hmove.sound hr))
  | stray hplace hrun _ h _ ih =>
    have hmove := move_of_step h
    have hcloser := tidy_of_move hmove hr (ih (hmove.sound hr))
    rw [hplace] at hcloser ⊢
    refine tidy_append.mpr ⟨tidy_of_stray hrun, ?_⟩
    rwa [place_after_stray hrun]

theorem not_closer_of_start (h : start.step limit c = some next) : isCloser c = false := by
  cases move_of_step h with
  | space hspace =>
    rw [Bool.eq_false_iff]
    intro hc
    rw [not_isSpace_of_isCloser hc] at hspace
    contradiction
  | value hopens => exact hopens.not_closer.2

theorem Lenient.head?_trimStart {g : Progress} (h : Lenient limit start cs r' n) (hg : r'.progress? = some g) :
    (trimStart cs).head? = some '{' := by
  generalize hstart : start = r at h
  induction h with
  | nil =>
    rw [← hstart] at hg
    contradiction
  | @step _ _ _ c cs _ h hrest ih =>
    subst hstart
    unfold trimStart at ih ⊢
    rw [List.dropWhile_cons]
    split
    . next hblank => exact ih hg (eq_start_of_step h hblank).symm
    . next hblank =>
      obtain ⟨ds, hds⟩ := hrest.exists_run
      have hhead := head?_trimStart_of_progress (run_cons_eq_some_iff.mpr ⟨_, h, hds⟩) hg
      unfold trimStart at hhead
      rwa [List.dropWhile_cons, if_neg hblank] at hhead
  | stray _ _ hc h =>
    subst hstart
    rw [not_closer_of_start h] at hc
    contradiction

theorem eq_of_close {stack : List Frame} {v w : Json} (h : close stack v = ⟨[], .done w⟩) : v = w := by
  unfold close at h
  cases stack with
  | nil =>
    cases h
    rfl
  | cons frame stack => cases frame <;> cases h

theorem Move.of_done {members : List (String × Json)} (h : Move limit r c r') (hr : r.Sound)
    (hdone : r' = ⟨[], .done (.object members)⟩) : c = '}' ∨ (isSpace c = true ∧ r = r') := by
  induction h with
  | noMember => exact .inl rfl
  | endObject => exact .inl rfl
  | space hspace => exact .inr ⟨hspace, rfl⟩
  | endText =>
    have := eq_of_close hdone
    contradiction
  | endWord =>
    have hv := hr.2
    rw [eq_of_close hdone] at hv
    contradiction
  | noItem =>
    have := eq_of_close hdone
    contradiction
  | endArray =>
    have := eq_of_close hdone
    contradiction
  | endDigits _ _ _ ih =>
    -- A number alone is no object, so the character closes the container that the number is in.
    rcases ih (sound_close _ _) hdone with hc | ⟨-, hsame⟩
    . exact .inl hc
    . have := eq_of_close (hsame.trans hdone)
      contradiction
  | value hopens => cases hopens <;> cases hdone
  | firstItem hopens => cases hopens <;> cases hdone
  | _ => cases hdone

theorem Lenient.exists_last {members : List (String × Json)} (h : Lenient limit r cs r' n) (hr : r.Sound)
    (hdone : r' = ⟨[], .done (.object members)⟩) :
    (r = r' ∧ n = 0 ∧ ∀ d ∈ cs, isSpace d = true) ∨
      ∃ front blanks, cs = front ++ '}' :: blanks ∧ (∀ d ∈ blanks, isSpace d = true) ∧
        Lenient limit r (front ++ ['}']) r' n := by
  induction h with
  | nil => exact .inl ⟨rfl, rfl, List.forall_mem_nil _⟩
  | @step _ _ _ c cs _ h _ ih =>
    have hmove := move_of_step h
    rcases ih (hmove.sound hr) hdone with ⟨rfl, rfl, hblanks⟩ | ⟨front, blanks, rfl, hblanks, hfront⟩
    . rcases hmove.of_done hr hdone with rfl | ⟨hspace, rfl⟩
      . exact .inr ⟨[], cs, rfl, hblanks, .step h .nil⟩
      . exact .inl ⟨rfl, rfl, List.forall_mem_cons.mpr ⟨hspace, hblanks⟩⟩
    . exact .inr ⟨c :: front, blanks, rfl, hblanks, .step h hfront⟩
  | @stray _ _ _ run c cs _ hplace hrun hc h _ ih =>
    have hmove := move_of_step h
    right
    rcases ih (hmove.sound hr) hdone with ⟨rfl, rfl, hblanks⟩ | ⟨front, blanks, rfl, hblanks, hfront⟩
    . rcases hmove.of_done hr hdone with rfl | ⟨hspace, -⟩
      . exact ⟨run, cs, rfl, hblanks, .stray hplace hrun hc h .nil⟩
      . rw [not_isSpace_of_isCloser hc] at hspace
        contradiction
    . refine ⟨run ++ c :: front, blanks, by simp, hblanks, ?_⟩
      rw [List.append_assoc, List.cons_append]
      exact .stray hplace hrun hc h hfront

end Reader
end Json
end Triage
