import Triage.Proofs.Repair.Commas

/-!
This module contains what blanks, line breaks and backticks do to the reader of JSON text. A line never ends inside a
string, so the blanks in front of a line break can be left out, and a backtick stands inside of strings only.
-/

namespace Triage
namespace Json
namespace Reader

open Text

theorem not_isBlank_of_extend? {state state' : Digits} {c : Char} (h : extend? state c = some state') :
    isBlank c = false := by
  cases mem_of_extend? h with
  | inl hdigit => exact isBlank_of_isAlphanum (by simp [Char.isAlphanum, hdigit])
  | inr hmem =>
    simp only [List.mem_cons, List.not_mem_nil, or_false] at hmem
    rcases hmem with rfl | rfl | rfl | rfl | rfl <;> rfl

theorem extend?_of_isSpace {c : Char} (h : isSpace c = true) (state : Digits) : extend? state c = none := by
  cases hextend : extend? state c with
  | none => rfl
  | some state' =>
    have := not_isBlank_of_extend? hextend
    rw [isBlank_of_isSpace h] at this
    contradiction

theorem step_of_isSpace {limit : Nat} {r : Reader} {c : Char} (hc : isSpace c = true)
    (hr : r.phase.isBetween = true) : r.step limit c = some r := by
  rw [step_of_isBetween hr]
  unfold between
  rw [if_pos hc]

/--
A blank stands inside a string, which goes on, or between the parts of the text, where it ends a number and else
changes nothing.
-/
theorem Move.of_isBlank {limit : Nat} {r r' : Reader} {c : Char} (h : Move limit r c r')
    (hr : r.Sound) (hc : isBlank c = true) :
    (r.phase.place ≠ .outside ∧ r'.phase.place ≠ .outside) ∨
      (isSpace c = true ∧ r.phase.place = .outside ∧ r'.phase.isBetween = true ∧
        ∀ d, (∀ state, extend? state d = none) → r.step limit d = r'.step limit d) := by
  induction h with
  | text => exact .inl ⟨place_ne_outside _, place_ne_outside _⟩
  | keyText => exact .inl ⟨place_ne_outside _, place_ne_outside _⟩
  | endText h =>
    obtain ⟨-, rfl, -⟩ := of_scan_ended h
    contradiction
  | endKey h =>
    obtain ⟨-, rfl, -⟩ := of_scan_ended h
    contradiction
  | word =>
    unfold Sound at hr
    simp only [List.all_cons, Bool.and_eq_true] at hr
    rw [isBlank_of_isAlphanum (by simp [Char.isAlphanum, hr.1.1])] at hc
    contradiction
  | endWord =>
    unfold Sound at hr
    simp only [List.all_cons, Bool.and_eq_true] at hr
    rw [isBlank_of_isAlphanum (by simp [Char.isAlphanum, hr.1.1])] at hc
    contradiction
  | digits h =>
    rw [not_isBlank_of_extend? h] at hc
    contradiction
  | @endDigits stack state c n r h hnumber hmove ih =>
    -- Not the reader itself but the one behind the number stays as it is.
    right
    have hclose : (close stack (.number n)).phase.isBetween = true := isBetween_close _ _
    cases ih (sound_close _ _) hc with
    | inl hinside => exact absurd (Phase.place_of_isBetween hclose) hinside.1
    | inr houtside =>
      refine ⟨houtside.1, rfl, houtside.2.2.1, ?_⟩
      intro d hd
      rw [← houtside.2.2.2 d hd, step_of_isBetween hclose]
      simp only [step, hd, closeDigits_eq_some_iff.mpr ⟨n, hnumber, rfl⟩, Option.bind_some]
  | @space r c h hphase =>
    right
    exact ⟨h, Phase.place_of_isBetween hphase, hphase, fun _ _ => rfl⟩
  | value h =>
    rw [h.not_closer.1] at hc
    contradiction
  | firstItem h =>
    rw [h.not_closer.1] at hc
    contradiction
  | _ => contradiction

theorem scan_newline (text : List Char) (escape : Escape) : scan text escape '\n' = .refused := by
  cases escape <;> rfl

theorem Move.place_of_newline {limit : Nat} {r r' : Reader} (h : Move limit r '\n' r') :
    r.phase.place = .outside := by
  cases h with
  | text h =>
    rw [scan_newline] at h
    contradiction
  | keyText h =>
    rw [scan_newline] at h
    contradiction
  | endText h =>
    rw [scan_newline] at h
    contradiction
  | endKey h =>
    rw [scan_newline] at h
    contradiction
  | space _ hphase => exact Phase.place_of_isBetween hphase
  | _ => rfl

theorem run_blanks_newline {limit : Nat} {r r' : Reader} {blanks rest : List Char} (hr : r.Sound)
    (hblanks : ∀ c ∈ blanks, isBlank c = true) (h : r.run limit (blanks ++ '\n' :: rest) = some r') :
    r.run limit ('\n' :: rest) = some r' := by
  induction blanks generalizing r with
  | nil => exact h
  | cons c blanks ih =>
    rw [List.forall_mem_cons] at hblanks
    rw [List.cons_append] at h
    obtain ⟨next, hnext, hnewline⟩ := run_cons_eq_some_iff.mp h
    have hmove := move_of_step hnext
    obtain ⟨last, hlast, hrest⟩ := run_cons_eq_some_iff.mp (ih (hmove.sound hr) hblanks.2 hnewline)
    cases hmove.of_isBlank hr hblanks.1 with
    | inl hinside => exact absurd (move_of_step hlast).place_of_newline hinside.2
    | inr houtside =>
      apply run_cons_eq_some_iff.mpr
      refine ⟨last, ?_, hrest⟩
      rw [houtside.2.2.2 '\n' (extend?_of_isSpace rfl), hlast]

theorem eq_start_of_step {limit : Nat} {next : Reader} {c : Char} (h : start.step limit c = some next)
    (hc : isBlank c = true) : next = start := by
  cases (move_of_step h).of_isBlank sound_start hc with
  | inl hinside => exact absurd rfl hinside.1
  | inr houtside =>
    -- A blank before the text changes nothing, as one more blank behind it shows.
    have hstart := houtside.2.2.2 ' ' (extend?_of_isSpace rfl)
    rw [step_of_isSpace rfl rfl, step_of_isSpace rfl houtside.2.2.1] at hstart
    exact (Option.some.inj hstart).symm

theorem run_trimStart {limit : Nat} {r : Reader} {cs : List Char} (h : start.run limit cs = some r) :
    start.run limit (trimStart cs) = some r := by
  unfold trimStart
  induction cs with
  | nil => exact h
  | cons c cs ih =>
    rw [List.dropWhile_cons]
    split
    . next hblank =>
      obtain ⟨next, hnext, hrest⟩ := run_cons_eq_some_iff.mp h
      rw [eq_start_of_step hnext hblank] at hrest
      exact ih hrest
    . exact h

theorem Move.place_of_backtick {limit : Nat} {r r' : Reader} {c : Char} (h : Move limit r c r')
    (hr : r.Sound) (hc : c = '\x60') : r.phase.place ≠ .outside := by
  induction h with
  | text => exact place_ne_outside _
  | keyText => exact place_ne_outside _
  | endText h =>
    obtain ⟨-, rfl, -⟩ := of_scan_ended h
    contradiction
  | endKey h =>
    obtain ⟨-, rfl, -⟩ := of_scan_ended h
    contradiction
  | word =>
    unfold Sound at hr
    simp [hc] at hr
  | endWord =>
    unfold Sound at hr
    simp [hc] at hr
  | digits h =>
    subst hc
    rcases mem_of_extend? h with h | h <;> simp at h
  | endDigits _ _ _ ih => exact absurd (Phase.place_of_isBetween (isBetween_close _ _)) (ih (sound_close _ _) hc)
  | space h =>
    subst hc
    contradiction
  | value h =>
    subst hc
    cases h <;> contradiction
  | firstItem h =>
    subst hc
    cases h <;> contradiction
  | _ => contradiction

end Reader
end Json
end Triage
