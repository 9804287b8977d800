import Triage.Proofs.Json.Closing
import Triage.Proofs.Repair.Cut
import Triage.Repair

/-!
This module contains the text of an object that breaks off where something is complete in it, and which part of it the
repair cuts out.
-/

namespace Triage
namespace Json

/--
Whether a container has just been opened, or an item or a member is complete.
-/
def Phase.isBreak : Phase → Bool
  | .firstItem | .afterItem _ | .firstKey | .afterMember _ => true
  | _ => false

theorem Phase.place_of_isBreak {phase : Phase} (h : phase.isBreak = true) : phase.place = .outside := by
  cases phase with
  | text text escape => contradiction
  | keyText members text escape => contradiction
  | _ => rfl

end Json

namespace Repair

open Text Json

/--
Whether a text breaks off right behind an opening bracket or brace, or behind a complete item or member. A blank between
the text and its rest changes nothing, so no number is cut in two.
-/
structure BrokenOff (text rest : List Char) (r : Reader) : Prop where
  run : Reader.start.run depthLimit (text ++ [' ']) = some r
  phase : r.phase.isBreak = true
  last : ∃ c, text.getLast? = some c ∧ Reader.isSpace c = false
  parted : Reader.start.run depthLimit (text ++ ' ' :: rest) = Reader.start.run depthLimit (text ++ rest)

variable {limit : Nat} {text rest : List Char} {r r' : Reader}

theorem BrokenOff.sound (h : BrokenOff text rest r) : r.Sound :=
  Reader.sound_of_run h.run Reader.sound_start

/--
Before the blank a number may still be read, and else all is the same.
-/
theorem BrokenOff.before (h : BrokenOff text rest r) :
    ∃ r₀ : Reader, Reader.start.run depthLimit text = some r₀ ∧ r₀.step depthLimit ' ' = some r ∧
      r₀.phase.place = .outside ∧ r₀.nesting = r.nesting ∧
      ∀ c, isCloser c = true → r₀.step depthLimit c = r.step depthLimit c := by
  obtain ⟨r₀, hrun, hblank⟩ := Reader.run_concat_eq_some_iff.mp h.run
  refine ⟨r₀, hrun, hblank, ?_⟩
  have hsound := Reader.sound_of_run hrun Reader.sound_start
  have hmove := Reader.move_of_step hblank
  have hnesting := hmove.nesting hsound
  cases hmove.of_isBlank hsound rfl with
  | inl hinside => exact absurd (Phase.place_of_isBreak h.phase) hinside.2
  | inr houtside =>
    obtain ⟨-, hplace, -, hstep⟩ := houtside
    refine ⟨hplace, ?_, fun c hc => hstep c (Reader.extend?_of_isCloser hc)⟩
    rw [← hnesting]
    unfold Reader.nesting
    rw [hplace]
    exact (Reader.next_of_isPlain rfl).symm

theorem BrokenOff.concat (h : BrokenOff text rest r) :
    ∃ front last, text = front ++ [last] ∧ isBlank last = false := by
  obtain ⟨last, hlast, hspace⟩ := h.last
  obtain ⟨front, rfl⟩ := List.getLast?_eq_some_iff.mp hlast
  refine ⟨front, last, rfl, ?_⟩
  cases hblank : isBlank last with
  | false => rfl
  | true =>
    obtain ⟨r₀, hrun, -, hplace, -⟩ := h.before
    obtain ⟨mid, hmid, hend⟩ := Reader.run_concat_eq_some_iff.mp hrun
    cases (Reader.move_of_step hend).of_isBlank (Reader.sound_of_run hmid Reader.sound_start) hblank with
    | inl hinside => exact absurd hplace hinside.2
    | inr houtside =>
      rw [houtside.1] at hspace
      contradiction

theorem BrokenOff.not_isAllBlank {text : String} (h : BrokenOff text.toList rest r) :
    Text.isAllBlank text = false := by
  obtain ⟨front, last, htext, hblank⟩ := h.concat
  unfold Text.isAllBlank
  rw [List.all_eq_false, htext]
  exact ⟨last, by simp, by simp [hblank]⟩

theorem BrokenOff.not_isJson (h : BrokenOff text rest r) : isJson text = false := by
  obtain ⟨r₀, hrun, -, -, hnesting, -⟩ := h.before
  unfold isJson readWithin
  rw [hrun, Option.bind_some]
  cases hfinish : r₀.finish with
  | none => rfl
  | some v =>
    have hstart := Reader.nesting_of_finish (Reader.sound_of_run hrun Reader.sound_start) hfinish
    rw [hnesting] at hstart
    have hphase := h.phase
    obtain ⟨stack, phase⟩ := r
    have hclosers := congrArg Nesting.closers hstart
    cases phase <;> simp [Phase.isBreak, Reader.nesting, Phase.closers, Nesting.start] at hphase hclosers

theorem BrokenOff.run_closing (h : BrokenOff text rest r) {r₀ : Reader} {v : Json}
    (hstep : ∀ c, isCloser c = true → r₀.step depthLimit c = r.step depthLimit c)
    (hclosed : r.closed? = some v) : r₀.run depthLimit r.nesting.closing = some ⟨[], .done v⟩ := by
  have hrun : r.run depthLimit r.nesting.closing = some ⟨[], .done v⟩ := Reader.run_closing h.sound hclosed
  have hphase := h.phase
  have hcloser : ∃ c cs, r.nesting.closing = c :: cs ∧ isCloser c = true := by
    obtain ⟨stack, phase⟩ := r
    cases phase with
    | firstItem => exact ⟨']', _, rfl, rfl⟩
    | afterItem items => exact ⟨']', _, rfl, rfl⟩
    | firstKey => exact ⟨'}', _, rfl, rfl⟩
    | afterMember members => exact ⟨'}', _, rfl, rfl⟩
    | _ => contradiction
  obtain ⟨c, cs, hclosing, hc⟩ := hcloser
  rw [hclosing] at hrun ⊢
  rw [Reader.run] at hrun ⊢
  rwa [hstep c hc]

theorem begun_of_isBreak (h : r.phase.isBreak = true) : r.stack = [] → r.phase ≠ .value := by
  intro _ hphase
  rw [hphase] at h
  contradiction

theorem BrokenOff.finish {members : List (String × Json)} (h : BrokenOff text rest r)
    (hread : readWithin depthLimit (text ++ rest) = some (.object members)) :
    ∃ r₂, r.run depthLimit rest = some r₂ ∧ r₂.finish = some (.object members) := by
  unfold readWithin at hread
  rwa [← h.parted, List.append_cons, Reader.run_append, h.run, Option.bind_some, Option.bind_eq_some_iff] at hread

theorem progress_of_read {front back : List Char} {r' : Reader} {members : List (String × Json)}
    (hfront : Reader.start.run limit front = some r) (hback : r.run limit back = some r')
    (hfinish : r'.finish = some (.object members)) (hbegun : r.stack = [] → r.phase ≠ .value) :
    ∃ g, r.progress? = some g ∧ g.Before ⟨members, none⟩ := by
  have hsound := Reader.sound_of_run hfront Reader.sound_start
  have hmembers := Reader.progress_of_finish (Reader.sound_of_run hback hsound) hfinish
  cases hg : r.progress? with
  | none =>
    rw [Reader.run_progress_none hback hsound hg hbegun] at hmembers
    contradiction
  | some g =>
    obtain ⟨g', hg', hbefore⟩ := Reader.run_progress hback hg
    rw [hmembers] at hg'
    cases hg'
    exact ⟨g, rfl, hbefore⟩

theorem BrokenOff.progress {front back : List Char} {r₁ : Reader} {members : List (String × Json)}
    (h : BrokenOff (front ++ back) rest r)
    (hread : readWithin depthLimit (front ++ back ++ rest) = some (.object members))
    (hfront : Reader.start.run depthLimit front = some r₁) (hbegun : r₁.stack = [] → r₁.phase ≠ .value) :
    ∃ g, r₁.progress? = some g ∧ g.Before ⟨members, none⟩ := by
  obtain ⟨r₂, hrest, hfinish⟩ := h.finish hread
  have hrun := h.run
  rw [List.append_assoc, Reader.run_append, hfront, Option.bind_some] at hrun
  have hback : r₁.run depthLimit (back ++ [' '] ++ rest) = some r₂ := by
    rw [Reader.run_append, hrun]
    exact hrest
  exact progress_of_read hfront hback hfinish hbegun

theorem BrokenOff.progress_end {members : List (String × Json)} (h : BrokenOff text rest r)
    (hread : readWithin depthLimit (text ++ rest) = some (.object members)) :
    ∃ g, r.progress? = some g ∧ g.Before ⟨members, none⟩ := by
  obtain ⟨r₂, hrest, hfinish⟩ := h.finish hread
  exact progress_of_read h.run hrest hfinish (begun_of_isBreak h.phase)

theorem BrokenOff.stripFences (h : BrokenOff text rest r) :
    stripFences text = trimStart (lineFeeds text) := by
  obtain ⟨front, last, rfl, hblank⟩ := h.concat
  obtain ⟨r₀, hrun, -, hplace, -⟩ := h.before
  have hend := Reader.place_of_run Reader.sound_start hrun
  rw [hplace] at hend
  exact stripFences_of_tidy hblank (List.forall_mem_nil _) (tidy_of_run Reader.sound_start hrun) hend

theorem BrokenOff.extract_of_unbraced (h : BrokenOff text rest r) (hbrace : '}' ∉ text)
    (hbrackets : ¬ ['[', ']'].Sublist text) :
    extract (Repair.stripFences text) = trimStart (lineFeeds text) := by
  rw [h.stripFences, extract_unbraced hbrace hbrackets]

theorem BrokenOff.extract_of_brackets (h : BrokenOff text rest r) (hbrace : '}' ∉ text)
    (hbrackets : ['[', ']'].Sublist text) : ∃ middle, extract (Repair.stripFences text) = '[' :: middle := by
  rw [h.stripFences]
  exact extract_brackets hbrace hbrackets

theorem BrokenOff.extract_of_braced {kept cut : List Char} (h : BrokenOff (kept ++ '}' :: cut) rest r)
    (hhead : (trimStart (lineFeeds (kept ++ ['}']))).head? = some '{') (hcut : '}' ∉ cut) :
    extract (Repair.stripFences (kept ++ '}' :: cut)) = trimStart (lineFeeds (kept ++ ['}'])) := by
  rw [h.stripFences, extract_braced hhead hcut]

end Repair
end Triage
