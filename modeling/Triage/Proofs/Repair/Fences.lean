import Triage.Proofs.Json.Blanks
import Triage.Proofs.Text.Lines
import Triage.Repair.Fences

/-!
This module contains what the removal of code fences does to the lines of a JSON text: it keeps them, and cuts only
what stands around the text.
-/

namespace Triage
namespace Repair

open Text

/--
Whether the line that ends with a text begins with the mark of a fence.
-/
def opensFence (line : List Char) : Bool :=
  (dropMarker? fence (trimStart line)).isSome

theorem eq_backtick_of_mem_fence {c : Char} (h : c ∈ fence) : c = '\x60' := by
  simpa [fence] using h

theorem dropMarker?_fence_of_head {cs : List Char} (h : cs.head? ≠ some '\x60') :
    dropMarker? fence cs = none := by
  cases hdrop : dropMarker? fence cs with
  | none => rfl
  | some rest =>
    rw [dropMarker?_eq_some_iff] at hdrop
    rw [hdrop] at h
    exact absurd rfl h

theorem dropEndMarker?_fence_append {front back rest : List Char} {last : Char} (hlast : last ≠ '\x60')
    (h : dropEndMarker? fence (front ++ last :: back) = some rest) :
    ∃ kept, rest = front ++ last :: kept ∧ back = kept ++ fence := by
  rw [dropEndMarker?_eq_some_iff, ← List.singleton_append, ← List.append_assoc,
    List.append_eq_append_iff] at h
  rcases h with ⟨kept, hrest, hback⟩ | ⟨cut, hfront, hfence⟩
  . exact ⟨kept, by simp [hrest], hback⟩
  . rcases List.eq_nil_or_concat cut with rfl | ⟨cut, c, rfl⟩
    . refine ⟨[], ?_, ?_⟩
      . simpa using hfront.symm
      . simpa using hfence.symm
    . have hc : last = c := by
        have := congrArg List.getLast? hfront
        simpa using this
      have hmem : c ∈ fence := by
        rw [hfence]
        simp
      exact absurd (eq_backtick_of_mem_fence hmem) (hc ▸ hlast)

theorem isSome_dropMarker?_fence_append {front back : List Char} {last : Char} (hlast : last ≠ '\x60') :
    (dropMarker? fence (front ++ last :: back)).isSome = (dropMarker? fence front).isSome := by
  rw [Bool.eq_iff_iff, Option.isSome_iff_exists, Option.isSome_iff_exists]
  simp only [dropMarker?_eq_some_iff]
  constructor
  . rintro ⟨rest, h⟩
    rw [List.append_eq_append_iff] at h
    rcases h with ⟨cut, hfence, hback⟩ | ⟨kept, hfront, -⟩
    . cases cut with
      | nil => exact ⟨[], by simpa using hfence.symm⟩
      | cons c cut =>
        obtain ⟨rfl, -⟩ := List.cons.inj hback
        have hmem : last ∈ fence := by
          rw [hfence]
          simp
        exact absurd (eq_backtick_of_mem_fence hmem) hlast
    . exact ⟨kept, hfront⟩
  . rintro ⟨rest, rfl⟩
    exact ⟨rest ++ last :: back, List.append_assoc ..⟩

theorem opensFence_append {front : List Char} {last : Char} (hblank : isBlank last = false)
    (hlast : last ≠ '\x60') (back : List Char) : opensFence (front ++ last :: back) = opensFence front := by
  unfold opensFence
  rw [trimStart_append hblank, isSome_dropMarker?_fence_append hlast]

theorem unfenced?_of_not_opensFence {front : List Char} {last : Char} (back : List Char)
    (hopens : opensFence front = false) (hblank : isBlank last = false) (hlast : last ≠ '\x60') :
    ∃ kept, unfenced? (front ++ last :: back) = some (front ++ last :: kept) ∧
      (∀ c ∈ kept, c ∈ back) ∧ ((∀ c ∈ back, isBlank c = true) → kept = back) := by
  have hopen : dropMarker? fence (trim (front ++ last :: back)) = none := by
    rw [← Option.isNone_iff_eq_none, ← Option.isSome_eq_false_iff]
    unfold trim
    rw [trimStart_append hblank, trimEnd_append hblank, isSome_dropMarker?_fence_append hlast]
    exact hopens
  unfold unfenced?
  rw [hopen]
  dsimp only
  rw [trimEnd_append hblank]
  cases hdrop : dropEndMarker? fence (front ++ last :: trimEnd back) with
  | none => exact ⟨back, rfl, fun _ h => h, fun _ => rfl⟩
  | some rest =>
    obtain ⟨kept, hrest, hback⟩ := dropEndMarker?_fence_append hlast hdrop
    refine ⟨kept, by rw [hrest]; rfl, ?_, ?_⟩
    . intro c hc
      apply mem_of_mem_trimEnd
      rw [hback]
      exact List.mem_append_left fence hc
    . intro hblanks
      rw [trimEnd_of_blank hblanks, List.nil_eq, List.append_eq_nil_iff] at hback
      exact absurd hback.2 (List.cons_ne_nil _ _)

theorem unfenced?_of_blank {line : List Char} (h : ∀ c ∈ line, isBlank c = true) :
    unfenced? line = some line := by
  unfold unfenced? trim
  rw [trimStart_of_blank h, trimEnd_of_blank h]
  rfl

theorem payload_append {front back payload : List Char} {last : Char} (hpayload : front ++ [last] = '{' :: payload) :
    front ++ last :: back = '{' :: (payload ++ back) := by
  rw [List.append_cons, hpayload, List.cons_append]

theorem trim_payload (before back : List Char) {front payload : List Char} {last : Char}
    (hblank : isBlank last = false) (hpayload : front ++ [last] = '{' :: payload) :
    trim (before ++ (front ++ last :: back)) = trimStart before ++ (front ++ last :: trimEnd back) := by
  unfold trim
  rw [payload_append hpayload, trimStart_append rfl, ← payload_append hpayload, ← List.append_assoc,
    trimEnd_append hblank, List.append_assoc]

theorem dropWhile_payload (tag back : List Char) {front payload : List Char} {last : Char}
    (hpayload : front ++ [last] = '{' :: payload) :
    (tag ++ (front ++ last :: back)).dropWhile Char.isAlpha =
      tag.dropWhile Char.isAlpha ++ (front ++ last :: back) := by
  rw [payload_append hpayload, List.dropWhile_append]
  split
  . next hempty =>
    rw [List.isEmpty_iff] at hempty
    rw [hempty]
    rfl
  . rfl

theorem unfenced?_of_opensFence {before front back payload : List Char} {last : Char}
    (hopens : opensFence before = true) (hblank : isBlank last = false) (hlast : last ≠ '\x60')
    (hpayload : front ++ [last] = '{' :: payload) :
    ∃ cut kept, unfenced? (before ++ (front ++ last :: back)) = some (cut ++ (front ++ last :: kept)) ∧
      (∀ c ∈ cut, c ∈ before) ∧ (∀ c ∈ kept, c ∈ back) ∧
      ((∀ c ∈ back, isBlank c = true) → kept = []) := by
  obtain ⟨tag, htag⟩ := Option.isSome_iff_exists.mp hopens
  have hfence := dropMarker?_eq_some_iff.mp htag
  -- The payload holds a brace, so the line is not dropped as a fence with a tag, and its letters are not cut off.
  have htagged : (trimStart tag ++ (front ++ last :: trimEnd (trimEnd back))).all isTagChar = false := by
    rw [List.all_eq_false]
    refine ⟨'{', ?_, by decide⟩
    rw [payload_append hpayload]
    simp
  have hcut : ∀ c ∈ (trimStart tag).dropWhile Char.isAlpha, c ∈ before := by
    intro c hc
    apply mem_of_mem_trimStart
    rw [hfence]
    exact List.mem_append_right _ (mem_of_mem_trimStart ((List.dropWhile_sublist _).mem hc))
  have hkept : ∀ c ∈ trimEnd (trimEnd back), c ∈ back :=
    fun c hc => mem_of_mem_trimEnd (mem_of_mem_trimEnd hc)
  unfold unfenced?
  rw [trim_payload before back hblank hpayload, hfence, List.append_assoc, dropMarker?_eq_some_iff.mpr rfl]
  dsimp only
  rw [trim_payload tag (trimEnd back) hblank hpayload, htagged, if_neg Bool.false_ne_true,
    dropWhile_payload _ _ hpayload]
  unfold cutClosingFence
  rw [← List.append_assoc]
  cases hdrop : dropEndMarker? fence ((trimStart tag).dropWhile Char.isAlpha ++ front ++
      last :: trimEnd (trimEnd back)) with
  | none =>
    refine ⟨_, trimEnd (trimEnd back), by rw [Option.getD_none, List.append_assoc], hcut, hkept, ?_⟩
    intro hblanks
    rw [trimEnd_of_blank hblanks]
    rfl
  | some rest =>
    obtain ⟨kept, hkeep, hback⟩ := dropEndMarker?_fence_append hlast hdrop
    refine ⟨_, kept, by rw [Option.getD_some, hkeep, List.append_assoc], hcut, ?_, ?_⟩
    . intro c hc
      apply hkept
      rw [hback]
      exact List.mem_append_left fence hc
    . intro hblanks
      rw [trimEnd_of_blank hblanks] at hback
      have := congrArg List.length hback
      simp [fence, trimEnd] at this

/--
The payload on a line survives. What stands in front of it goes or stays, and blanks behind it go if the line begins
with a fence.
-/
theorem unfenced?_of_payload (before back : List Char) {front payload : List Char} {last : Char}
    (hblank : isBlank last = false) (hlast : last ≠ '\x60') (hpayload : front ++ [last] = '{' :: payload) :
    ∃ cut kept, unfenced? (before ++ (front ++ last :: back)) = some (cut ++ (front ++ last :: kept)) ∧
      (∀ c ∈ cut, c ∈ before) ∧ (∀ c ∈ kept, c ∈ back) ∧
      ((∀ c ∈ back, isBlank c = true) → kept = if opensFence before then [] else back) := by
  cases hopens : opensFence before with
  | true => exact unfenced?_of_opensFence hopens hblank hlast hpayload
  | false =>
    have hfront : opensFence (before ++ front) = false := by
      cases front with
      | nil => rwa [List.append_nil]
      | cons c front =>
        obtain ⟨rfl, -⟩ := List.cons.inj hpayload
        rwa [opensFence_append rfl (by decide)]
    obtain ⟨kept, hkept, hmem, hblanks⟩ := unfenced?_of_not_opensFence back hfront hblank hlast
    refine ⟨before, kept, ?_, fun _ h => h, hmem, hblanks⟩
    rw [← List.append_assoc, ← List.append_assoc, hkept]

theorem mem_of_unfenced? {line kept : List Char} {c : Char} (h : unfenced? line = some kept) (hc : c ∈ kept) :
    c ∈ line := by
  have hcut {mark cs rest : List Char} (hdrop : dropEndMarker? mark cs = some rest) (hc : c ∈ rest) : c ∈ cs := by
    rw [dropEndMarker?_eq_some_iff.mp hdrop]
    exact List.mem_append_left _ hc
  unfold unfenced? at h
  split at h
  . cases h
    cases hdrop : dropEndMarker? fence (trimEnd line) with
    | none => rwa [hdrop] at hc
    | some rest =>
      rw [hdrop] at hc
      exact mem_of_mem_trimEnd (hcut hdrop hc)
  . next rest hrest =>
    have hline : ∀ d ∈ rest, d ∈ line := by
      intro d hd
      apply mem_of_mem_trimStart
      apply mem_of_mem_trimEnd
      unfold trim at hrest
      rw [dropMarker?_eq_some_iff.mp hrest]
      exact List.mem_append_right _ hd
    have hletters : ∀ d ∈ (trim rest).dropWhile Char.isAlpha, d ∈ line := fun d hd =>
      hline d (mem_of_mem_trimStart (mem_of_mem_trimEnd ((List.dropWhile_sublist _).mem hd)))
    dsimp only at h
    split at h
    . contradiction
    . cases h
      unfold cutClosingFence at hc
      cases hdrop : dropEndMarker? fence ((trim rest).dropWhile Char.isAlpha) with
      | none =>
        rw [hdrop] at hc
        exact hletters c hc
      | some kept =>
        rw [hdrop] at hc
        exact hletters c (hcut hdrop hc)

theorem exists_line_of_mem {ls : List (List Char)} {kept : List Char} {c : Char} (h : kept ∈ ls.filterMap unfenced?)
    (hc : c ∈ kept) : ∃ line ∈ ls, c ∈ line := by
  obtain ⟨line, hline, hunfenced⟩ := List.mem_filterMap.mp h
  exact ⟨line, hline, mem_of_unfenced? hunfenced hc⟩

end Repair
end Triage
