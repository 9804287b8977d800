import Triage.Proofs.Json.Closing

/-!
This module contains the two values of a text that breaks off inside a value: the one that the text would have led to,
and the one that it has when all that is open is closed at once.
-/

namespace Triage
namespace Json
namespace Reader

open Repair

variable {limit : Nat} {r r' : Reader} {stack : List Frame} {v w : Json} {c : Char} {cs : List Char}

/--
Whether a whole value has another one in it, right behind what containers hold of it.
-/
def Contains (whole : Json) : List Frame → Json → Prop
  | [], v => v = whole
  | .array items :: stack, v => ∃ more, Contains whole stack (.array (items.reverse ++ v :: more))
  | .member members key :: stack, v => ∃ more, Contains whole stack (.object (members.reverse ++ (key, v) :: more))

/--
Whether a reader, with a text before it, is on its way to a value.
-/
def Leads (whole : Json) (r : Reader) (cs : List Char) : Prop :=
  match r.phase with
  | .value => ∃ v, Contains whole r.stack v
  | .firstItem => ∃ items, Contains whole r.stack (.array items)
  | .afterItem items => ∃ more, Contains whole r.stack (.array (items.reverse ++ more))
  | .firstKey => ∃ members, Contains whole r.stack (.object members)
  | .key members | .keyText members _ _ | .colon members _ | .afterMember members =>
    ∃ more, Contains whole r.stack (.object (members.reverse ++ more))
  | .text text _ => ∃ more, Contains whole r.stack (.string (String.ofList (text.reverse ++ more)))
  | .digits state => ∃ part rest final n, cs = part ++ rest ∧ part.foldlM extend? state = some final ∧
    (∀ c back, rest = c :: back → extend? final c = none) ∧ (numeral? final).bind Numeral.value? = some n ∧
    Contains whole r.stack (.number n)
  | .word _ v => Contains whole r.stack v
  | .done v => v = whole

theorem contains_of_leads_close (h : Leads w (close stack v) cs) : Contains w stack v := by
  cases stack with
  | nil => exact h
  | cons frame stack =>
    cases frame with
    | array items =>
      obtain ⟨more, hmore⟩ := h
      rw [List.reverse_cons, List.append_assoc] at hmore
      exact ⟨more, hmore⟩
    | member members key =>
      obtain ⟨more, hmore⟩ := h
      rw [List.reverse_cons, List.append_assoc] at hmore
      exact ⟨more, hmore⟩

theorem leads_of_isBetween {ds : List Char} (hphase : r.phase.isBetween = true) (h : Leads w r cs) : Leads w r ds := by
  obtain ⟨stack, phase⟩ := r
  cases phase with
  | digits state => contradiction
  | _ => exact h

theorem suffix_of_endUnit? {text text' : List Char} {lead : Option Nat} {unit : Nat} {escape : Escape}
    (h : endUnit? text lead unit = some (text', escape)) : text <:+ text' := by
  unfold endUnit? at h
  cases lead <;> grind

theorem suffix_of_scan_more {text text' : List Char} {escape escape' : Escape} {c : Char}
    (h : scan text escape c = .more text' escape') : text <:+ text' := by
  unfold scan at h
  cases escape with
  | unit lead value left =>
    dsimp only at h
    split at h
    . contradiction
    . split at h
      . split at h
        . next hunit =>
          cases h
          exact suffix_of_endUnit? hunit
        . contradiction
      . cases h
        exact List.suffix_refl _
  | _ => grind

theorem Opens.leads (h : Opens limit stack c r) (hleads : Leads w r cs) : ∃ v, Contains w stack v := by
  cases h with
  | array =>
    obtain ⟨items, hitems⟩ := hleads
    exact ⟨_, hitems⟩
  | object =>
    obtain ⟨members, hmembers⟩ := hleads
    exact ⟨_, hmembers⟩
  | text =>
    obtain ⟨more, hmore⟩ := hleads
    exact ⟨_, hmore⟩
  | minus | digit =>
    obtain ⟨_, _, _, n, -, -, -, -, hn⟩ := hleads
    exact ⟨_, hn⟩
  | word => exact ⟨_, hleads⟩

theorem Move.leads (h : Move limit r c r') (hleads : Leads w r' cs) : Leads w r (c :: cs) := by
  induction h with
  | text h =>
    obtain ⟨added, rfl⟩ := suffix_of_scan_more h
    obtain ⟨more, hmore⟩ := hleads
    rw [List.reverse_append, List.append_assoc] at hmore
    exact ⟨_, hmore⟩
  | endText h =>
    obtain ⟨-, -, rfl⟩ := of_scan_ended h
    have := contains_of_leads_close hleads
    exact ⟨[], by rwa [List.append_nil]⟩
  | keyText => exact hleads
  | endKey => exact hleads
  | word => exact hleads
  | endWord => exact contains_of_leads_close hleads
  | @digits _ _ _ c h =>
    obtain ⟨part, rest, final, n, rfl, hpart, hrest, hn, hcontains⟩ := hleads
    refine ⟨c :: part, rest, final, n, rfl, ?_, hrest, hn, hcontains⟩
    rw [List.foldlM_cons, h]
    exact hpart
  | @endDigits _ state c n _ h hnumber _ ih =>
    refine ⟨[], c :: cs, state, n, rfl, rfl, ?_, hnumber, contains_of_leads_close (ih hleads)⟩
    intro d back hcons
    cases hcons
    exact h
  | space _ hphase => exact leads_of_isBetween hphase hleads
  | value h => exact h.leads hleads
  | firstItem h =>
    obtain ⟨v, more, hmore⟩ := h.leads hleads
    exact ⟨_, hmore⟩
  | noItem => exact ⟨_, contains_of_leads_close hleads⟩
  | nextItem =>
    obtain ⟨v, more, hmore⟩ := hleads
    exact ⟨_, hmore⟩
  | endArray =>
    have := contains_of_leads_close hleads
    exact ⟨[], by rwa [List.append_nil]⟩
  | firstKey =>
    obtain ⟨more, hmore⟩ := hleads
    exact ⟨_, hmore⟩
  | noMember => exact ⟨_, contains_of_leads_close hleads⟩
  | key => exact hleads
  | colon =>
    obtain ⟨v, more, hmore⟩ := hleads
    exact ⟨_, hmore⟩
  | nextMember => exact hleads
  | endObject =>
    have := contains_of_leads_close hleads
    exact ⟨[], by rwa [List.append_nil]⟩

theorem leads_of_finish (h : r.finish = some w) : Leads w r [] := by
  obtain ⟨stack, phase⟩ := r
  cases phase with
  | done v =>
    cases h
    exact rfl
  | digits state =>
    unfold finish at h
    dsimp only at h
    split at h
    . next hclose =>
      obtain ⟨n, hn, hclosed⟩ := closeDigits_eq_some_iff.mp hclose
      cases h
      have hleads : Leads w (close stack (.number n)) [] := by
        rw [hclosed]
        exact rfl
      exact ⟨[], [], state, n, rfl, rfl, nofun, hn, contains_of_leads_close hleads⟩
    . contradiction
  | _ => contradiction

theorem leads_of_run (hrun : r.run limit cs = some r') (hfinish : r'.finish = some w) : Leads w r cs := by
  induction cs generalizing r with
  | nil =>
    cases hrun
    exact leads_of_finish hfinish
  | cons c cs ih =>
    obtain ⟨next, hnext, hrest⟩ := run_cons_eq_some_iff.mp hrun
    exact (move_of_step hnext).leads (ih hrest)

/--
The innermost value that is open at the position of a reader, if it can be ended there.
-/
def innermost? (r : Reader) : Option Json :=
  match r.phase with
  | .text text .none => some (.string (String.ofList text.reverse))
  | .digits state => ((numeral? state).bind Numeral.value?).map .number
  | .firstItem => some (.array [])
  | .afterItem items => some (.array items.reverse)
  | .firstKey => some (.object [])
  | .afterMember members => some (.object members.reverse)
  | .done v => some v
  | _ => none

theorem isCloser_closer (frame : Frame) : isCloser frame.closer = true := by
  cases frame <;> rfl

theorem run_closing_digits {state : Digits} {closed : Reader}
    (h : run limit ⟨stack, .digits state⟩ (stack.map Frame.closer) = some closed) (hfinish : closed.finish = some v) :
    ∃ n, (numeral? state).bind Numeral.value? = some n ∧ v = wrap stack (.number n) := by
  cases stack with
  | nil =>
    cases h
    unfold finish at hfinish
    dsimp only at hfinish
    split at hfinish
    . next hclose =>
      obtain ⟨n, hn, hclosed⟩ := closeDigits_eq_some_iff.mp hclose
      cases hclosed
      cases hfinish
      exact ⟨n, hn, rfl⟩
    . contradiction
  | cons frame stack =>
    rw [List.map_cons] at h
    obtain ⟨next, hnext, hrest⟩ := run_cons_eq_some_iff.mp h
    have hend := extend?_of_isCloser (isCloser_closer frame) state
    rw [step] at hnext
    dsimp only at hnext
    rw [hend] at hnext
    obtain ⟨mid, hmid, hbetween⟩ := Option.bind_eq_some_iff.mp hnext
    obtain ⟨n, hn, rfl⟩ := closeDigits_eq_some_iff.mp hmid
    rw [← step_of_isBetween (isBetween_close _ _)] at hbetween
    have hclosers : (close (frame :: stack) (.number n)).run limit ((frame :: stack).map Frame.closer) = some closed :=
      run_cons_eq_some_iff.mpr ⟨next, hbetween, hrest⟩
    rw [run_closers] at hclosers
    cases hclosers
    cases hfinish
    exact ⟨n, hn, rfl⟩

theorem isCloser_of_mem_closers (hc : c ∈ r.nesting.closers) : isCloser c = true := by
  unfold nesting at hc
  rw [List.mem_append, List.mem_map] at hc
  rcases hc with hc | ⟨frame, -, rfl⟩
  . obtain ⟨stack, phase⟩ := r
    cases phase <;> simp_all [Phase.closers, isCloser]
  . apply isCloser_closer

theorem inside_after_closers (h : ∀ c ∈ cs, isCloser c = true) : Place.inside.after cs = .inside := by
  induction cs with
  | nil => rfl
  | cons c cs ih =>
    rw [List.forall_mem_cons] at h
    have hnext : Place.inside.next c = .inside := by
      have hc := h.1
      unfold isCloser at hc
      simp only [Bool.or_eq_true, decide_eq_true_eq] at hc
      rcases hc with rfl | rfl <;> rfl
    rw [Place.after_cons, hnext, ih h.2]

theorem not_finished_of_escaped {closed : Reader} (hr : r.Sound) (hplace : r.phase.place = .escaped)
    (hrun : r.run limit r.nesting.closing = some closed) : closed.finish = none := by
  cases hfinish : closed.finish with
  | none => rfl
  | some v =>
    -- The quote that is to close the string is escaped, and so the brackets behind it come inside the string.
    have hstart := nesting_of_finish (sound_of_run hrun hr) hfinish
    rw [← nesting_after_of_run hrun hr] at hstart
    have hplaces := congrArg Nesting.place hstart
    have hopen : r.nesting.place = .escaped := hplace
    unfold Nesting.closing at hplaces
    rw [hopen, if_neg (by decide), Nesting.place_after, hopen, Place.after_cons] at hplaces
    have hinside : Place.inside.after r.nesting.closers = .inside :=
      inside_after_closers fun c hc => isCloser_of_mem_closers hc
    exact absurd (hinside.symm.trans hplaces) (by decide)

/--
A text that is closed where it breaks off has the innermost value in the containers around it.
-/
theorem innermost_of_closing (hr : r.Sound) (h : (r.run limit r.nesting.closing).bind finish = some v) :
    ∃ u, r.innermost? = some u ∧ v = wrap r.stack u := by
  have hclosed {u : Json} (hu : r.closed? = some u) : v = u := by
    rw [run_closing hr hu] at h
    cases h
    rfl
  obtain ⟨closed, hrun, hfinish⟩ := Option.bind_eq_some_iff.mp h
  have hescaped (hplace : r.phase.place = .escaped) : ∃ u, r.innermost? = some u ∧ v = wrap r.stack u := by
    rw [not_finished_of_escaped hr hplace hrun] at hfinish
    contradiction
  -- Behind a name, a colon or a comma, and inside a word, no bracket can come. Behind a backslash the quote is a
  -- part of the string.
  obtain ⟨stack, phase⟩ := r
  cases phase with
  | text text escape =>
    cases escape with
    | none => exact ⟨_, rfl, hclosed rfl⟩
    | backslash | pairBackslash => exact hescaped rfl
    | unit | pair => contradiction
  | keyText members text escape =>
    cases escape with
    | none =>
      rw [run_closing_of_keyText] at hrun
      contradiction
    | backslash | pairBackslash => exact hescaped rfl
    | unit | pair => contradiction
  | digits state =>
    obtain ⟨n, hn, hv⟩ := run_closing_digits hrun hfinish
    refine ⟨.number n, ?_, hv⟩
    unfold innermost?
    dsimp only
    rw [hn]
    rfl
  | firstItem => exact ⟨_, rfl, hclosed rfl⟩
  | afterItem items => exact ⟨_, rfl, hclosed rfl⟩
  | firstKey => exact ⟨_, rfl, hclosed rfl⟩
  | afterMember members => exact ⟨_, rfl, hclosed rfl⟩
  | done u =>
    unfold Sound at hr
    dsimp only at hr
    subst hr
    exact ⟨u, rfl, hclosed rfl⟩
  | key members => contradiction
  | colon members key => contradiction
  | value =>
    cases stack with
    | nil =>
      cases hrun
      contradiction
    | cons frame stack =>
      obtain ⟨next, hnext, -⟩ := run_cons_eq_some_iff.mp hrun
      cases move_of_step hnext with
      | space hspace => cases frame <;> contradiction
      | value hopens =>
        have hcloser := hopens.not_closer.2
        rw [isCloser_closer] at hcloser
        contradiction
  | word rest u =>
    cases stack with
    | nil =>
      cases hrun
      contradiction
    | cons frame stack =>
      obtain ⟨next, hnext, -⟩ := run_cons_eq_some_iff.mp hrun
      have halpha : frame.closer.isAlpha = true := by
        unfold Sound at hr
        cases move_of_step hnext with
        | space _ hphase => contradiction
        | word => simp_all
        | endWord => simp_all
      cases frame <;> contradiction

end Reader
end Json
end Triage
