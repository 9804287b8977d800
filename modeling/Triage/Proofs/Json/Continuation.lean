import Triage.Proofs.Json.Weight

/-!
This module contains how a text goes on after a value that breaks off, up to the end of the member that the value
belongs to, and what this member holds if the text is completed at once.
-/

namespace Triage
namespace Json
namespace Reader

open Repair

variable {limit : Nat} {r r' : Reader} {g : Progress} {members : List (String × Json)} {key : String}

/--
How a text goes on after a value that breaks off and can be completed: it closes strings and arrays until the member is
complete, or the member stays incomplete, or its value gains weight.
-/
inductive Continues (limit : Nat) (members : List (String × Json)) (key : String) (quote : List Char) (r : Reader)
    (cs : List Char) (r' : Reader) : Prop where
  | closed (front rest : List Char) (v : Json) (hcs : cs = quote ++ front ++ rest)
      (hfront : ∀ c ∈ front, c = ']' ∨ isSpace c = true)
      (hrun : r.run limit (quote ++ front) = some ⟨[], .afterMember ((key, v) :: members.reverse)⟩)
  | incomplete (hg : r'.progress? = some ⟨members, some key⟩)
      (hphase : r'.phase.place = .outside → r'.phase.isBetween = true)
  | more (h : Outweighs members key r.load r')

theorem Continues.cons {next : Reader} {c : Char} {cs : List Char} (hstep : r.step limit c = some next)
    (hload : r.load = next.load) (hc : c = ']' ∨ isSpace c = true)
    (h : Continues limit members key [] next cs r') : Continues limit members key [] r (c :: cs) r' := by
  cases h with
  | closed front rest v hcs hfront hrun =>
    refine .closed (c :: front) rest v (by rw [hcs]; rfl)
      (List.forall_mem_cons.mpr ⟨hc, hfront⟩) ?_
    rw [List.nil_append, run, hstep]
    exact hrun
  | incomplete hg hphase => exact .incomplete hg hphase
  | more h =>
    rw [← hload] at h
    exact .more h

theorem Continues.quote {next : Reader} {cs : List Char} (hstep : r.step limit '"' = some next)
    (hload : r.load = next.load) (h : Continues limit members key [] next cs r') :
    Continues limit members key ['"'] r ('"' :: cs) r' := by
  cases h with
  | closed front rest v hcs hfront hrun =>
    refine .closed front rest v (by rw [hcs]; rfl) hfront ?_
    rw [List.singleton_append, run, hstep]
    exact hrun
  | incomplete hg hphase => exact .incomplete hg hphase
  | more h =>
    rw [← hload] at h
    exact .more h

theorem continues_close {stack : List Frame} {phase : Phase} {v : Json} {cs : List Char}
    (hg : progress? ⟨stack, phase⟩ = some ⟨members, some key⟩)
    (hbraces : (stack.map Frame.closer).count '}' ≤ 1)
    (hitem : ∀ rest items, close stack v = ⟨rest, .afterItem items⟩ →
      progress? ⟨rest, .afterItem items⟩ = some ⟨members, some key⟩ → braces ⟨rest, .afterItem items⟩ ≤ 1 →
      Continues limit members key [] ⟨rest, .afterItem items⟩ cs r') :
    Continues limit members key [] (close stack v) cs r' := by
  obtain ⟨frame, rest, hstack⟩ := stack_of_key hg
  dsimp only at hstack
  subst hstack
  cases progress_close v hg with
  | inl hsame =>
    rw [← braces_close (frame :: rest) v] at hbraces
    cases frame with
    | member members' key' =>
      have := two_le_braces rfl hsame
      exact absurd hbraces (Nat.not_le.mpr this)
    | array items' => exact hitem _ _ rfl hsame hbraces
  | inr hvalue =>
    obtain ⟨key', hkey, hclose⟩ := hvalue
    cases hkey
    rw [hclose]
    exact .closed [] cs v rfl (by simp) rfl

theorem continues_afterItem {stack : List Frame} {items : List Json} {cs : List Char}
    (h : run limit ⟨stack, .afterItem items⟩ cs = some r') (hcs : '}' ∉ cs)
    (hg : progress? ⟨stack, .afterItem items⟩ = some ⟨members, some key⟩)
    (hbraces : braces ⟨stack, .afterItem items⟩ ≤ 1) :
    Continues limit members key [] ⟨stack, .afterItem items⟩ cs r' := by
  induction cs generalizing stack items with
  | nil =>
    cases h
    exact .incomplete hg fun _ => rfl
  | cons c cs ih =>
    rw [List.mem_cons, not_or] at hcs
    obtain ⟨frame, rest, hstack⟩ := stack_of_key hg
    dsimp only at hstack
    obtain ⟨next, hnext, hrest⟩ := run_cons_eq_some_iff.mp h
    cases move_of_step hnext with
    | space hspace => exact .cons hnext rfl (.inr hspace) (ih hrest hcs.2 hg hbraces)
    | nextItem =>
      -- One more item is begun, so the array weighs more than it did when it broke off.
      rw [hstack] at hg hrest ⊢
      refine .more (run_outweighs hrest trivial hcs.2 (.begun ((progress?_push _ _ _ _ _).trans hg) ?_))
      simp only [load, Phase.weight, List.map_cons, List.sum_cons, Frame.weight]
      omega
    | endArray =>
      refine .cons hnext ?_ (.inl rfl) (continues_close hg ?_ ?_)
      . rw [hstack, load_close]
        simp [load, Phase.weight, Json.weight]
      . simpa [braces, nesting, Phase.closers] using hbraces
      . intro rest items' hclose hg' hbraces'
        rw [hclose] at hrest
        exact ih hrest hcs.2 hg' hbraces'

theorem continues_text {stack : List Frame} {text cs : List Char}
    (h : run limit ⟨stack, .text text .none⟩ cs = some r') (hcs : '}' ∉ cs)
    (hg : progress? ⟨stack, .text text .none⟩ = some ⟨members, some key⟩)
    (hbraces : braces ⟨stack, .text text .none⟩ ≤ 1) :
    Continues limit members key ['"'] ⟨stack, .text text .none⟩ cs r' := by
  cases cs with
  | nil =>
    cases h
    exact .incomplete hg nofun
  | cons c cs =>
    rw [List.mem_cons, not_or] at hcs
    obtain ⟨frame, rest, hstack⟩ := stack_of_key hg
    dsimp only at hstack
    obtain ⟨next, hnext, hrest⟩ := run_cons_eq_some_iff.mp h
    cases move_of_step hnext with
    | space _ hphase => contradiction
    | text hscan =>
      have := length_of_scan_more hscan
      refine .more (run_outweighs hrest trivial hcs.2 (.begun ((progress?_phase rfl).trans hg) ?_))
      simp only [load, Phase.weight, Escape.weight] at this ⊢
      omega
    | endText hscan =>
      obtain ⟨-, rfl, rfl⟩ := of_scan_ended hscan
      refine .quote hnext ?_ (continues_close hg hbraces ?_)
      . rw [hstack, load_close]
        simp [load, Phase.weight, Escape.weight, Json.weight]
      . intro rest items hclose hg' hbraces'
        rw [hclose] at hrest
        exact continues_afterItem hrest hcs.2 hg' hbraces'

theorem BehindBrace.continues {cs : List Char} (hr : r.BehindBrace) (hname : r.phase.isName = false)
    (h : r.run limit cs = some r') (hcs : '}' ∉ cs) (hg : r.progress? = some ⟨members, some key⟩)
    (hbraces : r.braces ≤ 1) : Continues limit members key r.quote r cs r' := by
  cases hr with
  | text => exact continues_text h hcs hg hbraces
  | name => contradiction
  | object stack v =>
    rw [quote_close]
    cases stack with
    | nil =>
      have := key_of_nil hg
      contradiction
    | cons frame stack =>
      cases frame with
      | array items => exact continues_afterItem h hcs hg hbraces
      | member members' key' =>
        have := two_le_braces rfl hg
        exact absurd hbraces (Nat.not_le.mpr this)

theorem wrap_of_progress {frame : Frame} {stack : List Frame} {phase : Phase} (v : Json)
    (hg : progress? ⟨frame :: stack, phase⟩ = some ⟨members, some key⟩) :
    ∃ last, wrap (frame :: stack) v = .object (members ++ [(key, last)]) ∧
      (((frame :: stack).map Frame.closer).count '}' ≤ 1 →
        last.weight = v.weight + ((frame :: stack).map Frame.weight).sum) := by
  induction stack generalizing frame v with
  | nil =>
    cases frame with
    | array items => contradiction
    | member members' key' =>
      cases hg
      exact ⟨v, by simp [wrap], fun _ => rfl⟩
  | cons frame' stack ih =>
    rw [progress?_cons_cons] at hg
    rw [wrap_cons]
    obtain ⟨last, hwrap, hweight⟩ := ih (wrap [frame] v) hg
    refine ⟨last, hwrap, ?_⟩
    have hcount := one_le_count hg
    cases frame with
    | array items =>
      intro hbraces
      rw [hweight (by simpa [Frame.closer] using hbraces)]
      simp only [wrap, Json.weight, weightItems_reverse, weightItems, List.map_cons, List.sum_cons, Frame.weight]
      omega
    | member members' key' =>
      intro hbraces
      rw [List.map_cons, Frame.closer, List.count_cons_self] at hbraces
      omega

theorem key_of_cons {frame : Frame} {stack : List Frame} {phase : Phase}
    (hg : progress? ⟨frame :: stack, phase⟩ = some g) : ∃ members key, g = ⟨members, some key⟩ := by
  unfold progress? at hg
  cases hlast : (frame :: stack).getLast? with
  | none => simp at hlast
  | some last =>
    rw [hlast] at hg
    cases last with
    | array items => contradiction
    | member members key =>
      cases hg
      exact ⟨_, _, rfl⟩

theorem weight_of_wrap {frame : Frame} {stack : List Frame} {phase : Phase} {v : Json}
    (hg : progress? ⟨frame :: stack, phase⟩ = some ⟨members, some key⟩)
    (hweight : phase.closers = ['}'] ∨ phase.closers.count '}' = 0 ∧ v.weight = phase.weight) :
    ∃ last, wrap (frame :: stack) v = .object (members ++ [(key, last)]) ∧
      (braces ⟨frame :: stack, phase⟩ ≤ 1 → last.weight = load ⟨frame :: stack, phase⟩) := by
  obtain ⟨last, hobject, hsum⟩ := wrap_of_progress v hg
  refine ⟨last, hobject, ?_⟩
  intro hbraces
  cases hweight with
  | inl hphase =>
    have := two_le_braces hphase hg
    omega
  | inr hphase =>
    unfold braces nesting at hbraces
    dsimp only at hbraces
    rw [List.count_append, hphase.1, Nat.zero_add] at hbraces
    rw [hsum hbraces, hphase.2]
    rfl

/--
The completed text holds the complete members, and perhaps the one that has broken off, with the weight of what has been
read of it.
-/
theorem closed_of_progress {v : Json} (hclosed : r.closed? = some v) (hg : r.progress? = some g) (hr : r.Sound) :
    (g.key = none ∧ v = .object g.members) ∨
      ∃ key last, g.key = some key ∧ v = .object (g.members ++ [(key, last)]) ∧
        (r.braces ≤ 1 → last.weight = r.load) := by
  obtain ⟨stack, phase⟩ := r
  cases stack with
  | nil =>
    left
    refine ⟨key_of_nil hg, ?_⟩
    cases phase with
    | firstKey =>
      cases hg
      cases hclosed
      rfl
    | afterMember members =>
      cases hg
      cases hclosed
      rfl
    | done w =>
      cases hclosed
      cases v with
      | object members =>
        cases hg
        rfl
      | _ => contradiction
    | _ => contradiction
  | cons frame stack =>
    right
    obtain ⟨members, key, rfl⟩ := key_of_cons hg
    have hlast (v' : Json) (hwrap : wrap (frame :: stack) v' = v)
        (hweight : phase.closers = ['}'] ∨ phase.closers.count '}' = 0 ∧ v'.weight = phase.weight) :
        ∃ key' last, some key = some key' ∧ v = .object (members ++ [(key', last)]) ∧
          (braces ⟨frame :: stack, phase⟩ ≤ 1 → last.weight = load ⟨frame :: stack, phase⟩) := by
      obtain ⟨last, hobject, hload⟩ := weight_of_wrap hg hweight
      exact ⟨key, last, rfl, hwrap.symm.trans hobject, hload⟩
    cases phase with
    | text text escape =>
      cases escape with
      | none =>
        cases hclosed
        exact hlast _ rfl (.inr ⟨rfl, by simp [Json.weight, Phase.weight, Escape.weight]⟩)
      | _ => contradiction
    | firstItem =>
      cases hclosed
      exact hlast _ rfl (.inr ⟨rfl, rfl⟩)
    | afterItem items =>
      cases hclosed
      exact hlast _ rfl (.inr ⟨rfl, by simp [Json.weight, Phase.weight]⟩)
    | firstKey =>
      cases hclosed
      exact hlast _ rfl (.inl rfl)
    | afterMember members' =>
      cases hclosed
      exact hlast _ rfl (.inl rfl)
    | done w =>
      unfold Sound at hr
      contradiction
    | _ => contradiction

end Reader
end Json
end Triage
