import Mathlib.Algebra.GroupWithZero.Nat
import Triage.Proofs.Json.Closing

/-!
This module contains the weight of values, which the text of a value can only add to as long as it closes no object.
-/

namespace Triage
namespace Json

mutual

/--
The number of arrays, scalars and characters in a value. An object counts as a scalar.
-/
def weight : Json → Nat
  | .array items => 1 + weightItems items
  | .string s => 1 + s.toList.length
  | .null | .bool _ | .number _ | .object _ => 1
termination_by structural v => v

def weightItems : List Json → Nat
  | [] => 0
  | v :: vs => v.weight + weightItems vs
termination_by structural vs => vs

end

mutual

@[simp]
theorem weight_canonical : (v : Json) → v.canonical.weight = v.weight
  | .array items => by
    unfold canonical weight
    rw [weightItems_canonicalItems]
  | .object members => by
    unfold canonical weight
    rfl
  | .null | .bool _ | .number _ | .string _ => rfl
termination_by structural v => v

@[simp]
theorem weightItems_canonicalItems : (vs : List Json) → weightItems (canonicalItems vs) = weightItems vs
  | [] => rfl
  | v :: vs => by
    unfold canonicalItems weightItems
    rw [weight_canonical v, weightItems_canonicalItems vs]
termination_by structural vs => vs

end

theorem one_le_weight (v : Json) : 1 ≤ v.weight := by
  cases v <;> simp [weight]

theorem weightItems_append (vs ws : List Json) : weightItems (vs ++ ws) = weightItems vs + weightItems ws := by
  induction vs with
  | nil => simp [weightItems]
  | cons v vs ih =>
    simp only [List.cons_append, weightItems, ih]
    omega

@[simp]
theorem weightItems_reverse (vs : List Json) : weightItems vs.reverse = weightItems vs := by
  induction vs with
  | nil => rfl
  | cons v vs ih =>
    rw [List.reverse_cons, weightItems_append, ih]
    simp only [weightItems]
    omega

/--
What the items of an open array weigh, and the array itself.
-/
def Frame.weight : Frame → Nat
  | .array items => 1 + weightItems items
  | .member .. => 0

/--
The characters that an escape sequence still adds to a string.
-/
def Escape.weight : Escape → Nat
  | .none => 0
  | _ => 1

theorem Escape.weight_le (escape : Escape) : escape.weight ≤ 1 := by
  cases escape <;> simp [weight]

/--
What has been read of a value. Where nothing has been read yet, this is the least weight of a value.
-/
def Phase.weight : Phase → Nat
  | .text read escape => 1 + read.length + escape.weight
  | .afterItem items => 1 + weightItems items
  | .afterMember ((_, v) :: _) => v.weight
  | _ => 1

namespace Reader

open Repair

variable {limit : Nat} {r r' : Reader} {g : Progress} {members : List (String × Json)} {key : String} {w : Nat}

/--
The weight of what has been read of the innermost member.
-/
def load (r : Reader) : Nat :=
  r.phase.weight + (r.stack.map Frame.weight).sum

/--
The number of objects that are open.
-/
def braces (r : Reader) : Nat :=
  r.nesting.closers.count '}'

@[simp]
theorem load_close (frame : Frame) (stack : List Frame) (v : Json) :
    (close (frame :: stack) v).load = v.weight + ((frame :: stack).map Frame.weight).sum := by
  unfold close load
  cases frame with
  | array items =>
    simp only [Phase.weight, weightItems, List.map_cons, List.sum_cons, Frame.weight]
    omega
  | member members key => simp [Phase.weight, Frame.weight]

@[simp]
theorem braces_close (stack : List Frame) (v : Json) :
    (close stack v).braces = (stack.map Frame.closer).count '}' := by
  unfold braces
  rw [nesting_close]

theorem count_le_next {c : Char} (hc : c ≠ '}') (n : Nesting) :
    n.closers.count '}' ≤ (n.next c).closers.count '}' := by
  obtain ⟨place, closers⟩ := n
  cases place with
  | inside => exact Nat.le_refl _
  | escaped => exact Nat.le_refl _
  | outside =>
    -- A container is opened, or a closing character takes one off that is no brace.
    unfold Nesting.next
    dsimp only
    split
    . exact List.count_le_count_cons
    . split
      . exact List.count_le_count_cons
      . split
        . split
          . next d rest =>
            split
            . next hd =>
              have hne : d ≠ '}' := by
                rw [← hd]
                exact hc
              exact Nat.le_of_eq (List.count_cons_of_ne hne)
            . exact Nat.le_refl _
          . exact Nat.le_refl _
        . exact Nat.le_refl _

theorem Move.braces_le {c : Char} (h : Move limit r c r') (hr : r.Sound) (hc : c ≠ '}') :
    r.braces ≤ r'.braces := by
  unfold braces
  rw [← h.nesting hr]
  exact count_le_next hc _

theorem one_le_count {frame : Frame} {stack : List Frame} {phase : Phase}
    (hg : progress? ⟨frame :: stack, phase⟩ = some g) :
    1 ≤ ((frame :: stack).map Frame.closer).count '}' := by
  induction stack generalizing frame with
  | nil =>
    cases frame with
    | array items => contradiction
    | member members key => exact Nat.le_refl 1
  | cons frame' stack ih =>
    rw [progress?_cons_cons] at hg
    exact Nat.le_trans (ih hg) List.count_le_count_cons

theorem count_closers_le (phase : Phase) : phase.closers.count '}' ≤ 1 := by
  cases phase <;> exact Nat.le_of_ble_eq_true rfl

theorem braces_of_none (hg : r.progress? = some ⟨members, none⟩) : r.braces ≤ 1 := by
  obtain ⟨stack, phase⟩ := r
  cases stack with
  | nil =>
    unfold braces nesting
    simpa using count_closers_le phase
  | cons frame stack =>
    unfold progress? at hg
    cases hlast : (frame :: stack).getLast? with
    | none => simp at hlast
    | some last =>
      rw [hlast] at hg
      cases last <;> cases hg

theorem key_of_nil {phase : Phase} (hg : progress? ⟨[], phase⟩ = some g) : g.key = none := by
  unfold progress? at hg
  cases phase with
  | done v =>
    dsimp only [List.getLast?_nil] at hg
    rw [Option.map_eq_some_iff] at hg
    obtain ⟨members, -, rfl⟩ := hg
    rfl
  | _ => cases hg <;> rfl

theorem stack_of_key (hg : r.progress? = some ⟨members, some key⟩) : ∃ frame stack, r.stack = frame :: stack := by
  obtain ⟨stack, phase⟩ := r
  cases stack with
  | nil =>
    have := key_of_nil hg
    contradiction
  | cons frame stack => exact ⟨frame, stack, rfl⟩

theorem two_le_braces {stack : List Frame} {phase : Phase} (hphase : phase.closers = ['}'])
    (hg : progress? ⟨stack, phase⟩ = some ⟨members, some key⟩) : 2 ≤ braces ⟨stack, phase⟩ := by
  obtain ⟨frame, rest, hstack⟩ := stack_of_key hg
  dsimp only at hstack
  rw [hstack] at hg ⊢
  have := one_le_count hg
  unfold braces nesting
  dsimp only
  rw [hphase, List.singleton_append, List.count_cons_self]
  omega

/--
Inside an inner object the outermost object stays as it is.
-/
theorem Move.inner {c : Char} (h : Move limit r c r') (hr : r.Sound) (hc : c ≠ '}') (hg : r.progress? = some g)
    (hbraces : 2 ≤ r.braces) : r'.progress? = some g ∧ 2 ≤ r'.braces := by
  have hle := h.braces_le hr hc
  obtain ⟨g', hg', hnext⟩ := h.progress hg
  refine ⟨?_, Nat.le_trans hbraces hle⟩
  cases hnext with
  | same => exact hg'
  | key key =>
    have := braces_of_none hg
    omega
  | value v =>
    have := braces_of_none hg'
    omega

/--
The value of a member, complete or not, weighs more than `w`, or an object in it is open.
-/
inductive Outweighs (members : List (String × Json)) (key : String) (w : Nat) (r : Reader) : Prop where
  | inner (hg : r.progress? = some ⟨members, some key⟩) (h : 2 ≤ r.braces)
  | begun (hg : r.progress? = some ⟨members, some key⟩) (h : w < r.load)
  | complete {g : Progress} {v : Json} (hg : r.progress? = some g)
      (hmembers : members ++ [(key, v)] <+: g.members) (h : w < v.weight)

theorem outweighs_close {stack : List Frame} {phase : Phase} {v : Json}
    (hg : progress? ⟨stack, phase⟩ = some ⟨members, some key⟩) (h : w < load ⟨stack, phase⟩)
    (hv : phase.weight ≤ v.weight) : Outweighs members key w (close stack v) := by
  obtain ⟨frame, rest, hstack⟩ := stack_of_key hg
  dsimp only at hstack
  rw [hstack] at hg h ⊢
  have hload := load_close frame rest v
  unfold load at h
  dsimp only at h
  cases progress_close v hg with
  | inl hsame =>
    refine .begun hsame ?_
    omega
  | inr hvalue =>
    obtain ⟨key', hkey, hclose⟩ := hvalue
    cases hkey
    rw [hclose] at hload ⊢
    refine .complete (g := ⟨members ++ [(key, v)], none⟩) (by simp [progress?]) (List.prefix_refl _) ?_
    simp only [load, Phase.weight, List.map_nil, List.sum_nil] at hload
    omega

theorem length_of_endUnit? {text text' : List Char} {lead : Option Nat} {unit : Nat} {escape : Escape}
    (h : endUnit? text lead unit = some (text', escape)) : text'.length + escape.weight = text.length + 1 := by
  unfold endUnit? at h
  cases lead <;> grind [Escape.weight]

theorem length_of_scan_more {text text' : List Char} {escape escape' : Escape} {c : Char}
    (h : scan text escape c = .more text' escape') : text'.length + escape'.weight = text.length + 1 := by
  unfold scan at h
  cases escape with
  | none => grind [Escape.weight]
  | backslash => grind [Escape.weight]
  | unit lead value left =>
    dsimp only at h
    split at h
    . contradiction
    . split at h
      . split at h
        . next hunit =>
          cases h
          exact length_of_endUnit? hunit
        . contradiction
      . cases h
        rfl
  | pair lead => grind [Escape.weight]
  | pairBackslash lead => grind [Escape.weight]

theorem Opens.load {stack : List Frame} {c : Char} (h : Opens limit stack c r) :
    r.load = 1 + (stack.map Frame.weight).sum := by
  cases h <;> rfl

theorem Move.outweighs_complete {c : Char} {v : Json} (h : Move limit r c r') (hg : r.progress? = some g)
    (hmembers : members ++ [(key, v)] <+: g.members) (hw : w < v.weight) : Outweighs members key w r' := by
  obtain ⟨g', hg', hnext⟩ := h.progress hg
  exact .complete hg' (hmembers.trans (hnext.before (.refl g')).members) hw

theorem Move.outweighs_begun {c : Char} (h : Move limit r c r') (hg : r.progress? = some ⟨members, some key⟩)
    (hbraces : r.braces ≤ 1) (hw : w < r.load) : Outweighs members key w r' := by
  induction h with
  | @text _ _ _ escape _ _ h =>
    have := length_of_scan_more h
    refine .begun ((progress?_phase rfl).trans hg) ?_
    simp only [Reader.load, Phase.weight] at hw ⊢
    have := Escape.weight_le escape
    omega
  | endText h =>
    obtain ⟨rfl, -, rfl⟩ := of_scan_ended h
    refine outweighs_close hg hw ?_
    simp [Phase.weight, Escape.weight, Json.weight]
  | word => exact .begun ((progress?_phase rfl).trans hg) hw
  | endWord => exact outweighs_close hg hw (one_le_weight _)
  | digits => exact .begun ((progress?_phase rfl).trans hg) hw
  | endDigits _ _ hmove ih =>
    cases outweighs_close hg hw (one_le_weight _) with
    | inner hg h =>
      rw [braces_close] at h
      exact absurd hbraces (Nat.not_le.mpr h)
    | begun hg h => exact ih hg (by rwa [braces_close]) h
    | complete hg hmembers hw => exact hmove.outweighs_complete hg hmembers hw
  | space => exact .begun hg hw
  | @value stack _ _ h =>
    obtain ⟨frame, rest, rfl⟩ := stack_of_key hg
    exact .begun ((h.progress _).trans hg) (by rwa [h.load])
  | @firstItem stack _ _ h =>
    obtain ⟨frame, rest, rfl⟩ := stack_of_key hg
    refine .begun ((h.progress .value).trans ((progress?_push _ _ _ _ _).trans hg)) ?_
    rw [h.load]
    simp only [Reader.load, Phase.weight, List.map_cons, List.sum_cons, Frame.weight, weightItems] at hw ⊢
    omega
  | noItem => exact outweighs_close hg hw (Nat.le_refl _)
  | @nextItem stack _ =>
    obtain ⟨frame, rest, rfl⟩ := stack_of_key hg
    refine .begun ((progress?_push _ _ _ _ _).trans hg) ?_
    simp only [Reader.load, Phase.weight, List.map_cons, List.sum_cons, Frame.weight] at hw ⊢
    omega
  | endArray =>
    refine outweighs_close hg hw ?_
    simp [Phase.weight, Json.weight]
  | _ =>
    -- What is left stands inside of an object in the value of the member.
    have := two_le_braces rfl hg
    omega

theorem Move.outweighs {c : Char} (h : Move limit r c r') (hr : r.Sound) (hc : c ≠ '}')
    (hw : Outweighs members key w r) : Outweighs members key w r' := by
  cases hw with
  | inner hg hbraces =>
    obtain ⟨hg', hbraces'⟩ := h.inner hr hc hg hbraces
    exact .inner hg' hbraces'
  | begun hg hw =>
    by_cases hbraces : 2 ≤ r.braces
    . obtain ⟨hg', hbraces'⟩ := h.inner hr hc hg hbraces
      exact .inner hg' hbraces'
    . exact h.outweighs_begun hg (by omega) hw
  | complete hg hmembers hw => exact h.outweighs_complete hg hmembers hw

theorem run_outweighs {cs : List Char} (h : r.run limit cs = some r') (hr : r.Sound) (hcs : '}' ∉ cs)
    (hw : Outweighs members key w r) : Outweighs members key w r' := by
  have := run_induction (motive := fun r => r.Sound ∧ Outweighs members key w r)
    (fun _ c _ hc hw hmove =>
      ⟨hmove.sound hw.1, hmove.outweighs hw.1 (ne_of_mem_of_not_mem hc hcs) hw.2⟩)
    h ⟨hr, hw⟩
  exact this.2

theorem run_inner {cs : List Char} (h : r.run limit cs = some r') (hr : r.Sound) (hcs : '}' ∉ cs)
    (hg : r.progress? = some g) (hbraces : 2 ≤ r.braces) : r'.progress? = some g := by
  have := run_induction (motive := fun r => r.Sound ∧ r.progress? = some g ∧ 2 ≤ r.braces)
    (fun _ c _ hc hg hmove =>
      ⟨hmove.sound hg.1, hmove.inner hg.1 (ne_of_mem_of_not_mem hc hcs) hg.2.1 hg.2.2⟩)
    h ⟨hr, hg, hbraces⟩
  exact this.2.1

end Reader
end Json
end Triage
