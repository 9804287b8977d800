import Triage.Proofs.Repair.Commas

/-!
This module contains what has been read of the outermost object of a text: its complete members, and the name of the
member whose value is read now. Members are only added, one at a time and in the order of the text.
-/

namespace Triage
namespace Json

/--
What has been read of an object.
-/
structure Progress where
  members : List (String × Json)
  key : Option String

namespace Progress

/--
How one character changes what has been read of an object: not at all, or the value of a member begins or is complete.
-/
inductive Next : Progress → Progress → Prop where
  | same {g : Progress} : Next g g
  | key {members : List (String × Json)} (key : String) : Next ⟨members, none⟩ ⟨members, some key⟩
  | value {members : List (String × Json)} {key : String} (v : Json) :
      Next ⟨members, some key⟩ ⟨members ++ [(key, v)], none⟩

/--
What has been read at an earlier point of a text: fewer members, and a name that belongs to the next one.
-/
structure Before (g g' : Progress) : Prop where
  members : g.members <+: g'.members
  key : ∀ key, g.key = some key → g' = g ∨ ∃ v, g.members ++ [(key, v)] <+: g'.members

theorem Before.refl (g : Progress) : g.Before g :=
  ⟨List.prefix_refl _, fun _ _ => .inl rfl⟩

theorem Next.before {g g' g'' : Progress} (h : g.Next g') (h' : g'.Before g'') : g.Before g'' := by
  cases h with
  | same => exact h'
  | key key => exact ⟨h'.members, by simp⟩
  | value v =>
    refine ⟨(List.prefix_append _ _).trans h'.members, ?_⟩
    intro key hkey
    cases hkey
    exact .inr ⟨v, h'.members⟩

end Progress

namespace Reader

variable {limit : Nat} {r r' : Reader} {g : Progress}

/--
What has been read of the outermost object, if a reader is in one.
-/
def progress? (r : Reader) : Option Progress :=
  match r.stack.getLast? with
  | some (.member members key) => some ⟨members.reverse, some key⟩
  | some (.array _) => none
  | none =>
    match r.phase with
    | .firstKey => some ⟨[], none⟩
    | .key members | .keyText members _ _ | .colon members _ | .afterMember members =>
      some ⟨members.reverse, none⟩
    | .done v => v.members?.map (⟨·, none⟩)
    | _ => none

@[simp]
theorem progress?_cons_cons (frame frame' : Frame) (stack : List Frame) (phase : Phase) :
    progress? ⟨frame :: frame' :: stack, phase⟩ = progress? ⟨frame' :: stack, phase⟩ := by
  simp [progress?, List.getLast?_cons_cons]

theorem progress?_cons (frame : Frame) (stack : List Frame) (phase phase' : Phase) :
    progress? ⟨frame :: stack, phase⟩ = progress? ⟨frame :: stack, phase'⟩ := by
  unfold progress?
  cases hlast : (frame :: stack).getLast? with
  | none => simp at hlast
  | some last => cases last <;> rfl

theorem progress?_push (frame frame' : Frame) (stack : List Frame) (phase phase' : Phase) :
    progress? ⟨frame' :: frame :: stack, phase'⟩ = progress? ⟨frame :: stack, phase⟩ := by
  rw [progress?_cons_cons]
  exact progress?_cons _ _ _ _

theorem progress_close {frame : Frame} {stack : List Frame} {phase : Phase} (v : Json)
    (h : progress? ⟨frame :: stack, phase⟩ = some g) :
    (close (frame :: stack) v).progress? = some g ∨
      ∃ key, g.key = some key ∧
        close (frame :: stack) v = ⟨[], .afterMember ((key, v) :: g.members.reverse)⟩ := by
  cases stack with
  | nil =>
    cases frame with
    | array items => contradiction
    | member members key =>
      right
      cases h
      exact ⟨key, rfl, by simp [close]⟩
  | cons frame' stack =>
    left
    rw [progress?_cons_cons] at h
    cases frame <;> rw [← h] <;> exact progress?_cons _ _ _ _

theorem progress?_phase {stack : List Frame} {phase phase' : Phase}
    (hnil : progress? ⟨[], phase⟩ = progress? ⟨[], phase'⟩) :
    progress? ⟨stack, phase⟩ = progress? ⟨stack, phase'⟩ := by
  cases stack with
  | nil => exact hnil
  | cons frame stack => exact progress?_cons _ _ _ _

theorem next_push {stack : List Frame} {phase : Phase} (frame : Frame) (phase' : Phase)
    (hnil : progress? ⟨[], phase⟩ = none) (h : progress? ⟨stack, phase⟩ = some g) :
    ∃ g', progress? ⟨frame :: stack, phase'⟩ = some g' ∧ g.Next g' := by
  cases stack with
  | nil =>
    rw [hnil] at h
    contradiction
  | cons frame' stack =>
    exact ⟨g, (progress?_push _ _ _ _ _).trans h, .same⟩

theorem next_close {stack : List Frame} {phase : Phase} (v : Json) (hnil : progress? ⟨[], phase⟩ = none)
    (h : progress? ⟨stack, phase⟩ = some g) : ∃ g', (close stack v).progress? = some g' ∧ g.Next g' := by
  cases stack with
  | nil =>
    rw [hnil] at h
    contradiction
  | cons frame stack =>
    cases progress_close v h with
    | inl hsame => exact ⟨g, hsame, .same⟩
    | inr hvalue =>
      obtain ⟨key, hkey, hclose⟩ := hvalue
      obtain ⟨members, _⟩ := g
      cases hkey
      rw [hclose]
      exact ⟨⟨members ++ [(key, v)], none⟩, by simp [progress?], .value v⟩

theorem progress_of_afterMember {members : List (String × Json)} {c : Char}
    (h : Move limit ⟨[], .afterMember members⟩ c r') : r'.progress? = some ⟨members.reverse, none⟩ := by
  cases h with
  | space => rfl
  | nextMember => rfl
  | endObject => rfl

theorem Opens.progress {frame : Frame} {stack : List Frame} {c : Char} (h : Opens limit (frame :: stack) c r)
    (phase : Phase) : r.progress? = progress? ⟨frame :: stack, phase⟩ := by
  cases h <;> exact progress?_cons _ _ _ _

theorem Move.progress {c : Char} (h : Move limit r c r') (hg : r.progress? = some g) :
    ∃ g', r'.progress? = some g' ∧ g.Next g' := by
  -- Only what begins or completes a value in the outermost object counts. All else has a container around it.
  induction h with
  | text => exact ⟨g, (progress?_phase rfl).trans hg, .same⟩
  | endText => exact next_close _ rfl hg
  | keyText => exact ⟨g, (progress?_phase rfl).trans hg, .same⟩
  | endKey => exact ⟨g, (progress?_phase rfl).trans hg, .same⟩
  | word => exact ⟨g, (progress?_phase rfl).trans hg, .same⟩
  | endWord => exact next_close _ rfl hg
  | digits => exact ⟨g, (progress?_phase rfl).trans hg, .same⟩
  | @endDigits stack _ _ n _ _ _ hmove ih =>
    cases stack with
    | nil => contradiction
    | cons frame stack =>
      cases progress_close (.number n) hg with
      | inl hsame => exact ih hsame
      | inr hvalue =>
        obtain ⟨key, hkey, hclose⟩ := hvalue
        rw [hclose] at hmove
        obtain ⟨members, _⟩ := g
        cases hkey
        refine ⟨_, progress_of_afterMember hmove, ?_⟩
        simp only [List.reverse_cons, List.reverse_reverse]
        exact .value _
  | space => exact ⟨g, hg, .same⟩
  | @value stack _ _ h =>
    cases stack with
    | nil => contradiction
    | cons frame stack => exact ⟨g, (h.progress _).trans hg, .same⟩
  | firstItem h =>
    obtain ⟨g', hg', hnext⟩ := next_push (.array []) .value rfl hg
    exact ⟨g', (h.progress _).trans hg', hnext⟩
  | noItem => exact next_close _ rfl hg
  | nextItem => exact next_push _ _ rfl hg
  | endArray => exact next_close _ rfl hg
  | firstKey => exact ⟨g, (progress?_phase rfl).trans hg, .same⟩
  | @noMember stack =>
    cases stack with
    | nil => exact ⟨g, hg, .same⟩
    | cons frame stack => exact next_close _ (rfl : progress? ⟨[], .value⟩ = none) ((progress?_cons _ _ _ _).trans hg)
  | key => exact ⟨g, (progress?_phase rfl).trans hg, .same⟩
  | @colon stack _ key =>
    cases stack with
    | nil =>
      cases hg
      exact ⟨_, rfl, .key key⟩
    | cons frame stack => exact next_push _ _ (rfl : progress? ⟨[], .value⟩ = none) ((progress?_cons _ _ _ _).trans hg)
  | nextMember => exact ⟨g, (progress?_phase rfl).trans hg, .same⟩
  | @endObject stack _ =>
    cases stack with
    | nil => exact ⟨g, hg, .same⟩
    | cons frame stack => exact next_close _ (rfl : progress? ⟨[], .value⟩ = none) ((progress?_cons _ _ _ _).trans hg)

theorem run_progress {cs : List Char} (h : r.run limit cs = some r') (hg : r.progress? = some g) :
    ∃ g', r'.progress? = some g' ∧ g.Before g' := by
  induction cs generalizing r g with
  | nil =>
    cases h
    exact ⟨g, hg, .refl g⟩
  | cons c cs ih =>
    obtain ⟨next, hnext, hrest⟩ := run_cons_eq_some_iff.mp h
    obtain ⟨mid, hmid, hstep⟩ := (move_of_step hnext).progress hg
    obtain ⟨g', hg', hbefore⟩ := ih hrest hmid
    exact ⟨g', hg', hstep.before hbefore⟩

theorem none_close {stack : List Frame} {phase : Phase} {v : Json} (hv : stack = [] → v.members? = none)
    (h : progress? ⟨stack, phase⟩ = none) : (close stack v).progress? = none := by
  cases stack with
  | nil =>
    unfold close progress?
    simp [hv rfl]
  | cons frame stack =>
    cases stack with
    | nil =>
      cases frame with
      | array items => rfl
      | member members key => contradiction
    | cons frame' stack =>
      rw [progress?_cons_cons] at h
      cases frame <;> rw [← h] <;> exact progress?_cons _ _ _ _

theorem none_push {stack : List Frame} {phase : Phase} (items : List Json) (phase' : Phase)
    (h : progress? ⟨stack, phase⟩ = none) : progress? ⟨.array items :: stack, phase'⟩ = none := by
  cases stack with
  | nil => rfl
  | cons frame stack => exact (progress?_push _ _ _ _ _).trans h

theorem phase_close_ne_value (stack : List Frame) (v : Json) : (close stack v).phase ≠ .value := by
  unfold close
  cases stack with
  | nil => simp
  | cons frame stack => cases frame <;> simp

theorem Move.progress_none {c : Char} (h : Move limit r c r') (hr : r.Sound) (hnone : r.progress? = none)
    (hbegun : r.stack = [] → r.phase ≠ .value) : r'.progress? = none := by
  induction h with
  | text => exact (progress?_phase rfl).trans hnone
  | endText => exact none_close (fun _ => rfl) hnone
  | keyText => exact (progress?_phase rfl).trans hnone
  | endKey => exact (progress?_phase rfl).trans hnone
  | word => exact (progress?_phase rfl).trans hnone
  | endWord => exact none_close (fun _ => hr.2) hnone
  | digits => exact (progress?_phase rfl).trans hnone
  | endDigits _ _ _ ih =>
    exact ih (sound_close _ _) (none_close (fun _ => rfl) hnone) fun _ => phase_close_ne_value _ _
  | space => exact hnone
  | @value stack _ _ h =>
    cases stack with
    | nil => exact absurd rfl (hbegun rfl)
    | cons frame stack => exact (h.progress _).trans hnone
  | firstItem h => exact (h.progress .value).trans (none_push _ _ hnone)
  | noItem => exact none_close (fun _ => rfl) hnone
  | nextItem => exact none_push _ _ hnone
  | endArray => exact none_close (fun _ => rfl) hnone
  | firstKey => exact (progress?_phase rfl).trans hnone
  | @noMember stack =>
    cases stack with
    | nil => contradiction
    | cons frame stack => exact none_close (by simp) hnone
  | key => exact (progress?_phase rfl).trans hnone
  | @colon stack _ _ =>
    cases stack with
    | nil => contradiction
    | cons frame stack => exact (progress?_push _ _ _ _ _).trans hnone
  | nextMember => exact (progress?_phase rfl).trans hnone
  | @endObject stack _ =>
    cases stack with
    | nil => contradiction
    | cons frame stack => exact none_close (by simp) hnone

theorem Move.begun {c : Char} (h : Move limit r c r') (hbegun : r.stack = [] → r.phase ≠ .value) :
    r'.stack = [] → r'.phase ≠ .value := by
  induction h with
  | endText => exact fun _ => phase_close_ne_value _ _
  | endWord => exact fun _ => phase_close_ne_value _ _
  | endDigits _ _ _ ih => exact ih fun _ => phase_close_ne_value _ _
  | space => exact hbegun
  | value h => cases h <;> simp
  | firstItem h => cases h <;> simp
  | noItem => exact fun _ => phase_close_ne_value _ _
  | endArray => exact fun _ => phase_close_ne_value _ _
  | noMember => exact fun _ => phase_close_ne_value _ _
  | endObject => exact fun _ => phase_close_ne_value _ _
  | _ => simp

theorem run_begun {cs : List Char} (h : r.run limit cs = some r') (hbegun : r.stack = [] → r.phase ≠ .value) :
    r'.stack = [] → r'.phase ≠ .value :=
  run_induction (motive := fun r => r.stack = [] → r.phase ≠ .value) (fun _ _ _ _ hr hmove => hmove.begun hr) h hbegun

theorem run_progress_none {cs : List Char} (h : r.run limit cs = some r') (hr : r.Sound)
    (hnone : r.progress? = none) (hbegun : r.stack = [] → r.phase ≠ .value) : r'.progress? = none := by
  have := run_induction (motive := fun r => r.Sound ∧ r.progress? = none ∧ (r.stack = [] → r.phase ≠ .value))
    (fun _ _ _ _ hr hmove =>
      ⟨hmove.sound hr.1, hmove.progress_none hr.1 hr.2.1 hr.2.2, hmove.begun hr.2.2⟩)
    h ⟨hr, hnone, hbegun⟩
  exact this.2.1

theorem head?_trimStart_of_progress {cs : List Char} (h : start.run limit cs = some r)
    (hg : r.progress? = some g) : (Text.trimStart cs).head? = some '{' := by
  unfold Text.trimStart
  induction cs with
  | nil =>
    cases h
    contradiction
  | cons c cs ih =>
    obtain ⟨next, hnext, hrest⟩ := run_cons_eq_some_iff.mp h
    cases move_of_step hnext with
    | space hspace =>
      rw [List.dropWhile_cons, if_pos (isBlank_of_isSpace hspace)]
      exact ih hrest
    | value hopens =>
      rw [List.dropWhile_cons, hopens.not_closer.1, if_neg Bool.false_ne_true, List.head?_cons]
      have hsome : next.progress? ≠ none := by
        intro hnone
        have hbegun : next.stack = [] → next.phase ≠ .value := by
          cases hopens <;> simp
        rw [run_progress_none hrest hopens.sound hnone hbegun] at hg
        contradiction
      cases hopens with
      | object => rfl
      | _ => exact absurd rfl hsome

theorem eq_done_of_finish {members : List (String × Json)} (hr : r.Sound)
    (h : r.finish = some (.object members)) : r = ⟨[], .done (.object members)⟩ := by
  obtain ⟨stack, phase⟩ := r
  unfold finish at h
  cases phase with
  | done v =>
    unfold Sound at hr
    dsimp only at hr
    cases h
    rw [hr]
  | digits state =>
    dsimp only at h
    split at h
    . next hclose =>
      obtain ⟨n, -, hn⟩ := closeDigits_eq_some_iff.mp hclose
      cases h
      cases stack with
      | nil => simp [close] at hn
      | cons frame stack => cases frame <;> simp [close] at hn
    . contradiction
  | _ => contradiction

theorem progress_of_finish {members : List (String × Json)} (hr : r.Sound)
    (h : r.finish = some (.object members)) : r.progress? = some ⟨members, none⟩ := by
  rw [eq_done_of_finish hr h]
  rfl

end Reader
end Json
end Triage
