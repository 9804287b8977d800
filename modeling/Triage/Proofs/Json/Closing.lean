import Triage.Proofs.Json.Progress

/-!
This module contains the value of a text that is broken off and completed: what is open at its end is closed there,
the innermost container first.
-/

namespace Triage
namespace Json

def Phase.isName : Phase → Bool
  | .keyText .. => true
  | _ => false

namespace Reader

variable {limit : Nat} {r r' : Reader} {g : Progress} {v : Json}

/--
A value in the containers around it, with nothing behind it.
-/
def wrap : List Frame → Json → Json
  | [], v => v
  | .array items :: stack, v => wrap stack (.array (v :: items).reverse)
  | .member members key :: stack, v => wrap stack (.object ((key, v) :: members).reverse)

/--
The value of a text if it is completed at the position of a reader, where it can be.
-/
def closed? (r : Reader) : Option Json :=
  match r.phase with
  | .text text .none => some (wrap r.stack (.string (String.ofList text.reverse)))
  | .firstItem => some (wrap r.stack (.array []))
  | .afterItem items => some (wrap r.stack (.array items.reverse))
  | .firstKey => some (wrap r.stack (.object []))
  | .afterMember members => some (wrap r.stack (.object members.reverse))
  | .done v => some v
  | _ => none

@[simp]
theorem closed?_close (stack : List Frame) (v : Json) : (close stack v).closed? = some (wrap stack v) := by
  unfold close
  cases stack with
  | nil => rfl
  | cons frame stack => cases frame <;> rfl

theorem step_closer (frame : Frame) (stack : List Frame) (v : Json) :
    (close (frame :: stack) v).step limit frame.closer = some (close stack (wrap [frame] v)) := by
  cases frame <;> rfl

theorem wrap_cons (frame : Frame) (stack : List Frame) (v : Json) :
    wrap (frame :: stack) v = wrap stack (wrap [frame] v) := by
  cases frame <;> rfl

theorem run_closers (stack : List Frame) (v : Json) :
    (close stack v).run limit (stack.map Frame.closer) = some ⟨[], .done (wrap stack v)⟩ := by
  induction stack generalizing v with
  | nil => rfl
  | cons frame stack ih =>
    rw [List.map_cons, run, step_closer, wrap_cons frame stack v]
    exact ih _

theorem run_closing (hr : r.Sound) (h : r.closed? = some v) :
    r.run limit r.nesting.closing = some ⟨[], .done v⟩ := by
  obtain ⟨stack, phase⟩ := r
  unfold closed? at h
  cases phase with
  | text text escape =>
    cases escape with
    | none =>
      cases h
      exact run_closers stack _
    | _ => contradiction
  | firstItem =>
    cases h
    exact run_closers stack _
  | afterItem items =>
    cases h
    exact run_closers stack _
  | firstKey =>
    cases h
    exact run_closers stack _
  | afterMember members =>
    cases h
    exact run_closers stack _
  | done w =>
    unfold Sound at hr
    dsimp only at hr
    cases h
    rw [hr]
    rfl
  | _ => contradiction

theorem run_closing_of_keyText {stack : List Frame} {members : List (String × Json)} {text : List Char} :
    run limit ⟨stack, .keyText members text .none⟩ (nesting ⟨stack, .keyText members text .none⟩).closing =
      none := rfl

/--
Closing brackets and blanks outside of strings do not change the value of the completed text.
-/
theorem Move.closed {c : Char} (h : Move limit r c r') (hplace : r.phase.place = .outside)
    (hc : c = ']' ∨ isSpace c = true) (hclosed : r.closed? = some v) : r'.closed? = some v := by
  cases h with
  | text => exact absurd hplace (place_ne_outside _)
  | endText => exact absurd hplace (place_ne_outside _)
  | space => exact hclosed
  | firstItem h =>
    have := h.not_closer
    cases hc with
    | inl hc =>
      rw [hc] at this
      exact absurd this.2 (by decide)
    | inr hspace =>
      rw [isBlank_of_isSpace hspace] at this
      exact absurd this.1 (by decide)
  | noItem => rwa [closed?_close]
  | endArray => rwa [closed?_close]
  | nextItem => exact absurd hc (by decide)
  | firstKey => exact absurd hc (by decide)
  | noMember => exact absurd hc (by decide)
  | nextMember => exact absurd hc (by decide)
  | endObject => exact absurd hc (by decide)
  | _ => contradiction

theorem run_closed {cs : List Char} (h : r.run limit cs = some r') (hr : r.Sound)
    (hplace : r.phase.place = .outside) (hcs : ∀ c ∈ cs, c = ']' ∨ isSpace c = true)
    (hclosed : r.closed? = some v) : r'.closed? = some v := by
  have := run_induction (motive := fun r => r.Sound ∧ r.phase.place = .outside ∧ r.closed? = some v)
    (fun r c r' hc ⟨hr, hplace, hclosed⟩ hmove => by
      refine ⟨hmove.sound hr, ?_, hmove.closed hplace (hcs c hc) hclosed⟩
      have hquote : c ≠ '"' := by
        rintro rfl
        exact absurd (hcs _ hc) (by decide)
      rw [← hmove.place hr, hplace]
      exact if_neg hquote)
    h ⟨hr, hplace, hclosed⟩
  exact this.2.2

/--
Where a reader is right behind a closing brace: in a string, in a name, or behind an object.
-/
inductive BehindBrace : Reader → Prop where
  | text (stack : List Frame) (text : List Char) : BehindBrace ⟨stack, .text text .none⟩
  | name (stack : List Frame) (members : List (String × Json)) (text : List Char) :
      BehindBrace ⟨stack, .keyText members text .none⟩
  | object (stack : List Frame) (v : Json) : BehindBrace (close stack v)

theorem escape_of_scan_brace {text text' : List Char} {escape escape' : Escape}
    (h : scan text escape '}' = .more text' escape') : escape' = .none := by
  cases escape with
  | none =>
    cases h
    rfl
  | _ => contradiction

theorem Move.behindBrace {c : Char} (h : Move limit r c r') (hr : r.Sound) (hc : c = '}') : r'.BehindBrace := by
  induction h with
  | text h =>
    rw [hc] at h
    rw [escape_of_scan_brace h]
    exact .text _ _
  | keyText h =>
    rw [hc] at h
    rw [escape_of_scan_brace h]
    exact .name _ _ _
  | endText h => exact .object _ _
  | endKey h =>
    obtain ⟨-, rfl, -⟩ := of_scan_ended h
    contradiction
  | word =>
    unfold Sound at hr
    simp [hc] at hr
  | endWord => exact .object _ _
  | digits h =>
    subst hc
    rcases mem_of_extend? h with h | h <;> simp at h
  | endDigits _ _ _ ih => exact ih (sound_close _ _) hc
  | space h =>
    subst hc
    contradiction
  | value h =>
    subst hc
    cases h <;> contradiction
  | firstItem h =>
    subst hc
    cases h <;> contradiction
  | noMember => exact .object _ _
  | endObject => exact .object _ _
  | _ => contradiction

/--
The quote that ends the string that a reader is in.
-/
def quote (r : Reader) : List Char :=
  if r.phase.place = .outside then [] else ['"']

/--
Whether a text does nothing but close the string that a reader is in, and arrays. It may be empty.
-/
def ClosedBy (r : Reader) (cs : List Char) : Prop :=
  cs = [] ∨ ∃ brackets, cs = r.quote ++ brackets ∧ ∀ c ∈ brackets, c = ']' ∨ isSpace c = true

theorem place_close (stack : List Frame) (v : Json) : (close stack v).phase.place = .outside :=
  Phase.place_of_isBetween (isBetween_close stack v)

theorem quote_close (stack : List Frame) (v : Json) : (close stack v).quote = [] := by
  unfold quote
  rw [place_close, if_pos rfl]

theorem isName_close (stack : List Frame) (v : Json) : (close stack v).phase.isName = false := by
  unfold close
  cases stack with
  | nil => rfl
  | cons frame stack => cases frame <;> rfl

theorem BehindBrace.begun (h : r.BehindBrace) : r.stack = [] → r.phase ≠ .value := by
  cases h with
  | text => simp
  | name => simp
  | object stack v => exact fun _ => phase_close_ne_value stack v

theorem BehindBrace.closed (h : r.BehindBrace) (hname : r.phase.isName = false) : ∃ v, r.closed? = some v := by
  cases h with
  | text => exact ⟨_, rfl⟩
  | name => contradiction
  | object stack v => exact ⟨_, closed?_close stack v⟩

theorem BehindBrace.of_run_closing (h : r.BehindBrace) (hr : r.Sound)
    (hfinish : (r.run limit r.nesting.closing).bind finish = some v) :
    r.phase.isName = false ∧ r.closed? = some v := by
  have hname : r.phase.isName = false := by
    cases h with
    | text => rfl
    | name =>
      rw [run_closing_of_keyText] at hfinish
      contradiction
    | object stack v' => exact isName_close stack v'
  obtain ⟨w, hclosed⟩ := h.closed hname
  rw [run_closing hr hclosed] at hfinish
  cases hfinish
  exact ⟨hname, hclosed⟩

theorem ClosedBy.closed {cs : List Char} (h : r.ClosedBy cs) (hr : r.BehindBrace) (hrun : r.run limit cs = some r')
    (hclosed : r.closed? = some v) : r'.closed? = some v := by
  rcases h with rfl | ⟨brackets, rfl, hbrackets⟩
  . cases hrun
    exact hclosed
  . cases hr with
    | text stack text =>
      have hquote : run limit (close stack (.string (String.ofList text.reverse))) brackets = some r' := hrun
      cases hclosed
      exact run_closed hquote (sound_close _ _) (place_close _ _) hbrackets (closed?_close _ _)
    | name => contradiction
    | object stack v' =>
      rw [quote_close, List.nil_append] at hrun
      exact run_closed hrun (sound_close _ _) (place_close _ _) hbrackets hclosed

end Reader
end Json
end Triage
