import Mathlib.Data.List.Induction
import Triage.Proofs.Json.Nesting

/-!
This module contains the literals of numbers in a text: where a literal stands, and what is known of it when the reader
is inside.
-/

namespace Triage
namespace Json

/--
The position in a number behind the characters of a literal, if a number can begin with them.
-/
def Digits.read? : List Char → Option Digits
  | [] => none
  | c :: cs => (begin? c).bind fun state => cs.foldlM Reader.extend? state
where
  begin? (c : Char) : Option Digits :=
    if c = '-' then some .minus else if c.isDigit then some (.whole false [c]) else none

def numberOf? (literal : List Char) : Option Number :=
  ((Digits.read? literal).bind Reader.numeral?).bind Numeral.value?

theorem Digits.read?_append {part : List Char} {state : Digits} (h : read? part = some state) (more : List Char) :
    read? (part ++ more) = more.foldlM Reader.extend? state := by
  cases part with
  | nil => contradiction
  | cons c part =>
    unfold read? at h ⊢
    obtain ⟨first, hfirst, hpart⟩ := Option.bind_eq_some_iff.mp h
    rw [List.cons_append]
    dsimp only
    rw [hfirst, Option.bind_some, List.foldlM_append, hpart]
    rfl

theorem numberOf?_eq {literal : List Char} {state : Digits} (h : Digits.read? literal = some state) :
    numberOf? literal = (Reader.numeral? state).bind Numeral.value? := by
  unfold numberOf?
  rw [h]
  rfl

namespace Reader

/--
The containers around a value that begins at the position of a reader, with what they hold so far.
-/
def place? (r : Reader) : Option (List Frame) :=
  match r.phase with
  | .value => some r.stack
  | .firstItem => some (.array [] :: r.stack)
  | _ => none

/--
A text with the literal of a number in it. The literal belongs to the value at a place, and does not go on behind its end.
-/
structure HasLiteral (limit : Nat) (text : List Char) (place : List Frame) (literal : List Char) : Prop where
  stands : ∃ front back r, text = front ++ literal ++ back ∧ start.run limit front = some r ∧ r.place? = some place ∧
    ∀ c rest, back = c :: rest → Digits.read? (literal ++ [c]) = none

variable {limit : Nat} {r r' : Reader} {stack : List Frame} {state : Digits} {c : Char}

theorem phase_close_ne_digits (stack : List Frame) (v : Json) (state : Digits) :
    (close stack v).phase ≠ .digits state := by
  intro h
  have hbetween := isBetween_close stack v
  rw [h] at hbetween
  contradiction

theorem Move.not_digits {v : Json} (h : Move limit (close stack v) c r) : r.phase ≠ .digits state := by
  cases stack with
  | nil =>
    cases h with
    | space => simp [close]
  | cons frame stack =>
    cases frame with
    | array items =>
      cases h with
      | space => simp [close]
      | nextItem => simp
      | endArray => apply phase_close_ne_digits
    | member members key =>
      cases h with
      | space => simp [close]
      | nextMember => simp
      | endObject => apply phase_close_ne_digits

theorem Opens.into_digits (h : Opens limit stack c r) (hphase : r.phase = .digits state) :
    r.stack = stack ∧ Digits.read? [c] = some state := by
  cases h with
  | minus =>
    cases hphase
    exact ⟨rfl, rfl⟩
  | digit hdigit =>
    cases hphase
    have hminus : c ≠ '-' := by
      rintro rfl
      contradiction
    simp [Digits.read?, Digits.read?.begin?, hminus, hdigit]
  | _ => contradiction

/--
A character inside a number goes on with the number, or begins it.
-/
theorem Move.into_digits (h : Move limit r c r') (hphase : r'.phase = .digits state) :
    (∃ before, r = ⟨r'.stack, .digits before⟩ ∧ extend? before c = some state) ∨
      (r.place? = some r'.stack ∧ Digits.read? [c] = some state) := by
  cases h with
  | digits hextend =>
    cases hphase
    exact .inl ⟨_, rfl, hextend⟩
  -- The character behind a number is read once more, by the containers that the number stands in.
  | endDigits _ _ hmove => exact absurd hphase hmove.not_digits
  | space _ hbetween =>
    rw [hphase] at hbetween
    contradiction
  | value hopens =>
    obtain ⟨rfl, hread⟩ := hopens.into_digits hphase
    exact .inr ⟨rfl, hread⟩
  | firstItem hopens =>
    obtain ⟨hstack, hread⟩ := hopens.into_digits hphase
    exact .inr ⟨by rw [hstack]; rfl, hread⟩
  | endText | endWord | noItem | endArray | noMember | endObject => exact absurd hphase (phase_close_ne_digits _ _ _)
  | _ => contradiction

/--
Inside a number, what has been read ends with the first part of its literal.
-/
theorem literal_of_run {text : List Char} (h : start.run limit text = some ⟨stack, .digits state⟩) :
    ∃ front part r, text = front ++ part ∧ start.run limit front = some r ∧ r.place? = some stack ∧
      Digits.read? part = some state := by
  induction text using List.reverseRecOn generalizing state with
  | nil => simp [run, start] at h
  | append_singleton text c ih =>
    obtain ⟨mid, hmid, hstep⟩ := run_concat_eq_some_iff.mp h
    cases (move_of_step hstep).into_digits rfl with
    | inl hmore =>
      obtain ⟨before, rfl, hextend⟩ := hmore
      obtain ⟨front, part, r, rfl, hfront, hplace, hpart⟩ := ih hmid
      refine ⟨front, part ++ [c], r, by simp, hfront, hplace, ?_⟩
      rw [Digits.read?_append hpart]
      simpa using hextend
    | inr hfirst => exact ⟨text, [c], mid, rfl, hmid, hfirst⟩

end Reader
end Json
end Triage
