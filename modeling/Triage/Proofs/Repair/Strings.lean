import Triage.Repair.Place

/-!
This module contains the string literals of a text, apart from the scan for quotes and backslashes: what a literal is made of,
which ones a text has, and where the text ends. Every text has them in one way only, and the scan agrees with them.
-/

namespace Triage
namespace Repair

/--
What can stand behind an opening quote, with the place of its end: the rest of a string up to its closing quote, or the part of
it that a text which breaks off has. A backslash takes the character behind it along.
-/
inductive Quoted : List Char → Place → Prop where
  | close : Quoted ['"'] .outside
  | nil : Quoted [] .inside
  | backslash : Quoted ['\\'] .escaped
  | escape (c : Char) {cs : List Char} {place : Place} (hrest : Quoted cs place) : Quoted ('\\' :: c :: cs) place
  | plain {c : Char} {cs : List Char} {place : Place} (hquote : c ≠ '"') (hslash : c ≠ '\\') (hrest : Quoted cs place) :
      Quoted (c :: cs) place

/--
The string literals of a text in their order, with their quotes, and the place of its end. Only the last one may be broken off.
-/
inductive Literals : List Char → List (List Char) → Place → Prop where
  | nil : Literals [] [] .outside
  | plain {c : Char} {cs : List Char} {literals : List (List Char)} {place : Place} (hc : c ≠ '"')
      (hrest : Literals cs literals place) : Literals (c :: cs) literals place
  | closed {body cs : List Char} {literals : List (List Char)} {place : Place} (hbody : Quoted body .outside)
      (hrest : Literals cs literals place) : Literals ('"' :: (body ++ cs)) (('"' :: body) :: literals) place
  | broken {body : List Char} {place : Place} (hbody : Quoted body place) (hplace : place ≠ .outside) :
      Literals ('"' :: body) ['"' :: body] place

variable {cs body : List Char} {literals : List (List Char)} {place : Place}

theorem Place.next_outside {c : Char} (h : c ≠ '"') : Place.next .outside c = .outside :=
  if_neg h

theorem Place.next_inside {c : Char} (hquote : c ≠ '"') (hslash : c ≠ '\\') : Place.next .inside c = .inside := by
  unfold Place.next
  dsimp only
  rw [if_neg hslash, if_neg hquote]

theorem Quoted.after (h : Quoted body place) : Place.after .inside body = place := by
  induction h with
  | close => rfl
  | nil => rfl
  | backslash => rfl
  | escape c _ ih => exact ih
  | plain hquote hslash _ ih => rwa [Place.after_cons, Place.next_inside hquote hslash]

/--
Behind an opening quote, a text either closes the string or breaks off in it.
-/
theorem exists_quoted (cs : List Char) :
    (∃ body rest, Quoted body .outside ∧ cs = body ++ rest) ∨ ∃ place, Quoted cs place ∧ place ≠ .outside := by
  match cs with
  | [] => exact .inr ⟨.inside, .nil, by decide⟩
  | c :: cs =>
    by_cases hquote : c = '"'
    . exact .inl ⟨['"'], cs, .close, by rw [hquote]; rfl⟩
    . by_cases hslash : c = '\\'
      . subst hslash
        match cs with
        | [] => exact .inr ⟨.escaped, .backslash, by decide⟩
        | d :: cs =>
          rcases exists_quoted cs with ⟨body, rest, hbody, rfl⟩ | ⟨place, hbody, hplace⟩
          . exact .inl ⟨_, rest, .escape d hbody, rfl⟩
          . exact .inr ⟨place, .escape d hbody, hplace⟩
      . rcases exists_quoted cs with ⟨body, rest, hbody, rfl⟩ | ⟨place, hbody, hplace⟩
        . exact .inl ⟨_, rest, .plain hquote hslash hbody, rfl⟩
        . exact .inr ⟨place, .plain hquote hslash hbody, hplace⟩

theorem Literals.after (h : Literals cs literals place) : Place.after .outside cs = place := by
  induction h with
  | nil => rfl
  | plain hc _ ih => rwa [Place.after_cons, Place.next_outside hc]
  | @closed body cs _ _ hbody _ ih =>
    have hclosed : Place.after .outside ('"' :: body) = .outside := hbody.after
    rwa [← List.cons_append, Place.after_append, hclosed]
  | broken hbody _ => exact hbody.after

theorem exists_literals (cs : List Char) : ∃ literals, Literals cs literals (Place.after .outside cs) := by
  suffices ∃ literals place, Literals cs literals place by
    obtain ⟨literals, place, h⟩ := this
    exact ⟨literals, h.after ▸ h⟩
  induction hlength : cs.length using Nat.strongRecOn generalizing cs with
  | ind n ih =>
    cases cs with
    | nil => exact ⟨[], _, .nil⟩
    | cons c cs =>
      rw [List.length_cons] at hlength
      by_cases hc : c = '"'
      . subst hc
        rcases exists_quoted cs with ⟨body, rest, hbody, rfl⟩ | ⟨place, hbody, hplace⟩
        . rw [List.length_append] at hlength
          obtain ⟨literals, place, hliterals⟩ := ih rest.length (by omega) rest rfl
          exact ⟨_, place, .closed hbody hliterals⟩
        . exact ⟨_, place, .broken hbody hplace⟩
      . obtain ⟨literals, place, hliterals⟩ := ih cs.length (by omega) cs rfl
        exact ⟨literals, place, .plain hc hliterals⟩

theorem exists_literals_iff : (∃ literals, Literals cs literals place) ↔ Place.after .outside cs = place := by
  constructor
  . rintro ⟨literals, h⟩
    exact h.after
  . rintro rfl
    exact exists_literals cs

/--
The end of a string is where its first closing quote is.
-/
theorem Quoted.append_inj {body' rest rest' : List Char} (h : Quoted body .outside) (h' : Quoted body' place)
    (hend : place ≠ .outside → rest' = []) (heq : body ++ rest = body' ++ rest') : body = body' ∧ rest = rest' := by
  generalize hplace : Place.outside = closed at h
  induction h generalizing body' with
  | close =>
    cases h' with
    | close => simpa using heq
    | nil =>
      rw [hend (by decide)] at heq
      contradiction
    | backslash => simp at heq
    | escape => simp at heq
    | plain hquote => exact absurd (List.cons.inj heq).1.symm hquote
  | nil => contradiction
  | backslash => contradiction
  | escape c _ ih =>
    cases h' with
    | close => simp at heq
    | nil =>
      rw [hend (by decide)] at heq
      contradiction
    | backslash =>
      rw [hend (by decide)] at heq
      simp at heq
    | escape d hrest' =>
      simp only [List.cons_append, List.cons.injEq, true_and] at heq
      obtain ⟨rfl, hrest⟩ := ih hrest' heq.2 hplace
      exact ⟨by rw [heq.1], hrest⟩
    | plain _ hslash => exact absurd (List.cons.inj heq).1.symm hslash
  | plain hquote hslash _ ih =>
    cases h' with
    | close => exact absurd (List.cons.inj heq).1 hquote
    | nil =>
      rw [hend (by decide)] at heq
      contradiction
    | backslash => exact absurd (List.cons.inj heq).1 hslash
    | escape => exact absurd (List.cons.inj heq).1 hslash
    | plain _ _ hrest' =>
      simp only [List.cons_append, List.cons.injEq] at heq
      obtain ⟨rfl, hrest⟩ := ih hrest' heq.2 hplace
      exact ⟨by rw [heq.1], hrest⟩

theorem Quoted.eq_outside {rest : List Char} (h : Quoted body .outside) (h' : Quoted (body ++ rest) place) :
    place = .outside := by
  apply Classical.byContradiction
  intro hplace
  obtain ⟨hbody, -⟩ := h.append_inj h' (fun _ => rfl) (List.append_nil _).symm
  rw [← hbody] at h'
  exact hplace (h'.after.symm.trans h.after)

theorem Literals.unique {literals' : List (List Char)} {place' : Place} (h : Literals cs literals place)
    (h' : Literals cs literals' place') : literals = literals' := by
  induction h generalizing literals' with
  | nil =>
    cases h'
    rfl
  | plain hc _ ih =>
    cases h' with
    | plain _ hrest' => exact ih hrest'
    | closed => exact absurd rfl hc
    | broken => exact absurd rfl hc
  | closed hbody _ ih =>
    generalize htext : '"' :: _ = text at h'
    cases h' with
    | nil => contradiction
    | plain hc => exact absurd (List.cons.inj htext).1.symm hc
    | closed hbody' hrest' =>
      obtain ⟨rfl, rfl⟩ := hbody.append_inj hbody' (fun hplace => absurd rfl hplace) (List.cons.inj htext).2
      rw [ih hrest']
    | broken hbody' hplace' =>
      rw [← (List.cons.inj htext).2] at hbody'
      exact absurd (hbody.eq_outside hbody') hplace'
  | broken hbody hplace =>
    generalize htext : '"' :: _ = text at h'
    cases h' with
    | nil => contradiction
    | plain hc => exact absurd (List.cons.inj htext).1.symm hc
    | closed hbody' _ =>
      rw [(List.cons.inj htext).2] at hbody
      exact absurd (hbody'.eq_outside hbody) hplace
    | broken =>
      cases htext
      rfl

end Repair
end Triage
