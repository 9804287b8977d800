import Triage.Json.Reader

/-!
This module contains what one character can do to the reader of JSON text, as a relation with one rule for each
way to go on. All that is preserved by a character is proved from these rules.
-/

namespace Triage
namespace Json

/--
Whether a phase lies between the parts of a text, where blanks may stand.
-/
def Phase.isBetween : Phase → Bool
  | .keyText .. | .text .. | .digits _ | .word .. => false
  | _ => true

namespace Reader

/--
The first character of a value in a container or outside of all.
-/
inductive Opens (limit : Nat) (stack : List Frame) : Char → Reader → Prop where
  | array (h : stack.length < limit) : Opens limit stack '[' ⟨stack, .firstItem⟩
  | object (h : stack.length < limit) : Opens limit stack '{' ⟨stack, .firstKey⟩
  | text : Opens limit stack '"' ⟨stack, .text [] .none⟩
  | minus : Opens limit stack '-' ⟨stack, .digits .minus⟩
  | digit {c : Char} (h : c.isDigit = true) : Opens limit stack c ⟨stack, .digits (.whole false [c])⟩
  | word {c : Char} {rest : List Char} {v : Json} (h : c.isAlpha = true) (hrest : rest.all Char.isAlpha = true)
      (hv : v.members? = none) : Opens limit stack c ⟨stack, .word rest v⟩

/--
What a character does to the reader.
-/
inductive Move (limit : Nat) : Reader → Char → Reader → Prop where
  | text {stack : List Frame} {text text' : List Char} {escape escape' : Escape} {c : Char}
      (h : scan text escape c = .more text' escape') :
      Move limit ⟨stack, .text text escape⟩ c ⟨stack, .text text' escape'⟩
  | endText {stack : List Frame} {text text' : List Char} {escape : Escape} {c : Char}
      (h : scan text escape c = .ended text') :
      Move limit ⟨stack, .text text escape⟩ c (close stack (.string (String.ofList text'.reverse)))
  | keyText {stack : List Frame} {members : List (String × Json)} {text text' : List Char}
      {escape escape' : Escape} {c : Char} (h : scan text escape c = .more text' escape') :
      Move limit ⟨stack, .keyText members text escape⟩ c ⟨stack, .keyText members text' escape'⟩
  | endKey {stack : List Frame} {members : List (String × Json)} {text text' : List Char}
      {escape : Escape} {c : Char} (h : scan text escape c = .ended text') :
      Move limit ⟨stack, .keyText members text escape⟩ c
        ⟨stack, .colon members (String.ofList text'.reverse)⟩
  | word {stack : List Frame} {c d : Char} {rest : List Char} {v : Json} :
      Move limit ⟨stack, .word (c :: d :: rest) v⟩ c ⟨stack, .word (d :: rest) v⟩
  | endWord {stack : List Frame} {c : Char} {v : Json} :
      Move limit ⟨stack, .word [c] v⟩ c (close stack v)
  | digits {stack : List Frame} {state state' : Digits} {c : Char} (h : extend? state c = some state') :
      Move limit ⟨stack, .digits state⟩ c ⟨stack, .digits state'⟩
  | endDigits {stack : List Frame} {state : Digits} {c : Char} {n : Number} {r : Reader}
      (h : extend? state c = none) (hnumber : (numeral? state).bind Numeral.value? = some n)
      (hmove : Move limit (close stack (.number n)) c r) :
      Move limit ⟨stack, .digits state⟩ c r
  | space {r : Reader} {c : Char} (h : isSpace c = true) (hphase : r.phase.isBetween = true) :
      Move limit r c r
  | value {stack : List Frame} {c : Char} {r : Reader} (h : Opens limit stack c r) :
      Move limit ⟨stack, .value⟩ c r
  | firstItem {stack : List Frame} {c : Char} {r : Reader} (h : Opens limit (.array [] :: stack) c r) :
      Move limit ⟨stack, .firstItem⟩ c r
  | noItem {stack : List Frame} : Move limit ⟨stack, .firstItem⟩ ']' (close stack (.array []))
  | nextItem {stack : List Frame} {items : List Json} :
      Move limit ⟨stack, .afterItem items⟩ ',' ⟨.array items :: stack, .value⟩
  | endArray {stack : List Frame} {items : List Json} :
      Move limit ⟨stack, .afterItem items⟩ ']' (close stack (.array items.reverse))
  | firstKey {stack : List Frame} : Move limit ⟨stack, .firstKey⟩ '"' ⟨stack, .keyText [] [] .none⟩
  | noMember {stack : List Frame} : Move limit ⟨stack, .firstKey⟩ '}' (close stack (.object []))
  | key {stack : List Frame} {members : List (String × Json)} :
      Move limit ⟨stack, .key members⟩ '"' ⟨stack, .keyText members [] .none⟩
  | colon {stack : List Frame} {members : List (String × Json)} {key : String} :
      Move limit ⟨stack, .colon members key⟩ ':' ⟨.member members key :: stack, .value⟩
  | nextMember {stack : List Frame} {members : List (String × Json)} :
      Move limit ⟨stack, .afterMember members⟩ ',' ⟨stack, .key members⟩
  | endObject {stack : List Frame} {members : List (String × Json)} :
      Move limit ⟨stack, .afterMember members⟩ '}' (close stack (.object members.reverse))

@[simp]
theorem isBetween_close (stack : List Frame) (v : Json) : (close stack v).phase.isBetween = true := by
  unfold close
  cases stack with
  | nil => rfl
  | cons frame stack => cases frame <;> rfl

theorem opens_of_open? {limit : Nat} {stack : List Frame} {c : Char} {r : Reader}
    (h : open? limit stack c = some r) : Opens limit stack c r := by
  unfold open? opened at h
  split at h
  . split at h
    . next hlt =>
      cases h
      exact .array hlt
    . contradiction
  . split at h
    . next hlt =>
      cases h
      exact .object hlt
    . contradiction
  . cases h
    exact .text
  . cases h
    exact .minus
  . cases h
    exact .word (by decide) (by decide) rfl
  . cases h
    exact .word (by decide) (by decide) rfl
  . cases h
    exact .word (by decide) (by decide) rfl
  . split at h
    . next hdigit =>
      cases h
      exact .digit hdigit
    . contradiction

theorem move_of_between {limit : Nat} {r r' : Reader} {c : Char} (hphase : r.phase.isBetween = true)
    (h : between limit r c = some r') : Move limit r c r' := by
  obtain ⟨stack, phase⟩ := r
  unfold between at h
  split at h
  . next hspace =>
    cases h
    exact .space hspace hphase
  . cases phase with
    | value =>
      exact .value (opens_of_open? h)
    | firstItem =>
      dsimp only at h
      split at h
      . next hc =>
        cases h
        rw [hc]
        exact .noItem
      . exact .firstItem (opens_of_open? h)
    | afterItem items =>
      dsimp only at h
      split at h
      . next hc =>
        cases h
        rw [hc]
        exact .nextItem
      . split at h
        . next hc =>
          cases h
          rw [hc]
          exact .endArray
        . contradiction
    | firstKey =>
      dsimp only at h
      split at h
      . next hc =>
        cases h
        rw [hc]
        exact .noMember
      . split at h
        . next hc =>
          cases h
          rw [hc]
          exact .firstKey
        . contradiction
    | key members =>
      dsimp only at h
      split at h
      . next hc =>
        cases h
        rw [hc]
        exact .key
      . contradiction
    | colon members key =>
      dsimp only at h
      split at h
      . next hc =>
        cases h
        rw [hc]
        exact .colon
      . contradiction
    | afterMember members =>
      dsimp only at h
      split at h
      . next hc =>
        cases h
        rw [hc]
        exact .nextMember
      . split at h
        . next hc =>
          cases h
          rw [hc]
          exact .endObject
        . contradiction
    | done v => contradiction
    | keyText members text escape => contradiction
    | text text escape => contradiction
    | digits state => contradiction
    | word rest v => contradiction

theorem step_of_isBetween {limit : Nat} {r : Reader} {c : Char} (h : r.phase.isBetween = true) :
    r.step limit c = between limit r c := by
  obtain ⟨stack, phase⟩ := r
  cases phase with
  | keyText members text escape => contradiction
  | text text escape => contradiction
  | digits state => contradiction
  | word rest v => contradiction
  | _ => rfl

theorem closeDigits_eq_some_iff {stack : List Frame} {state : Digits} {r : Reader} :
    closeDigits stack state = some r ↔
      ∃ n, (numeral? state).bind Numeral.value? = some n ∧ close stack (.number n) = r := by
  unfold closeDigits
  cases numeral? state with
  | none => simp
  | some n => simp

theorem move_of_step {limit : Nat} {r r' : Reader} {c : Char} (h : r.step limit c = some r') :
    Move limit r c r' := by
  by_cases hphase : r.phase.isBetween = true
  . rw [step_of_isBetween hphase] at h
    exact move_of_between hphase h
  . obtain ⟨stack, phase⟩ := r
    cases phase with
    | text text escape =>
      cases hscan : scan text escape c with
      | more text' escape' =>
        simp only [step, hscan, Option.some.injEq] at h
        subst h
        exact .text hscan
      | ended text' =>
        simp only [step, hscan, Option.some.injEq] at h
        subst h
        exact .endText hscan
      | refused => simp [step, hscan] at h
    | keyText members text escape =>
      cases hscan : scan text escape c with
      | more text' escape' =>
        simp only [step, hscan, Option.some.injEq] at h
        subst h
        exact .keyText hscan
      | ended text' =>
        simp only [step, hscan, Option.some.injEq] at h
        subst h
        exact .endKey hscan
      | refused => simp [step, hscan] at h
    | digits state =>
      cases hextend : extend? state c with
      | some state' =>
        simp only [step, hextend, Option.some.injEq] at h
        subst h
        exact .digits hextend
      | none =>
        simp only [step, hextend, Option.bind_eq_some_iff] at h
        obtain ⟨closed, hclosed, hbetween⟩ := h
        obtain ⟨n, hn, rfl⟩ := closeDigits_eq_some_iff.mp hclosed
        exact .endDigits hextend hn (move_of_between (isBetween_close _ _) hbetween)
    | word rest v =>
      simp only [step] at h
      split at h
      . contradiction
      . split at h
        . next hc =>
          cases h
          rw [hc]
          exact .endWord
        . contradiction
      . next w rest' hne =>
        split at h
        . next hc =>
          cases h
          rw [hc]
          cases rest' with
          | nil => exact absurd rfl (hne ·)
          | cons d rest => exact .word
        . contradiction
    | _ => exact absurd rfl hphase

theorem run_cons_of_step {limit : Nat} {r next : Reader} {c : Char} {cs : List Char}
    (h : r.step limit c = some next) : r.run limit (c :: cs) = next.run limit cs := by
  rw [run, h]

theorem run_cons_eq_some_iff {limit : Nat} {r r' : Reader} {c : Char} {cs : List Char} :
    r.run limit (c :: cs) = some r' ↔ ∃ next, r.step limit c = some next ∧ next.run limit cs = some r' := by
  rw [run]
  cases r.step limit c with
  | none => simp
  | some next => simp

theorem run_append_eq_some_iff {limit : Nat} {r r' : Reader} {cs ds : List Char} :
    r.run limit (cs ++ ds) = some r' ↔ ∃ mid, r.run limit cs = some mid ∧ mid.run limit ds = some r' := by
  rw [run_append, Option.bind_eq_some_iff]

theorem run_concat_eq_some_iff {limit : Nat} {r r' : Reader} {c : Char} {cs : List Char} :
    r.run limit (cs ++ [c]) = some r' ↔ ∃ mid, r.run limit cs = some mid ∧ mid.step limit c = some r' := by
  have hlast (mid : Reader) : mid.run limit [c] = mid.step limit c := by
    rw [run]
    cases mid.step limit c <;> rfl
  simp only [run_append_eq_some_iff, hlast]

theorem run_induction {limit : Nat} {motive : Reader → Prop} {r r' : Reader} {cs : List Char}
    (hstep : ∀ r c r', c ∈ cs → motive r → Move limit r c r' → motive r')
    (h : r.run limit cs = some r') (hr : motive r) : motive r' := by
  induction cs generalizing r with
  | nil =>
    cases h
    exact hr
  | cons c cs ih =>
    obtain ⟨next, hnext, hrest⟩ := run_cons_eq_some_iff.mp h
    apply ih
    . exact fun _ _ _ hc => hstep _ _ _ (List.mem_cons_of_mem _ hc)
    . exact hrest
    . exact hstep _ _ _ List.mem_cons_self hr (move_of_step hnext)

end Reader
end Json
end Triage
