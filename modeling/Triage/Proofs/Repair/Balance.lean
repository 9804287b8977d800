import Triage.Proofs.Repair.Stray
import Triage.Proofs.Repair.Strings

/-!
This module contains which texts have nothing open at their end, apart from the scan for open strings and containers, and that
the completion of a text is the shortest one that makes it such a text.
-/

namespace Triage
namespace Repair

open Json Json.Reader

/--
The brackets that open containers, each with the one that closes the container.
-/
def brackets : List (Char × Char) := [('{', '}'), ('[', ']')]

/--
Whether a text closes all strings and containers that it opens, if it stands inside of a container that ends with `innermost?`. A
closing bracket that fits nothing is text like any other.
-/
inductive Closed : (innermost? : Option Char) → List Char → Prop where
  | nil {innermost? : Option Char} : Closed innermost? []
  | plain {innermost? : Option Char} {c : Char} {cs : List Char} (hc : c ∉ ['"', '{', '[', '}', ']'])
      (hrest : Closed innermost? cs) : Closed innermost? (c :: cs)
  | unfit {innermost? : Option Char} {c : Char} {cs : List Char} (hc : c = '}' ∨ c = ']') (hne : innermost? ≠ some c)
      (hrest : Closed innermost? cs) : Closed innermost? (c :: cs)
  | string {innermost? : Option Char} {body cs : List Char} (hbody : Quoted body .outside) (hrest : Closed innermost? cs) :
      Closed innermost? ('"' :: (body ++ cs))
  | container {innermost? : Option Char} {opener closer : Char} {inner cs : List Char} (h : (opener, closer) ∈ brackets)
      (hinner : Closed (some closer) inner) (hrest : Closed innermost? cs) :
      Closed innermost? (opener :: (inner ++ closer :: cs))

variable {cs body closers : List Char} {c opener closer : Char} {n : Nesting} {place : Place}

/-! The scan, character by character. -/

theorem eq_of_mem_brackets (h : (opener, closer) ∈ brackets) :
    (opener = '{' ∧ closer = '}') ∨ (opener = '[' ∧ closer = ']') := by
  simpa [brackets] using h

namespace Nesting

theorem next_of_ne_outside (h : place ≠ .outside) (closers : List Char) (c : Char) :
    next ⟨place, closers⟩ c = ⟨place.next c, closers⟩ := by
  cases place with
  | outside => contradiction
  | inside => rfl
  | escaped => rfl

theorem next_quote (closers : List Char) : next ⟨.outside, closers⟩ '"' = ⟨.inside, closers⟩ := rfl

theorem next_of_not_mem (h : c ∉ ['"', '{', '[', '}', ']']) (closers : List Char) :
    next ⟨.outside, closers⟩ c = ⟨.outside, closers⟩ := by
  simp only [List.mem_cons, List.not_mem_nil, or_false, not_or] at h
  simp [next, Place.next, h]

theorem next_opener (h : (opener, closer) ∈ brackets) (closers : List Char) :
    next ⟨.outside, closers⟩ opener = ⟨.outside, closer :: closers⟩ := by
  rcases eq_of_mem_brackets h with ⟨rfl, rfl⟩ | ⟨rfl, rfl⟩ <;> rfl

theorem next_closer (h : isCloser closer = true) (closers : List Char) :
    next ⟨.outside, closer :: closers⟩ closer = ⟨.outside, closers⟩ := by
  rcases isCloser_eq_true_iff.mp h with rfl | rfl <;> rfl

theorem next_unfit (h : isCloser c = true) (hne : closers.head? ≠ some c) :
    next ⟨.outside, closers⟩ c = ⟨.outside, closers⟩ := by
  cases closers with
  | nil => rcases isCloser_eq_true_iff.mp h with rfl | rfl <;> rfl
  | cons d closers =>
    have hne' : c ≠ d := fun heq => hne (by rw [heq]; rfl)
    rcases isCloser_eq_true_iff.mp h with rfl | rfl <;> simp [next, Place.next, hne']

theorem after_quoted (h : Quoted body place) (closers : List Char) : after ⟨.inside, closers⟩ body = ⟨place, closers⟩ := by
  induction h with
  | close => rfl
  | nil => rfl
  | backslash => rfl
  | escape c _ ih => exact ih
  | plain hquote hslash _ ih =>
    rwa [after_cons, next_of_ne_outside (by decide), Place.next_inside hquote hslash]

theorem after_string (h : Quoted body .outside) (closers rest : List Char) :
    after ⟨.outside, closers⟩ ('"' :: (body ++ rest)) = after ⟨.outside, closers⟩ rest := by
  have hbody : after ⟨.outside, closers⟩ ('"' :: body) = ⟨.outside, closers⟩ := after_quoted h closers
  rw [← List.cons_append, after_append, hbody]

end Nesting

/-! Texts with nothing open. -/

theorem isCloser_of_mem_brackets (h : (opener, closer) ∈ brackets) : isCloser closer = true := by
  rcases eq_of_mem_brackets h with ⟨-, rfl⟩ | ⟨-, rfl⟩ <;> rfl

theorem Closed.after {innermost? : Option Char} (h : Closed innermost? cs) (closers : List Char)
    (hinnermost : closers.head? = innermost?) : Nesting.after ⟨.outside, closers⟩ cs = ⟨.outside, closers⟩ := by
  induction h generalizing closers with
  | nil => rfl
  | plain hc _ ih =>
    rw [Nesting.after_cons, Nesting.next_of_not_mem hc]
    exact ih closers hinnermost
  | unfit hc hne _ ih =>
    rw [Nesting.after_cons, Nesting.next_unfit (isCloser_eq_true_iff.mpr hc) (hinnermost ▸ hne)]
    exact ih closers hinnermost
  | string hbody _ ih =>
    rw [Nesting.after_string hbody]
    exact ih closers hinnermost
  | container h _ _ ihinner ihrest =>
    rw [Nesting.after_cons, Nesting.next_opener h, Nesting.after_append, ihinner _ rfl, Nesting.after_cons,
      Nesting.next_closer (isCloser_of_mem_brackets h)]
    exact ihrest closers hinnermost

/--
What becomes of a text that does not end further inside than it begins, where some containers are open: it closes all that it
opens, or it closes the innermost one of the containers somewhere.
-/
inductive Parted (closers final cs : List Char) : Prop where
  | stays (h : Closed closers.head? cs)
  | leaves {d : Char} {outer inner rest : List Char} (hclosers : closers = d :: outer) (hinner : Closed (some d) inner)
      (hcs : cs = inner ++ d :: rest) (hrest : Nesting.after ⟨.outside, outer⟩ rest = ⟨.outside, final⟩)

theorem Parted.append {final : List Char} (h : Parted closers final cs) (front : List Char)
    (hfront : ∀ rest, Closed closers.head? rest → Closed closers.head? (front ++ rest)) :
    Parted closers final (front ++ cs) := by
  cases h with
  | stays h => exact .stays (hfront cs h)
  | leaves hclosers hinner hcs hrest =>
    subst hclosers hcs
    exact .leaves rfl (hfront _ hinner) (List.append_assoc _ _ _).symm hrest

theorem bracket_cases (c : Char) :
    c = '"' ∨ (∃ closer, (c, closer) ∈ brackets) ∨ isCloser c = true ∨ c ∉ ['"', '{', '[', '}', ']'] := by
  simp only [brackets, isCloser, List.mem_cons, List.not_mem_nil, Prod.mk.injEq, or_false, Bool.or_eq_true,
    decide_eq_true_eq]
  grind

theorem parted_of_after {final : List Char} (h : Nesting.after ⟨.outside, closers⟩ cs = ⟨.outside, final⟩)
    (hle : final.length ≤ closers.length) : Parted closers final cs := by
  induction hlength : cs.length using Nat.strongRecOn generalizing cs closers with
  | ind n ih =>
    cases cs with
    | nil => exact .stays .nil
    | cons c cs =>
      rw [List.length_cons] at hlength
      rcases bracket_cases c with rfl | ⟨closer, hopener⟩ | hcloser | hplain
      . rcases exists_quoted cs with ⟨body, rest, hbody, rfl⟩ | ⟨place, hbody, hplace⟩
        . rw [Nesting.after_string hbody] at h
          rw [List.length_append] at hlength
          rw [← List.cons_append]
          exact (ih rest.length (by omega) h hle rfl).append _ fun _ => .string hbody
        . have hend := congrArg Nesting.place ((Nesting.after_quoted hbody closers).symm.trans h)
          exact absurd hend hplace
      . rw [Nesting.after_cons, Nesting.next_opener hopener] at h
        have hinside := ih cs.length (by omega) h (by simp; omega) rfl
        cases hinside with
        | stays hclosed =>
          -- the text would end inside of the container that it opens
          have hfinal := congrArg Nesting.closers ((hclosed.after _ rfl).symm.trans h)
          dsimp only at hfinal
          rw [← hfinal, List.length_cons] at hle
          omega
        | @leaves _ _ inner rest hclosers hinner hcs hrest =>
          obtain ⟨rfl, rfl⟩ := List.cons.inj hclosers
          subst hcs
          rw [List.length_append, List.length_cons] at hlength
          rw [List.append_cons, ← List.cons_append]
          apply (ih rest.length (by omega) hrest hle rfl).append _
          intro more hmore
          rw [List.cons_append, ← List.append_cons]
          exact .container hopener hinner hmore
      . by_cases hfits : closers.head? = some c
        . obtain ⟨outer, rfl⟩ := List.head?_eq_some_iff.mp hfits
          rw [Nesting.after_cons, Nesting.next_closer hcloser] at h
          exact .leaves rfl .nil rfl h
        . rw [Nesting.after_cons, Nesting.next_unfit hcloser hfits] at h
          exact (ih cs.length (by omega) h hle rfl).append [c]
            fun _ => .unfit (isCloser_eq_true_iff.mp hcloser) hfits
      . rw [Nesting.after_cons, Nesting.next_of_not_mem hplain] at h
        exact (ih cs.length (by omega) h hle rfl).append [c] fun _ => .plain hplain

/--
The scan ends with nothing open exactly for the texts that close all that they open.
-/
theorem closed_iff : Closed none cs ↔ Nesting.start.after cs = Nesting.start := by
  constructor
  . intro h
    exact h.after [] rfl
  . intro h
    cases parted_of_after h (Nat.le_refl _) with
    | stays h => exact h
    | leaves hclosers => contradiction

/-! What a completion has to consist of. -/

namespace Nesting

/--
The number of characters that have to follow until nothing is open.
-/
def debt (n : Nesting) : Nat :=
  match n.place with
  | .outside => n.closers.length
  | .inside => n.closers.length + 1
  | .escaped => n.closers.length + 2

theorem debt_le_next (n : Nesting) (c : Char) : n.debt ≤ (n.next c).debt + 1 := by
  obtain ⟨place, closers⟩ := n
  cases place with
  | outside =>
    rcases bracket_cases c with rfl | ⟨closer, hopener⟩ | hcloser | hplain
    . rw [next_quote]
      simp only [debt]
      omega
    . rw [next_opener hopener]
      simp only [debt, List.length_cons]
      omega
    . by_cases hfits : closers.head? = some c
      . obtain ⟨outer, rfl⟩ := List.head?_eq_some_iff.mp hfits
        rw [next_closer hcloser]
        simp [debt]
      . rw [next_unfit hcloser hfits]
        simp [debt]
    . rw [next_of_not_mem hplain]
      simp [debt]
  | inside =>
    rw [next_of_ne_outside (by decide)]
    unfold debt
    dsimp only
    cases Place.next .inside c <;> simp
  | escaped =>
    rw [next_of_ne_outside (by decide)]
    simp [debt, Place.next]

theorem debt_le_after (n : Nesting) (cs : List Char) : n.debt ≤ (n.after cs).debt + cs.length := by
  induction cs generalizing n with
  | nil => simp
  | cons c cs ih =>
    have hnext := n.debt_le_next c
    have hrest := ih (n.next c)
    rw [after_cons, List.length_cons]
    omega

theorem length_closing (h : n.place ≠ .escaped) : n.closing.length = n.debt := by
  obtain ⟨place, closers⟩ := n
  cases place with
  | outside => rfl
  | inside => rfl
  | escaped => contradiction

theorem isCloser_of_mem_next (h : ∀ d ∈ n.closers, isCloser d = true) (c : Char) :
    ∀ d ∈ (n.next c).closers, isCloser d = true := by
  obtain ⟨place, closers⟩ := n
  unfold next
  grind [isCloser]

theorem isCloser_of_mem_after (h : ∀ d ∈ n.closers, isCloser d = true) (cs : List Char) :
    ∀ d ∈ (n.after cs).closers, isCloser d = true := by
  induction cs generalizing n with
  | nil => exact h
  | cons c cs ih => exact ih (isCloser_of_mem_next h c)

theorem after_closers (h : ∀ d ∈ closers, isCloser d = true) : after ⟨.outside, closers⟩ closers = start := by
  induction closers with
  | nil => rfl
  | cons d closers ih =>
    rw [List.forall_mem_cons] at h
    rw [after_cons, next_closer h.1]
    exact ih h.2

theorem after_closing (h : n.place ≠ .escaped) (hclosers : ∀ d ∈ n.closers, isCloser d = true) :
    n.after n.closing = start := by
  obtain ⟨place, closers⟩ := n
  cases place with
  | outside => exact after_closers hclosers
  | inside => exact after_closers hclosers
  | escaped => contradiction

end Nesting

theorem after_balance (h : Place.after .outside cs ≠ .escaped) : Nesting.start.after (balance cs) = Nesting.start := by
  unfold balance
  rw [Nesting.after_append]
  apply Nesting.after_closing
  . rwa [Nesting.place_after]
  . exact Nesting.isCloser_of_mem_after (List.forall_mem_nil _) cs

theorem length_balance_le {suffix : List Char} (h : Place.after .outside cs ≠ .escaped)
    (hsuffix : Nesting.start.after (cs ++ suffix) = Nesting.start) : (balance cs).length ≤ (cs ++ suffix).length := by
  have hdebt := (Nesting.start.after cs).debt_le_after suffix
  rw [← Nesting.after_append, hsuffix] at hdebt
  unfold balance
  rw [List.length_append, List.length_append, Nesting.length_closing (by rwa [Nesting.place_after])]
  simpa [Nesting.start, Nesting.debt] using hdebt

theorem balance_eq_self_iff : balance cs = cs ↔ Closed none cs := by
  constructor
  . intro hsame
    have hnil : (Nesting.start.after cs).closing = [] := List.append_right_eq_self.mp hsame
    rw [closed_iff]
    generalize Nesting.start.after cs = n at hnil ⊢
    obtain ⟨place, closers⟩ := n
    cases place with
    | outside => rw [show closers = [] from hnil, Nesting.start]
    | inside => contradiction
    | escaped => contradiction
  . intro hclosed
    exact balance_of_after (closed_iff.mp hclosed)

theorem exists_balance_eq (cs : List Char) :
    ∃ quote closers, balance cs = cs ++ (quote ++ closers) ∧ (quote = [] ∨ quote = ['"']) ∧
      ∀ c ∈ closers, c = '}' ∨ c = ']' := by
  have hclosers : ∀ d ∈ (Nesting.start.after cs).closers, isCloser d = true :=
    Nesting.isCloser_of_mem_after (List.forall_mem_nil _) cs
  have hbrackets := fun d hd => isCloser_eq_true_iff.mp (hclosers d hd)
  unfold balance Nesting.closing
  split
  . exact ⟨[], _, rfl, .inl rfl, hbrackets⟩
  . exact ⟨['"'], _, rfl, .inr rfl, hbrackets⟩

/--
The completion of a text appends at most a quote and then closing brackets. Unless the text breaks off right behind a backslash
in a string, nothing is open afterwards, a second completion changes nothing, and no shorter text could have been appended
instead. Exactly the texts with nothing open are complete as they are, and JSON is among them.
-/
theorem balance_completes (cs : List Char) :
    (∃ quote closers, balance cs = cs ++ (quote ++ closers) ∧ (quote = [] ∨ quote = ['"']) ∧
      ∀ c ∈ closers, c = '}' ∨ c = ']') ∧
    ((¬ ∃ literals, Literals cs literals .escaped) →
      Closed none (balance cs) ∧ Nesting.start.after (balance cs) = Nesting.start ∧ balance (balance cs) = balance cs ∧
      ∀ suffix, Closed none (cs ++ suffix) → (balance cs).length ≤ (cs ++ suffix).length) ∧
    (balance cs = cs ↔ Closed none cs) ∧ ∀ limit v, readWithin limit cs = some v → balance cs = cs := by
  refine ⟨exists_balance_eq cs, ?_, balance_eq_self_iff, fun limit v => balance_of_readWithin⟩
  intro hescaped
  rw [exists_literals_iff] at hescaped
  have hafter := after_balance hescaped
  refine ⟨closed_iff.mpr hafter, hafter, balance_of_after hafter, ?_⟩
  intro suffix hsuffix
  exact length_balance_le hescaped (closed_iff.mp hsuffix)

example : balance "[\x7b\"a\":1],\"b".toList = "[\x7b\"a\":1],\"b\"\x7d]".toList := by
  decide +kernel

end Repair
end Triage
