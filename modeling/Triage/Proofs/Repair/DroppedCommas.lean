import Triage.Proofs.Repair.Stray
import Triage.Proofs.Repair.Strings

/-!
This module contains which characters of a text are dropped with its trailing commas, by their positions, and that nothing else
of the text changes: its string literals stay as they are, and so does the place where it ends.
-/

namespace Triage
namespace Repair

open Text Json Json.Reader

/--
Whether a text has a trailing comma behind `front`: the comma stands outside of strings, and a closing bracket follows it with
nothing but `blanks` between them.
-/
structure TrailingComma (cs front blanks : List Char) : Prop where
  outside : ∃ literals, Literals front literals .outside
  blank : ∀ b ∈ blanks, isBlank b = true
  closes : ∃ c back, (c = '}' ∨ c = ']') ∧ cs = front ++ ',' :: (blanks ++ c :: back)

/--
Whether a position is that of a trailing comma or of a blank behind it.
-/
def Dropped (cs : List Char) (k : Nat) : Prop :=
  ∃ front blanks, TrailingComma cs front blanks ∧ front.length ≤ k ∧ k ≤ front.length + blanks.length

/--
Whether a text ends with a comma that stands outside of strings, and blanks.
-/
def EndsWithComma (cs : List Char) : Prop :=
  ∃ front blanks, cs = front ++ ',' :: blanks ∧ Place.after .outside front = .outside ∧ ∀ b ∈ blanks, isBlank b = true

variable {cs front blanks : List Char} {c : Char} {skipping : Bool}

theorem closesNext_iff : closesNext cs = true ↔
    ∃ blanks c back, (∀ b ∈ blanks, isBlank b = true) ∧ isCloser c = true ∧ cs = blanks ++ c :: back := by
  constructor
  . intro h
    induction cs with
    | nil => contradiction
    | cons c cs ih =>
      unfold closesNext at h
      split at h
      . next hc =>
        obtain ⟨blanks, d, back, hblanks, hd, rfl⟩ := ih h
        exact ⟨c :: blanks, d, back, by simpa [hc] using hblanks, hd, rfl⟩
      . exact ⟨[], c, cs, by simp, h, rfl⟩
  . rintro ⟨blanks, c, back, hblanks, hc, rfl⟩
    induction blanks with
    | nil =>
      rw [List.nil_append, closesNext, isBlank_of_isCloser hc]
      exact hc
    | cons b blanks ih =>
      rw [List.forall_mem_cons] at hblanks
      rw [List.cons_append, closesNext, if_pos hblanks.1]
      exact ih hblanks.2

theorem closesNext_cons_of_isBlank (h : isBlank c = true) (cs : List Char) : closesNext (c :: cs) = closesNext cs :=
  if_pos h

theorem Place.next_of_isBlank (h : isBlank c = true) : Place.next .outside c = .outside := by
  apply Place.next_outside
  rintro rfl
  contradiction

theorem Place.after_of_isBlank (h : ∀ b ∈ blanks, isBlank b = true) : Place.after .outside blanks = .outside := by
  have hquote : '"' ∉ blanks := by
    intro hmem
    have := h '"' hmem
    contradiction
  exact (after_eq_outside hquote).mpr rfl

theorem EndsWithComma.place (h : EndsWithComma cs) : Place.after .outside cs = .outside := by
  obtain ⟨front, blanks, rfl, hplace, hblanks⟩ := h
  rw [Place.after_append, hplace, Place.after_cons]
  exact Place.after_of_isBlank hblanks

theorem endsWithComma_concat : EndsWithComma (front ++ [c]) ↔
    (Place.after .outside front = .outside ∧ c = ',') ∨ (isBlank c = true ∧ EndsWithComma front) := by
  constructor
  . rintro ⟨before, blanks, heq, hplace, hblanks⟩
    rcases List.eq_nil_or_concat blanks with rfl | ⟨blanks, b, rfl⟩
    . obtain ⟨rfl, hc⟩ := List.append_inj' heq rfl
      exact .inl ⟨hplace, (List.cons.inj hc).1⟩
    . rw [List.concat_eq_append, ← List.cons_append, ← List.append_assoc] at heq
      obtain ⟨rfl, hc⟩ := List.append_inj' heq rfl
      rw [List.concat_eq_append] at hblanks
      refine .inr ⟨?_, before, blanks, rfl, hplace, fun b hb => hblanks b (List.mem_append_left _ hb)⟩
      rw [(List.cons.inj hc).1]
      exact hblanks b (by simp)
  . rintro (⟨hplace, rfl⟩ | ⟨hc, before, blanks, rfl, hplace, hblanks⟩)
    . exact ⟨front, [], rfl, hplace, by simp⟩
    . refine ⟨before, blanks ++ [c], by simp, hplace, ?_⟩
      intro b hb
      rcases List.mem_append.mp hb with hb | hb
      . exact hblanks b hb
      . rw [List.mem_singleton.mp hb]
        exact hc

/--
A character is dropped if the text up to it ends with a comma and blanks, and what follows closes a container.
-/
theorem dropped_iff : Dropped (front ++ c :: cs) front.length ↔ EndsWithComma (front ++ [c]) ∧ closesNext cs = true := by
  constructor
  . rintro ⟨before, blanks, ⟨⟨literals, houtside⟩, hblanks, d, back, hd, heq⟩, hle, hlt⟩
    -- the blanks in front of the position, and those behind it
    have hsplit : (front ++ [c]) ++ cs = (before ++ ',' :: blanks.take (front.length - before.length)) ++
        (blanks.drop (front.length - before.length) ++ d :: back) := by
      rw [← List.append_cons, heq, List.append_assoc, List.cons_append, ← List.append_assoc (List.take _ _),
        List.take_append_drop]
    obtain ⟨hfront, hcs⟩ := List.append_inj hsplit (by simp; omega)
    rw [hfront, hcs]
    refine ⟨⟨before, _, rfl, houtside.after, fun b hb => hblanks b (List.mem_of_mem_take hb)⟩, ?_⟩
    exact closesNext_iff.mpr
      ⟨_, d, back, fun b hb => hblanks b (List.mem_of_mem_drop hb), isCloser_eq_true_iff.mpr hd, rfl⟩
  . rintro ⟨⟨before, blanks, heq, hplace, hblanks⟩, hcloses⟩
    obtain ⟨more, d, back, hmore, hd, rfl⟩ := closesNext_iff.mp hcloses
    have hlength := congrArg List.length heq
    simp only [List.length_append, List.length_cons, List.length_nil] at hlength
    refine ⟨before, blanks ++ more, ⟨exists_literals_iff.mpr hplace, ?_, d, back, isCloser_eq_true_iff.mp hd, ?_⟩, ?_, ?_⟩
    . intro b hb
      rcases List.mem_append.mp hb with hb | hb
      . exact hblanks b hb
      . exact hmore b hb
    . rw [List.append_cons, heq]
      simp
    . omega
    . rw [List.length_append]
      omega

/--
One character of the removal: it goes if it is dropped by its position, and else it stays.
-/
theorem dropCommas_go_cons (hskipping : skipping = true ↔ EndsWithComma front ∧ closesNext (c :: cs) = true) :
    (EndsWithComma (front ++ [c]) ∧ closesNext cs = true ∧ dropCommas.go (Place.after .outside front) skipping (c :: cs) =
        dropCommas.go (Place.after .outside (front ++ [c])) true cs) ∨
      ¬ (EndsWithComma (front ++ [c]) ∧ closesNext cs = true) ∧
        dropCommas.go (Place.after .outside front) skipping (c :: cs) =
          c :: dropCommas.go (Place.after .outside (front ++ [c])) false cs := by
  have hplace : Place.after .outside (front ++ [c]) = (Place.after .outside front).next c := Place.after_append _ _ _
  by_cases hblank : skipping = true ∧ isBlank c = true
  . obtain ⟨rfl, hc⟩ := hblank
    obtain ⟨hfront, hcloses⟩ := hskipping.mp rfl
    rw [closesNext_cons_of_isBlank hc] at hcloses
    refine .inl ⟨endsWithComma_concat.mpr (.inr ⟨hc, hfront⟩), hcloses, ?_⟩
    rw [dropCommas.go, hc, hplace, hfront.place, Place.next_of_isBlank hc]
    rfl
  . have hgo : dropCommas.go (Place.after .outside front) skipping (c :: cs) =
        if Place.after .outside front = .outside ∧ c = ',' ∧ closesNext cs = true then
          dropCommas.go (Place.after .outside front) true cs
        else c :: dropCommas.go ((Place.after .outside front).next c) false cs := by
      rw [dropCommas.go, if_neg (by simpa using hblank)]
    rw [hgo, hplace]
    split
    . next hcomma =>
      obtain ⟨houtside, rfl, hcloses⟩ := hcomma
      refine .inl ⟨endsWithComma_concat.mpr (.inl ⟨houtside, rfl⟩), hcloses, ?_⟩
      rw [houtside]
      rfl
    . next hcomma =>
      refine .inr ⟨?_, rfl⟩
      rintro ⟨hends, hcloses⟩
      rcases endsWithComma_concat.mp hends with ⟨houtside, hc⟩ | ⟨hc, hfront⟩
      . exact hcomma ⟨houtside, hc, hcloses⟩
      . rw [← closesNext_cons_of_isBlank hc] at hcloses
        exact hblank ⟨hskipping.mpr ⟨hfront, hcloses⟩, hc⟩

open Classical in
/--
What is left of the rest of a text are the characters whose positions in the text are not dropped.
-/
theorem dropCommas_go_eq_filter (front : List Char)
    (hskipping : skipping = true ↔ EndsWithComma front ∧ closesNext cs = true) :
    dropCommas.go (Place.after .outside front) skipping cs =
      ((cs.zipIdx front.length).filter fun p => ¬ Dropped (front ++ cs) p.2).map Prod.fst := by
  induction cs generalizing front skipping with
  | nil => rfl
  | cons c cs ih =>
    have hlength : front.length + 1 = (front ++ [c]).length := by simp
    rw [List.zipIdx_cons, List.filter_cons]
    rcases dropCommas_go_cons hskipping with ⟨hends, hcloses, hgo⟩ | ⟨hkept, hgo⟩
    . have hdropped : Dropped (front ++ c :: cs) front.length := dropped_iff.mpr ⟨hends, hcloses⟩
      rw [if_neg (by simpa using hdropped), hgo, hlength, List.append_cons front c cs]
      apply ih
      simp [hends, hcloses]
    . have hnot : ¬ Dropped (front ++ c :: cs) front.length := fun hdropped => hkept (dropped_iff.mp hdropped)
      rw [if_pos (decide_eq_true hnot), hgo, hlength, List.append_cons front c cs, List.map_cons]
      congr 1
      apply ih
      simpa using hkept

theorem not_endsWithComma_nil : ¬ EndsWithComma [] := by
  rintro ⟨front, blanks, heq, -⟩
  simp at heq

open Classical in
theorem dropCommas_eq_filter (cs : List Char) :
    dropCommas cs = (cs.zipIdx.filter fun p => ¬ Dropped cs p.2).map Prod.fst := by
  apply dropCommas_go_eq_filter []
  simp [not_endsWithComma_nil]

theorem TrailingComma.lt (h : TrailingComma cs front blanks) : front.length < cs.length := by
  obtain ⟨c, back, -, rfl⟩ := h.closes
  simp

theorem dropCommas_eq_self_iff : dropCommas cs = cs ↔ ∀ front blanks, ¬ TrailingComma cs front blanks := by
  classical
  rw [dropCommas_eq_filter]
  constructor
  . intro hsame front blanks h
    have hlength := congrArg List.length hsame
    rw [List.length_map, ← List.length_zipIdx (l := cs) (i := 0), List.length_filter_eq_length_iff] at hlength
    have hmem : (cs.get ⟨front.length, h.lt⟩, front.length) ∈ cs.zipIdx := by
      rw [List.mem_zipIdx_iff_getElem?]
      simp
    have hkept := hlength _ hmem
    simp only [decide_eq_true_eq] at hkept
    exact hkept ⟨front, blanks, h, by omega, by omega⟩
  . intro hnone
    have hall : cs.zipIdx.filter (fun p => ¬ Dropped cs p.2) = cs.zipIdx := by
      rw [List.filter_eq_self]
      rintro ⟨c, k⟩ -
      rw [decide_eq_true_eq]
      rintro ⟨front, blanks, h, -⟩
      exact hnone front blanks h
    rw [hall, List.zipIdx_map_fst]

/-! The strings of a text stay. -/

theorem Quoted.dropCommas_go {body : List Char} {place : Place} (h : Quoted body place) (cs : List Char) :
    dropCommas.go .inside false (body ++ cs) = body ++ dropCommas.go place false cs := by
  induction h with
  | close => rfl
  | nil => rfl
  | backslash => rfl
  | escape c _ ih =>
    rw [List.cons_append, List.cons_append, List.cons_append, List.cons_append, ← ih]
    rfl
  | plain hquote hslash _ ih =>
    rw [List.cons_append, List.cons_append, ← ih, dropCommas.go, Place.next_inside hquote hslash]
    rfl

theorem dropCommas_go_quote (cs : List Char) :
    dropCommas.go .outside skipping ('"' :: cs) = '"' :: dropCommas.go .inside false cs := by
  cases skipping <;> rfl

theorem Literals.dropCommas_go {literals : List (List Char)} {place : Place} (h : Literals cs literals place)
    (skipping : Bool) : Literals (dropCommas.go .outside skipping cs) literals place := by
  induction h generalizing skipping with
  | nil => exact .nil
  | @plain c cs _ _ hc _ ih =>
    rw [Repair.dropCommas.go, Place.next_outside hc]
    split
    . exact ih true
    . split
      . exact ih true
      . exact .plain hc (ih false)
  | closed hbody _ ih =>
    rw [dropCommas_go_quote, hbody.dropCommas_go]
    exact .closed hbody (ih false)
  | @broken body _ hbody hplace =>
    have hgo := hbody.dropCommas_go []
    rw [List.append_nil] at hgo
    rw [dropCommas_go_quote, hgo, Repair.dropCommas.go, List.append_nil]
    exact .broken hbody hplace

theorem literals_dropCommas_iff {literals : List (List Char)} {place : Place} :
    Literals (dropCommas cs) literals place ↔ Literals cs literals place := by
  obtain ⟨literals', h⟩ := exists_literals cs
  have hdropped := h.dropCommas_go false
  constructor
  . intro h'
    have hplace : place = Place.after .outside cs := h'.after.symm.trans hdropped.after
    rw [h'.unique hdropped, hplace]
    exact h
  . intro h'
    exact h'.dropCommas_go false

open Classical in
/--
The removal of trailing commas takes from a text what stands at the dropped positions, and nothing else. The text has the same
string literals afterwards, and ends at the same place. It is the same text exactly if it has no trailing comma, as is JSON.
-/
theorem dropCommas_exact (cs : List Char) :
    dropCommas cs = (cs.zipIdx.filter fun p => ¬ Dropped cs p.2).map Prod.fst ∧
      (∃ literals place, Literals cs literals place) ∧
      (∀ literals place, Literals (dropCommas cs) literals place ↔ Literals cs literals place) ∧
      (dropCommas cs = cs ↔ ∀ front blanks, ¬ TrailingComma cs front blanks) ∧
      ∀ limit v, readWithin limit cs = some v → dropCommas cs = cs := by
  refine ⟨dropCommas_eq_filter cs, ?_, fun _ _ => literals_dropCommas_iff, dropCommas_eq_self_iff, ?_⟩
  . obtain ⟨literals, h⟩ := exists_literals cs
    exact ⟨literals, _, h⟩
  . intro limit v hread
    obtain ⟨r, hrun, -⟩ := Option.bind_eq_some_iff.mp hread
    exact dropCommas_of_run hrun

example : dropCommas "[1,, \n]".toList = "[1,]".toList := by
  decide +kernel

end Repair
end Triage
