import Triage.Proofs.Json.Blanks
import Triage.Proofs.Json.RoundTrip

/-!
This module contains the proof that indentation is nothing to a reader: wherever a value may stand, its indented text leads to
where its compact text leads. So the indented text of a value is read again as the value.
-/

namespace Triage
namespace Json
namespace Reader

variable {limit depth : Nat} {r r' : Reader} {stack : List Frame} {c : Char} {cs ds cs' ds' rest : List Char}

/--
Whether a reader is neither inside of a string nor inside of a word. A blank is taken here, and ends a number at most.
-/
def Settled (r : Reader) : Prop :=
  r.phase.isBetween = true ∨ ∃ state, r.phase = .digits state

/--
The characters around and between values.
-/
def marks : List Char :=
  ['[', ']', '{', '}', ',', ':']

theorem mem_marks_iff : c ∈ marks ↔ c = '[' ∨ c = ']' ∨ c = '{' ∨ c = '}' ∨ c = ',' ∨ c = ':' := by
  simp [marks]

theorem extend?_of_mem_marks (h : c ∈ marks) (state : Digits) : extend? state c = none := by
  cases hextend : extend? state c with
  | none => rfl
  | some state' =>
    rw [mem_marks_iff] at h
    rcases mem_of_extend? hextend with hdigit | hmem
    . rcases h with rfl | rfl | rfl | rfl | rfl | rfl <;> contradiction
    . rcases h with rfl | rfl | rfl | rfl | rfl | rfl <;> simp at hmem

theorem Opens.isBetween_of_mem_marks (h : Opens limit stack c r) (hc : c ∈ marks) : r.phase.isBetween = true := by
  rw [mem_marks_iff] at hc
  cases h with
  | array => rfl
  | object => rfl
  | text => simp at hc
  | minus => simp at hc
  | digit hdigit => rcases hc with rfl | rfl | rfl | rfl | rfl | rfl <;> contradiction
  | word halpha => rcases hc with rfl | rfl | rfl | rfl | rfl | rfl <;> contradiction

theorem Move.isBetween_of_mem_marks (h : Move limit r c r') (hr : r.Settled) (hc : c ∈ marks) : r'.phase.isBetween = true := by
  induction h with
  | digits hextend =>
    rw [extend?_of_mem_marks hc] at hextend
    contradiction
  | endDigits _ _ _ ih => exact ih (.inl (isBetween_close _ _)) hc
  | space _ hphase => exact hphase
  | value hopens => exact hopens.isBetween_of_mem_marks hc
  | firstItem hopens => exact hopens.isBetween_of_mem_marks hc
  | noItem => exact isBetween_close _ _
  | endArray => exact isBetween_close _ _
  | noMember => exact isBetween_close _ _
  | endObject => exact isBetween_close _ _
  | nextItem => rfl
  | colon => rfl
  | nextMember => rfl
  | firstKey => simp [marks] at hc
  | key => simp [marks] at hc
  | _ => rcases hr with hphase | ⟨state, hphase⟩ <;> contradiction

/-! Blanks. -/

theorem run_spaces {spaces : List Char} (hr : r.phase.isBetween = true) (hspaces : ∀ c ∈ spaces, isSpace c = true) :
    r.run limit (spaces ++ rest) = r.run limit rest := by
  induction spaces with
  | nil => rfl
  | cons c spaces ih =>
    rw [List.forall_mem_cons] at hspaces
    rw [List.cons_append, run_cons_of_step (step_of_isSpace hspaces.1 hr)]
    exact ih hspaces.2

theorem isSpace_of_mem_newLine (h : c ∈ newLine depth) : isSpace c = true := by
  rw [newLine, List.mem_cons] at h
  rcases h with rfl | h
  . rfl
  . rw [List.eq_of_mem_replicate h]
    rfl

theorem run_newLine (hr : r.phase.isBetween = true) : r.run limit (newLine depth ++ rest) = r.run limit rest :=
  run_spaces hr fun _ => isSpace_of_mem_newLine

theorem step_digits {state : Digits} (hc : ∀ state, extend? state c = none) :
    step limit ⟨stack, .digits state⟩ c = (closeDigits stack state).bind fun r => r.step limit c := by
  rw [step]
  dsimp only
  rw [hc]
  dsimp only
  cases hclose : closeDigits stack state with
  | none => rfl
  | some closed =>
    obtain ⟨n, -, rfl⟩ := closeDigits_eq_some_iff.mp hclose
    rw [Option.bind_some, Option.bind_some, step_of_isBetween (isBetween_close _ _)]

/--
A number ends with the line behind it just as with what stands on the next line.
-/
theorem run_newLine_of_mem_marks (hr : r.Settled) (hc : c ∈ marks) :
    r.run limit (newLine depth ++ c :: rest) = r.run limit (c :: rest) := by
  obtain ⟨stack, phase⟩ := r
  rcases hr with hbetween | ⟨state, rfl⟩
  . exact run_newLine hbetween
  . rw [newLine, List.cons_append, run, run, step_digits (extend?_of_isSpace rfl), step_digits (extend?_of_mem_marks hc)]
    cases hclose : closeDigits stack state with
    | none => rfl
    | some closed =>
      obtain ⟨n, -, rfl⟩ := closeDigits_eq_some_iff.mp hclose
      have hbetween := isBetween_close stack (.number n)
      rw [Option.bind_some, Option.bind_some, step_of_isSpace rfl hbetween]
      exact run_spaces hbetween fun d hd => by rw [List.eq_of_mem_replicate hd]; rfl

/-! Texts that lead to the same place. -/

/--
Two texts lead a reader to the same place, where it is settled.
-/
structure SameWay (limit : Nat) (r : Reader) (cs ds : List Char) : Prop where
  run : r.run limit cs = r.run limit ds
  settled : ∀ r', r.run limit ds = some r' → r'.Settled

namespace SameWay

theorem nil (hr : r.Settled) : SameWay limit r [] [] := by
  constructor
  . rfl
  . rintro r' ⟨⟩
    exact hr

theorem append (h : SameWay limit r cs ds) (hrest : ∀ r', r'.Settled → SameWay limit r' cs' ds') :
    SameWay limit r (cs ++ cs') (ds ++ ds') := by
  constructor
  . rw [run_append, run_append, h.run]
    cases hmid : r.run limit ds with
    | none => rfl
    | some mid => exact (hrest mid (h.settled mid hmid)).run
  . intro r' hr'
    obtain ⟨mid, hmid, hlast⟩ := run_append_eq_some_iff.mp hr'
    exact (hrest mid (h.settled mid hmid)).settled r' hlast

theorem mark (hr : r.Settled) (hc : c ∈ marks) (h : ∀ r', r'.phase.isBetween = true → SameWay limit r' cs ds) :
    SameWay limit r (c :: cs) (c :: ds) := by
  constructor
  . rw [Reader.run, Reader.run]
    cases hnext : r.step limit c with
    | none => rfl
    | some next => exact (h next ((move_of_step hnext).isBetween_of_mem_marks hr hc)).run
  . intro r' hr'
    obtain ⟨next, hnext, hlast⟩ := run_cons_eq_some_iff.mp hr'
    exact (h next ((move_of_step hnext).isBetween_of_mem_marks hr hc)).settled r' hlast

theorem newLine (hr : r.phase.isBetween = true) (h : SameWay limit r cs ds) : SameWay limit r (newLine depth ++ cs) ds where
  run := by rw [run_newLine hr, h.run]
  settled := h.settled

theorem blank (hr : r.phase.isBetween = true) (h : SameWay limit r cs ds) : SameWay limit r (' ' :: cs) ds where
  run := by rw [run_cons_of_step (step_of_isSpace rfl hr), h.run]
  settled := h.settled

theorem closer (hr : r.Settled) (hc : c ∈ marks) : SameWay limit r (Json.newLine depth ++ [c]) [c] where
  run := run_newLine_of_mem_marks hr hc
  settled := (SameWay.mark hr hc fun _ h => nil (.inl h)).settled

end SameWay

/-! Strings, words and numbers have the same text on every line. -/

theorem extended_or_between (hr : r.Settled) (h : r.step limit c = some r') :
    (∃ state state', extend? state c = some state' ∧ r'.phase = .digits state') ∨ ∃ mid, between limit mid c = some r' := by
  obtain ⟨stack, phase⟩ := r
  rcases hr with hphase | ⟨state, rfl⟩
  . rw [step_of_isBetween hphase] at h
    exact .inr ⟨_, h⟩
  . rw [step] at h
    dsimp only at h
    split at h
    . next state' hextend =>
      cases h
      exact .inl ⟨state, state', hextend, rfl⟩
    . obtain ⟨closed, -, hclosed⟩ := Option.bind_eq_some_iff.mp h
      exact .inr ⟨closed, hclosed⟩

theorem text_or_keyText_of_step (hr : r.Settled) (h : r.step limit '"' = some r') :
    (∃ stack, r' = ⟨stack, .text [] .none⟩) ∨ ∃ stack members, r' = ⟨stack, .keyText members [] .none⟩ := by
  rcases extended_or_between hr h with ⟨state, state', hextend, -⟩ | ⟨mid, hmid⟩
  . rcases mem_of_extend? hextend with hdigit | hmem
    . contradiction
    . simp at hmem
  . unfold between at hmid
    rw [if_neg (by decide)] at hmid
    split at hmid
    . cases hmid
      exact .inl ⟨_, rfl⟩
    . cases hmid
      exact .inl ⟨_, rfl⟩
    . simp at hmid
    . cases hmid
      exact .inr ⟨_, _, rfl⟩
    . cases hmid
      exact .inr ⟨_, _, rfl⟩
    all_goals simp at hmid

theorem sameWay_stringChars (hr : r.Settled) (s : String) : SameWay limit r (stringChars s) (stringChars s) := by
  constructor
  . rfl
  . intro r' h
    obtain ⟨next, hnext, hrest⟩ := run_cons_eq_some_iff.mp h
    obtain ⟨mid, hmid, hlast⟩ := run_concat_eq_some_iff.mp hrest
    rcases text_or_keyText_of_step hr hnext with ⟨stack, rfl⟩ | ⟨stack, members, rfl⟩
    . rw [run_text (scanAll?_escapeChars [] s.toList)] at hmid
      cases hmid
      cases hlast
      exact .inl (isBetween_close _ _)
    . rw [run_keyText (scanAll?_escapeChars [] s.toList)] at hmid
      cases hmid
      cases hlast
      exact .inl rfl

/--
What is neither a blank nor a quote and does not stand around or between values begins a value.
-/
theorem exists_open?_of_between (hspace : isSpace c = false) (hquote : c ≠ '"') (hc : c ∉ marks)
    (h : between limit r c = some r') : ∃ stack, open? limit stack c = some r' := by
  simp only [mem_marks_iff, not_or] at hc
  unfold between at h
  rw [hspace, if_neg (by decide)] at h
  split at h
  . exact ⟨_, h⟩
  . rw [if_neg hc.2.1] at h
    exact ⟨_, h⟩
  all_goals simp [hquote, hc] at h

theorem settled_of_isNumeric (hr : r.Settled) (hc : isNumeric c = true) (h : r.step limit c = some r') : r'.Settled := by
  rcases extended_or_between hr h with ⟨state, state', -, hphase⟩ | ⟨mid, hmid⟩
  . exact .inr ⟨state', hphase⟩
  . have hquote : c ≠ '"' := by
      rintro rfl
      contradiction
    have hmarks : c ∉ marks := by
      intro hmem
      rw [mem_marks_iff] at hmem
      rcases hmem with rfl | rfl | rfl | rfl | rfl | rfl <;> contradiction
    obtain ⟨stack, hopen⟩ := exists_open?_of_between (not_isSpace_of_isNumeric hc) hquote hmarks hmid
    rw [open?_of_isNumeric hc] at hopen
    obtain ⟨state, -, rfl⟩ := Option.map_eq_some_iff.mp hopen
    exact .inr ⟨state, rfl⟩

theorem sameWay_of_isNumeric (hr : r.Settled) (hcs : ∀ c ∈ cs, isNumeric c = true) : SameWay limit r cs cs := by
  constructor
  . rfl
  . intro r' h
    induction cs generalizing r with
    | nil =>
      cases h
      exact hr
    | cons c cs ih =>
      rw [List.forall_mem_cons] at hcs
      obtain ⟨next, hnext, hrest⟩ := run_cons_eq_some_iff.mp h
      exact ih (settled_of_isNumeric hr hcs.1 hnext) hcs.2 hrest

theorem sameWay_word {w : Char} {v : Json} (hr : r.Settled) (hw : w = 'n' ∨ w = 't' ∨ w = 'f')
    (hrun : ∀ stack next, open? limit stack w = some next → next.run limit cs = some (close stack v)) :
    SameWay limit r (w :: cs) (w :: cs) := by
  constructor
  . rfl
  . intro r' h
    obtain ⟨next, hnext, hrest⟩ := run_cons_eq_some_iff.mp h
    rcases extended_or_between hr hnext with ⟨state, state', hextend, -⟩ | ⟨mid, hmid⟩
    . rcases hw with rfl | rfl | rfl <;> cases state <;> contradiction
    . have hopens : ∃ stack, open? limit stack w = some next := by
        rcases hw with rfl | rfl | rfl
        all_goals exact exists_open?_of_between rfl (by decide) (by decide) hmid
      obtain ⟨stack, hopen⟩ := hopens
      rw [hrun stack next hopen] at hrest
      cases hrest
      exact .inl (isBetween_close _ _)

theorem sameWay_null (hr : r.Settled) : SameWay limit r (compactChars .null) (compactChars .null) := by
  apply sameWay_word (v := .null) hr (.inl rfl)
  rintro stack next ⟨⟩
  rfl

theorem sameWay_boolChars (hr : r.Settled) (b : Bool) : SameWay limit r (boolChars b) (boolChars b) := by
  cases b with
  | true =>
    apply sameWay_word (v := .bool true) hr (.inr (.inl rfl))
    rintro stack next ⟨⟩
    rfl
  | false =>
    apply sameWay_word (v := .bool false) hr (.inr (.inr rfl))
    rintro stack next ⟨⟩
    rfl

/-! Values. -/

mutual

/--
Wherever a reader is settled, and whatever it looks for there, the two texts of a value lead it to the same place.
-/
theorem sameWay_indentedChars : (v : Json) → (depth : Nat) → (r : Reader) → r.Settled →
    SameWay limit r (v.indentedChars depth) v.compactChars
  | .null, _, _, hr => sameWay_null hr
  | .bool b, _, _, hr => sameWay_boolChars hr b
  | .number n, _, _, hr => sameWay_of_isNumeric hr fun _ => isNumeric_of_mem_chars (n := n)
  | .string s, _, _, hr => sameWay_stringChars hr s
  | .array [], depth, r, hr => .mark hr (by decide) fun r hr => .mark (.inl hr) (by decide) fun r hr => .nil (.inl hr)
  | .array (v :: vs), depth, r, hr => by
    rw [indentedChars, compactChars, compactItems]
    simp only [List.append_assoc]
    -- The first line break stands behind a bracket, but the last one may end a number.
    refine .mark hr (by decide) fun r hr => .newLine hr ?_
    refine (sameWay_indentedChars v (depth + 1) r (.inl hr)).append fun r hr => ?_
    exact (sameWay_indentedTail vs (depth + 1) r hr).append fun r hr => .closer hr (by decide)
  | .object [], depth, r, hr => .mark hr (by decide) fun r hr => .mark (.inl hr) (by decide) fun r hr => .nil (.inl hr)
  | .object ((k, v) :: ms), depth, r, hr => by
    rw [indentedChars, compactChars, compactMembers]
    simp only [List.append_assoc, List.cons_append]
    refine .mark hr (by decide) fun r hr => .newLine hr ?_
    refine (sameWay_stringChars (.inl hr) k).append fun r hr => .mark hr (by decide) fun r hr => .blank hr ?_
    refine (sameWay_indentedChars v (depth + 1) r (.inl hr)).append fun r hr => ?_
    exact (sameWay_indentedMemberTail ms (depth + 1) r hr).append fun r hr => .closer hr (by decide)
termination_by structural v => v

theorem sameWay_indentedTail : (vs : List Json) → (depth : Nat) → (r : Reader) → r.Settled →
    SameWay limit r (indentedTail depth vs) (compactTail vs)
  | [], _, _, hr => .nil hr
  | v :: vs, depth, r, hr => by
    rw [indentedTail, compactTail]
    simp only [List.append_assoc]
    refine .mark hr (by decide) fun r hr => .newLine hr ?_
    exact (sameWay_indentedChars v depth r (.inl hr)).append fun r hr => sameWay_indentedTail vs depth r hr
termination_by structural vs => vs

theorem sameWay_indentedMemberTail : (ms : List (String × Json)) → (depth : Nat) → (r : Reader) → r.Settled →
    SameWay limit r (indentedMemberTail depth ms) (compactMemberTail ms)
  | [], _, _, hr => .nil hr
  | (k, v) :: ms, depth, r, hr => by
    rw [indentedMemberTail, compactMemberTail]
    simp only [List.append_assoc, List.cons_append]
    refine .mark hr (by decide) fun r hr => .newLine hr ?_
    refine (sameWay_stringChars (.inl hr) k).append fun r hr => .mark hr (by decide) fun r hr => .blank hr ?_
    exact (sameWay_indentedChars v depth r (.inl hr)).append fun r hr => sameWay_indentedMemberTail ms depth r hr
termination_by structural ms => ms

end

end Reader

/--
Every reader takes the indented text of a value for what it takes the compact one for.
-/
theorem readWithin_indented (limit : Nat) (v : Json) :
    readWithin limit v.indented.toList = readWithin limit v.compact.toList := by
  unfold readWithin indented compact
  rw [String.toList_ofList, String.toList_ofList, (Reader.sameWay_indentedChars v 0 Reader.start (.inl rfl)).run]

theorem readWithin_indented_eq_some {limit : Nat} {v : Json} (hdepth : v.containers ≤ limit) (hnumbers : v.NumbersSurvive) :
    readWithin limit v.indented.toList = some v := by
  rw [readWithin_indented, readWithin_compact hdepth hnumbers]

end Json
end Triage
