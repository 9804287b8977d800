import Triage.Proofs.Json.Numeric

/-!
This module contains the proof that the compact text of a value is read again as the value, if containers are not nested
too deeply and its floating point numbers are read again from their texts.
-/

namespace Triage

theorem Members.insert_of_forall_lt {α : Type} {members : Members α} {key : String} (value : α)
    (h : ∀ m ∈ members, m.1 < key) : members.insert key value = members ++ [(key, value)] := by
  induction members with
  | nil => rfl
  | cons m rest ih =>
    obtain ⟨k, v⟩ := m
    rw [List.forall_mem_cons] at h
    have hne : key ≠ k := by
      rintro rfl
      exact String.lt_irrefl key h.1
    rw [insert, if_neg (String.lt_asymm h.1), if_neg hne, ih h.2, List.cons_append]

theorem Members.sorted_of_increasing {α : Type} {members : Members α} (h : Increasing members) :
    sorted members = members := by
  have hfold (acc rest : Members α) (h : Increasing (acc ++ rest)) :
      rest.foldl (fun acc m => acc.insert m.1 m.2) acc = acc ++ rest := by
    induction rest generalizing acc with
    | nil => simp
    | cons m rest ih =>
      obtain ⟨k, v⟩ := m
      have hlast := (List.pairwise_append.mp h).2.2
      have hinsert : acc.insert k v = acc ++ [(k, v)] :=
        insert_of_forall_lt v fun a ha => hlast a ha (k, v) List.mem_cons_self
      rw [List.foldl_cons]
      dsimp only
      rw [hinsert, ih]
      . simp
      . simpa using h
  apply hfold []
  exact h

namespace Json

mutual

theorem canonical_of_canonical : (v : Json) → v.Canonical → v.canonical = v
  | .null, _ | .bool _, _ | .number _, _ | .string _, _ => rfl
  | .array items, h => by
    rw [canonical, canonicalItems_of_canonical items h]
  | .object members, h => by
    rw [canonical, canonicalMembers_of_canonical members h.2, Members.sorted_of_increasing h.1]
termination_by structural v => v

theorem canonicalItems_of_canonical : (vs : List Json) → CanonicalItems vs → canonicalItems vs = vs
  | [], _ => rfl
  | v :: vs, h => by
    rw [canonicalItems, canonical_of_canonical v h.1, canonicalItems_of_canonical vs h.2]
termination_by structural vs => vs

theorem canonicalMembers_of_canonical :
    (ms : List (String × Json)) → CanonicalMembers ms → canonicalMembers ms = ms
  | [], _ => rfl
  | (k, v) :: ms, h => by
    rw [canonicalMembers, canonical_of_canonical v h.1, canonicalMembers_of_canonical ms h.2]
termination_by structural ms => ms

end

mutual

/--
The largest number of arrays and objects inside of one another.
-/
def containers : Json → Nat
  | .array vs => containersOfItems vs + 1
  | .object ms => containersOfMembers ms + 1
  | .null | .bool _ | .number _ | .string _ => 0
termination_by structural v => v

def containersOfItems : List Json → Nat
  | [] => 0
  | v :: vs => max (containers v) (containersOfItems vs)
termination_by structural vs => vs

def containersOfMembers : List (String × Json) → Nat
  | [] => 0
  | (_, v) :: ms => max (containers v) (containersOfMembers ms)
termination_by structural ms => ms

end

mutual

/--
Whether every number in a value is read again from its text.
-/
def NumbersSurvive : Json → Prop
  | .array vs => NumbersSurviveInItems vs
  | .object ms => NumbersSurviveInMembers ms
  | .number n => n.Survives
  | .null | .bool _ | .string _ => True
termination_by structural v => v

def NumbersSurviveInItems : List Json → Prop
  | [] => True
  | v :: vs => v.NumbersSurvive ∧ NumbersSurviveInItems vs
termination_by structural vs => vs

def NumbersSurviveInMembers : List (String × Json) → Prop
  | [] => True
  | (_, v) :: ms => v.NumbersSurvive ∧ NumbersSurviveInMembers ms
termination_by structural ms => ms

end

theorem numbersSurvive_object_iff {ms : List (String × Json)} :
    (Json.object ms).NumbersSurvive ↔ ∀ m ∈ ms, m.2.NumbersSurvive := by
  rw [NumbersSurvive]
  induction ms with
  | nil => simp [NumbersSurviveInMembers]
  | cons m ms ih =>
    obtain ⟨k, v⟩ := m
    rw [NumbersSurviveInMembers, ih, List.forall_mem_cons]

namespace Reader

variable {limit : Nat} {stack : List Frame} {text text' : List Char} {escape escape' : Escape}

/-! Strings. -/

/--
What characters do inside a string that none of them ends.
-/
def scanAll? (text : List Char) (escape : Escape) : List Char → Option (List Char × Escape)
  | [] => some (text, escape)
  | c :: cs =>
    match scan text escape c with
    | .more text escape => scanAll? text escape cs
    | .ended _ | .refused => none

theorem scanAll?_append {cs ds : List Char} (h : scanAll? text escape cs = some (text', escape')) :
    scanAll? text escape (cs ++ ds) = scanAll? text' escape' ds := by
  induction cs generalizing text escape with
  | nil =>
    cases h
    rfl
  | cons c cs ih =>
    rw [scanAll?] at h
    rw [List.cons_append, scanAll?]
    split at h
    . exact ih h
    . contradiction
    . contradiction

theorem hexDigit?_hexChar : ∀ n < 16, Text.hexDigit? (hexChar n) = some n := by
  decide

theorem scanAll?_plain {c : Char} (hquote : c ≠ '"') (hslash : c ≠ '\\') (hcontrol : ¬ c.val < 0x20) (text : List Char) :
    scanAll? text .none [c] = some (c :: text, .none) := by
  rw [scanAll?, scan, if_neg hquote, if_neg hslash, if_neg hcontrol]
  rfl

theorem scanAll?_control {c : Char} (hcontrol : c.val < 0x20) (text : List Char) :
    scanAll? text .none ['\\', 'u', '0', '0', hexChar (c.toNat / 16), hexChar (c.toNat % 16)] =
      some (c :: text, .none) := by
  have hlt : c.toNat < 32 := hcontrol
  have hhigh := hexDigit?_hexChar (c.toNat / 16) (by omega)
  have hlow := hexDigit?_hexChar (c.toNat % 16) (by omega)
  have hzero : Text.hexDigit? '0' = some 0 := rfl
  have hvalue : c.toNat / 16 * 16 + c.toNat % 16 = c.toNat := by omega
  have hunit : endUnit? text none c.toNat = some (c :: text, .none) := by
    unfold endUnit?
    dsimp only
    rw [if_neg (by omega), if_neg (by omega), Char.ofNat_toNat]
  simp [scanAll?, scan, hzero, hhigh, hlow, hvalue, hunit]

theorem scanAll?_escapeChar (text : List Char) (c : Char) :
    scanAll? text .none (escapeChar c) = some (c :: text, .none) := by
  unfold escapeChar
  split
  . next hc => rw [hc]; rfl
  . next hquote =>
    split
    . next hc => rw [hc]; rfl
    . next hslash =>
      iterate 5
        split
        . next hc => rw [hc]; rfl
      split
      . next hcontrol => exact scanAll?_control hcontrol text
      . next hcontrol => exact scanAll?_plain hquote hslash hcontrol text

theorem scanAll?_escapeChars (text cs : List Char) :
    scanAll? text .none (escapeChars cs) = some (cs.reverse ++ text, .none) := by
  induction cs generalizing text with
  | nil => rfl
  | cons c cs ih =>
    rw [escapeChars, scanAll?_append (scanAll?_escapeChar text c), ih]
    simp

/--
Strings are read in the same way whether they are values or names.
-/
theorem run_inside {inside : List Char → Escape → Phase} {cs : List Char}
    (hinside : ∀ text escape c text' escape', scan text escape c = .more text' escape' →
      step limit ⟨stack, inside text escape⟩ c = some ⟨stack, inside text' escape'⟩)
    (h : scanAll? text escape cs = some (text', escape')) :
    run limit ⟨stack, inside text escape⟩ cs = some ⟨stack, inside text' escape'⟩ := by
  induction cs generalizing text escape with
  | nil =>
    cases h
    rfl
  | cons c cs ih =>
    rw [scanAll?] at h
    split at h
    . next hscan =>
      rw [run, hinside _ _ _ _ _ hscan]
      exact ih h
    . contradiction
    . contradiction

theorem run_text {cs : List Char} (h : scanAll? text escape cs = some (text', escape')) :
    run limit ⟨stack, .text text escape⟩ cs = some ⟨stack, .text text' escape'⟩ := by
  apply run_inside _ h
  intro text escape c text' escape' hscan
  rw [step]
  dsimp only
  rw [hscan]

theorem run_keyText {members : List (String × Json)} {cs : List Char}
    (h : scanAll? text escape cs = some (text', escape')) :
    run limit ⟨stack, .keyText members text escape⟩ cs = some ⟨stack, .keyText members text' escape'⟩ := by
  apply run_inside _ h
  intro text escape c text' escape' hscan
  rw [step]
  dsimp only
  rw [hscan]

theorem run_stringChars (s : String) (rest : List Char) :
    run limit ⟨stack, .value⟩ (stringChars s ++ rest) = run limit (close stack (.string s)) rest := by
  have hopen : step limit ⟨stack, .value⟩ '"' = some ⟨stack, .text [] .none⟩ := rfl
  have hclose (text : List Char) : step limit ⟨stack, .text text .none⟩ '"' =
      some (close stack (.string (String.ofList text.reverse))) := rfl
  unfold stringChars
  rw [List.cons_append, List.append_assoc, run, hopen]
  dsimp only
  rw [run_append, run_text (scanAll?_escapeChars [] s.toList), Option.bind_some, List.singleton_append, run, hclose]
  simp

theorem run_keyChars {phase : Phase} {members : List (String × Json)}
    (hphase : step limit ⟨stack, phase⟩ '"' = some ⟨stack, .keyText members [] .none⟩) (key : String)
    (rest : List Char) :
    run limit ⟨stack, phase⟩ (stringChars key ++ ':' :: rest) = run limit ⟨.member members key :: stack, .value⟩ rest := by
  have hclose (text : List Char) : step limit ⟨stack, .keyText members text .none⟩ '"' =
      some ⟨stack, .colon members (String.ofList text.reverse)⟩ := rfl
  have hcolon (key : String) : step limit ⟨stack, .colon members key⟩ ':' =
      some ⟨.member members key :: stack, .value⟩ := rfl
  unfold stringChars
  rw [List.cons_append, List.append_assoc, run, hphase]
  dsimp only
  rw [run_append, run_keyText (scanAll?_escapeChars [] key.toList), Option.bind_some, List.singleton_append, run, hclose]
  dsimp only
  rw [run, hcolon]
  simp

/-! Values. -/

/--
The reader behind the text of a value. Only after the next character it is known that a number has ended.
-/
inductive Behind (stack : List Frame) (v : Json) : Reader → Prop where
  | closed : Behind stack v (close stack v)
  | digits {state : Digits} (h : closeDigits stack state = some (close stack v)) : Behind stack v ⟨stack, .digits state⟩

theorem Behind.step {v : Json} {r : Reader} {c : Char} (h : Behind stack v r) (hc : isNumeric c = false)
    (hexponent : c ≠ 'E') : r.step limit c = (close stack v).step limit c := by
  cases h with
  | closed => rfl
  | digits hclose =>
    have hextend (state : Digits) : extend? state c = none := by
      cases h : extend? state c with
      | none => rfl
      | some state' =>
        rcases mem_of_extend? h with hdigit | hmem
        . rw [isNumeric_of_isDigit hdigit] at hc
          contradiction
        . simp only [List.mem_cons, List.not_mem_nil, or_false] at hmem
          rcases hmem with rfl | rfl | rfl | rfl | rfl <;> contradiction
    rw [Reader.step]
    dsimp only
    rw [hextend]
    dsimp only
    rw [hclose, Option.bind_some, step_of_isBetween (isBetween_close stack v)]

theorem Behind.finish {v : Json} {r : Reader} (h : Behind [] v r) : r.finish = some v := by
  cases h with
  | closed => rfl
  | digits hclose =>
    unfold Reader.finish
    dsimp only
    rw [hclose]
    rfl

theorem behind_literal {cs : List Char} {n : Number} (h : IsLiteral cs n) :
    ∃ r, run limit ⟨stack, .value⟩ cs = some r ∧ Behind stack (.number n) r := by
  have hnumber := h.number
  unfold numberOf? at hnumber
  obtain ⟨numeral, hstate, hvalue⟩ := Option.bind_eq_some_iff.mp hnumber
  obtain ⟨state, hread, hnumeral⟩ := Option.bind_eq_some_iff.mp hstate
  refine ⟨_, run_literal h.numeric hread, .digits ?_⟩
  rw [closeDigits_eq_some_iff, hnumeral]
  exact ⟨n, hvalue, rfl⟩

/--
The first character of the text of a value is none that could stand in its place instead.
-/
theorem compactChars_eq_cons {v : Json} (h : v.NumbersSurvive) :
    ∃ c cs, v.compactChars = c :: cs ∧ isSpace c = false ∧ c ≠ ']' := by
  cases v with
  | null => exact ⟨_, _, rfl, rfl, by decide⟩
  | bool b => cases b <;> exact ⟨_, _, rfl, rfl, by decide⟩
  | string s => exact ⟨_, _, rfl, rfl, by decide⟩
  | array items => exact ⟨_, _, rfl, rfl, by decide⟩
  | object members => exact ⟨_, _, rfl, rfl, by decide⟩
  | number n =>
    have hnumber := numberOf?_chars h
    cases hchars : n.chars with
    | nil =>
      rw [hchars] at hnumber
      contradiction
    | cons c cs =>
      have hc : isNumeric c = true := isNumeric_of_mem_chars (n := n) (by simp [hchars])
      refine ⟨c, cs, hchars, not_isSpace_of_isNumeric hc, ?_⟩
      rintro rfl
      contradiction

theorem run_firstItem {c : Char} {cs : List Char} (hspace : isSpace c = false) (hc : c ≠ ']') :
    run limit ⟨stack, .firstItem⟩ (c :: cs) = run limit ⟨.array [] :: stack, .value⟩ (c :: cs) := by
  have hstep : step limit ⟨stack, .firstItem⟩ c = step limit ⟨.array [] :: stack, .value⟩ c := by
    rw [step_of_isBetween rfl, step_of_isBetween rfl, between, between, hspace]
    simp [hc]
  rw [run, run, hstep]

theorem opened_of_lt {phase : Phase} (h : stack.length < limit) : opened limit stack phase = some ⟨stack, phase⟩ := by
  unfold opened
  rw [if_pos h]

mutual

theorem behind_compactChars : (v : Json) → (stack : List Frame) → stack.length + v.containers ≤ limit →
    v.NumbersSurvive → ∃ r, run limit ⟨stack, .value⟩ v.compactChars = some r ∧ Behind stack v r
  | .null, _, _, _ => ⟨_, rfl, .closed⟩
  | .bool true, _, _, _ => ⟨_, rfl, .closed⟩
  | .bool false, _, _, _ => ⟨_, rfl, .closed⟩
  | .number _, _, _, hnumbers => behind_literal (isLiteral_chars hnumbers)
  | .string s, stack, _, _ => by
    refine ⟨close stack (.string s), ?_, .closed⟩
    have hrun : run limit ⟨stack, .value⟩ (stringChars s ++ []) = some (close stack (.string s)) := run_stringChars s []
    rwa [List.append_nil] at hrun
  | .array vs, stack, hdepth, hnumbers => by
    rw [containers] at hdepth
    have hlt : stack.length < limit := by omega
    have hopen : step limit ⟨stack, .value⟩ '[' = some ⟨stack, .firstItem⟩ := opened_of_lt hlt
    refine ⟨close stack (.array vs), ?_, .closed⟩
    rw [compactChars, run, hopen]
    dsimp only
    cases vs with
    | nil => rfl
    | cons v vs =>
      rw [containersOfItems] at hdepth
      obtain ⟨c, cs, hchars, hspace, hc⟩ := compactChars_eq_cons hnumbers.1
      obtain ⟨r, hrun, hr⟩ := behind_compactChars v (.array [] :: stack) (by rw [List.length_cons]; omega) hnumbers.1
      rw [compactItems, hchars, List.append_assoc, List.cons_append, run_firstItem hspace hc, ← List.cons_append, ← hchars,
        run_append, hrun, Option.bind_some, run_compactTail vs stack [] v r (by omega) hnumbers.2 hr]
      rfl
  | .object ms, stack, hdepth, hnumbers => by
    rw [containers] at hdepth
    have hlt : stack.length < limit := by omega
    have hopen : step limit ⟨stack, .value⟩ '{' = some ⟨stack, .firstKey⟩ := opened_of_lt hlt
    refine ⟨close stack (.object ms), ?_, .closed⟩
    rw [compactChars, run, hopen]
    dsimp only
    cases ms with
    | nil => rfl
    | cons m ms =>
      obtain ⟨key, v⟩ := m
      rw [containersOfMembers] at hdepth
      obtain ⟨r, hrun, hr⟩ :=
        behind_compactChars v (.member [] key :: stack) (by rw [List.length_cons]; omega) hnumbers.1
      rw [compactMembers, List.append_assoc, List.cons_append, List.append_assoc, run_keyChars rfl, run_append, hrun,
        Option.bind_some, run_compactMemberTail ms stack [] key v r (by omega) hnumbers.2 hr]
      rfl
termination_by structural v => v

/--
The rest of an array behind one of its items.
-/
theorem run_compactTail : (vs : List Json) → (stack : List Frame) → (items : List Json) → (v : Json) → (r : Reader) →
    stack.length + 1 + containersOfItems vs ≤ limit → NumbersSurviveInItems vs → Behind (.array items :: stack) v r →
    run limit r (compactTail vs ++ [']']) = some (close stack (.array (items.reverse ++ v :: vs)))
  | [], stack, items, v, r, _, _, hr => by
    rw [compactTail, List.nil_append, run, hr.step rfl (by decide), ← List.singleton_append, ← List.reverse_cons]
    rfl
  | w :: vs, stack, items, v, r, hdepth, hnumbers, hr => by
    rw [containersOfItems] at hdepth
    have hcomma : r.step limit ',' = some ⟨.array (v :: items) :: stack, .value⟩ := hr.step rfl (by decide)
    obtain ⟨r', hrun, hr'⟩ :=
      behind_compactChars w (.array (v :: items) :: stack) (by rw [List.length_cons]; omega) hnumbers.1
    rw [compactTail, List.cons_append, run, hcomma]
    dsimp only
    rw [List.append_assoc, run_append, hrun, Option.bind_some,
      run_compactTail vs stack (v :: items) w r' (by omega) hnumbers.2 hr']
    simp
termination_by structural vs => vs

/--
The rest of an object behind one of its members.
-/
theorem run_compactMemberTail : (ms : List (String × Json)) → (stack : List Frame) → (members : List (String × Json)) →
    (key : String) → (v : Json) → (r : Reader) → stack.length + 1 + containersOfMembers ms ≤ limit →
    NumbersSurviveInMembers ms → Behind (.member members key :: stack) v r →
    run limit r (compactMemberTail ms ++ ['}']) = some (close stack (.object (members.reverse ++ (key, v) :: ms)))
  | [], stack, members, key, v, r, _, _, hr => by
    rw [compactMemberTail, List.nil_append, run, hr.step rfl (by decide), ← List.singleton_append, ← List.reverse_cons]
    rfl
  | (k, w) :: ms, stack, members, key, v, r, hdepth, hnumbers, hr => by
    rw [containersOfMembers] at hdepth
    have hcomma : r.step limit ',' = some ⟨stack, .key ((key, v) :: members)⟩ := hr.step rfl (by decide)
    obtain ⟨r', hrun, hr'⟩ :=
      behind_compactChars w (.member ((key, v) :: members) k :: stack) (by rw [List.length_cons]; omega) hnumbers.1
    rw [compactMemberTail, List.cons_append, run, hcomma]
    dsimp only
    rw [List.append_assoc, List.cons_append, List.append_assoc, run_keyChars rfl, run_append, hrun, Option.bind_some,
      run_compactMemberTail ms stack ((key, v) :: members) k w r' (by omega) hnumbers.2 hr']
    simp
termination_by structural ms => ms

end

end Reader

variable {v : Json}

/--
The compact text of a value is read again as it has been written.
-/
theorem readWithin_compact {limit : Nat} (hdepth : v.containers ≤ limit) (hnumbers : v.NumbersSurvive) :
    readWithin limit v.compact.toList = some v := by
  obtain ⟨r, hrun, hr⟩ := Reader.behind_compactChars v [] (by simpa using hdepth) hnumbers
  unfold readWithin compact
  rw [String.toList_ofList]
  change Reader.start.run limit v.compactChars = some r at hrun
  rw [hrun]
  exact hr.finish

theorem read?_compact (hdepth : v.containers ≤ depthLimit) (hnumbers : v.NumbersSurvive) : read? v.compact = some v :=
  readWithin_compact hdepth hnumbers

theorem parse?_compact (hcanonical : v.Canonical) (hdepth : v.containers ≤ depthLimit) (hnumbers : v.NumbersSurvive) :
    parse? v.compact = some v := by
  unfold parse?
  rw [read?_compact hdepth hnumbers, Option.map_some, canonical_of_canonical v hcanonical]

end Json
end Triage
