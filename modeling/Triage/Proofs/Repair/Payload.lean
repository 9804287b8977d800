import Triage.Proofs.Repair.Extraction
import Triage.Proofs.Repair.Lines
import Triage.Repair

/-!
This module contains the repair of a JSON text between prose and code fences. What stands around the text is cut
off, and the text stays as it is except for the blanks in front of some of its line breaks.
-/

namespace Triage
namespace Repair

open Text Json

variable {limit : Nat} {r r' : Reader}

def lastLine (cs : List Char) : List Char :=
  (cs.reverse.takeWhile (· ≠ '\n')).reverse

/--
A text without the blanks at the end of its first line.
-/
def trimFirstLine (cs : List Char) : List Char :=
  trimEnd (cs.takeWhile (· ≠ '\n')) ++ cs.dropWhile (· ≠ '\n')

/--
What the removal of code fences makes of a JSON text. If a fence opens the line that the text begins on, the line
also loses the blanks at its end.
-/
def freed (opens : Bool) (payload : List Char) : List Char :=
  if opens then trimFirstLine (lineFeeds payload) else lineFeeds payload

theorem lastLine_append {line : List Char} (h : '\n' ∉ line) (front : List Char) :
    lastLine (front ++ '\n' :: line) = line := by
  have hreverse : (front ++ '\n' :: line).reverse = line.reverse ++ '\n' :: front.reverse := by
    simp
  unfold lastLine
  rw [hreverse, takeWhile_of_not_mem (by simpa using h), List.takeWhile_cons_of_neg (by simp), List.append_nil,
    List.reverse_reverse]

theorem lastLine_of_not_mem {line : List Char} (h : '\n' ∉ line) : lastLine line = line := by
  have htake := takeWhile_of_not_mem (mt List.mem_reverse.mp h) []
  unfold lastLine
  rw [List.append_nil] at htake
  rw [htake, List.takeWhile_nil, List.append_nil, List.reverse_reverse]

theorem trimFirstLine_append {line : List Char} (h : '\n' ∉ line) (rest : List Char) :
    trimFirstLine (line ++ '\n' :: rest) = trimEnd line ++ '\n' :: rest := by
  unfold trimFirstLine
  rw [takeWhile_of_not_mem h, dropWhile_of_not_mem h, List.takeWhile_cons_of_neg (by simp),
    List.dropWhile_cons_of_neg (by simp), List.append_nil]

theorem trimFirstLine_of_not_mem {line : List Char} (h : '\n' ∉ line) : trimFirstLine line = trimEnd line := by
  have htake := takeWhile_of_not_mem h []
  have hdrop := dropWhile_of_not_mem h []
  unfold trimFirstLine
  rw [List.append_nil] at htake hdrop
  rw [htake, hdrop]
  simp

theorem lastLine_split (cs : List Char) :
    ∃ line, lastLine cs = line ∧ '\n' ∉ line ∧ (cs = line ∨ ∃ front, cs = front ++ '\n' :: line) := by
  by_cases h : '\n' ∈ cs
  . obtain ⟨front, line, rfl, hline⟩ := eq_append_cons_last h
    exact ⟨line, lastLine_append hline _, hline, .inr ⟨front, rfl⟩⟩
  . exact ⟨cs, lastLine_of_not_mem h, h, .inl rfl⟩

theorem freed_of_not_mem {front : List Char} {last : Char} (opens : Bool) (h : '\n' ∉ front ++ [last])
    (hblank : isBlank last = false) : freed opens (front ++ [last]) = front ++ [last] := by
  unfold freed
  rw [lineFeeds_of_not_mem h, trimFirstLine_of_not_mem h, trimEnd_append hblank]
  exact ite_self _

theorem freed_line {front blanks : List Char} {last : Char} (opens : Bool)
    (h : '\n' ∉ front ++ last :: blanks) (hblank : isBlank last = false)
    (hblanks : ∀ c ∈ blanks, isBlank c = true) (rest : List Char) :
    freed opens (front ++ last :: blanks ++ '\n' :: rest) =
      front ++ last :: (if opens then [] else chomp blanks) ++ '\n' :: lineFeeds rest := by
  have hreturn : last ≠ '\r' := ne_of_isBlank hblank rfl
  have hchomp : '\n' ∉ front ++ last :: chomp blanks := by
    rw [← chomp_append hreturn]
    exact fun hmem => h (mem_of_mem_chomp hmem)
  unfold freed
  rw [lineFeeds_cons h, chomp_append hreturn, trimFirstLine_append hchomp, trimEnd_append hblank,
    trimEnd_of_blank fun c hc => hblanks c (mem_of_mem_chomp hc)]
  cases opens <;> rfl

theorem first_line {line : List Char} (hhead : line.head? = some '{') :
    ∃ front last blanks payload, line = front ++ last :: blanks ∧ front ++ [last] = '{' :: payload ∧
      isBlank last = false ∧ ∀ c ∈ blanks, isBlank c = true := by
  rcases blank_or_last line with hblank | ⟨front, last, blanks, rfl, hlast, hblanks⟩
  . have := hblank '{' (List.mem_of_head? hhead)
    contradiction
  . cases front with
    | nil => exact ⟨[], last, blanks, [], rfl, by simpa using hhead, hlast, hblanks⟩
    | cons c front => exact ⟨c :: front, last, blanks, front ++ [last], rfl, by simpa using hhead, hlast, hblanks⟩

theorem freed_braces {front : List Char} (opens : Bool) (hhead : (front ++ ['}']).head? = some '{') :
    ∃ middle, freed opens (front ++ ['}']) = '{' :: (middle ++ ['}']) := by
  cases front with
  | nil => simp at hhead
  | cons c front =>
    obtain rfl : c = '{' := by simpa using hhead
    by_cases hfront : '\n' ∈ '{' :: front
    . obtain ⟨line, rest, hsplit, hline⟩ := List.eq_append_cons_of_mem hfront
      have hfirst : line.head? = some '{' := by
        have := congrArg List.head? hsplit
        cases line with
        | nil => simp at this
        | cons c line => simpa using this.symm
      obtain ⟨first, last, blanks, payload, rfl, hpayload, hlast, hblanks⟩ := first_line hfirst
      have hfreed := freed_line opens hline hlast hblanks (rest ++ ['}'])
      rw [lineFeeds_append (by decide)] at hfreed
      rw [hsplit, List.append_assoc, List.cons_append, hfreed, List.append_cons first, hpayload]
      exact ⟨payload ++ (if opens then [] else chomp blanks) ++ '\n' :: lineFeeds rest, by simp [lineFeeds]⟩
    . rw [freed_of_not_mem _ _ rfl]
      . exact ⟨front, rfl⟩
      . rw [List.mem_append, not_or]
        exact ⟨hfront, by decide⟩

theorem run_trimEnd {line rest : List Char} (hr : r.Sound) (h : r.run limit (line ++ '\n' :: rest) = some r') :
    r.run limit (trimEnd line ++ '\n' :: rest) = some r' := by
  rcases blank_or_last line with hblanks | ⟨front, last, blanks, rfl, hlast, hblanks⟩
  . rw [trimEnd_of_blank hblanks]
    exact Reader.run_blanks_newline hr hblanks h
  . rw [List.append_cons front, List.append_assoc] at h
    obtain ⟨mid, hmid, hrest⟩ := Reader.run_append_eq_some_iff.mp h
    rw [trimEnd_append hlast, trimEnd_of_blank hblanks]
    apply Reader.run_append_eq_some_iff.mpr
    exact ⟨mid, hmid, Reader.run_blanks_newline (Reader.sound_of_run hmid hr) hblanks hrest⟩

theorem run_freed {front : List Char} {last : Char} (opens : Bool) (hr : r.Sound) (hblank : isBlank last = false)
    (h : r.run limit (front ++ [last]) = some r') : r.run limit (freed opens (front ++ [last])) = some r' := by
  have hfeeds := run_lineFeeds hr h
  have hnewline : last ≠ '\n' := ne_of_isBlank hblank rfl
  unfold freed
  split
  . rw [lineFeeds_append hnewline] at hfeeds ⊢
    by_cases hfront : '\n' ∈ lineFeeds front
    . obtain ⟨line, rest, hsplit, hline⟩ := List.eq_append_cons_of_mem hfront
      rw [hsplit, List.append_assoc, List.cons_append] at hfeeds ⊢
      rw [trimFirstLine_append hline]
      exact run_trimEnd hr hfeeds
    . have hline : '\n' ∉ lineFeeds front ++ [last] := by
        rw [List.mem_append, List.mem_singleton, not_or]
        exact ⟨hfront, hnewline.symm⟩
      have hlast : lineFeeds [last] = [last] := by
        simp [lineFeeds]
      rw [hlast] at hfeeds ⊢
      rwa [trimFirstLine_of_not_mem hline, trimEnd_append hblank]
  . exact hfeeds

theorem unfenced_one_line {before front payload : List Char} (after : List Char) (hbefore : '\n' ∉ before)
    (hline : '\n' ∉ front ++ ['}']) (hpayload : front ++ ['}'] = '{' :: payload) :
    ∃ cut tail, joinLines ((lines (before ++ (front ++ '}' :: after))).filterMap unfenced?) =
        cut ++ (freed (opensFence before) (front ++ ['}']) ++ tail) ∧
      (∀ c ∈ cut, c ∈ before) ∧ ∀ c ∈ tail, c = '\n' ∨ c ∈ after := by
  rw [freed_of_not_mem _ hline rfl]
  have hall : '\n' ∉ before ++ front ++ ['}'] := by
    rw [List.append_assoc, List.mem_append, not_or]
    exact ⟨hbefore, hline⟩
  obtain ⟨back, hback⟩ := unfenced_last after hall (by decide)
  obtain ⟨cut, kept, hkept, hcut, hmem, -⟩ :=
    unfenced?_of_payload before back (rfl : isBlank '}' = false) (by decide) hpayload
  rw [← List.append_assoc] at hkept
  obtain ⟨tail, hjoin, htail, -⟩ := hback (cut ++ (front ++ ['}'])) kept (by rw [hkept]; simp) hmem
  refine ⟨cut, tail, ?_, hcut, htail⟩
  rw [← List.append_assoc, hjoin, List.append_assoc]

theorem unfenced_more_lines {before line rest : List Char} (after : List Char) (hbefore : '\n' ∉ before)
    (hline : '\n' ∉ line) (hhead : line.head? = some '{')
    (h : Reader.start.run limit (line ++ '\n' :: (rest ++ ['}'])) = some r') :
    ∃ cut tail, joinLines ((lines (before ++ (line ++ '\n' :: (rest ++ '}' :: after)))).filterMap unfenced?) =
        cut ++ (freed (opensFence before) (line ++ '\n' :: (rest ++ ['}'])) ++ tail) ∧
      (∀ c ∈ cut, c ∈ before) ∧ ∀ c ∈ tail, c = '\n' ∨ c ∈ after := by
  obtain ⟨first, last, blanks, payload, rfl, hpayload, hlast, hblanks⟩ := first_line hhead
  obtain ⟨hfirst, hend, hrest⟩ := (tidy_of_run Reader.sound_start h).newline
  have hne := hfirst.ne_backtick hblanks hend
  have hreturn : last ≠ '\r' := ne_of_isBlank hlast rfl
  obtain ⟨cut, kept, hkept, hcut, -, hempty⟩ :=
    unfenced?_of_payload before (chomp blanks) hlast hne hpayload
  obtain ⟨tail, hjoin, htail, -⟩ := unfenced_of_tidy after rfl (by decide) hrest
  refine ⟨cut, tail, ?_, hcut, htail⟩
  have hall : '\n' ∉ before ++ (first ++ last :: blanks) := by
    rw [List.mem_append, not_or]
    exact ⟨hbefore, hline⟩
  have hchomp : chomp (before ++ (first ++ last :: blanks)) = before ++ (first ++ last :: chomp blanks) := by
    rw [← List.append_assoc, chomp_append hreturn, List.append_assoc]
  have hfreed := freed_line (opensFence before) hline hlast hblanks (rest ++ ['}'])
  rw [lineFeeds_append (by decide)] at hfreed
  rw [← List.append_assoc before, lines_cons hall, hchomp, List.filterMap_cons_some hkept,
    hempty fun c hc => hblanks c (mem_of_mem_chomp hc), joinLines_cons, hjoin, hfreed]
  . simp [lineFeeds]
  . intro hnil
    rw [hnil] at hjoin
    simp [joinLines] at hjoin

theorem unfenced_first {before front : List Char} (after : List Char) (hbefore : '\n' ∉ before)
    (hhead : (front ++ ['}']).head? = some '{') (h : Reader.start.run limit (front ++ ['}']) = some r') :
    ∃ cut tail, joinLines ((lines (before ++ (front ++ '}' :: after))).filterMap unfenced?) =
        cut ++ (freed (opensFence before) (front ++ ['}']) ++ tail) ∧
      (∀ c ∈ cut, c ∈ before) ∧ ∀ c ∈ tail, c = '\n' ∨ c ∈ after := by
  by_cases hfront : '\n' ∈ front
  . obtain ⟨line, rest, rfl, hline⟩ := List.eq_append_cons_of_mem hfront
    have hfirst : line.head? = some '{' := by
      cases line with
      | nil => simp at hhead
      | cons c line => simpa using hhead
    simp only [List.append_assoc, List.cons_append] at h ⊢
    exact unfenced_more_lines after hbefore hline hfirst h
  . obtain ⟨payload, hpayload⟩ := List.head?_eq_some_iff.mp hhead
    refine unfenced_one_line after hbefore ?_ hpayload
    rw [List.mem_append, not_or]
    exact ⟨hfront, by decide⟩

/--
The removal of code fences lets a JSON text stand between what it leaves of the texts around it.
-/
theorem unfenced_payload (before : List Char) {front : List Char} (after : List Char)
    (hhead : (front ++ ['}']).head? = some '{')
    (h : Reader.start.run limit (front ++ ['}']) = some r') :
    ∃ cut tail, joinLines ((lines (before ++ (front ++ '}' :: after))).filterMap unfenced?) =
        cut ++ (freed (opensFence (lastLine before)) (front ++ ['}']) ++ tail) ∧
      (∀ c ∈ cut, c = '\n' ∨ c ∈ before) ∧ ∀ c ∈ tail, c = '\n' ∨ c ∈ after := by
  obtain ⟨line, hlast, hline, hsplit⟩ := lastLine_split before
  rw [hlast]
  obtain ⟨cut, tail, hjoin, hcut, htail⟩ := unfenced_first after hline hhead h
  rcases hsplit with rfl | ⟨lead, rfl⟩
  . exact ⟨cut, tail, hjoin, fun c hc => .inr (hcut c hc), htail⟩
  . have hkept : (lines (line ++ (front ++ '}' :: after))).filterMap unfenced? ≠ [] := by
      intro hnil
      obtain ⟨middle, hbraces⟩ := freed_braces (opensFence line) hhead
      rw [hnil, hbraces] at hjoin
      simp [joinLines] at hjoin
    obtain ⟨text, happend, htext⟩ := joinLines_append ((lines (lead ++ ['\n'])).filterMap unfenced?) hkept
    refine ⟨text ++ cut, tail, ?_, ?_, htail⟩
    . rw [List.append_assoc, List.cons_append, lines_append, List.filterMap_append, happend, hjoin,
        List.append_assoc]
    . intro c hc
      rcases List.mem_append.mp hc with hc | hc
      . rcases htext c hc with hc | ⟨kept, hmem, hc⟩
        . exact .inl hc
        . obtain ⟨line', hline', hc⟩ := exists_line_of_mem hmem hc
          have := mem_of_mem_lines hline' hc
          rw [List.mem_append, List.mem_singleton] at this
          cases this with
          | inl hc => exact .inr (List.mem_append_left _ hc)
          | inr hc => exact .inl hc
      . exact .inr (List.mem_append_right _ (List.mem_cons_of_mem _ (hcut c hc)))

theorem extract_stripFences {before front after : List Char} (hbefore : '{' ∉ before) (hafter : '}' ∉ after)
    (hhead : (front ++ ['}']).head? = some '{') (h : Reader.start.run limit (front ++ ['}']) = some r') :
    extract (stripFences (before ++ (front ++ '}' :: after))) =
      freed (opensFence (lastLine before)) (front ++ ['}']) := by
  obtain ⟨cut, tail, hjoin, hcut, htail⟩ := unfenced_payload before after hhead h
  obtain ⟨middle, hbraces⟩ := freed_braces (opensFence (lastLine before)) hhead
  have hstrip : stripFences (before ++ (front ++ '}' :: after)) =
      trimStart cut ++ '{' :: (middle ++ '}' :: trimEnd tail) := by
    unfold stripFences trim
    have hshape : cut ++ ('{' :: (middle ++ ['}']) ++ tail) = cut ++ '{' :: (middle ++ '}' :: tail) := by
      simp
    have htrim : trimStart cut ++ '{' :: (middle ++ '}' :: tail) =
        (trimStart cut ++ '{' :: middle) ++ '}' :: tail := by
      simp
    rw [hjoin, hbraces, hshape, trimStart_append rfl, htrim, trimEnd_append rfl]
    simp
  have hleft : '{' ∉ trimStart cut := by
    intro hmem
    cases hcut '{' (mem_of_mem_trimStart hmem) with
    | inl h => contradiction
    | inr h => exact hbefore h
  have hright : '}' ∉ trimEnd tail := by
    intro hmem
    cases htail '}' (mem_of_mem_trimEnd hmem) with
    | inl h => contradiction
    | inr h => exact hafter h
  unfold extract
  rw [hstrip, between?_append hleft hright, hbraces]

theorem round_payload {before front after : List Char} {v : Json} (hbefore : '{' ∉ before)
    (hafter : '}' ∉ after) (hhead : (front ++ ['}']).head? = some '{')
    (h : readWithin limit (front ++ ['}']) = some v) :
    round (before ++ (front ++ '}' :: after)) = freed (opensFence (lastLine before)) (front ++ ['}']) ∧
      readWithin limit (freed (opensFence (lastLine before)) (front ++ ['}'])) = some v := by
  unfold readWithin at h
  rw [Option.bind_eq_some_iff] at h
  obtain ⟨r, hrun, hfinish⟩ := h
  have hfreed := run_freed (opensFence (lastLine before)) Reader.sound_start rfl hrun
  have hread : readWithin limit (freed (opensFence (lastLine before)) (front ++ ['}'])) = some v := by
    unfold readWithin
    rw [hfreed]
    exact hfinish
  refine ⟨?_, hread⟩
  unfold round
  rw [extract_stripFences hbefore hafter hhead hrun, dropCommas_of_run hfreed, balance_of_readWithin hread]

end Repair

open Repair

/--
A text with an object in it is repaired to the text of the object, which is left as it is except for its line breaks
and for blanks that a fence before it takes along. The answer is the object.
-/
theorem repair_payload {payload : String} (before after : String) {members : Json.Object} {rounds : UInt32}
    (hparse : Json.parse? payload = some (.object members)) (hhead : payload.toList.head? = some '{')
    (hlast : payload.toList.getLast? = some '}') (hbefore : '{' ∉ before.toList) (hafter : '}' ∉ after.toList)
    (hother : Json.parse? (before ++ payload ++ after) = none) (hrounds : 1 ≤ rounds) :
    repair (before ++ payload ++ after) rounds =
        .ok (String.ofList (freed (opensFence (lastLine before.toList)) payload.toList)) ∧
      parseAnswer (before ++ payload ++ after) = .ok members := by
  obtain ⟨front, hfront⟩ := List.getLast?_eq_some_iff.mp hlast
  have htext : (before ++ payload ++ after).toList = before.toList ++ (front ++ '}' :: after.toList) := by
    simp [hfront]
  rw [hfront] at hhead ⊢
  unfold Json.parse? Json.read? at hparse hother
  rw [Option.map_eq_some_iff] at hparse
  obtain ⟨v, hread, hcanonical⟩ := hparse
  rw [hfront] at hread
  rw [Option.map_eq_none_iff] at hother
  obtain ⟨hround, hfreed⟩ := round_payload hbefore hafter hhead hread
  have hblank : Text.isAllBlank (before ++ payload ++ after) = false := by
    unfold Text.isAllBlank
    rw [List.all_eq_false, htext]
    exact ⟨'}', by simp, by decide⟩
  -- The first round succeeds, so the number of rounds does not matter.
  have hrepair {rounds : UInt32} (hrounds : 1 ≤ rounds) : repair (before ++ payload ++ after) rounds =
      .ok (String.ofList (freed (opensFence (lastLine before.toList)) (front ++ ['}']))) := by
    obtain ⟨n, hn⟩ : ∃ n, rounds.toNat = n + 1 := by
      rw [UInt32.le_iff_toNat_le] at hrounds
      exact Nat.exists_eq_add_of_le' hrounds
    have hjson : isJson (before ++ payload ++ after).toList = false := by
      unfold isJson
      rw [hother]
      rfl
    have hnext : isJson (freed (opensFence (lastLine before.toList)) (front ++ ['}'])) = true := by
      unfold isJson
      rw [hfreed]
      rfl
    unfold repair
    rw [hblank, hjson, hn, htext]
    simp only [search, hround, hnext, if_true, if_false, Bool.false_eq_true]
  refine ⟨hrepair hrounds, ?_⟩
  unfold parseAnswer repairDefault
  rw [hrepair (by decide)]
  dsimp only
  unfold Json.parse? Json.read?
  rw [String.toList_ofList, hfreed, Option.map_some, hcanonical]

theorem repair_payload_fenced :
    repair "Here it is:\r\n```json\r\n\x7b\r\n  \"a\": [1]\r\n\x7d\r\n```\r\nDone." 1 =
        .ok "\x7b\n  \"a\": [1]\n\x7d" ∧
      parseAnswer "Here it is:\r\n```json\r\n\x7b\r\n  \"a\": [1]\r\n\x7d\r\n```\r\nDone." =
        .ok [("a", .array [.ofUInt64 1])] := by
  have hparse : Json.parse? "\x7b\r\n  \"a\": [1]\r\n\x7d" = some (.object [("a", .array [.ofUInt64 1])]) := by
    decide +kernel
  exact repair_payload "Here it is:\r\n```json\r\n" "\r\n```\r\nDone." hparse
    (by decide +kernel) (by decide +kernel) (by decide +kernel) (by decide +kernel) (by decide +kernel)
    (by decide +kernel)

/--
A fence on the line of the text takes the blanks at the end of this line along, so a text does not always keep all
but its line breaks.
-/
theorem repair_payload_blanks :
    ¬ ∀ (payload before after : String) (members : Json.Object) (rounds : UInt32),
      Json.parse? payload = some (.object members) → payload.toList.head? = some '{' →
      payload.toList.getLast? = some '}' → '{' ∉ before.toList → '}' ∉ after.toList →
      Json.parse? (before ++ payload ++ after) = none → 1 ≤ rounds →
      repair (before ++ payload ++ after) rounds = .ok (String.ofList (Text.lineFeeds payload.toList)) ∧
        parseAnswer (before ++ payload ++ after) = .ok members := by
  intro h
  have hkept := h "\x7b  \n\"a\":1\x7d" "```json " "" [("a", .ofUInt64 1)] 1 (by decide +kernel) (by decide +kernel)
    (by decide +kernel) (by decide +kernel) (by decide +kernel) (by decide +kernel) (by decide +kernel)
  have hcut : repair ("```json " ++ "\x7b  \n\"a\":1\x7d" ++ "") 1 = .ok "\x7b\n\"a\":1\x7d" := by
    rfl
  rw [hcut] at hkept
  have htext := Except.ok.inj hkept.1
  revert htext
  decide +kernel

end Triage
