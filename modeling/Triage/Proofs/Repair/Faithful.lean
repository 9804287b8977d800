import Triage.Proofs.Json.Truncated
import Triage.Proofs.Repair.Rounds
import Triage.Proofs.Repair.Truncation

/-!
This module contains the answer to the text of an object that breaks off anywhere, be it inside a string, a name or a
number. If there is an answer, it is a truncation of the object.
-/

namespace Triage
namespace Repair

open Text Json

variable {limit : Nat} {text part rest : List Char} {r : Reader} {members : List (String × Json)}

/--
The part of an object that the repair cuts out is taken for an array, or it is a first part of the text.
-/
theorem extract_part (hrun : Reader.start.run limit part = some r)
    (hread : readWithin limit (part ++ rest) = some (.object members)) :
    (∃ middle, extract (trimStart (lineFeeds part)) = '[' :: middle) ∨
      ∃ first, first <+: part ∧ extract (trimStart (lineFeeds part)) = trimStart (lineFeeds first) := by
  by_cases hbrace : '}' ∈ part
  . right
    obtain ⟨kept, cut, rfl, hcut⟩ := eq_append_cons_last hbrace
    rw [List.append_cons] at hrun
    obtain ⟨mid, hmid, -⟩ := Reader.run_append_eq_some_iff.mp hrun
    have hhead : (trimStart (lineFeeds (kept ++ ['}']))).head? = some '{' := by
      unfold readWithin at hread
      rw [List.append_cons, List.append_assoc, Reader.run_append, hmid, Option.bind_some,
        Option.bind_eq_some_iff] at hread
      obtain ⟨last, hlast, hfinish⟩ := hread
      obtain ⟨g, hg, -⟩ := progress_of_read hmid hlast hfinish (behindBrace_of_run hmid).begun
      exact Reader.head?_trimStart_of_progress (run_lineFeeds Reader.sound_start hmid) hg
    have hpart : kept ++ ['}'] <+: kept ++ '}' :: cut := ⟨cut, (List.append_cons kept '}' cut).symm⟩
    exact ⟨kept ++ ['}'], hpart, extract_braced hhead hcut⟩
  . by_cases hbrackets : ['[', ']'].Sublist part
    . left
      exact extract_brackets hbrace hbrackets
    . right
      exact ⟨part, List.prefix_refl _, extract_unbraced hbrace hbrackets⟩

theorem closing_of_finish {v : Json} (hrun : Reader.start.run limit text = some r) (hfinish : r.finish = some v) :
    (r.run limit r.nesting.closing).bind Reader.finish = some v := by
  rw [Reader.nesting_of_finish (Reader.sound_of_run hrun Reader.sound_start) hfinish]
  exact hfinish

/--
One round of repairs closes what is open behind a first part of the text.
-/
theorem closing_of_round {kept : List (String × Json)}
    (hread : readWithin limit (text ++ rest) = some (.object members))
    (hround : readWithin limit (round text) = some (.object kept)) :
    ∃ part r, part <+: text ∧ Reader.start.run limit part = some r ∧
      (r.run limit r.nesting.closing).bind Reader.finish = some (.object kept) := by
  have hruns {part : List Char} (hpart : part <+: text) : ∃ r, Reader.start.run limit part = some r := by
    obtain ⟨more, rfl⟩ := hpart
    unfold readWithin at hread
    rw [List.append_assoc, Reader.run_append, Option.bind_eq_some_iff] at hread
    obtain ⟨last, hlast, -⟩ := hread
    obtain ⟨r, hr, -⟩ := Option.bind_eq_some_iff.mp hlast
    exact ⟨r, hr⟩
  obtain ⟨whole, hwhole⟩ := hruns (List.prefix_refl text)
  obtain ⟨stripped, hstripped, hfences⟩ := stripFences_part hwhole
  obtain ⟨mid, hmid⟩ := hruns hstripped
  obtain ⟨back, hback⟩ := hstripped
  have hread' : readWithin limit (stripped ++ (back ++ rest)) = some (.object members) := by
    rw [← List.append_assoc, hback]
    exact hread
  rcases extract_part hmid hread' with ⟨middle, hmiddle⟩ | ⟨first, hfirst, hextract⟩
  . rw [← hfences] at hmiddle
    exact absurd hround (not_object_of_bracket hmiddle)
  . have hpart : first <+: text := hfirst.trans ⟨back, hback⟩
    obtain ⟨r, hr⟩ := hruns hpart
    refine ⟨first, r, hpart, hr, ?_⟩
    have hcut := run_trimStart_lineFeeds hr
    rw [← hextract, ← hfences] at hcut
    rw [← readWithin_round hcut]
    exact hround

theorem answer_of_blank {text : String} (h : Text.isAllBlank text = true) :
    parseAnswer text = .error (.repair (.empty text)) := by
  unfold parseAnswer repairDefault repair
  rw [if_pos h]

theorem answer_of_isJson {text : String} {m : Json.Object} (hjson : isJson text.toList = true)
    (h : parseAnswer text = .ok m) :
    ∃ kept, readWithin depthLimit text.toList = some (.object kept) ∧ m = Members.sorted (canonicalMembers kept) := by
  obtain ⟨v, hparse⟩ := exists_parse?_of_isJson hjson
  unfold parseAnswer repairDefault at h
  rw [repair_of_parse? hparse] at h
  dsimp only at h
  rw [hparse] at h
  cases v with
  | object members =>
    cases h
    exact parse?_eq_some_object_iff.mp hparse
  | _ => contradiction

theorem closing_of_answer {text : String} {m : Json.Object}
    (hread : readWithin depthLimit (text.toList ++ rest) = some (.object members)) (h : parseAnswer text = .ok m) :
    ∃ part r kept, part <+: text.toList ∧ Reader.start.run depthLimit part = some r ∧
      (r.run depthLimit r.nesting.closing).bind Reader.finish = some (.object kept) ∧
      m = Members.sorted (canonicalMembers kept) := by
  cases hblank : Text.isAllBlank text with
  | true =>
    rw [answer_of_blank hblank] at h
    contradiction
  | false =>
    cases hjson : isJson text.toList with
    | true =>
      obtain ⟨kept, hkept, hm⟩ := answer_of_isJson hjson h
      obtain ⟨r, hrun, hfinish⟩ := Option.bind_eq_some_iff.mp hkept
      exact ⟨_, r, kept, List.prefix_refl _, hrun, closing_of_finish hrun hfinish, hm⟩
    | false =>
      obtain ⟨kept, hround, hm⟩ := (parseAnswer_eq_ok_iff hblank hjson).mp h
      obtain ⟨part, r, hpart, hrun, hclosing⟩ := closing_of_round hread hround
      exact ⟨part, r, kept, hpart, hrun, hclosing, hm⟩

end Repair

open Repair

/--
An answer to the text of an object that breaks off has nothing that the object does not have. Its members, in the order
of the text, are a truncation of the members of the object.
-/
theorem parseAnswer_of_cut {text rest : String} {members : List (String × Json)} {m : Json.Object}
    (hread : Json.read? (text ++ rest) = some (.object members)) (h : parseAnswer text = .ok m) :
    ∃ kept, Json.object m = Json.canonical (.object kept) ∧
      Json.Truncated Json.depthLimit (text ++ rest).toList [] (.object kept) (.object members) ∧
      (Json.DistinctNames (.object members) → Json.DistinctNames (.object kept)) := by
  unfold Json.read? at hread
  rw [String.toList_append] at hread ⊢
  obtain ⟨part, r, kept, ⟨back, hback⟩, hrun, hclosing, rfl⟩ := closing_of_answer hread h
  have htruncated : Json.Truncated Json.depthLimit (part ++ (back ++ rest.toList)) [] (.object kept)
      (.object members) := by
    apply Json.Reader.truncated_of_closing hrun _ hclosing
    rw [← List.append_assoc, hback]
    exact hread
  rw [← List.append_assoc, hback] at htruncated
  exact ⟨kept, rfl, htruncated, htruncated.distinctNames⟩

/--
A number that breaks off behind its first digits, in an array that breaks off with it.
-/
theorem parseAnswer_of_cut_number :
    ∃ members m kept, Json.read? ("\x7b\"n\":[true,-1" ++ "25],\"a\":null\x7d") = some (.object members) ∧
      parseAnswer "\x7b\"n\":[true,-1" = .ok m ∧ Json.object m = Json.canonical (.object kept) ∧
      Json.Truncated Json.depthLimit ("\x7b\"n\":[true,-1" ++ "25],\"a\":null\x7d").toList [] (.object kept)
        (.object members) ∧
      Json.DistinctNames (.object kept) := by
  let whole : List (String × Json) :=
    [("n", .array [.bool true, .number (.integer ⟨-125, by decide, by decide⟩)]), ("a", .null)]
  have hread : Json.read? ("\x7b\"n\":[true,-1" ++ "25],\"a\":null\x7d") = some (.object whole) := by
    decide +kernel
  have hanswer : parseAnswer "\x7b\"n\":[true,-1" =
      .ok [("n", .array [.bool true, .number (.integer ⟨-1, by decide, by decide⟩)])] := by
    decide +kernel
  have hdistinct : Json.DistinctNames (.object whole) := by
    apply Json.DistinctNames.object
    . decide
    . simp [whole, Json.DistinctNames.null, Json.DistinctNames.bool, Json.DistinctNames.number,
        Json.DistinctNames.array]
  obtain ⟨kept, hkept, htruncated, hnames⟩ := parseAnswer_of_cut hread hanswer
  exact ⟨_, _, kept, hread, hanswer, hkept, htruncated, hnames hdistinct⟩

end Triage
