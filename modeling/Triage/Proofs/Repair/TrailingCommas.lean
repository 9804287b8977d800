import Triage.Proofs.Repair.CommaRounds

/-!
This module contains the repair of the text of an object after runs of commas have been put in front of its closing
brackets.
-/

namespace Triage
namespace Repair

open Text Json Json.Reader

/--
How a text that begins at some place comes from another one: runs of commas and blanks have been put right in front of
closing brackets that stand outside of strings. The number counts the commas of the longest run.
-/
inductive Padded : Place → List Char → List Char → Nat → Prop where
  | nil {place : Place} : Padded place [] [] 0
  | keep {place : Place} {c : Char} {cs ds : List Char} {n : Nat} (hrest : Padded (place.next c) cs ds n) :
      Padded place (c :: cs) (c :: ds) n
  | run {run : List Char} {c : Char} {cs ds : List Char} {n : Nat} (hrun : ∀ d ∈ run, isStray d = true)
      (hc : isCloser c = true) (hrest : Padded .outside cs ds n) :
      Padded .outside (c :: cs) (run ++ c :: ds) (max (run.count ',') n)

variable {limit n : Nat} {place : Place} {r r' : Reader} {cs ds : List Char} {c : Char}

theorem Padded.append {place' : Place} (front : List Char) (hfront : place.after front = place')
    (h : Padded place' cs ds n) : Padded place (front ++ cs) (front ++ ds) n := by
  subst hfront
  induction front generalizing place with
  | nil => exact h
  | cons c front ih => exact .keep (ih h)

theorem Padded.lenient (h : Padded place cs ds n) (hplace : r.phase.place = place) (hr : r.Sound)
    (hrun : r.run limit cs = some r') : Lenient limit r ds r' n := by
  induction h generalizing r with
  | nil =>
    cases hrun
    exact .nil
  | keep _ ih =>
    obtain ⟨next, hnext, hrest⟩ := run_cons_eq_some_iff.mp hrun
    have hmove := move_of_step hnext
    refine .step hnext (ih ?_ (hmove.sound hr) hrest)
    rw [← hmove.place hr, hplace]
  | run hstray hc _ ih =>
    obtain ⟨next, hnext, hrest⟩ := run_cons_eq_some_iff.mp hrun
    have hmove := move_of_step hnext
    refine .stray hplace hstray hc hnext (ih ?_ (hmove.sound hr) hrest)
    rw [← hmove.place hr, hplace, next_of_isCloser hc]

end Repair

open Repair Json.Reader

/--
The text of an object with runs of commas in front of closing brackets is repaired if there are as many rounds as the
longest run has commas, and not if there are fewer. The repaired text stands for the same object.
-/
theorem repair_padded {text padded : String} {members : Json.Object} {longest : Nat} (rounds : UInt32)
    (hparse : Json.parse? text = some (.object members))
    (h : Padded .outside text.toList padded.toList longest) :
    ((∃ repaired, repair padded rounds = .ok repaired) ↔ longest ≤ rounds.toNat) ∧
      ∀ repaired, repair padded rounds = .ok repaired → Json.parse? repaired = some (.object members) := by
  obtain ⟨ms, hread, hmembers⟩ := parse?_eq_some_object_iff.mp hparse
  obtain ⟨r, hrun, hfinish⟩ := Option.bind_eq_some_iff.mp hread
  have hlenient := h.lenient rfl sound_start hrun
  have hsame {repaired : String}
      (hrepaired : Json.readWithin Json.depthLimit repaired.toList = some (.object ms)) :
      Json.parse? repaired = some (.object members) :=
    parse?_eq_some_object_iff.mpr ⟨ms, hrepaired, hmembers⟩
  have hblank : Text.isAllBlank padded = false := hlenient.not_all_isBlank hfinish
  cases longest with
  | zero =>
    have hjson := (hlenient.isJson_iff hfinish).mpr rfl
    simp only [repair_eq_ok_iff, hblank, hjson, if_true, true_and]
    refine ⟨by simp, ?_⟩
    rintro repaired rfl
    apply hsame
    unfold Json.readWithin
    rw [hlenient.run_eq sound_start, Option.bind_some, hfinish]
  | succ n =>
    have hjson : ¬ isJson padded.toList = true :=
      fun hjson => Nat.succ_ne_zero n ((hlenient.isJson_iff hfinish).mp hjson)
    obtain ⟨hfound, hobject⟩ := hlenient.search rounds.toNat hfinish
    have hsearch {repaired : String} (hrepaired : repair padded rounds = .ok repaired) :
        search rounds.toNat padded.toList = some repaired.toList := by
      have := (repair_eq_ok_iff.mp hrepaired).2
      rwa [if_neg hjson] at this
    refine ⟨⟨?_, ?_⟩, ?_⟩
    . rintro ⟨repaired, hrepaired⟩
      exact hfound.mp ⟨_, hsearch hrepaired⟩
    . intro hle
      obtain ⟨found, hfound⟩ := hfound.mpr hle
      refine ⟨String.ofList found, repair_eq_ok_iff.mpr ⟨hblank, ?_⟩⟩
      rw [if_neg hjson, hfound, String.toList_ofList]
    . intro repaired hrepaired
      exact hsame (hobject _ (hsearch hrepaired))

/--
Two runs of commas, the longer one spread over two lines, and a string that looks as if it had one.
-/
theorem repair_padded_nested :
    (¬ ∃ repaired, repair "\x7b\"a\":[1, ,\n,],\"b\":\"x,]\"\r\n,\x7d" 2 = .ok repaired) ∧
      ∃ repaired, repair "\x7b\"a\":[1, ,\n,],\"b\":\"x,]\"\r\n,\x7d" 3 = .ok repaired ∧
        Json.parse? repaired = some (.object [("a", .array [.ofUInt64 1]), ("b", .string "x,]")]) := by
  have hparse : Json.parse? "\x7b\"a\":[1],\"b\":\"x,]\"\x7d" =
      some (.object [("a", .array [.ofUInt64 1]), ("b", .string "x,]")]) := by
    decide +kernel
  have hlast : Padded .outside ['}'] (['\r', '\n', ','] ++ ['}']) 1 := .run (by simp [isStray, isSpace]) rfl .nil
  have hmiddle : Padded .outside _ _ 1 := hlast.append [',', '"', 'b', '"', ':', '"', 'x', ',', ']', '"'] rfl
  have hfirst : Padded .outside _ ([',', ' ', ',', '\n', ','] ++ ']' :: _) 3 :=
    .run (by simp [isStray, isSpace]) rfl hmiddle
  have hpadded : Padded .outside "\x7b\"a\":[1],\"b\":\"x,]\"\x7d".toList
      "\x7b\"a\":[1, ,\n,],\"b\":\"x,]\"\r\n,\x7d".toList 3 :=
    hfirst.append ['{', '"', 'a', '"', ':', '[', '1'] rfl
  obtain ⟨repaired, hrepaired⟩ := (repair_padded 3 hparse hpadded).1.mpr (by decide)
  exact ⟨fun h => absurd ((repair_padded 2 hparse hpadded).1.mp h) (by decide), repaired, hrepaired,
    (repair_padded 3 hparse hpadded).2 repaired hrepaired⟩

end Triage
