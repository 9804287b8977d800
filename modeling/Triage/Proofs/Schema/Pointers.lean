import Triage.Schema.Fault

/-!
This module contains what is shown of a pointer, by the parts that it is made of. Empty parts at its start are lost.
-/

namespace Triage
namespace Schema
namespace Violation

/--
How the place with these parts is to be shown: with a dot between each two of them, and `$` for the whole value.
-/
def placeText (parts : List String) : String :=
  if parts = [] then "$" else ".".intercalate parts

variable {part : String} {parts : List String}

theorem not_mem_pointerPart (key : String) : '/' ∉ (pointerPart key).toList := by
  unfold pointerPart
  rw [String.toList_ofList, List.mem_flatMap]
  rintro ⟨c, -, hc⟩
  split at hc
  . simp at hc
  . split at hc
    . simp at hc
    . next hslash => exact hslash (List.mem_singleton.mp hc).symm

theorem escaped_ne_nil (c : Char) : (if c = '~' then ['~', '0'] else if c = '/' then ['~', '1'] else [c]) ≠ [] := by
  split
  . exact nofun
  . split <;> exact nofun

theorem escaped_append_inj {c d : Char} {cs ds : List Char}
    (h : (if c = '~' then ['~', '0'] else if c = '/' then ['~', '1'] else [c]) ++ cs =
      (if d = '~' then ['~', '0'] else if d = '/' then ['~', '1'] else [d]) ++ ds) : c = d ∧ cs = ds := by
  grind

/--
Different keys are different parts of a pointer.
-/
theorem pointerPart_inj {key other : String} (h : pointerPart key = pointerPart other) : key = other := by
  have hchars := congrArg String.toList h
  unfold pointerPart at hchars
  rw [String.toList_ofList, String.toList_ofList] at hchars
  apply String.toList_inj.mp
  generalize key.toList = cs at hchars ⊢
  generalize other.toList = ds at hchars ⊢
  induction cs generalizing ds with
  | nil =>
    cases ds with
    | nil => rfl
    | cons d ds => exact absurd (List.append_eq_nil_iff.mp hchars.symm).1 (escaped_ne_nil d)
  | cons c cs ih =>
    cases ds with
    | nil => exact absurd (List.append_eq_nil_iff.mp hchars).1 (escaped_ne_nil c)
    | cons d ds =>
      obtain ⟨rfl, hrest⟩ := escaped_append_inj hchars
      rw [ih ds hrest]

theorem pointerPart_eq_empty_iff {key : String} : pointerPart key = "" ↔ key = "" := by
  constructor
  . intro h
    have hempty : pointerPart "" = "" := rfl
    exact pointerPart_inj (h.trans hempty.symm)
  . rintro rfl
    rfl

theorem pointerPart_eq_dollar_iff {key : String} : pointerPart key = "$" ↔ key = "$" := by
  constructor
  . intro h
    have hdollar : pointerPart "$" = "$" := rfl
    exact pointerPart_inj (h.trans hdollar.symm)
  . rintro rfl
    rfl

theorem toList_pointer (parts : List String) : (pointer parts).toList = parts.flatMap fun part => '/' :: part.toList := by
  unfold pointer
  rw [String.toList_join, List.flatMap_map]
  simp

theorem intercalate_dot (first : List Char) (rest : List (List Char)) :
    ['.'].intercalate (first :: rest) = first ++ rest.flatMap ('.' :: ·) := by
  induction rest generalizing first with
  | nil => simp
  | cons second rest ih =>
    rw [List.intercalate_cons_cons, ih second, List.flatMap_cons, List.append_assoc, List.singleton_append, List.cons_append]

theorem toList_intercalate_cons (part : String) (parts : List String) :
    (".".intercalate (part :: parts)).toList = part.toList ++ (parts.map String.toList).flatMap ('.' :: ·) := by
  rw [String.toList_intercalate, ← intercalate_dot]
  rfl

theorem map_dot_of_not_mem {cs : List Char} (h : '/' ∉ cs) : cs.map (fun c => if c = '/' then '.' else c) = cs := by
  apply (List.map_congr_left _).trans (List.map_id cs)
  intro c hc
  apply if_neg
  rintro rfl
  exact h hc

theorem map_dot_parts (hslash : ∀ p ∈ parts, '/' ∉ p.toList) :
    (parts.flatMap fun p => '/' :: p.toList).map (fun c => if c = '/' then '.' else c) =
      (parts.map String.toList).flatMap ('.' :: ·) := by
  rw [List.map_flatMap, List.flatMap_map]
  induction parts with
  | nil => rfl
  | cons part parts ih =>
    rw [List.forall_mem_cons] at hslash
    rw [List.flatMap_cons, List.flatMap_cons, ih hslash.2, List.map_cons, map_dot_of_not_mem hslash.1]
    rfl

/--
All parts of a pointer are shown if the first one is not empty.
-/
theorem shownPointer_of_part (hpart : part ≠ "") (hslash : ∀ p ∈ part :: parts, '/' ∉ p.toList) :
    shownPointer (pointer (part :: parts)) = ".".intercalate (part :: parts) := by
  rw [List.forall_mem_cons] at hslash
  have hchars : (pointer (part :: parts)).toList.dropWhile (· == '/') =
      part.toList ++ parts.flatMap fun p => '/' :: p.toList := by
    rw [toList_pointer, List.flatMap_cons, List.cons_append]
    cases htext : part.toList with
    | nil => exact absurd (String.toList_eq_nil_iff.mp htext) hpart
    | cons c cs =>
      have hc : c ≠ '/' := by
        rintro rfl
        apply hslash.1
        rw [htext]
        exact List.mem_cons_self
      simp [hc]
  have hne : part.toList ≠ [] := fun h => hpart (String.toList_eq_nil_iff.mp h)
  unfold shownPointer
  apply String.toList_inj.mp
  rw [hchars, if_neg (by simp [hne]), String.toList_ofList, List.map_append, map_dot_of_not_mem hslash.1,
    map_dot_parts hslash.2, toList_intercalate_cons]

/--
An empty part at the start of a pointer is not shown.
-/
theorem shownPointer_of_empty (parts : List String) : shownPointer (pointer ("" :: parts)) = shownPointer (pointer parts) := by
  unfold shownPointer
  rw [toList_pointer, toList_pointer]
  rfl

theorem shownPointer_eq (hslash : ∀ p ∈ parts, '/' ∉ p.toList) :
    shownPointer (pointer parts) = placeText (parts.dropWhile (· = "")) := by
  induction parts with
  | nil => rfl
  | cons part parts ih =>
    by_cases hpart : part = ""
    . subst hpart
      rw [shownPointer_of_empty]
      exact ih (List.forall_mem_cons.mp hslash).2
    . rw [shownPointer_of_part hpart hslash, List.dropWhile_cons_of_neg (by simpa using hpart)]
      rfl

theorem eq_of_intercalate_eq_dollar (h : ".".intercalate (part :: parts) = "$") : part = "$" ∧ parts = [] := by
  have hchars := congrArg String.toList h
  rw [toList_intercalate_cons] at hchars
  cases parts with
  | nil =>
    rw [List.map_nil, List.flatMap_nil, List.append_nil] at hchars
    exact ⟨String.toList_inj.mp hchars, rfl⟩
  | cons second parts =>
    have hdot : '.' ∈ "$".toList := by
      rw [← hchars]
      simp
    exact absurd hdot (by decide)

/--
A place whose first part is empty is never shown as it should be: it is told by fewer parts, or as the whole value.
-/
theorem shownPointer_ne_of_empty (hslash : ∀ p ∈ parts, '/' ∉ p.toList) :
    shownPointer (pointer ("" :: parts)) ≠ placeText ("" :: parts) := by
  intro h
  rw [shownPointer_of_empty, shownPointer_eq hslash] at h
  cases hkept : parts.dropWhile (· = "") with
  | nil =>
    rw [hkept] at h
    exact absurd (eq_of_intercalate_eq_dollar h.symm).1 (by decide)
  | cons part rest =>
    rw [hkept] at h
    obtain ⟨front, hparts⟩ : ∃ front, parts = front ++ part :: rest :=
      ⟨parts.takeWhile (· = ""), by rw [← hkept, List.takeWhile_append_dropWhile]⟩
    -- the first dot of the wanted text, at least, is not shown
    have hlength : (".".intercalate (part :: rest)).toList.length = (".".intercalate ("" :: parts)).toList.length :=
      congrArg (fun text => text.toList.length) h
    rw [toList_intercalate_cons, toList_intercalate_cons, hparts] at hlength
    simp only [List.map_append, List.map_cons, List.flatMap_append, List.flatMap_cons, List.length_append,
      List.length_cons, String.toList_empty, List.length_nil] at hlength
    omega

theorem shownPointer_eq_placeText_iff (hslash : ∀ p ∈ parts, '/' ∉ p.toList) :
    shownPointer (pointer parts) = placeText parts ↔ parts.head? ≠ some "" := by
  cases parts with
  | nil => exact ⟨fun _ => nofun, fun _ => rfl⟩
  | cons part parts =>
    rw [List.head?_cons]
    by_cases hpart : part = ""
    . subst hpart
      simpa using shownPointer_ne_of_empty (List.forall_mem_cons.mp hslash).2
    . exact ⟨fun _ => by simpa using hpart, fun _ => shownPointer_of_part hpart hslash⟩

example : shownPointer (pointer ["a", "0", "b"]) = "a.0.b" := by
  decide +kernel

theorem placeText_eq_dollar_iff : placeText parts = "$" ↔ parts = [] ∨ parts = ["$"] := by
  cases parts with
  | nil => simp [placeText]
  | cons part parts =>
    constructor
    . intro h
      obtain ⟨rfl, rfl⟩ := eq_of_intercalate_eq_dollar h
      exact .inr rfl
    . rintro (h | h)
      . contradiction
      . rw [h]
        rfl

end Violation
end Schema
end Triage
