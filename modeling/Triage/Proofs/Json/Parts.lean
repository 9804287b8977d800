import Triage.Proofs.Json.RoundTrip

/-!
This module contains objects that are put together from the texts of their values, which need not be the compact ones:
the object is read if each of its values is.
-/

namespace Triage
namespace Json

open Reader

/--
A text that is read as a value wherever `n` more containers may be open.
-/
structure Reads (n : Nat) (cs : List Char) (v : Json) : Prop where
  behind (limit : Nat) (stack : List Frame) (h : stack.length + n ≤ limit) :
    ∃ r, run limit ⟨stack, .value⟩ cs = some r ∧ Behind stack v r

theorem Reads.weaken {m n : Nat} {cs : List Char} {v : Json} (h : Reads m cs v) (hle : m ≤ n) : Reads n cs v :=
  ⟨fun limit stack hdepth => h.behind limit stack (Nat.le_trans (Nat.add_le_add_left hle _) hdepth)⟩

theorem IsLiteral.reads {cs : List Char} {n : Number} (h : IsLiteral cs n) : Reads 0 cs (.number n) :=
  ⟨fun _ _ _ => behind_literal h⟩

theorem reads_compactChars {v : Json} (hnumbers : v.NumbersSurvive) : Reads v.containers v.compactChars v :=
  ⟨fun _ stack hdepth => behind_compactChars v stack hdepth hnumbers⟩

theorem Reads.read? {n : Nat} {cs : List Char} {v : Json} (h : Reads n cs v) (hn : n ≤ depthLimit) :
    Json.read? (String.ofList cs) = some v := by
  obtain ⟨r, hrun, hr⟩ := h.behind depthLimit [] (by simpa using hn)
  unfold Json.read? readWithin
  rw [String.toList_ofList]
  change Reader.start.run depthLimit cs = some r at hrun
  rw [hrun]
  exact hr.finish

/--
A member of an object with the text of its value.
-/
structure Part where
  key : String
  text : List Char
  value : Json

namespace Part

def chars (p : Part) : List Char :=
  stringChars p.key ++ ':' :: p.text

def member (p : Part) : String × Json :=
  (p.key, p.value)

theorem intercalate_chars (p : Part) (parts : List Part) :
    List.intercalate [','] ((p :: parts).map chars) = p.chars ++ parts.flatMap fun q => ',' :: q.chars := by
  induction parts generalizing p with
  | nil => simp
  | cons q parts ih =>
    rw [List.map_cons, List.map_cons, List.intercalate_cons_cons, ← List.map_cons, ih q]
    simp

variable {n : Nat} {parts : List Part}

/--
The rest of an object behind one of its members.
-/
theorem run_tail (h : ∀ p ∈ parts, Reads n p.text p.value) {limit : Nat} {stack : List Frame}
    (hdepth : stack.length + 1 + n ≤ limit) {members : List (String × Json)} {key : String} {v : Json} {r : Reader}
    (hr : Behind (.member members key :: stack) v r) :
    run limit r ((parts.flatMap fun p => ',' :: p.chars) ++ ['}']) =
      some (close stack (.object (members.reverse ++ (key, v) :: parts.map member))) := by
  induction parts generalizing members key v r with
  | nil =>
    rw [List.flatMap_nil, List.nil_append, run, hr.step rfl (by decide), List.map_nil, ← List.reverse_cons]
    rfl
  | cons p parts ih =>
    rw [List.forall_mem_cons] at h
    have hcomma : r.step limit ',' = some ⟨stack, .key ((key, v) :: members)⟩ := hr.step rfl (by decide)
    obtain ⟨r', hrun, hr'⟩ := h.1.behind limit (.member ((key, v) :: members) p.key :: stack) hdepth
    rw [List.flatMap_cons, List.cons_append, List.cons_append, run, hcomma]
    dsimp only
    rw [chars, List.append_assoc, List.append_assoc, List.cons_append, run_keyChars rfl, run_append, hrun,
      Option.bind_some, ih h.2 hr']
    simp [member]

/--
An object of texts that are read as values is read as the object of these values.
-/
theorem reads_object (h : ∀ p ∈ parts, Reads n p.text p.value) :
    Reads (n + 1) ('{' :: (List.intercalate [','] (parts.map chars) ++ ['}'])) (.object (parts.map member)) := by
  constructor
  intro limit stack hdepth
  have hlt : stack.length < limit := by omega
  have hopen : step limit ⟨stack, .value⟩ '{' = some ⟨stack, .firstKey⟩ := opened_of_lt hlt
  refine ⟨close stack (.object (parts.map member)), ?_, .closed⟩
  rw [run, hopen]
  dsimp only
  cases parts with
  | nil => rfl
  | cons p parts =>
    rw [List.forall_mem_cons] at h
    obtain ⟨r, hrun, hr⟩ := h.1.behind limit (.member [] p.key :: stack) (by rw [List.length_cons]; omega)
    rw [intercalate_chars, chars, List.append_assoc, List.append_assoc, List.cons_append, run_keyChars rfl, run_append,
      hrun, Option.bind_some, run_tail h.2 (by omega) hr]
    rfl

end Part
end Json
end Triage
