/-!
This module contains the blank characters of text and the ways of trimming them. Blank means the
Unicode property `White_Space`; joiners, the zero width space and the byte order mark are not blank.
-/

namespace Triage
namespace Text

/--
The characters with the Unicode property `White_Space`.
-/
def isBlank (c : Char) : Bool :=
  (0x09 ≤ c.val && c.val ≤ 0x0D) || c.val == 0x20 || c.val == 0x85 || c.val == 0xA0
    || c.val == 0x1680 || (0x2000 ≤ c.val && c.val ≤ 0x200A) || c.val == 0x2028 || c.val == 0x2029
    || c.val == 0x202F || c.val == 0x205F || c.val == 0x3000

theorem isBlank_of_isAlphanum {c : Char} (h : c.isAlphanum = true) : isBlank c = false := by
  unfold Char.isAlphanum Char.isAlpha Char.isUpper Char.isLower Char.isDigit at h
  unfold isBlank
  simp only [Bool.or_eq_true, Bool.and_eq_true, decide_eq_true_eq, UInt32.le_iff_toNat_le, ge_iff_le,
    Bool.or_eq_false_iff, Bool.and_eq_false_iff, decide_eq_false_iff_not, beq_eq_false_iff_ne, ne_eq,
    ← UInt32.toNat_inj] at *
  simp at *
  omega

def trimStart (cs : List Char) : List Char :=
  cs.dropWhile isBlank

def trimEnd (cs : List Char) : List Char :=
  (cs.reverse.dropWhile isBlank).reverse

def trim (cs : List Char) : List Char :=
  trimEnd (trimStart cs)

def trimmed (s : String) : String :=
  String.ofList (trim s.toList)

/--
Whether every character of a string is blank; the empty string counts.
-/
def isAllBlank (s : String) : Bool :=
  s.toList.all isBlank

/--
`cs` without the marker `mark` in front, if it starts with it.
-/
def dropMarker? : (mark cs : List Char) → Option (List Char)
  | [], cs => some cs
  | _ :: _, [] => none
  | m :: mark, c :: cs => if m = c then dropMarker? mark cs else none

/--
`cs` without the marker `mark` at its end, if it ends with it.
-/
def dropEndMarker? (mark cs : List Char) : Option (List Char) :=
  (dropMarker? mark.reverse cs.reverse).map List.reverse

theorem dropMarker?_eq_some_iff {mark cs rest : List Char} :
    dropMarker? mark cs = some rest ↔ cs = mark ++ rest := by
  induction mark generalizing cs with
  | nil => simp [dropMarker?]
  | cons m mark ih =>
    cases cs with
    | nil => simp [dropMarker?]
    | cons c cs =>
      by_cases h : m = c
      · simp [dropMarker?, h, ih]
      · simp [dropMarker?, h, Ne.symm h]

theorem dropEndMarker?_eq_some_iff {mark cs rest : List Char} :
    dropEndMarker? mark cs = some rest ↔ cs = rest ++ mark := by
  simp only [dropEndMarker?, Option.map_eq_some_iff, dropMarker?_eq_some_iff]
  constructor
  · rintro ⟨r, h, rfl⟩
    have := congrArg List.reverse h
    simpa using this
  · rintro rfl
    exact ⟨rest.reverse, by simp, by simp⟩

end Text
end Triage
