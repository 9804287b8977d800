import Triage.Text.CaseTable

/-!
This module contains the full case mappings of Unicode for text. A capital sigma becomes a final small sigma
at the end of a word.
-/

namespace Triage
namespace Text

def inRanges (ranges : List (Nat × Nat)) (n : Nat) : Bool :=
  ranges.any fun (first, last) => first ≤ n && n ≤ last

/--
The code point that a run maps a code point to, if it is part of the run.
-/
def CaseRun.map? (run : CaseRun) (n : Nat) : Option Nat :=
  if run.first ≤ n && n ≤ run.last && (n - run.first) % run.step == 0 then
    some ((n : Int) + run.shift).toNat
  else
    none

/--
The characters that a character is mapped to by runs and expansions; itself if there is none.
-/
def mapCase (runs : List CaseRun) (expansions : List (Nat × List Nat)) (c : Char) : List Char :=
  match expansions.lookup c.toNat with
  | some ns => ns.map Char.ofNat
  | none =>
    match runs.findSome? (·.map? c.toNat) with
    | some n => [Char.ofNat n]
    | none => [c]

def upperChar (c : Char) : List Char :=
  if c.val < 0x80 then [c.toUpper] else mapCase upperRuns upperExpansions c

def lowerChar (c : Char) : List Char :=
  if c.val < 0x80 then [c.toLower] else mapCase lowerRuns lowerExpansions c

/--
Whether the first character that is not ignored is cased.
-/
def meetsCased : List Char → Bool
  | [] => false
  | c :: cs =>
    if inRanges caseIgnorableRanges c.toNat then meetsCased cs else inRanges casedRanges c.toNat

def upper (cs : List Char) : List Char :=
  cs.flatMap upperChar

def lower (cs : List Char) : List Char :=
  go [] cs
where
  /--
  The rest of a text in lower case, with the characters in front of it, last first.
  -/
  go (before : List Char) : List Char → List Char
    | [] => []
    | c :: cs =>
      let mapped :=
        if c = 'Σ' then if meetsCased before && !meetsCased cs then ['ς'] else ['σ'] else lowerChar c
      mapped ++ go (c :: before) cs

def uppercased (s : String) : String :=
  String.ofList (upper s.toList)

def lowercased (s : String) : String :=
  String.ofList (lower s.toList)

end Text
end Triage
