/-!
This module contains the division of text into lines. A line ends at a line feed; one carriage return
right before the line feed belongs to the line break. What follows the last line feed is a line only if
it is not empty, and keeps a carriage return at its end.
-/

namespace Triage
namespace Text

def lines (cs : List Char) : List (List Char) :=
  go [] cs
where
  /--
  The lines of `line.reverse ++ cs`, where `line` holds the characters of the first line read so far,
  last first.
  -/
  go (line : List Char) : List Char → List (List Char)
    | [] => if line.isEmpty then [] else [line.reverse]
    | c :: cs => if c = '\n' then (dropReturn line).reverse :: go [] cs else go (c :: line) cs
  /--
  Drop one carriage return at the front of a reversed line.
  -/
  dropReturn : List Char → List Char
    | [] => []
    | c :: cs => if c = '\r' then cs else c :: cs

def joinLines : List (List Char) → List Char
  | [] => []
  | [line] => line
  | line :: rest => line ++ '\n' :: joinLines rest

def ofLines (lines : List String) : String :=
  String.join (lines.map (· ++ "\n"))

end Text
end Triage
