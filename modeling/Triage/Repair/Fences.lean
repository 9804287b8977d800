import Triage.Text.Blank
import Triage.Text.Lines

/-!
This module contains the removal of code fences. A line that holds only a fence, with or without a tag for
a language, is dropped; a fence that is glued to other text is cut off.
-/

namespace Triage
namespace Repair

open Text

def fence : List Char := ['\x60', '\x60', '\x60']

def isTagChar (c : Char) : Bool :=
  c.isAlphanum || c = '-'

def cutClosingFence (line : List Char) : List Char :=
  (dropEndMarker? fence line).getD line

/--
What is kept of a line, if anything. Behind an opening fence the letters of a tag are cut off as well.
-/
def unfenced? (line : List Char) : Option (List Char) :=
  match dropMarker? fence (trim line) with
  | none => some ((dropEndMarker? fence (trimEnd line)).getD line)
  | some rest =>
    let rest := trim rest
    if rest.all isTagChar then none
    else some (cutClosingFence (rest.dropWhile Char.isAlpha))

/--
A text without its code fences and without blanks at its ends.
-/
def stripFences (cs : List Char) : List Char :=
  trim (joinLines ((lines cs).filterMap unfenced?))

end Repair
end Triage
