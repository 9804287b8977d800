import Triage.Text.Case
import Triage.Text.HiddenTable

/-!
This module contains text between double quotes, in which every character that does not show as itself is
escaped.
-/

namespace Triage
namespace Text

/--
Whether a character does not show as itself.
-/
def isHidden (c : Char) : Bool :=
  let n := c.toNat
  if n < 0x7F then n < 0x20
  else if n < 0xD7A4 then inRanges hiddenLower n
  else inRanges hiddenUpper n

def quotedChar (c : Char) : List Char :=
  match c with
  | '\x00' => ['\\', '0']
  | '\t' => ['\\', 't']
  | '\n' => ['\\', 'n']
  | '\r' => ['\\', 'r']
  | '"' => ['\\', '"']
  | '\\' => ['\\', '\\']
  | c =>
    if isHidden c then ['\\', 'u', '\x7b'] ++ Nat.toDigits 16 c.toNat ++ ['\x7d'] else [c]

def quoted (cs : List Char) : List Char :=
  '"' :: (cs.flatMap quotedChar ++ ['"'])

end Text
end Triage
