/-!
This module contains positions in a YAML text, and the classes of characters that its layout depends on.
-/

namespace Triage
namespace Yaml

def isAllowed (c : Char) : Bool :=
  c == '\t' || c == '\n' || c == '\r' || (0x20 ≤ c.val && c.val ≤ 0x7E) || c.val == 0x85
    || (0xA0 ≤ c.val && c.val ≤ 0xD7FF) || (0xE000 ≤ c.val && c.val ≤ 0xFFFD) || 0x10000 ≤ c.val

/--
Write every line break but the separators of lines and paragraphs as a line feed.
-/
def unifyBreaks : List Char → List Char
  | [] => []
  | '\r' :: '\n' :: cs => '\n' :: unifyBreaks cs
  | c :: cs => (if c = '\r' ∨ c = '\u0085' then '\n' else c) :: unifyBreaks cs

/--
A position: the text from there on, and where it stands.
-/
structure Cursor where
  rest : List Char
  line : Nat
  column : Nat
  index : Nat

def isBreak (c : Char) : Bool :=
  c == '\n' || c == '\u2028' || c == '\u2029'

def isGap (c : Char) : Bool :=
  c == ' ' || c == '\t'

namespace Cursor

def start (cs : List Char) : Cursor := ⟨cs, 0, 0, 0⟩

/--
The character `n` places after a position.
-/
def peek (c : Cursor) (n : Nat) : Option Char :=
  c.rest[n]?

/--
The position `n` characters later in the same line.
-/
def skip (c : Cursor) (n : Nat) : Cursor :=
  { c with rest := c.rest.drop n, column := c.column + n, index := c.index + n }

def nextLine (c : Cursor) : Cursor :=
  { rest := c.rest.drop 1, line := c.line + 1, column := 0, index := c.index + 1 }

/--
Whether the character `n` places later is `x`.
-/
def isAt (c : Cursor) (n : Nat) (x : Char) : Bool :=
  c.peek n == some x

/--
Whether the line or the text ends `n` places later.
-/
def endsAt (c : Cursor) (n : Nat) : Bool :=
  (c.peek n).all isBreak

/--
Whether a word ends `n` places later.
-/
def gapAt (c : Cursor) (n : Nat) : Bool :=
  (c.peek n).all fun x => isBreak x || isGap x

def skipWhile (p : Char → Bool) (c : Cursor) : Cursor :=
  c.skip (c.rest.takeWhile p).length

def skipLine (c : Cursor) : Cursor :=
  c.skipWhile fun x => !isBreak x

/--
Whether the three characters `mark` stand here as a line of their own.
-/
def isMark (c : Cursor) (mark : Char) : Bool :=
  c.column == 0 && c.isAt 0 mark && c.isAt 1 mark && c.isAt 2 mark && c.gapAt 3

def isDocumentMark (c : Cursor) : Bool :=
  c.isMark '-' || c.isMark '.'

end Cursor
end Yaml
end Triage
