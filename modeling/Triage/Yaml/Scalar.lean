import Triage.Text.Digits
import Triage.Yaml.Cursor

/-!
This module contains the three notations of YAML for text: plain, quoted, and as a block of lines. Each
reader starts at the first character of a text and returns it together with the position behind it.
-/

namespace Triage
namespace Yaml

/--
The blanks and line breaks between two words.
-/
structure Gap where
  /-- The blanks within a line. -/
  blanks : List Char
  /-- Whether the words stand in different lines. -/
  folded : Bool
  /-- The first line break, unless it is escaped. -/
  first : Option Char
  /-- All other line breaks. -/
  more : List Char

namespace Gap

def none : Gap := ⟨[], false, .none, []⟩

/--
What stands for a gap in the text: a single line break is a blank, and of several the first is left out.
-/
def chars (g : Gap) : List Char :=
  if g.folded then
    match g.first with
    | some c => if c = '\n' then if g.more.isEmpty then [' '] else g.more else c :: g.more
    | .none => g.more
  else
    g.blanks

def push (g : Gap) (c : Char) : Gap :=
  if isBreak c then
    if g.folded then { g with more := g.more ++ [c] } else { g with blanks := [], folded := true, first := some c }
  else if g.folded then g
  else { g with blanks := g.blanks ++ [c] }

end Gap

/--
The gap at a position. A tab left of the column `margin` at the start of a line is refused.
-/
def readGap (margin : Int) (c : Cursor) (g : Gap) : Option (Gap × Cursor) :=
  go c.rest c g
where
  go : List Char → Cursor → Gap → Option (Gap × Cursor)
    | [], c, g => some (g, c)
    | x :: xs, c, g =>
      if isBreak x then go xs c.nextLine (g.push x)
      else if isGap x then
        if g.folded && x == '\t' && (c.column : Int) < margin then none
        else go xs (c.skip 1) (g.push x)
      else some (g, c)

def isFlowMark (c : Char) : Bool :=
  c == ',' || c == '[' || c == ']' || c == '{' || c == '}'

/--
A word of plain text; `inFlow` says that the text stands inside of braces or brackets.
-/
def readWord (inFlow : Bool) (c : Cursor) : Option (List Char × Cursor) :=
  go c.rest []
where
  go : List Char → List Char → Option (List Char × Cursor)
    | [], word => some (word.reverse, c.skip word.length)
    | x :: xs, word =>
      if isBreak x || isGap x then some (word.reverse, c.skip word.length)
      else if x = ':' then
        match xs with
        | [] => some (word.reverse, c.skip word.length)
        | y :: _ =>
          if inFlow && (isFlowMark y || y == '?') then none
          else if isBreak y || isGap y then some (word.reverse, c.skip word.length)
          else go xs (x :: word)
      else if inFlow && isFlowMark x then some (word.reverse, c.skip word.length)
      else go xs (x :: word)

/--
Plain text. It ends before a comment, a mark of its surroundings or a line left of the column `margin`. The
last part of the result says whether it ends at the start of a line.
-/
def readPlain (inFlow : Bool) (margin : Int) (c : Cursor) : Option (List Char × Cursor × Bool) :=
  go c.rest.length [] Gap.none c
where
  go : Nat → List Char → Gap → Cursor → Option (List Char × Cursor × Bool)
    | 0, text, gap, c => some (text, c, gap.folded)
    | fuel + 1, text, gap, c =>
      if c.isDocumentMark || c.isAt 0 '#' then some (text, c, gap.folded)
      else
        match readWord inFlow c with
        | none => none
        | some (word, next) =>
          let gap' := if word.isEmpty then gap else Gap.none
          let text := if word.isEmpty then text else text ++ gap.chars ++ word
          if !next.gapAt 0 || next.rest.isEmpty then some (text, next, gap'.folded)
          else
            match readGap margin next gap' with
            | none => none
            | some (gap, next) =>
              if !inFlow && (next.column : Int) < margin then some (text, next, gap.folded)
              else go fuel text gap next

def escaped? : Char → Option Char
  | '0' => some '\x00'
  | 'a' => some '\x07'
  | 'b' => some '\x08'
  | 't' => some '\t'
  | '\t' => some '\t'
  | 'n' => some '\n'
  | 'v' => some '\x0b'
  | 'f' => some '\x0c'
  | 'r' => some '\r'
  | 'e' => some '\x1b'
  | ' ' => some ' '
  | '"' => some '"'
  | '\'' => some '\''
  | '/' => some '/'
  | '\\' => some '\\'
  | 'N' => some '\u0085'
  | '_' => some '\u00a0'
  | 'L' => some '\u2028'
  | 'P' => some '\u2029'
  | _ => none

/--
The number of hexadecimal digits after a letter after a backslash.
-/
def escapeWidth? : Char → Option Nat
  | 'x' => some 2
  | 'u' => some 4
  | 'U' => some 8
  | _ => none

/--
The character of `width` hexadecimal digits.
-/
def readHex? (width : Nat) (cs : List Char) : Option Char :=
  let digits := cs.take width
  if digits.length < width then none
  else
    (digits.mapM Text.hexDigit?).bind fun ds =>
      let n := ds.foldl (fun n d => n * 16 + d) 0
      if n.isValidChar then some (Char.ofNat n) else none

/--
What follows a part of quoted text.
-/
inductive QuotedEnd where
  | quote
  | gap
  | escapedBreak

/--
A part of text between the quotes `quote`, up to a blank, a line break or the closing quote. Backslashes
have a meaning between double quotes, and two single quotes stand for one between single quotes.
-/
def readQuotedPart (quote : Char) (c : Cursor) : Option (List Char × Cursor × QuotedEnd) :=
  go c.rest.length c []
where
  go : Nat → Cursor → List Char → Option (List Char × Cursor × QuotedEnd)
    | 0, _, _ => none
    | fuel + 1, c, part =>
      match c.rest with
      | [] => none
      | x :: xs =>
        if isBreak x || isGap x then some (part.reverse, c, .gap)
        else if x = quote then
          if quote = '\'' ∧ xs.head? = some '\'' then go fuel (c.skip 2) ('\'' :: part)
          else some (part.reverse, c, .quote)
        else if x = '\\' ∧ quote = '"' then
          match xs with
          | [] => none
          | y :: ys =>
            if isBreak y then some (part.reverse, (c.skip 1).nextLine, .escapedBreak)
            else
              match escaped? y with
              | some z => go fuel (c.skip 2) (z :: part)
              | none =>
                match escapeWidth? y with
                | none => none
                | some width =>
                  match readHex? width ys with
                  | none => none
                  | some z => go fuel (c.skip (2 + width)) (z :: part)
        else go fuel (c.skip 1) (x :: part)

def readQuoted (c : Cursor) : Option (List Char × Cursor) :=
  match c.rest with
  | [] => none
  | quote :: _ => go quote (c.rest.length + 1) [] (c.skip 1)
where
  go (quote : Char) : Nat → List Char → Cursor → Option (List Char × Cursor)
    | 0, _, _ => none
    | fuel + 1, text, c =>
      if c.isDocumentMark then none
      else
        match readQuotedPart quote c with
        | none => none
        | some (part, next, .quote) => some (text ++ part, next.skip 1)
        | some (part, next, ending) =>
          let gap : Gap :=
            match ending with
            | .escapedBreak => { Gap.none with folded := true }
            | _ => Gap.none
          match readGap (-1) next gap with
          | none => none
          | some (gap, next) => go quote fuel (text ++ part ++ gap.chars) next

/--
What happens to the line breaks at the end of a block.
-/
inductive Chomping where
  | strip
  | clip
  | keep
deriving DecidableEq

/--
The marks in front of a block: its chomping, and how much deeper it is indented if that is given.
-/
def readBlockMarks (c : Cursor) : Option (Chomping × Option Nat × Cursor) :=
  let chomping? : Option Char → Option Chomping
    | some '+' => some .keep
    | some '-' => some .strip
    | _ => none
  let indent? : Option Char → Option Nat
    | some d => if d.isDigit then some (d.toNat - '0'.toNat) else none
    | none => none
  match chomping? (c.peek 0), indent? (c.peek 0) with
  | some chomping, _ =>
    match indent? (c.peek 1) with
    | some 0 => none
    | some n => some (chomping, some n, c.skip 2)
    | none => some (chomping, none, c.skip 1)
  | none, some 0 => none
  | none, some n =>
    match chomping? (c.peek 1) with
    | some chomping => some (chomping, some n, c.skip 2)
    | none => some (.clip, some n, c.skip 1)
  | none, none => some (.clip, none, c)

/--
The empty lines of a block and the indentation of the next line. Without a known `indent` all blanks in
front of a line are skipped; `deepest` is the largest indentation so far.
-/
def readEmptyLines (indent : Option Nat) (c : Cursor) : Option (List Char × Nat × Cursor) :=
  go (c.rest.length + 1) c [] 0
where
  go : Nat → Cursor → List Char → Nat → Option (List Char × Nat × Cursor)
    | 0, c, breaks, deepest => some (breaks, deepest, c)
    | fuel + 1, c, breaks, deepest =>
      let blanks := (c.rest.takeWhile (· == ' ')).length
      let next := c.skip (match indent with
        | some n => min blanks (n - c.column)
        | none => blanks)
      let deepest := max deepest next.column
      if next.isAt 0 '\t' && indent.all (next.column < ·) then none
      else
        match next.peek 0 with
        | some x => if isBreak x then go fuel next.nextLine (breaks ++ [x]) deepest else some (breaks, deepest, next)
        | none => some (breaks, deepest, next)

/--
The lines of a block with the column `indent`. `pending` is the line break before the current line, `breaks`
are the empty lines after it, and `blank` says whether the line before started with a blank.
-/
def readBlockLines (literal : Bool) (indent : Nat) :
    Nat → List Char → Option Char → List Char → Bool → Cursor →
      Option (List Char × Option Char × List Char × Cursor)
  | 0, text, pending, breaks, _, c => some (text, pending, breaks, c)
  | fuel + 1, text, pending, breaks, blank, c =>
    if c.column ≠ indent ∨ c.rest.isEmpty then some (text, pending, breaks, c)
    else
      let startsBlank := (c.peek 0).any isGap
      let joint :=
        if !literal && pending == some '\n' && !blank && !startsBlank then
          if breaks.isEmpty then [' '] else []
        else pending.toList
      let line := c.rest.takeWhile fun x => !isBreak x
      let next := c.skip line.length
      let pending := next.peek 0
      let next := if pending.isSome then next.nextLine else next
      match readEmptyLines (some indent) next with
      | none => none
      | some (breaks', _, next) =>
        readBlockLines literal indent fuel (text ++ joint ++ breaks ++ line) pending breaks' startsBlank next

/--
A block of lines, from its `|` or `>` on, inside of a node with the column `parent`.
-/
def readBlock (parent : Int) (c : Cursor) : Option (List Char × Cursor) := do
  let literal := c.isAt 0 '|'
  let (chomping, given, c) ← readBlockMarks (c.skip 1)
  let c := c.skipWhile isGap
  let c := if c.isAt 0 '#' then c.skipLine else c
  if !c.endsAt 0 then none
  let c := if c.rest.isEmpty then c else c.nextLine
  let known := given.map fun n => ((max parent 0) + n).toNat
  let (breaks, deepest, c) ← readEmptyLines known c
  let indent := known.getD (max deepest (max (parent + 1) 1).toNat)
  let (text, pending, breaks, c) ← readBlockLines literal indent (c.rest.length + 1) [] none breaks false c
  let tail :=
    match chomping with
    | .strip => []
    | .clip => pending.toList
    | .keep => pending.toList ++ breaks
  return (text ++ tail, c)

end Yaml
end Triage
