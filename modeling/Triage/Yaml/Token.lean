import Triage.Yaml.Scalar

/-!
This module contains the tokens of a YAML text. Indentation is turned into tokens that open and close
blocks, and a key is marked by a token in front of it, which is put there when the colon behind it is found.
-/

namespace Triage
namespace Yaml

/--
A token.
-/
inductive Token where
  | directive
  | documentStart
  | documentEnd
  | blockListStart
  | blockMapStart
  | blockEnd
  | flowListStart
  | flowListEnd
  | flowMapStart
  | flowMapEnd
  | blockEntry
  | flowEntry
  | key
  | value
  | alias (name : String)
  | anchor (name : String)
  | tag (text : String)
  | scalar (text : List Char) (plain : Bool)
deriving DecidableEq

/--
A place where a key may have started. A key has to end in its line and within a thousand and some
characters; it is `required` if nothing else can stand at its place.
-/
structure KeyPlace where
  token : Nat
  line : Nat
  column : Nat
  index : Nat
  required : Bool

/--
The state while tokens are read: the column of the current block and of those around it, and for each level
of braces and brackets, the innermost first, the place where a key may have started. The tokens read so far
stand in reversed order.
-/
structure Layout where
  cursor : Cursor
  indent : Int
  outer : List Int
  /-- Whether a key may start at the current position. -/
  keyAllowed : Bool
  /-- The place for a key at the level of the current position. -/
  place : Option KeyPlace
  /-- The places for keys at the levels around it. -/
  outerPlaces : List (Option KeyPlace)
  tokens : List Token
  count : Nat

namespace Layout

def start (cs : List Char) : Layout :=
  { cursor := Cursor.start cs
    indent := -1
    outer := []
    keyAllowed := true
    place := none
    outerPlaces := []
    tokens := []
    count := 0 }

def inFlow (s : Layout) : Bool :=
  !s.outerPlaces.isEmpty

def push (s : Layout) (t : Token) : Layout :=
  { s with tokens := t :: s.tokens, count := s.count + 1 }

/--
Put a token in front of the token with the number `n`.
-/
def insertAt (s : Layout) (n : Nat) (t : Token) : Layout :=
  let later := s.count - n
  { s with tokens := s.tokens.take later ++ t :: s.tokens.drop later, count := s.count + 1 }

/--
Give up the place for a key; this fails if nothing but a key could have stood there.
-/
def dropPlace (s : Layout) : Option Layout :=
  match s.place with
  | some p => if p.required then none else some { s with place := none }
  | none => some s

def markPlace (s : Layout) : Option Layout :=
  if s.keyAllowed then do
    let s ← s.dropPlace
    return { s with
      place := some {
        token := s.count
        line := s.cursor.line
        column := s.cursor.column
        index := s.cursor.index
        required := !s.inFlow && s.indent == s.cursor.column } }
  else
    some s

/--
The largest distance between the start of a key and the colon behind it.
-/
def keyReach : Nat := 1024

def isStale (c : Cursor) (p : KeyPlace) : Bool :=
  p.line < c.line || p.index + keyReach < c.index

def dropStale (s : Layout) : Option Layout := do
  let fresh (p? : Option KeyPlace) : Option (Option KeyPlace) :=
    match p? with
    | some p => if isStale s.cursor p then if p.required then none else some none else some (some p)
    | none => some none
  let place ← fresh s.place
  let outerPlaces ← s.outerPlaces.mapM fresh
  return { s with place := place, outerPlaces := outerPlaces }

/--
Open a block at `column` if it is deeper than the current one; `t` starts the block, in front of the token
with the number `at?` or at the end.
-/
def openBlock (s : Layout) (column : Nat) (at? : Option Nat) (t : Token) : Layout :=
  if !s.inFlow && s.indent < column then
    let s := { s with outer := s.indent :: s.outer, indent := column }
    match at? with
    | some n => s.insertAt n t
    | none => s.push t
  else
    s

/--
Close all blocks that are deeper than `column`.
-/
def closeBlocks (s : Layout) (column : Int) : Layout :=
  if s.inFlow then s else go s s.outer
where
  go (s : Layout) : List Int → Layout
    | [] => s
    | i :: outer =>
      if column < s.indent then go { s.push .blockEnd with indent := i, outer := outer } outer else s

/--
Skip blanks, comments and line breaks. A tab does not count as a blank where a key may start.
-/
def skipBlanks (s : Layout) : Layout :=
  go (s.cursor.rest.length + 1) s
where
  go : Nat → Layout → Layout
    | 0, s => s
    | fuel + 1, s =>
      let c := s.cursor
      let c := if c.column = 0 ∧ c.isAt 0 '\uFEFF' then c.skip 1 else c
      let tabs := s.inFlow || !s.keyAllowed
      let c := c.skipWhile fun x => x == ' ' || (tabs && x == '\t')
      let c := if c.isAt 0 '#' then c.skipLine else c
      let s := { s with cursor := c }
      if !c.rest.isEmpty && c.endsAt 0 then
        go fuel { s with cursor := c.nextLine, keyAllowed := s.keyAllowed || !s.inFlow }
      else
        s

/--
A token that is `n` characters long.
-/
def take (s : Layout) (n : Nat) (t : Token) : Layout :=
  { s.push t with cursor := s.cursor.skip n }

def documentMark (s : Layout) (t : Token) : Option Layout := do
  let s ← (s.closeBlocks (-1)).dropPlace
  return { s with keyAllowed := false }.take 3 t

def directive (s : Layout) : Option Layout := do
  let s ← (s.closeBlocks (-1)).dropPlace
  return { s.push .directive with keyAllowed := false, cursor := s.cursor.skipLine }

def openFlow (s : Layout) (t : Token) : Option Layout := do
  let s ← s.markPlace
  return { s with place := none, outerPlaces := s.place :: s.outerPlaces, keyAllowed := true }.take 1 t

def closeFlow (s : Layout) (t : Token) : Option Layout := do
  let s ← s.dropPlace
  let s :=
    match s.outerPlaces with
    | place :: outerPlaces => { s with place := place, outerPlaces := outerPlaces }
    | [] => s
  return { s with keyAllowed := false }.take 1 t

def flowEntry (s : Layout) : Option Layout := do
  let s ← s.dropPlace
  return { s with keyAllowed := true }.take 1 .flowEntry

def blockEntry (s : Layout) : Option Layout := do
  if !s.inFlow && !s.keyAllowed then none
  let s ← (s.openBlock s.cursor.column none .blockListStart).dropPlace
  return { s with keyAllowed := true }.take 1 .blockEntry

def explicitKey (s : Layout) : Option Layout := do
  if !s.inFlow && !s.keyAllowed then none
  let s ← (s.openBlock s.cursor.column none .blockMapStart).dropPlace
  return { s with keyAllowed := !s.inFlow }.take 1 .key

def keyValue (s : Layout) : Option Layout :=
  match s.place with
  | some p =>
    let s := (s.insertAt p.token .key).openBlock p.column (some p.token) .blockMapStart
    some ({ s with place := none, keyAllowed := false }.take 1 .value)
  | none =>
    if !s.inFlow && !s.keyAllowed then none
    else
      let s := s.openBlock s.cursor.column none .blockMapStart
      some ({ s with keyAllowed := !s.inFlow }.take 1 .value)

def isNameChar (c : Char) : Bool :=
  c.isAlphanum || c == '_' || c == '-'

def named (s : Layout) (t : String → Token) : Option Layout := do
  let s ← s.markPlace
  let c := s.cursor.skip 1
  let name := c.rest.takeWhile isNameChar
  let next := c.skip name.length
  let ends := next.gapAt 0 || (next.peek 0).any fun x => ['?', ':', ',', ']', '}', '%', '@', '\x60'].contains x
  if name.isEmpty || !ends then none
  return { s.push (t (String.ofList name)) with cursor := next, keyAllowed := false }

def tag (s : Layout) : Option Layout := do
  let s ← s.markPlace
  let text := s.cursor.rest.takeWhile fun x => !(isBreak x || isGap x || isFlowMark x)
  let next := s.cursor.skip text.length
  if !next.gapAt 0 && !(s.inFlow && next.isAt 0 ',') then none
  return { s.push (.tag (String.ofList text)) with cursor := next, keyAllowed := false }

def block (s : Layout) : Option Layout := do
  let s ← s.dropPlace
  let (text, next) ← readBlock s.indent s.cursor
  return { s.push (.scalar text false) with cursor := next, keyAllowed := true }

def quoted (s : Layout) : Option Layout := do
  let s ← s.markPlace
  let (text, next) ← readQuoted s.cursor
  return { s.push (.scalar text false) with cursor := next, keyAllowed := false }

/--
Plain text. Behind it a key may start if it has ended at the start of a line.
-/
def plain (s : Layout) : Option Layout := do
  let s ← s.markPlace
  let (text, next, atLineStart) ← readPlain s.inFlow (s.indent + 1) s.cursor
  return { s.push (.scalar text true) with cursor := next, keyAllowed := atLineStart }

/--
The characters that plain text does not start with.
-/
def indicators : List Char :=
  ['-', '?', ':', ',', '[', ']', '{', '}', '#', '&', '*', '!', '|', '>', '\'', '"', '%', '@', '\x60']

def startsPlain (s : Layout) : Bool :=
  let c := s.cursor
  match c.peek 0 with
  | none => false
  | some x =>
    !(indicators.contains x || isBreak x || isGap x)
      || (x == '-' && !(c.peek 1).any isGap)
      || (!s.inFlow && (x == '?' || x == ':') && !c.gapAt 1)

/--
The token at the current position, which is not blank and not the end.
-/
def token (s : Layout) : Option Layout :=
  let c := s.cursor
  let marks := s.inFlow || c.gapAt 1
  match c.peek 0 with
  | none => some s
  | some x =>
    if c.column = 0 ∧ x = '%' then s.directive
    else if c.isMark '-' then s.documentMark .documentStart
    else if c.isMark '.' then s.documentMark .documentEnd
    else if x = '[' then s.openFlow .flowListStart
    else if x = '{' then s.openFlow .flowMapStart
    else if x = ']' then s.closeFlow .flowListEnd
    else if x = '}' then s.closeFlow .flowMapEnd
    else if x = ',' then s.flowEntry
    else if x = '-' ∧ c.gapAt 1 then s.blockEntry
    else if x = '?' ∧ marks then s.explicitKey
    else if x = ':' ∧ marks then s.keyValue
    else if x = '*' then s.named .alias
    else if x = '&' then s.named .anchor
    else if x = '!' then s.tag
    else if (x = '|' ∨ x = '>') ∧ !s.inFlow then s.block
    else if x = '\'' ∨ x = '"' then s.quoted
    else if s.startsPlain then s.plain
    else none

def run : Nat → Layout → Option Layout
  | 0, _ => none
  | fuel + 1, s => do
    let s ← s.skipBlanks.dropStale
    let s := s.closeBlocks s.cursor.column
    if s.cursor.rest.isEmpty then
      (s.closeBlocks (-1)).dropPlace
    else
      run fuel (← s.token)

end Layout

def Token.scan (text : String) : Option (List Token) := do
  let cs := text.toList
  if !cs.all isAllowed then none
  let s ← Layout.run (cs.length + 1) (Layout.start (unifyBreaks cs))
  return s.tokens.reverse

end Yaml
end Triage
