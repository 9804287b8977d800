import Triage.Decimal.Numeral
import Triage.Text.Blank
import Triage.Text.Digits

/-!
This module contains the tokens of a template: the text between tags, and inside of tags names, numbers,
texts between quotes and symbols.
-/

namespace Triage
namespace Template

/--
A token. A tag is either an output, which prints an expression, or a statement.
-/
inductive Token where
  | text (s : String)
  | openOutput
  | closeOutput
  | openStatement
  | closeStatement
  | name (s : String)
  | integer (n : Nat)
  | real (x : Double)
  | quoted (s : String)
  | symbol (s : String)
deriving DecidableEq

namespace Token

/--
The kinds of tags.
-/
inductive Tag where
  | output
  | statement
  | comment
deriving DecidableEq

namespace Tag

/--
The kind of the tag that starts at a position, if any does.
-/
def starting? : List Char → Option (Tag × List Char)
  | '\x7b' :: '\x7b' :: cs => some (output, cs)
  | '\x7b' :: '%' :: cs => some (statement, cs)
  | '\x7b' :: '#' :: cs => some (comment, cs)
  | _ => none

/--
The character in front of the brace that closes a tag.
-/
def closer : Tag → Char
  | output => '\x7d'
  | statement => '%'
  | comment => '#'

def opening : Tag → List Token
  | output => [openOutput]
  | statement => [openStatement]
  | comment => []

def closing : Tag → List Token
  | output => [closeOutput]
  | statement => [closeStatement]
  | comment => []

end Tag

/--
The mark next to the braces of a tag that says what happens to the blanks outside of them.
-/
def trimMark : List Char → Bool × List Char
  | '-' :: cs => (true, cs)
  | '+' :: cs => (false, cs)
  | cs => (false, cs)

/--
The text up to the next tag. The blanks at its end are dropped if the tag says so.
-/
def readText (cs : List Char) : List Char × Option Tag × List Char :=
  go cs []
where
  go : List Char → List Char → List Char × Option Tag × List Char
    | [], before => (before.reverse, none, [])
    | c :: cs, before =>
      match Tag.starting? (c :: cs) with
      | some (tag, rest) =>
        let (trims, rest) := trimMark rest
        (if trims then (before.dropWhile Text.isBlank).reverse else before.reverse, some tag, rest)
      | none => go cs (c :: before)

/--
What is behind a comment, and whether the blanks behind it are dropped.
-/
def skipComment? : List Char → Option (Bool × List Char)
  | [] => none
  | '-' :: '#' :: '\x7d' :: cs => some (true, cs)
  | '#' :: '\x7d' :: cs => some (false, cs)
  | _ :: cs => skipComment? cs

/--
What is behind the end of a tag, if it ends here, and whether the blanks behind it are dropped.
-/
def tagEnd? (tag : Tag) : List Char → Option (Bool × List Char)
  | c :: d :: cs =>
    if c = tag.closer ∧ d = '\x7d' then some (false, cs)
    else
      match cs with
      | e :: cs =>
        if (c = '-' ∨ c = '+') ∧ d = tag.closer ∧ e = '\x7d' then some (c == '-', cs) else none
      | [] => none
  | _ => none

def readUnit? : List Char → Option (Nat × List Char)
  | a :: b :: c :: d :: cs =>
    ([a, b, c, d].mapM Text.hexDigit?).map fun ds => (ds.foldl (fun n d => n * 16 + d) 0, cs)
  | _ => none

/--
The character of an escape, from behind its backslash on. Two surrogates in a row make one character.
-/
def readEscape? : List Char → Option (Char × List Char)
  | 'b' :: cs => some ('\x08', cs)
  | 'f' :: cs => some ('\x0c', cs)
  | 'n' :: cs => some ('\n', cs)
  | 'r' :: cs => some ('\r', cs)
  | 't' :: cs => some ('\t', cs)
  | 'u' :: cs =>
    (readUnit? cs).bind fun (n, rest) =>
      if n.isValidChar then some (Char.ofNat n, rest)
      else if n < 0xDC00 then
        match rest with
        | '\\' :: 'u' :: rest =>
          (readUnit? rest).bind fun (m, rest) =>
            if 0xDC00 ≤ m ∧ m < 0xE000 then
              some (Char.ofNat (0x10000 + (n - 0xD800) * 0x400 + (m - 0xDC00)), rest)
            else none
        | _ => none
      else none
  | c :: cs => if ['"', '\\', '/', '\''].contains c then some (c, cs) else none
  | [] => none

def readQuoted? (quote : Char) (cs : List Char) : Option (List Char × List Char) :=
  go (cs.length + 1) cs []
where
  go : Nat → List Char → List Char → Option (List Char × List Char)
    | 0, _, _ => none
    | _, [], _ => none
    | fuel + 1, c :: cs, before =>
      if c = quote then some (before.reverse, cs)
      else if c = '\\' then
        (readEscape? cs).bind fun (d, rest) => go fuel rest (d :: before)
      else go fuel cs (c :: before)

/--
The parts of a number that is read: its whole digits, its fraction, and its exponent without and with a sign
or digits.
-/
inductive Part where
  | whole
  | fraction
  | exponent
  | exponentDigits
deriving DecidableEq

/--
The characters of a decimal number, and whether it is a floating point number.
-/
def readNumber (cs : List Char) : List Char × Bool × List Char :=
  go .whole cs []
where
  go : Part → List Char → List Char → List Char × Bool × List Char
    | part, [], number => (number.reverse, part != .whole, [])
    | part, c :: cs, number =>
      let next? : Option Part :=
        if c.isDigit then some (if part = .exponent then .exponentDigits else part)
        else if c = '_' then some part
        else if c = '.' ∧ part = .whole then some .fraction
        else if (c = 'e' ∨ c = 'E') ∧ (part = .whole ∨ part = .fraction) then some .exponent
        else if (c = '+' ∨ c = '-') ∧ part = .exponent then some .exponentDigits
        else none
      match next? with
      | some next => go next cs (c :: number)
      | none => (number.reverse, part != .whole, c :: cs)

/--
The largest integer that can be written.
-/
def integerLimit : Nat := 1 <<< 128

/--
The integer of digits to the given base, in which underscores may stand anywhere but at the end.
-/
def integerToken? (base : Nat) (digits : List Char) : Option Token :=
  if digits.getLast? = some '_' then none
  else
    (Text.natOfDigits? base (digits.filter (· != '_'))).bind fun n =>
      if n < integerLimit then some (.integer n) else none

def readNumberToken? (cs : List Char) : Option (Token × List Char) :=
  let based (base : Nat) (cs : List Char) : Option (Token × List Char) :=
    let digits := cs.takeWhile fun c => c == '_' || (Text.hexDigit? c).any (· < base)
    (integerToken? base digits).map (·, cs.drop digits.length)
  match cs with
  | '0' :: 'x' :: cs | '0' :: 'X' :: cs => based 16 cs
  | '0' :: 'o' :: cs | '0' :: 'O' :: cs => based 8 cs
  | '0' :: 'b' :: cs | '0' :: 'B' :: cs => based 2 cs
  | _ =>
    let (number, isReal, rest) := readNumber cs
    if isReal then
      if number.getLast? = some '_' then none
      else (Decimal.Numeral.read? (number.filter (· != '_'))).map fun n => (.real n.toDouble, rest)
    else (integerToken? 10 number).map (·, rest)

def wideSymbols : List String := ["//", "**", "==", "!=", ">=", "<="]

def narrowSymbols : List Char :=
  ['+', '-', '*', '/', '%', '.', ',', ':', '~', '|', '=', '>', '<', '(', ')', '[', ']', '\x7b', '\x7d']

def startsName (c : Char) : Bool :=
  c.isAlpha || c == '_'

def continuesName (c : Char) : Bool :=
  c.isAlphanum || c == '_'

def separates (c : Char) : Bool :=
  c == ' ' || c == '\t' || c == '\n' || c == '\x0c' || c == '\r'

def readToken? (cs : List Char) : Option (Token × List Char) :=
  match cs with
  | [] => none
  | c :: rest =>
    let wide := String.ofList (cs.take 2)
    if wideSymbols.contains wide then some (.symbol wide, rest.drop 1)
    else if narrowSymbols.contains c then some (.symbol (String.ofList [c]), rest)
    else if c = '"' ∨ c = '\'' then
      (readQuoted? c rest).map fun (inside, rest) => (.quoted (String.ofList inside), rest)
    else if c.isDigit then readNumberToken? cs
    else if startsName c then
      some (.name (String.ofList (cs.takeWhile continuesName)), cs.dropWhile continuesName)
    else none

/--
By how much a token changes the number of open brackets.
-/
def nesting : Token → Int
  | .symbol s =>
    if ["(", "[", "\x7b"].contains s then 1 else if [")", "]", "\x7d"].contains s then -1 else 0
  | _ => 0

/--
The tokens of a tag up to its end, what is behind it, and whether the blanks there are dropped. A tag ends
where no bracket is open.
-/
def readTag? (tag : Tag) (cs : List Char) : Option (List Token × Bool × List Char) :=
  go (cs.length + 1) cs 0 []
where
  go : Nat → List Char → Int → List Token → Option (List Token × Bool × List Char)
    | 0, _, _, _ => none
    | fuel + 1, cs, depth, tokens =>
      let cs := cs.dropWhile separates
      match if depth = 0 then tagEnd? tag cs else none with
      | some (trims, rest) => some (tokens.reverse, trims, rest)
      | none =>
        match readToken? cs with
        | some (t, rest) => go fuel rest (depth + t.nesting) (t :: tokens)
        | none => none

/--
The tokens of a template. A line feed at its end does not belong to it.
-/
def scan? (template : String) : Option (List Token) :=
  let cs := withoutEnd '\r' (withoutEnd '\n' template.toList)
  go (cs.length + 1) false cs []
where
  withoutEnd (c : Char) (cs : List Char) : List Char :=
    if cs.getLast? = some c then cs.dropLast else cs
  go : Nat → Bool → List Char → List Token → Option (List Token)
    | 0, _, _, _ => none
    | fuel + 1, trims, cs, tokens =>
      let cs := if trims then Text.trimStart cs else cs
      let (before, tag?, rest) := readText cs
      let tokens := if before.isEmpty then tokens else text (String.ofList before) :: tokens
      match tag? with
      | none => some tokens.reverse
      | some .comment =>
        match skipComment? rest with
        | some (trims, rest) => go fuel trims rest tokens
        | none => none
      | some tag =>
        match readTag? tag rest with
        | some (inside, trims, rest) =>
          go fuel trims rest (tag.closing ++ inside.reverse ++ tag.opening ++ tokens)
        | none => none

end Token
end Template
end Triage
