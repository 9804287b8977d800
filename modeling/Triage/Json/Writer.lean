import Triage.Json.Value

/-!
This module contains the two texts of a JSON value: the compact one without blanks, and the indented one.
Members are written in the order in which the value holds them.
-/

namespace Triage
namespace Json

def hexChar (n : Nat) : Char :=
  if n < 10 then Char.ofNat ('0'.toNat + n) else Char.ofNat ('a'.toNat + (n - 10))

/--
A character inside a string: the quote, the backslash and the control characters are escaped.
-/
def escapeChar (c : Char) : List Char :=
  if c = '"' then ['\\', '"']
  else if c = '\\' then ['\\', '\\']
  else if c = '\x08' then ['\\', 'b']
  else if c = '\x0c' then ['\\', 'f']
  else if c = '\n' then ['\\', 'n']
  else if c = '\r' then ['\\', 'r']
  else if c = '\t' then ['\\', 't']
  else if c.val < 0x20 then ['\\', 'u', '0', '0', hexChar (c.toNat / 16), hexChar (c.toNat % 16)]
  else [c]

def escapeChars : List Char → List Char
  | [] => []
  | c :: cs => escapeChar c ++ escapeChars cs

def stringChars (s : String) : List Char :=
  '"' :: (escapeChars s.toList ++ ['"'])

def boolChars (b : Bool) : List Char :=
  if b then ['t', 'r', 'u', 'e'] else ['f', 'a', 'l', 's', 'e']

mutual

def compactChars : Json → List Char
  | .null => ['n', 'u', 'l', 'l']
  | .bool b => boolChars b
  | .number n => n.chars
  | .string s => stringChars s
  | .array items => '[' :: (compactItems items ++ [']'])
  | .object members => '{' :: (compactMembers members ++ ['}'])
termination_by structural v => v

def compactItems : List Json → List Char
  | [] => []
  | v :: vs => compactChars v ++ compactTail vs
termination_by structural vs => vs

def compactTail : List Json → List Char
  | [] => []
  | v :: vs => ',' :: (compactChars v ++ compactTail vs)
termination_by structural vs => vs

def compactMembers : List (String × Json) → List Char
  | [] => []
  | (k, v) :: ms => stringChars k ++ ':' :: (compactChars v ++ compactMemberTail ms)
termination_by structural ms => ms

def compactMemberTail : List (String × Json) → List Char
  | [] => []
  | (k, v) :: ms => ',' :: (stringChars k ++ ':' :: (compactChars v ++ compactMemberTail ms))
termination_by structural ms => ms

end

/--
A line feed and the indentation of the given depth, two blanks for each level.
-/
def newLine (depth : Nat) : List Char :=
  '\n' :: List.replicate (2 * depth) ' '

mutual

/--
The indented text of a value inside `depth` containers. Empty containers have no line breaks.
-/
def indentedChars (depth : Nat) : Json → List Char
  | .null => ['n', 'u', 'l', 'l']
  | .bool b => boolChars b
  | .number n => n.chars
  | .string s => stringChars s
  | .array [] => ['[', ']']
  | .array (v :: vs) =>
    '[' :: (newLine (depth + 1) ++ indentedChars (depth + 1) v
      ++ indentedTail (depth + 1) vs ++ newLine depth ++ [']'])
  | .object [] => ['{', '}']
  | .object ((k, v) :: ms) =>
    '{' :: (newLine (depth + 1) ++ stringChars k ++ ':' :: ' ' :: indentedChars (depth + 1) v
      ++ indentedMemberTail (depth + 1) ms ++ newLine depth ++ ['}'])
termination_by structural v => v

def indentedTail (depth : Nat) : List Json → List Char
  | [] => []
  | v :: vs => ',' :: (newLine depth ++ indentedChars depth v ++ indentedTail depth vs)
termination_by structural vs => vs

def indentedMemberTail (depth : Nat) : List (String × Json) → List Char
  | [] => []
  | (k, v) :: ms =>
    ',' :: (newLine depth ++ stringChars k ++ ':' :: ' ' :: indentedChars depth v
      ++ indentedMemberTail depth ms)
termination_by structural ms => ms

end

def compact (v : Json) : String :=
  String.ofList v.compactChars

def indented (v : Json) : String :=
  String.ofList (v.indentedChars 0)

end Json
end Triage
