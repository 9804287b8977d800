import Triage.Json.Value
import Triage.Text.Digits

/-!
This module contains the reader of JSON text: a machine that takes one character at a time and keeps the
open containers on a stack. Its state after a prefix of a text is a value, so what has been read before a
point where the text breaks off can be stated and compared.

The text is strict JSON: blanks are space, tab, line feed and carriage return; control characters in
strings, unpaired surrogates, leading zeros and numbers past the range of `Double` are refused, and so are
more open containers than a limit.
-/

namespace Triage
namespace Json

def depthLimit : Nat := 127

/--
A container around the value that is read now, with what it holds so far, last first.
-/
inductive Frame where
  | array (items : List Json)
  | member (members : List (String × Json)) (key : String)

/--
The position inside a string.
-/
inductive Escape where
  /-- Between two characters. -/
  | none
  /-- After a backslash. -/
  | backslash
  /-- After `left` of the four digits of an escaped code unit are still to come; `lead` is the first half of
  a surrogate pair. -/
  | unit (lead : Option Nat) (value : Nat) (left : Nat)
  /-- After the first half of a surrogate pair. -/
  | pair (lead : Nat)
  /-- After the backslash that follows the first half of a surrogate pair. -/
  | pairBackslash (lead : Nat)

/--
The position inside a number, with the parts read so far, their digits last first.
-/
inductive Digits where
  | minus
  | whole (negative : Bool) (digits : List Char)
  | point (negative : Bool) (whole : List Char)
  | fraction (negative : Bool) (whole digits : List Char)
  | mark (negative : Bool) (whole : List Char) (fraction : Option (List Char))
  | sign (negative : Bool) (whole : List Char) (fraction : Option (List Char)) (down : Bool)
  | exponent (negative : Bool) (whole : List Char) (fraction : Option (List Char)) (down : Bool)
      (digits : List Char)

/--
What the reader expects at the current position.
-/
inductive Phase where
  /-- A value. -/
  | value
  /-- The first item of an array or its end. -/
  | firstItem
  /-- A comma or the end of an array. -/
  | afterItem (items : List Json)
  /-- The first name in an object or its end. -/
  | firstKey
  /-- A name in an object. -/
  | key (members : List (String × Json))
  /-- The rest of a name. -/
  | keyText (members : List (String × Json)) (text : List Char) (escape : Escape)
  /-- A colon. -/
  | colon (members : List (String × Json)) (key : String)
  /-- A comma or the end of an object. -/
  | afterMember (members : List (String × Json))
  /-- The rest of a string. -/
  | text (text : List Char) (escape : Escape)
  /-- The rest of a number. -/
  | digits (state : Digits)
  /-- The rest of a word for a value. -/
  | word (rest : List Char) (value : Json)
  /-- The end of the text. -/
  | done (value : Json)

/--
A reader: the containers around the value that is read now, innermost first, and the phase.
-/
structure Reader where
  stack : List Frame
  phase : Phase

namespace Reader

def start : Reader := ⟨[], .value⟩

/--
The blanks between the parts of a text.
-/
def isSpace (c : Char) : Bool :=
  c == ' ' || c == '\n' || c == '\t' || c == '\r'

def close (stack : List Frame) (v : Json) : Reader :=
  match stack with
  | [] => ⟨[], .done v⟩
  | .array items :: stack => ⟨stack, .afterItem (v :: items)⟩
  | .member members key :: stack => ⟨stack, .afterMember ((key, v) :: members)⟩

/--
Open a container, if there may be one more.
-/
def opened (limit : Nat) (stack : List Frame) (phase : Phase) : Option Reader :=
  if stack.length < limit then some ⟨stack, phase⟩ else none

def open? (limit : Nat) (stack : List Frame) (c : Char) : Option Reader :=
  match c with
  | '[' => opened limit stack .firstItem
  | '{' => opened limit stack .firstKey
  | '"' => some ⟨stack, .text [] .none⟩
  | '-' => some ⟨stack, .digits .minus⟩
  | 't' => some ⟨stack, .word ['r', 'u', 'e'] (.bool true)⟩
  | 'f' => some ⟨stack, .word ['a', 'l', 's', 'e'] (.bool false)⟩
  | 'n' => some ⟨stack, .word ['u', 'l', 'l'] .null⟩
  | c => if c.isDigit then some ⟨stack, .digits (.whole false [c])⟩ else none

def unescape? : Char → Option Char
  | '"' => some '"'
  | '\\' => some '\\'
  | '/' => some '/'
  | 'b' => some '\x08'
  | 'f' => some '\x0c'
  | 'n' => some '\n'
  | 'r' => some '\r'
  | 't' => some '\t'
  | _ => none

/--
The end of an escaped code unit: a character, the first half of a surrogate pair or its second half.
-/
def endUnit? (text : List Char) (lead : Option Nat) (unit : Nat) : Option (List Char × Escape) :=
  match lead with
  | none =>
    if 0xD800 ≤ unit ∧ unit < 0xDC00 then some (text, .pair unit)
    else if 0xDC00 ≤ unit ∧ unit < 0xE000 then none
    else some (Char.ofNat unit :: text, .none)
  | some lead =>
    if 0xDC00 ≤ unit ∧ unit < 0xE000 then
      some (Char.ofNat (0x10000 + (lead - 0xD800) * 0x400 + (unit - 0xDC00)) :: text, .none)
    else
      none

/--
What a character does inside a string.
-/
inductive Scan where
  | more (text : List Char) (escape : Escape)
  | ended (text : List Char)
  | refused

def scan (text : List Char) (escape : Escape) (c : Char) : Scan :=
  match escape with
  | .none =>
    if c = '"' then .ended text
    else if c = '\\' then .more text .backslash
    else if c.val < 0x20 then .refused
    else .more (c :: text) .none
  | .backslash =>
    if c = 'u' then .more text (.unit none 0 4)
    else
      match unescape? c with
      | some c => .more (c :: text) .none
      | none => .refused
  | .unit lead value left =>
    match Text.hexDigit? c with
    | none => .refused
    | some d =>
      let value := value * 16 + d
      if left ≤ 1 then
        match endUnit? text lead value with
        | some (text, escape) => .more text escape
        | none => .refused
      else
        .more text (.unit lead value (left - 1))
  | .pair lead => if c = '\\' then .more text (.pairBackslash lead) else .refused
  | .pairBackslash lead => if c = 'u' then .more text (.unit (some lead) 0 4) else .refused

/--
One more character of a number, if it can go on with this one.
-/
def extend? (state : Digits) (c : Char) : Option Digits :=
  match state with
  | .minus => if c.isDigit then some (.whole true [c]) else none
  | .whole negative digits =>
    if c.isDigit then if digits = ['0'] then none else some (.whole negative (c :: digits))
    else if c = '.' then some (.point negative digits)
    else if c = 'e' ∨ c = 'E' then some (.mark negative digits none)
    else none
  | .point negative whole => if c.isDigit then some (.fraction negative whole [c]) else none
  | .fraction negative whole digits =>
    if c.isDigit then some (.fraction negative whole (c :: digits))
    else if c = 'e' ∨ c = 'E' then some (.mark negative whole (some digits))
    else none
  | .mark negative whole fraction =>
    if c.isDigit then some (.exponent negative whole fraction false [c])
    else if c = '+' then some (.sign negative whole fraction false)
    else if c = '-' then some (.sign negative whole fraction true)
    else none
  | .sign negative whole fraction down =>
    if c.isDigit then some (.exponent negative whole fraction down [c]) else none
  | .exponent negative whole fraction down digits =>
    if c.isDigit then some (.exponent negative whole fraction down (c :: digits)) else none

/--
The numeral that has been read, if it is complete.
-/
def numeral? : Digits → Option Numeral
  | .whole negative digits => some ⟨negative, digits.reverse, none, none⟩
  | .fraction negative whole digits => some ⟨negative, whole.reverse, some digits.reverse, none⟩
  | .exponent negative whole fraction down digits =>
    some ⟨negative, whole.reverse, fraction.map List.reverse, some (down, digits.reverse)⟩
  | .minus | .point .. | .mark .. | .sign .. => none

/--
The reader after a number, if it is complete and in range.
-/
def closeDigits (stack : List Frame) (state : Digits) : Option Reader :=
  (numeral? state).bind fun n => n.value?.map fun v => close stack (.number v)

def between (limit : Nat) (r : Reader) (c : Char) : Option Reader :=
  if isSpace c then some r else
  match r.phase with
  | .value => open? limit r.stack c
  | .firstItem => if c = ']' then some (close r.stack (.array [])) else open? limit (.array [] :: r.stack) c
  | .afterItem items =>
    if c = ',' then some ⟨.array items :: r.stack, .value⟩
    else if c = ']' then some (close r.stack (.array items.reverse))
    else none
  | .firstKey =>
    if c = '}' then some (close r.stack (.object []))
    else if c = '"' then some { r with phase := .keyText [] [] .none }
    else none
  | .key members => if c = '"' then some { r with phase := .keyText members [] .none } else none
  | .colon members key => if c = ':' then some ⟨.member members key :: r.stack, .value⟩ else none
  | .afterMember members =>
    if c = ',' then some { r with phase := .key members }
    else if c = '}' then some (close r.stack (.object members.reverse))
    else none
  | _ => none

def step (limit : Nat) (r : Reader) (c : Char) : Option Reader :=
  match r.phase with
  | .text text escape =>
    match scan text escape c with
    | .more text escape => some { r with phase := .text text escape }
    | .ended text => some (close r.stack (.string (String.ofList text.reverse)))
    | .refused => none
  | .keyText members text escape =>
    match scan text escape c with
    | .more text escape => some { r with phase := .keyText members text escape }
    | .ended text => some { r with phase := .colon members (String.ofList text.reverse) }
    | .refused => none
  | .digits state =>
    match extend? state c with
    | some state => some { r with phase := .digits state }
    | none => (closeDigits r.stack state).bind fun r => between limit r c
  | .word rest v =>
    match rest with
    | [] => none
    | [w] => if c = w then some (close r.stack v) else none
    | w :: rest => if c = w then some { r with phase := .word rest v } else none
  | _ => between limit r c

/--
The reader after a text, if the text can begin a JSON text.
-/
def run (limit : Nat) (r : Reader) : List Char → Option Reader
  | [] => some r
  | c :: cs =>
    match r.step limit c with
    | some r => run limit r cs
    | none => none

/--
The value at the end of a text, if the text is complete.
-/
def finish (r : Reader) : Option Json :=
  match r.phase with
  | .done v => some v
  | .digits state =>
    match closeDigits r.stack state with
    | some ⟨_, .done v⟩ => some v
    | _ => none
  | _ => none

theorem run_append (limit : Nat) (r : Reader) (cs ds : List Char) :
    r.run limit (cs ++ ds) = (r.run limit cs).bind fun r => r.run limit ds := by
  induction cs generalizing r with
  | nil => rfl
  | cons c cs ih =>
    simp only [List.cons_append, run]
    cases r.step limit c with
    | none => rfl
    | some r => exact ih r

end Reader

/--
The value of a text with at most `limit` open containers, its members as they were written.
-/
def readWithin (limit : Nat) (cs : List Char) : Option Json :=
  (Reader.start.run limit cs).bind Reader.finish

/--
The value of a text, its members as they were written.
-/
def read? (text : String) : Option Json :=
  readWithin depthLimit text.toList

/--
The value of a text in canonical form.
-/
def parse? (text : String) : Option Json :=
  (read? text).map canonical

end Json
end Triage
