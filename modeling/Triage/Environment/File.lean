import Triage.Environment
import Triage.Text.Blank

/-!
This module contains files that set variables. Each entry is a name, an equals sign and a value on one line, and
a value in quotes may go over several lines. Comments start with `#`. A file sets no variable that is set
already, and is read up to the first entry that is malformed.
-/

namespace Triage
namespace Environment
namespace File

/-! Entries. -/

/--
Where the end of an entry is looked for.
-/
inductive Place where
  | plain
  /-- Behind a blank, where a comment can start. -/
  | blank
  | escaped
  | quoted (mark : Char)
  /-- Behind a backslash between quotes. -/
  | quotedEscaped (mark : Char)
deriving DecidableEq

/--
The place behind a character. There is none behind the start of a comment.
-/
def Place.next? (place : Place) (c : Char) : Option Place :=
  match place with
  | .escaped => some .plain
  | .quoted mark =>
    some (if c = '\\' then .quotedEscaped mark else if c = mark then .plain else .quoted mark)
  | .quotedEscaped mark => some (.quoted mark)
  | .plain | .blank =>
    if place = .blank ∧ c = '#' then none
    else if c = '\\' then some .escaped
    else if c = '"' ∨ c = '\'' then some (.quoted c)
    else if place = .plain ∧ Text.isBlank c ∧ c ≠ '\n' ∧ c ≠ '\r' then some .blank
    else some .plain

/--
The characters of a line up to a comment, and the place behind them, `none` in a comment.
-/
def scanLine (place : Place) : List Char → List Char × Option Place
  | [] => ([], some place)
  | c :: cs =>
    match place.next? c with
    | none => ([], none)
    | some next =>
      let (kept, last) := scanLine next cs
      (c :: kept, last)

def linesWithEnds (cs : List Char) : List (List Char) :=
  go [] cs
where
  go (line : List Char) : List Char → List (List Char)
    | [] => if line.isEmpty then [] else [line.reverse]
    | c :: cs => if c = '\n' then (c :: line).reverse :: go [] cs else go (c :: line) cs

def dropBreak (line : List Char) : List Char :=
  match line.reverse with
  | '\n' :: '\r' :: rest => rest.reverse
  | '\n' :: rest => rest.reverse
  | _ => line

/--
The texts of the entries in some lines, where `open?` is the start of an entry that is not complete, with its
place. The text of an entry that never ends is missing, and `none` stands for it.
-/
def entries (start : List Char) (place : Place) : List (List Char) → List (Option (List Char))
  | [] => if place = .plain then [] else [none]
  | line :: lines =>
    let text := start ++ line
    if (Text.trimStart text).head? = some '#' then entries [] .plain lines
    else
      match scanLine place line with
      | (kept, none) => some (start ++ kept) :: entries [] .plain lines
      | (_, some .plain) => some (dropBreak text) :: entries [] .plain lines
      | (_, some place) => entries text place lines

/-! Values. -/

/--
How the next character of a value is understood. `weak` tells whether it stands between double quotes.
-/
inductive Mode where
  | plain (weak : Bool)
  | strong
  | escaped (weak : Bool)
  /-- In the name of a variable, which may stand between braces. -/
  | name (weak braced : Bool) (chars : List Char)
  /-- Behind the value. -/
  | ended
deriving DecidableEq

def unescape? (c : Char) : Option Char :=
  if c = 'n' then some '\n'
  else if c = '\\' ∨ c = '\'' ∨ c = '"' ∨ c = '$' ∨ c = ' ' then some c
  else none

/--
The mode behind a character, and what the character adds to the value.
-/
def Mode.next? (lookup : String → String) (mode : Mode) (c : Char) : Option (Mode × List Char) :=
  match mode with
  | .ended =>
    if c = ' ' ∨ c = '\t' then some (.ended, []) else none
  | .escaped weak => (unescape? c).map fun c => (.plain weak, [c])
  | .strong => some (if c = '\'' then (.plain false, []) else (.strong, [c]))
  | .name weak braced chars =>
    if c.isAlphanum then some (.name weak braced (chars ++ [c]), [])
    else
      let value := (lookup (String.ofList chars)).toList
      if braced then
        some (if c = '}' then (.plain weak, value) else (.name weak braced (chars ++ [c]), []))
      else if c = '{' ∧ chars.isEmpty then some (.name weak true [], [])
      else if c = '$' then some (.name weak false [], value)
      else some (.plain weak, value ++ [c])
  | .plain weak =>
    if c = '$' then some (.name weak false [], [])
    else if c = '\\' then some (.escaped weak, [])
    else if weak then some (if c = '"' then (.plain false, []) else (.plain true, [c]))
    else if c = '\'' then some (.strong, [])
    else if c = '"' then some (.plain true, [])
    else if c = ' ' ∨ c = '\t' then some (.ended, [])
    else some (.plain false, [c])

def Mode.finish? (lookup : String → String) : Mode → Option (List Char)
  | .plain false | .escaped false | .ended => some []
  | .name false false chars => some (lookup (String.ofList chars)).toList
  | .plain true | .escaped true | .strong | .name .. => none

/--
The value of a text. `lookup` gives the values of variables that are named in it.
-/
def value? (lookup : String → String) (mode : Mode) : List Char → Option (List Char)
  | [] => mode.finish? lookup
  | c :: cs =>
    if mode = .ended ∧ c = '#' then some []
    else do
      let (mode, added) ← mode.next? lookup c
      return added ++ (← value? lookup mode cs)

def name? (cs : List Char) : Option (String × List Char) :=
  match cs with
  | c :: _ =>
    if c.isAlpha ∨ c = '_' then
      let isPart (c : Char) : Bool := c.isAlphanum || c = '_' || c = '.'
      some (String.ofList (cs.takeWhile isPart), Text.trimStart (cs.dropWhile isPart))
    else
      none
  | [] => none

def equals? : List Char → Option (List Char)
  | '=' :: cs => some (Text.trimStart cs)
  | _ => none

/--
The name in an entry, behind the word `export` if it stands there, and what follows the equals sign.
-/
def assignment? (cs : List Char) : Option (String × List Char) := do
  let (name, rest) ← name? cs
  match equals? rest with
  | some value => return (name, value)
  | none =>
    if name = "export" then
      let (name, rest) ← name? rest
      return (name, ← equals? rest)
    else none

/--
Set the variable of an entry. `own` holds the values that the entries before gave, which count where a
variable is not set.
-/
def assign? (env : Environment) (own : Members String) (entry : List Char) :
    Option (Environment × Members String) :=
  let cs := Text.trim entry
  if cs.isEmpty ∨ cs.head? = some '#' then some (env, own)
  else do
    let (name, rest) ← assignment? cs
    if rest.isEmpty ∨ rest.head? = some '#' then
      return (env.setDefault name "", own.erase name)
    let lookup (name : String) : String := (env.get? name).getD ((own.get? name).getD "")
    let value := String.ofList (← value? lookup (.plain false) rest)
    return (env.setDefault name value, own.insert name value)

/--
Set the variables of entries up to the first one that is malformed.
-/
def applyAll (env : Environment) (own : Members String) : List (Option (List Char)) → Environment
  | [] => env
  | none :: _ => env
  | some entry :: rest =>
    match assign? env own entry with
    | none => env
    | some (env, own) => applyAll env own rest

end File

/--
The mark that a text may start with and that is no part of it.
-/
def byteOrderMark : Char := '\ufeff'

def withFile (env : Environment) (text : String) : Environment :=
  let cs :=
    match text.toList with
    | c :: cs => if c = byteOrderMark then cs else c :: cs
    | [] => []
  File.applyAll env [] (File.entries [] .plain (File.linesWithEnds cs))

end Environment
end Triage
