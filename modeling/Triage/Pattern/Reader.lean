import Triage.Pattern
import Triage.Text.Digits

/-!
This module contains the notation of patterns.
-/

namespace Triage
namespace Pattern

abbrev Reader := StateT (List Char) Option

/--
Pass over the next character if it is `c`; say whether it was.
-/
def accept (c : Char) : Reader Bool := do
  match ← get with
  | d :: rest =>
    if d = c then
      set rest
      return true
    else
      return false
  | [] => return false

/--
Pass over a text if it comes next; say whether it did.
-/
def acceptAll (cs : List Char) : Reader Bool := do
  let rest ← get
  if cs.isPrefixOf rest then
    set (rest.drop cs.length)
    return true
  else
    return false

def any : Reader Char := do
  match ← get with
  | c :: rest =>
    set rest
    return c
  | [] => failure

def digits : CharSet := .range '0' '9'

def wordChars : CharSet :=
  .unions [.range 'A' 'Z', .range 'a' 'z', .range '0' '9', .single '_']

def blanks : CharSet :=
  .unions ([' ', '\t', '\n', '\r', '\x0b', '\x0c', '\u2003', '\uFEFF', '\u2029', '\u00a0'].map .single)

def classOf? : Char → Option CharSet
  | 'd' => some digits
  | 'D' => some (.complement digits)
  | 'w' => some wordChars
  | 'W' => some (.complement wordChars)
  | 's' => some blanks
  | 'S' => some (.complement blanks)
  | _ => none

/--
The character of hexadecimal digits, of which there are `n`, or any number between braces.
-/
def hexChar (n : Nat) : Reader Char := do
  let cs ← get
  let ds ←
    match cs with
    | '\x7b' :: cs =>
      let ds := cs.takeWhile (· != '\x7d')
      set (cs.drop (ds.length + 1))
      if ds.length < cs.length then pure ds else failure
    | cs =>
      set (cs.drop n)
      if n ≤ cs.length then pure (cs.take n) else failure
  match Text.natOfDigits? 16 ds with
  | some k => if k.isValidChar then return Char.ofNat k else failure
  | none => failure

def isPunctuation (c : Char) : Bool :=
  (0x21 ≤ c.val && c.val ≤ 0x2F) || (0x3A ≤ c.val && c.val ≤ 0x40)
    || (0x5B ≤ c.val && c.val ≤ 0x60) || (0x7B ≤ c.val && c.val ≤ 0x7E)

/--
The character that an escape stands for, from behind its backslash on.
-/
def escapedChar : Reader Char := do
  match ← any with
  | 'n' => return '\n'
  | 't' => return '\t'
  | 'r' => return '\r'
  | 'f' => return '\x0c'
  | 'v' => return '\x0b'
  | 'a' => return '\x07'
  | 'e' => return '\x1b'
  | 'x' => hexChar 2
  | 'u' => hexChar 4
  | 'U' => hexChar 8
  | 'c' =>
    let c ← any
    if c.isAlpha then return Char.ofNat (c.toUpper.toNat - 64) else failure
  | c => if isPunctuation c then return c else failure

def classItem : Reader CharSet := do
  let c ← any
  if c = '\\' then
    match (← get).head?.bind classOf? with
    | some set =>
      let _ ← any
      return set
    | none => return .single (← escapedChar)
  else
    return .single c

/--
The character of a set that has one, if it can be the end of a range.
-/
def rangeEnd? : CharSet → Option Char
  | .range first last => if first = last then some first else none
  | _ => none

def namedClass? (name : String) : Option CharSet :=
  match name with
  | "alpha" => some (.unions [.range 'A' 'Z', .range 'a' 'z'])
  | "digit" => some digits
  | "alnum" => some (.unions [.range 'A' 'Z', .range 'a' 'z', digits])
  | "upper" => some (.range 'A' 'Z')
  | "lower" => some (.range 'a' 'z')
  | "space" => some (.unions [.single ' ', .range '\t' '\r'])
  | "punct" => some (.unions [.range '!' '/', .range ':' '@', .range '[' '\x60', .range '\x7b' '~'])
  | "xdigit" => some (.unions [digits, .range 'A' 'F', .range 'a' 'f'])
  | "word" => some wordChars
  | _ => none

def namedClass : Reader CharSet := do
  let negated ← accept '^'
  let name := (← get).takeWhile Char.isAlpha
  modify (·.drop name.length)
  if !(← acceptAll [':', ']']) then failure
  match namedClass? (String.ofList name) with
  | some set => return if negated then .complement set else set
  | none => failure

mutual

def bracketed (fuel : Nat) : Reader CharSet := do
  match fuel with
  | 0 => failure
  | fuel + 1 =>
    let negated ← accept '^'
    let first ← if ← accept ']' then pure [CharSet.single ']'] else pure []
    let set := CharSet.unions (first ++ (← bracketItems fuel))
    return if negated then .complement set else set
termination_by structural fuel

def bracketItems (fuel : Nat) : Reader (List CharSet) := do
  match fuel with
  | 0 => failure
  | fuel + 1 =>
    if ← accept ']' then
      return []
    else if ← acceptAll ['[', ':'] then
      let set ← namedClass
      return set :: (← bracketItems fuel)
    else if ← accept '[' then
      let set ← bracketed fuel
      return set :: (← bracketItems fuel)
    else
      let first ← classItem
      match ← get with
      | '-' :: ']' :: _ => return first :: (← bracketItems fuel)
      | '-' :: rest =>
        set rest
        let last ← classItem
        match rangeEnd? first, rangeEnd? last with
        | some a, some b => if a ≤ b then return .range a b :: (← bracketItems fuel) else failure
        | _, _ => failure
      | _ => return first :: (← bracketItems fuel)
termination_by structural fuel

end

def repetitionLimit : Nat := 1000

def count : Reader (Option Nat) := do
  let ds := (← get).takeWhile Char.isDigit
  modify (·.drop ds.length)
  match Text.natOfDigits? 10 ds with
  | some n => if n ≤ repetitionLimit then return some n else failure
  | none => return none

/--
How often a pattern is repeated, if a mark behind it says so.
-/
def repetition : Reader (Option (Nat × Option Nat)) := do
  if ← accept '*' then return some (0, none)
  else if ← accept '+' then return some (1, none)
  else if ← accept '?' then return some (0, some 1)
  else if ← accept '\x7b' then
    match ← count with
    | none => failure
    | some least =>
      let most ← if ← accept ',' then count else pure (some least)
      if !(← accept '\x7d') then failure
      if most.any (· < least) then failure
      return some (least, most)
  else return none

mutual

def alternatives (fuel : Nat) : Reader Pattern := do
  match fuel with
  | 0 => failure
  | fuel + 1 =>
    let p ← sequence fuel
    if ← accept '|' then return .either p (← alternatives fuel) else return p
termination_by structural fuel

/--
Patterns one after another, up to a bar, a closing parenthesis or the end.
-/
def sequence (fuel : Nat) : Reader Pattern := do
  match fuel with
  | 0 => failure
  | fuel + 1 =>
    match (← get).head? with
    | none | some '|' | some ')' => return .empty
    | _ =>
      let p ← repetitions fuel (← single fuel)
      return .seq p (← sequence fuel)
termination_by structural fuel

/--
The marks of repetition behind a pattern. A mark that says how many repetitions are preferred changes nothing.
-/
def repetitions (fuel : Nat) (p : Pattern) : Reader Pattern := do
  match fuel with
  | 0 => failure
  | fuel + 1 =>
    match ← repetition with
    | none => return p
    | some (least, most) =>
      let _ ← accept '?'
      repetitions fuel (.repeated p least most)
termination_by structural fuel

def single (fuel : Nat) : Reader Pattern := do
  match fuel with
  | 0 => failure
  | fuel + 1 =>
    match ← any with
    | '.' => return .char (.complement (.single '\n'))
    | '^' => return .textStart
    | '$' => return .textEnd
    | '*' | '+' | '?' | '\x7b' => failure
    | '[' => return .char (← bracketed (fuel + 1))
    | '(' =>
      let close (wrap : Pattern → Pattern) : Reader Pattern := do
        let p ← alternatives fuel
        if ← accept ')' then return wrap p else failure
      if ← acceptAll ['?', ':'] then close id
      else if ← acceptAll ['?', '='] then close (.ahead · false)
      else if ← acceptAll ['?', '!'] then close (.ahead · true)
      else
        let named := (← acceptAll ['?', 'P', '<']) || (← acceptAll ['?', '<'])
        if named then
          let name := (← get).takeWhile isWordChar
          modify (·.drop name.length)
          if name.isEmpty || !(← accept '>') then failure
        close id
    | '\\' =>
      match ← get with
      | 'b' :: rest =>
        set rest
        return .wordEdge false
      | 'B' :: rest =>
        set rest
        return .wordEdge true
      | 'A' :: rest =>
        set rest
        return .textStart
      | 'z' :: rest =>
        set rest
        return .textEnd
      | c :: rest =>
        match classOf? c with
        | some s =>
          set rest
          return .char s
        | none => return .char (.single (← escapedChar))
      | [] => failure
    | c => return .char (.single c)
termination_by structural fuel

end

def read? (text : String) : Option Pattern :=
  let cs := text.toList
  match (alternatives (4 * cs.length + 4)).run cs with
  | some (p, []) => some p
  | _ => none

end Pattern
end Triage
