import Triage.Template.Expr
import Triage.Template.Token

/-!
This module contains the reader of expressions. Filters and tests bind more tightly than all operations, and
the operations of one level group to the left.
-/

namespace Triage
namespace Template

abbrev Reader := StateT (List Token) Option

namespace Reader

def next? : Reader (Option Token) :=
  return (← get).head?

def skip : Reader Unit :=
  modify (·.drop 1)

/--
Pass over the next token if it is `t`; say whether it was.
-/
def accept (t : Token) : Reader Bool := do
  if (← next?) == some t then
    skip
    return true
  else
    return false

/--
Pass over the next token, which has to be `t`.
-/
def expect (t : Token) : Reader Unit := do
  if !(← accept t) then failure

def word : Reader String := do
  match ← next? with
  | some (.name s) =>
    skip
    return s
  | _ => failure

end Reader

namespace Expr

open Reader

/--
The levels of operations, the loosest first.
-/
inductive Level where
  | either
  | both
  | negation
  | comparison
  | sum
  | concatenation
  | product
deriving DecidableEq

def Level.tighter? : Level → Option Level
  | either => some both
  | both => some negation
  | negation => some comparison
  | comparison => some sum
  | sum => some concatenation
  | concatenation => some product
  | product => none

/--
What joins two operands on a level, and whether the result is negated.
-/
inductive Joint where
  | operation (op : Operation) (negated : Bool)
  | and
  | or

def Joint.apply : Joint → Expr → Expr → Expr
  | operation op negated, x, y => if negated then .not (.apply op x y) else .apply op x y
  | and, x, y => .and x y
  | or, x, y => .or x y

def Level.joint? : Level → Token → Option Joint
  | either, .name "or" => some .or
  | both, .name "and" => some .and
  | comparison, .symbol "==" => some (.operation .equal false)
  | comparison, .symbol "!=" => some (.operation .unequal false)
  | comparison, .symbol "<" => some (.operation .less false)
  | comparison, .symbol "<=" => some (.operation .lessEqual false)
  | comparison, .symbol ">" => some (.operation .greater false)
  | comparison, .symbol ">=" => some (.operation .greaterEqual false)
  | comparison, .name "in" => some (.operation .member false)
  | comparison, .name "not" => some (.operation .member true)
  | sum, .symbol "+" => some (.operation .add false)
  | sum, .symbol "-" => some (.operation .sub false)
  | concatenation, .symbol "~" => some (.operation .concat false)
  | product, .symbol "*" => some (.operation .mul false)
  | product, .symbol "/" => some (.operation .div false)
  | product, .symbol "//" => some (.operation .divFloor false)
  | product, .symbol "%" => some (.operation .mod false)
  | _, _ => none

/--
The next joint of a level, if there is one. The name `not` has to be followed by `in`.
-/
def joint (level : Level) : Reader (Option Joint) := do
  match (← next?).bind level.joint? with
  | none => return none
  | some j =>
    let negates := (← next?) == some (.name "not")
    skip
    if negates then expect (.name "in")
    return some j

def constant? : String → Option Value
  | "true" | "True" => some (.bool true)
  | "false" | "False" => some (.bool false)
  | "none" | "None" => some .null
  | _ => none

/--
Whether a token starts an argument of a test that is written without parentheses.
-/
def startsArgument : Token → Bool
  | .name s => !(["and", "or", "else", "is"].contains s)
  | .quoted _ | .integer _ | .real _ => true
  | .symbol s => ["+", "-", "[", "\x7b"].contains s
  | _ => false

mutual

/--
An expression: an operand of the loosest level, with conditions behind it.
-/
def read (fuel : Nat) : Reader Expr := do
  match fuel with
  | 0 => failure
  | fuel + 1 => conditions fuel (← operand fuel .either)
termination_by structural fuel

def conditions (fuel : Nat) (e : Expr) : Reader Expr := do
  match fuel with
  | 0 => failure
  | fuel + 1 =>
    if ← accept (.name "if") then
      let test ← operand fuel .either
      let no ← if ← accept (.name "else") then read fuel else pure (.const .undefined)
      conditions fuel (.choose test e no)
    else
      return e
termination_by structural fuel

def operand (fuel : Nat) (level : Level) : Reader Expr := do
  match fuel with
  | 0 => failure
  | fuel + 1 =>
    match level with
    | .negation =>
      if ← accept (.name "not") then return .not (← operand fuel .negation) else operand fuel .comparison
    | _ =>
      let first ←
        match level.tighter? with
        | some tighter => operand fuel tighter
        | none => filtered fuel
      chain fuel level first
termination_by structural fuel

def chain (fuel : Nat) (level : Level) (first : Expr) : Reader Expr := do
  match fuel with
  | 0 => failure
  | fuel + 1 =>
    match ← joint level with
    | none => return first
    | some j =>
      let second ←
        match level.tighter? with
        | some tighter => operand fuel tighter
        | none => filtered fuel
      chain fuel level (j.apply first second)
termination_by structural fuel

/--
An expression with its properties and with filters and tests behind it.
-/
def filtered (fuel : Nat) : Reader Expr := do
  match fuel with
  | 0 => failure
  | fuel + 1 => filters fuel (← properties fuel (← signed fuel))
termination_by structural fuel

/--
A minus sign, if any, and an expression without joints.
-/
def signed (fuel : Nat) : Reader Expr := do
  match fuel with
  | 0 => failure
  | fuel + 1 =>
    if ← accept (.symbol "-") then return .negate (← signed fuel) else primary fuel
termination_by structural fuel

def properties (fuel : Nat) (e : Expr) : Reader Expr := do
  match fuel with
  | 0 => failure
  | fuel + 1 =>
    if ← accept (.symbol ".") then
      properties fuel (.property e (← word))
    else if ← accept (.symbol "[") then
      let key ← read fuel
      expect (.symbol "]")
      properties fuel (.item e key)
    else if ← accept (.symbol "(") then
      properties fuel (.call e (← items fuel ")" true))
    else
      return e
termination_by structural fuel

def filters (fuel : Nat) (e : Expr) : Reader Expr := do
  match fuel with
  | 0 => failure
  | fuel + 1 =>
    if ← accept (.symbol "|") then
      let filter ← word
      let arguments ← if ← accept (.symbol "(") then items fuel ")" true else pure []
      filters fuel (.filter e filter arguments)
    else if ← accept (.name "is") then
      let negated ← accept (.name "not")
      let test ← word
      let arguments ←
        if ← accept (.symbol "(") then items fuel ")" true
        else if (← next?).any startsArgument then pure [← properties fuel (← signed fuel)]
        else pure []
      let e := .test e test arguments
      filters fuel (if negated then .not e else e)
    else
      return e
termination_by structural fuel

/--
Expressions with commas between them, up to the symbol `close`; `first` says that none has been read.
-/
def items (fuel : Nat) (close : String) (first : Bool) : Reader (List Expr) := do
  match fuel with
  | 0 => failure
  | fuel + 1 =>
    if ← accept (.symbol close) then
      return []
    else
      if !first then expect (.symbol ",")
      if !first && (← accept (.symbol close)) then
        return []
      else
        let e ← read fuel
        return e :: (← items fuel close false)
termination_by structural fuel

/--
Keys and values with commas between them, up to a closing brace; `first` says that none has been read.
-/
def entries (fuel : Nat) (first : Bool) : Reader (List Expr × List Expr) := do
  match fuel with
  | 0 => failure
  | fuel + 1 =>
    if ← accept (.symbol "\x7d") then
      return ([], [])
    else
      if !first then expect (.symbol ",")
      if !first && (← accept (.symbol "\x7d")) then
        return ([], [])
      else
        let key ← read fuel
        expect (.symbol ":")
        let value ← read fuel
        let (keys, values) ← entries fuel false
        return (key :: keys, value :: values)
termination_by structural fuel

def primary (fuel : Nat) : Reader Expr := do
  match fuel with
  | 0 => failure
  | fuel + 1 =>
    match ← next? with
    | some (.name s) =>
      skip
      return match constant? s with
        | some v => .const v
        | none => .name s
    | some (.quoted s) =>
      skip
      return .const (.text s)
    | some (.integer n) =>
      skip
      return .const (.integer n)
    | some (.real x) =>
      skip
      return .const (.real x)
    | some (.symbol "[") =>
      skip
      return .list (← items fuel "]" true)
    | some (.symbol "\x7b") =>
      skip
      let (keys, values) ← entries fuel true
      return .map keys values
    | some (.symbol "(") =>
      skip
      if ← accept (.symbol ")") then
        return .list []
      else
        let e ← read fuel
        if ← accept (.symbol ")") then
          return e
        else
          return .list (e :: (← items fuel ")" false))
    | _ => failure
termination_by structural fuel

end

end Expr
end Template
end Triage
