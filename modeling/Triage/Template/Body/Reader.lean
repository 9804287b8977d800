import Triage.Template.Body
import Triage.Template.Expr.Reader

/-!
This module contains the reader of the bodies of templates.
-/

namespace Triage
namespace Template

open Reader

namespace Target

def reserved : List String :=
  ["true", "True", "false", "False", "none", "None", "loop", "self"]

def readName : Reader Target := do
  let s ← word
  if reserved.contains s then failure
  return .name s

def endsAt (t : Option Token) : Bool :=
  [some (.symbol ")"), some .closeOutput, some .closeStatement, some (.name "in")].contains t

mutual

def read (fuel : Nat) : Reader Target := do
  match fuel with
  | 0 => failure
  | fuel + 1 =>
    if endsAt (← next?) then
      return .parts []
    else
      let first ← readOne fuel
      if ← accept (.symbol ",") then return .parts (first :: (← readMore fuel)) else return first
termination_by structural fuel

def readOne (fuel : Nat) : Reader Target := do
  match fuel with
  | 0 => failure
  | fuel + 1 =>
    if ← accept (.symbol "(") then
      let target ← read fuel
      expect (.symbol ")")
      return target
    else
      readName
termination_by structural fuel

def readMore (fuel : Nat) : Reader (List Target) := do
  match fuel with
  | 0 => failure
  | fuel + 1 =>
    if endsAt (← next?) then
      return []
    else
      let first ← readOne fuel
      if ← accept (.symbol ",") then return first :: (← readMore fuel) else return [first]
termination_by structural fuel

end

end Target

namespace Body

mutual

/--
Statements up to the tag of a statement with one of the names `ends`, or up to the end of the template if
`ends` is empty; the name that was found stands behind the statements.
-/
def read (fuel : Nat) (ends : List String) : Reader (Body × String) := do
  match fuel with
  | 0 => failure
  | fuel + 1 =>
    match ← next? with
    | none => if ends.isEmpty then return (.done, "") else failure
    | some (.text s) =>
      skip
      let (rest, found) ← read fuel ends
      return (.text s rest, found)
    | some .openOutput =>
      skip
      let e ← Expr.read fuel
      expect .closeOutput
      let (rest, found) ← read fuel ends
      return (.output e rest, found)
    | some .openStatement =>
      skip
      let name ← word
      if ends.contains name then
        return (.done, name)
      else if name = "if" then
        let test ← Expr.read fuel
        let (yes, no) ← branches fuel
        let (rest, found) ← read fuel ends
        return (.branch test yes no rest, found)
      else if name = "for" then
        let target ← Target.read fuel
        expect (.name "in")
        let source ← Expr.operand fuel .either
        let only ← if ← accept (.name "if") then pure (some (← Expr.read fuel)) else pure none
        expect .closeStatement
        let (body, found) ← read fuel ["endfor", "else"]
        expect .closeStatement
        let otherwise ←
          if found = "else" then
            let (otherwise, _) ← read fuel ["endfor"]
            expect .closeStatement
            pure otherwise
          else
            pure .done
        let (rest, found) ← read fuel ends
        return (.loop target source only body otherwise rest, found)
      else if name = "set" then
        let target ← if (← next?) == some (.symbol "(") then Target.readOne fuel else Target.readName
        expect (.symbol "=")
        let e ← Expr.read fuel
        expect .closeStatement
        let (rest, found) ← read fuel ends
        return (.assign target e rest, found)
      else
        failure
    | some _ => failure
termination_by structural fuel

/--
What is behind the condition of a branch: the statements for its two cases.
-/
def branches (fuel : Nat) : Reader (Body × Body) := do
  match fuel with
  | 0 => failure
  | fuel + 1 =>
    expect .closeStatement
    let (yes, found) ← read fuel ["endif", "else", "elif"]
    if found = "elif" then
      let test ← Expr.read fuel
      let (yes', no') ← branches fuel
      return (yes, .branch test yes' no' .done)
    else
      expect .closeStatement
      if found = "else" then
        let (no, _) ← read fuel ["endif"]
        expect .closeStatement
        return (yes, no)
      else
        return (yes, .done)
termination_by structural fuel

end

end Body
end Template
end Triage
