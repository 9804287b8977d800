import Triage.Template.Expr.Eval

/-!
This module contains the bodies of templates and the text that they print.
-/

namespace Triage
namespace Template

/--
The names that the parts of a value are given to.
-/
inductive Target where
  | name (s : String)
  | parts (targets : List Target)

mutual

/--
Give names to a value or to its parts, if it has as many of them.
-/
def Target.bind (v : Value) (scope : Scope) : Target → Option Scope
  | .name s => some ((s, v) :: scope)
  | .parts targets => v.parts.bind fun vs => Target.bindAll vs scope targets
termination_by structural t => t

def Target.bindAll (vs : List Value) (scope : Scope) : List Target → Option Scope
  | [] => if vs.isEmpty then some scope else none
  | t :: ts =>
    match vs with
    | [] => none
    | v :: vs => (Target.bind v scope t).bind fun scope => Target.bindAll vs scope ts
termination_by structural ts => ts

end

/--
A sequence of statements. Each of them holds those behind it as `next`.
-/
inductive Body where
  | done
  | text (s : String) (next : Body)
  | output (e : Expr) (next : Body)
  | assign (target : Target) (e : Expr) (next : Body)
  | branch (test : Expr) (yes no next : Body)
  /-- A loop over the values of `source`, or over those that `only` keeps; `otherwise` is for none at all. -/
  | loop (target : Target) (source : Expr) (only : Option Expr) (body otherwise next : Body)

namespace Body

/--
The variable `loop` in a round of a loop, between the rounds for `before` and `after`. No loop is entered again from within.
-/
def round (index length : Nat) (before after : Option Value) : Value :=
  .map [
    ("depth", .integer 1),
    ("depth0", .integer 0),
    ("first", .bool (index == 0)),
    ("index", .integer (index + 1)),
    ("index0", .integer index),
    ("last", .bool (index + 1 == length)),
    ("length", .integer length),
    ("nextitem", after.getD .undefined),
    ("previtem", before.getD .undefined),
    ("revindex", .integer (length - index : Nat)),
    ("revindex0", .integer (length - (index + 1) : Nat))]

def keep (target : Target) (only : Option Expr) (scope : Scope) (vs : List Value) : Option (List Value) :=
  match only with
  | none => some vs
  | some e =>
    vs.filterM fun v => do
      let scope ← target.bind v scope
      let b ← e.eval scope
      return b.isTrue

/--
The rounds of a loop over `vs`. Names that are given in one round are still there in the next one.
-/
def rounds (run : Scope → Option (String × Scope)) (target : Target) (length : Nat) :
    Nat → Option Value → List Value → Scope → Option String
  | _, _, [], _ => some ""
  | index, before, v :: vs, scope => do
    let scope ← target.bind v (("loop", round index length before vs.head?) :: scope)
    let (first, scope) ← run scope
    let rest ← rounds run target length (index + 1) (some v) vs scope
    return first ++ rest

/--
The text that statements print, and the names that they give. The names in a loop end with it.
-/
def render : Body → Scope → Option (String × Scope)
  | done, scope => some ("", scope)
  | text s next, scope => do
    let (rest, scope) ← render next scope
    return (s ++ rest, scope)
  | output e next, scope => do
    let v ← e.eval scope
    let (rest, scope) ← render next scope
    return (v.shown ++ rest, scope)
  | assign target e next, scope => do
    let v ← e.eval scope
    render next (← target.bind v scope)
  | branch test yes no next, scope => do
    let v ← test.eval scope
    let (first, scope) ← if v.isTrue then render yes scope else render no scope
    let (rest, scope) ← render next scope
    return (first ++ rest, scope)
  | loop target source only body otherwise next, scope => do
    let v ← source.eval scope
    let vs ← keep target only scope (← v.steps)
    if vs.isEmpty then
      let (first, scope) ← render otherwise scope
      let (rest, scope) ← render next scope
      return (first ++ rest, scope)
    else
      let first ← rounds (render body) target vs.length 0 none vs scope
      let (rest, scope) ← render next scope
      return (first ++ rest, scope)

end Body
end Template
end Triage
