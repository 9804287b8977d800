import Triage.Template.Operation

/-!
This module contains the values of expressions.
-/

namespace Triage
namespace Template

/--
The values that names stand for, the latest first.
-/
abbrev Scope := Members Value

namespace Expr

mutual

/--
The value of an expression. There is none if the expression uses values in a way that they do not allow.
There are no functions, so no call has a value.
-/
def eval (scope : Scope) : Expr → Option Value
  | const v => some v
  | name s => some ((scope.get? s).getD .undefined)
  | list items => (evalAll scope items).map .list
  | map keys values => do
    let keys ← evalAll scope keys
    let values ← evalAll scope values
    let names ← keys.mapM fun
      | .text s => some s
      | _ => none
    return .map (Members.sorted (names.zip values))
  | property e key => (eval scope e).bind (Value.property key)
  | item e key => do
    let v ← eval scope e
    let k ← eval scope key
    Value.item k v
  | call _ _ => none
  | filter e f arguments => do
    let v ← eval scope e
    let vs ← evalAll scope arguments
    Filter.run f v vs
  | test e t arguments => do
    let v ← eval scope e
    let vs ← evalAll scope arguments
    let b ← Test.run t v vs
    return .bool b
  | not e => (eval scope e).map fun v => .bool !v.isTrue
  | negate e => do
    match ← eval scope e with
    | .integer n => Value.ofInt? (-n)
    | .real x => some (.real (-x))
    | _ => none
  | apply op x y => do
    let v ← eval scope x
    let w ← eval scope y
    op.run v w
  | and x y => do
    let v ← eval scope x
    if v.isTrue then eval scope y else some v
  | or x y => do
    let v ← eval scope x
    if v.isTrue then some v else eval scope y
  | choose condition yes no => do
    let v ← eval scope condition
    if v.isTrue then eval scope yes else eval scope no
termination_by structural e => e

def evalAll (scope : Scope) : List Expr → Option (List Value)
  | [] => some []
  | e :: es => do
    let v ← eval scope e
    let vs ← evalAll scope es
    return v :: vs
termination_by structural es => es

end

end Expr
end Template
end Triage
