import Triage.Template.Value

/-!
This module contains the expressions of templates.
-/

namespace Triage
namespace Template

/--
The operations on two values. Both of them are always worked out.
-/
inductive Operation where
  | add
  | sub
  | mul
  | div
  | divFloor
  | mod
  | concat
  | equal
  | unequal
  | less
  | lessEqual
  | greater
  | greaterEqual
  | member
deriving DecidableEq

/--
An expression.
-/
inductive Expr where
  | const (v : Value)
  | name (s : String)
  | list (items : List Expr)
  | map (keys values : List Expr)
  | property (e : Expr) (key : String)
  | item (e key : Expr)
  | call (e : Expr) (arguments : List Expr)
  | filter (e : Expr) (filter : String) (arguments : List Expr)
  | test (e : Expr) (test : String) (arguments : List Expr)
  | not (e : Expr)
  | negate (e : Expr)
  | apply (op : Operation) (x y : Expr)
  | and (x y : Expr)
  | or (x y : Expr)
  | choose (condition yes no : Expr)

end Template
end Triage
