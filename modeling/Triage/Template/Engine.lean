import Triage.Template

/-!
This module contains what renders templates, and which templates are rendered by `render?` as they are meant. These use the
filters and tests that are known here, call nothing, and use the state of a loop by its properties only. Whatever else an engine
makes of other templates is left open.
-/

namespace Triage
namespace Template

namespace Expr

/--
The names that stand for something without having been given: functions, and the state of a loop as a whole.
-/
def builtins : List String :=
  ["range", "dict", "debug", "namespace", "loop"]

def isText : Expr → Bool
  | const (.text _) => true
  | _ => false

mutual

/--
Whether an expression is worked out by `eval` as it is meant.
-/
def isCovered : Expr → Bool
  | const _ => true
  | name s => !builtins.contains s
  | list items => areCovered items
  | map keys values => keys.all isText && areCovered values
  | property e key =>
    match e with
    | name "loop" => key != "changed" && key != "cycle"
    | e => isCovered e
  | item e key => isCovered e && isCovered key
  | call _ _ => false
  | filter e f arguments => Filter.names.contains f && isCovered e && areCovered arguments
  | test e t arguments => Test.names.contains t && isCovered e && areCovered arguments
  | not e | negate e => isCovered e
  | apply _ x y | and x y | or x y => isCovered x && isCovered y
  | choose condition yes no => isCovered condition && isCovered yes && isCovered no
termination_by structural e => e

def areCovered : List Expr → Bool
  | [] => true
  | e :: es => isCovered e && areCovered es
termination_by structural es => es

end

end Expr

def Body.isCovered : Body → Bool
  | done => true
  | text _ next => next.isCovered
  | output e next | assign _ e next => e.isCovered && next.isCovered
  | branch test yes no next => test.isCovered && yes.isCovered && no.isCovered && next.isCovered
  | loop _ source only body otherwise next =>
    source.isCovered && only.all Expr.isCovered && body.isCovered && otherwise.isCovered && next.isCovered

def isCovered (template : String) : Bool :=
  (read? template).any Body.isCovered

/--
What renders templates: `render?` for those that it covers, and anything for all others.
-/
structure Engine where
  render? : String → Json → Option String
  agrees : ∀ template, isCovered template = true → ∀ context, render? template context = Template.render? template context

/--
The engine that knows nothing besides.
-/
def Engine.plain : Engine where
  render? := Template.render?
  agrees _ _ _ := rfl

end Template
end Triage
