import Triage.Template.Body

/-!
This module contains the names that occur in a template. What a template prints depends on the values of these names
only.
-/

namespace Triage

theorem Members.get?_append {α : Type} (front back : Members α) (key : String) :
    Members.get? key (front ++ back) = (Members.get? key front).or (Members.get? key back) := by
  induction front with
  | nil => rfl
  | cons m front ih =>
    obtain ⟨k, v⟩ := m
    rw [List.cons_append, get?, get?]
    split
    . rfl
    . exact ih

namespace Template

namespace Expr

mutual

/--
The names that occur in an expression.
-/
def names : Expr → List String
  | const _ => []
  | name s => [s]
  | list items => namesOfAll items
  | map keys values => namesOfAll keys ++ namesOfAll values
  | property e _ | not e | negate e => names e
  | item x y | apply _ x y | and x y | or x y => names x ++ names y
  | call e arguments | filter e _ arguments | test e _ arguments => names e ++ namesOfAll arguments
  | choose condition yes no => names condition ++ names yes ++ names no
termination_by structural e => e

def namesOfAll : List Expr → List String
  | [] => []
  | e :: es => names e ++ namesOfAll es
termination_by structural es => es

end

end Expr

/--
Whether the names in a list stand for the same values in two scopes.
-/
def Agree (known : List String) (s t : Scope) : Prop :=
  ∀ n ∈ known, Members.get? n s = Members.get? n t

theorem Agree.append {known : List String} {s t : Scope} (h : Agree known s t) (front : Scope) :
    Agree known (front ++ s) (front ++ t) := by
  intro n hn
  rw [Members.get?_append, Members.get?_append, h n hn]

namespace Expr

variable {known : List String} {s t : Scope}

mutual

theorem eval_congr : (e : Expr) → e.names ⊆ known → Agree known s t → e.eval s = e.eval t
  | .const _, _, _ => rfl
  | .name n, hnames, h => by
    rw [names] at hnames
    rw [eval, eval, h n (hnames List.mem_cons_self)]
  | .list items, hnames, h => by
    rw [names] at hnames
    rw [eval, eval, evalAll_congr items hnames h]
  | .map keys values, hnames, h => by
    rw [names, List.append_subset] at hnames
    rw [eval, eval, evalAll_congr keys hnames.1 h, evalAll_congr values hnames.2 h]
  | .property e key, hnames, h => by
    rw [names] at hnames
    rw [eval, eval, eval_congr e hnames h]
  | .item e key, hnames, h => by
    rw [names, List.append_subset] at hnames
    rw [eval, eval, eval_congr e hnames.1 h, eval_congr key hnames.2 h]
  | .call _ _, _, _ => rfl
  | .filter e f arguments, hnames, h => by
    rw [names, List.append_subset] at hnames
    rw [eval, eval, eval_congr e hnames.1 h, evalAll_congr arguments hnames.2 h]
  | .test e f arguments, hnames, h => by
    rw [names, List.append_subset] at hnames
    rw [eval, eval, eval_congr e hnames.1 h, evalAll_congr arguments hnames.2 h]
  | .not e, hnames, h => by
    rw [names] at hnames
    rw [eval, eval, eval_congr e hnames h]
  | .negate e, hnames, h => by
    rw [names] at hnames
    rw [eval, eval, eval_congr e hnames h]
  | .apply op x y, hnames, h => by
    rw [names, List.append_subset] at hnames
    rw [eval, eval, eval_congr x hnames.1 h, eval_congr y hnames.2 h]
  | .and x y, hnames, h => by
    rw [names, List.append_subset] at hnames
    rw [eval, eval, eval_congr x hnames.1 h, eval_congr y hnames.2 h]
  | .or x y, hnames, h => by
    rw [names, List.append_subset] at hnames
    rw [eval, eval, eval_congr x hnames.1 h, eval_congr y hnames.2 h]
  | .choose condition yes no, hnames, h => by
    rw [names, List.append_subset, List.append_subset] at hnames
    rw [eval, eval, eval_congr condition hnames.1.1 h, eval_congr yes hnames.1.2 h, eval_congr no hnames.2 h]
termination_by structural e => e

theorem evalAll_congr : (es : List Expr) → namesOfAll es ⊆ known → Agree known s t → evalAll s es = evalAll t es
  | [], _, _ => rfl
  | e :: es, hnames, h => by
    rw [namesOfAll, List.append_subset] at hnames
    rw [evalAll, evalAll, eval_congr e hnames.1 h, evalAll_congr es hnames.2 h]
termination_by structural es => es

end

end Expr

namespace Target

mutual

/--
The names that are given to a value or to its parts are put in front of the others.
-/
theorem bind_eq (v : Value) (scope : Scope) : (target : Target) →
    target.bind v scope = (target.bind v []).map (· ++ scope)
  | .name s => rfl
  | .parts targets => by
    rw [bind, bind]
    cases v.parts with
    | none => rfl
    | some vs => exact bindAll_eq vs scope targets
termination_by structural target => target

theorem bindAll_eq (vs : List Value) (scope : Scope) : (targets : List Target) →
    bindAll vs scope targets = (bindAll vs [] targets).map (· ++ scope)
  | [] => by
    rw [bindAll, bindAll]
    split <;> rfl
  | target :: targets => by
    cases vs with
    | nil => rfl
    | cons v vs =>
      rw [bindAll, bindAll, bind_eq v scope target]
      cases target.bind v [] with
      | none => rfl
      | some front =>
        rw [Option.map_some, Option.bind_some, Option.bind_some, bindAll_eq vs (front ++ scope) targets,
          bindAll_eq vs front targets]
        cases bindAll vs [] targets <;> simp
termination_by structural targets => targets

end

end Target

namespace Body

/--
The names that occur in the expressions of a template.
-/
def names : Body → List String
  | done => []
  | text _ next => names next
  | output e next | assign _ e next => e.names ++ names next
  | branch test yes no next => test.names ++ names yes ++ names no ++ names next
  | loop _ source only body otherwise next =>
    source.names ++ (only.map Expr.names).getD [] ++ names body ++ names otherwise ++ names next

/--
Two outcomes with the same text, after which some names stand for the same values.
-/
inductive Alike (known : List String) : Option (String × Scope) → Option (String × Scope) → Prop where
  | none : Alike known none none
  | some (text : String) {s t : Scope} (h : Agree known s t) : Alike known (some (text, s)) (some (text, t))

variable {known : List String} {s t : Scope}

theorem Alike.bind {x y : Option (String × Scope)} {f g : String × Scope → Option (String × Scope)}
    (h : Alike known x y)
    (hnext : ∀ text s t, Agree known s t → Alike known (f (text, s)) (g (text, t))) :
    Alike known (x >>= f) (y >>= g) := by
  cases h with
  | none => exact .none
  | some text h => exact hnext text _ _ h

/--
A text in front of both outcomes.
-/
theorem Alike.prepend {x y : Option (String × Scope)} (h : Alike known x y) (front : String) :
    Alike known (do let (rest, s) ← x; return (front ++ rest, s)) (do let (rest, t) ← y; return (front ++ rest, t)) :=
  h.bind fun text _ _ h => .some (front ++ text) h

theorem keep_congr {target : Target} {only : Option Expr} (hnames : (only.map Expr.names).getD [] ⊆ known)
    (h : Agree known s t) (vs : List Value) : keep target only s vs = keep target only t vs := by
  cases only with
  | none => rfl
  | some e =>
    have htest (v : Value) : (do let scope ← target.bind v s; let b ← e.eval scope; return b.isTrue) =
        (do let scope ← target.bind v t; let b ← e.eval scope; return b.isTrue : Option Bool) := by
      rw [Target.bind_eq v s, Target.bind_eq v t]
      cases target.bind v [] with
      | none => rfl
      | some front =>
        dsimp only [Option.map_some, Option.bind_eq_bind, Option.bind_some]
        rw [e.eval_congr hnames (h.append front)]
    unfold keep
    dsimp only
    rw [funext htest]

theorem rounds_congr {run : Scope → Option (String × Scope)} {target : Target} {length index : Nat} {before : Option Value}
    {vs : List Value} (hrun : ∀ s t, Agree known s t → Alike known (run s) (run t)) (h : Agree known s t) :
    rounds run target length index before vs s = rounds run target length index before vs t := by
  induction vs generalizing index before s t with
  | nil => rfl
  | cons v vs ih =>
    rw [rounds, rounds, Target.bind_eq v, Target.bind_eq v (("loop", round index length before vs.head?) :: t)]
    cases target.bind v [] with
    | none => rfl
    | some front =>
      have hfirst := hrun _ _ ((h.append [("loop", round index length before vs.head?)]).append front)
      rw [List.singleton_append, List.singleton_append] at hfirst
      dsimp only [Option.map_some, Option.bind_eq_bind, Option.bind_some]
      generalize run (front ++ ("loop", round index length before vs.head?) :: s) = x at hfirst ⊢
      generalize run (front ++ ("loop", round index length before vs.head?) :: t) = y at hfirst ⊢
      cases hfirst with
      | none => rfl
      | some text h =>
        dsimp only [Option.bind_some]
        rw [ih h]

/--
A template prints the same text in scopes that agree on the names in it.
-/
theorem render_congr (b : Body) (hnames : b.names ⊆ known) (h : Agree known s t) :
    Alike known (b.render s) (b.render t) := by
  induction b generalizing s t with
  | done => exact .some "" h
  | text front next ih =>
    rw [names] at hnames
    rw [render, render]
    exact (ih hnames h).prepend front
  | output e next ih =>
    rw [names, List.append_subset] at hnames
    rw [render, render, e.eval_congr hnames.1 h]
    cases e.eval t with
    | none => exact .none
    | some v => exact (ih hnames.2 h).prepend v.shown
  | assign target e next ih =>
    rw [names, List.append_subset] at hnames
    rw [render, render, e.eval_congr hnames.1 h]
    cases e.eval t with
    | none => exact .none
    | some v =>
      dsimp only [Option.bind_eq_bind, Option.bind_some]
      rw [Target.bind_eq v s, Target.bind_eq v t]
      cases target.bind v [] with
      | none => exact .none
      | some front => exact ih hnames.2 (h.append front)
  | branch test yes no next hyes hno hnext =>
    rw [names, List.append_subset, List.append_subset, List.append_subset] at hnames
    obtain ⟨⟨⟨htest, hyes'⟩, hno'⟩, hnext'⟩ := hnames
    rw [render, render, test.eval_congr htest h]
    cases test.eval t with
    | none => exact .none
    | some v =>
      dsimp only [Option.bind_eq_bind, Option.bind_some]
      have hrest (text : String) (s t : Scope) (h : Agree known s t) := (hnext hnext' h).prepend text
      split
      . exact (hyes hyes' h).bind hrest
      . exact (hno hno' h).bind hrest
  | loop target source only body otherwise next hbody hotherwise hnext =>
    rw [names, List.append_subset, List.append_subset, List.append_subset, List.append_subset] at hnames
    obtain ⟨⟨⟨⟨hsource, honly⟩, hbody'⟩, hotherwise'⟩, hnext'⟩ := hnames
    rw [render, render, source.eval_congr hsource h]
    cases source.eval t with
    | none => exact .none
    | some v =>
      dsimp only [Option.bind_eq_bind, Option.bind_some]
      cases v.steps with
      | none => exact .none
      | some vs =>
        dsimp only [Option.bind_some]
        rw [keep_congr honly h]
        cases keep target only t vs with
        | none => exact .none
        | some vs =>
          dsimp only [Option.bind_some]
          split
          . apply (hotherwise hotherwise' h).bind
            exact fun text _ _ h => (hnext hnext' h).prepend text
          . rw [rounds_congr (fun _ _ => hbody hbody') h]
            cases rounds body.render target vs.length 0 none vs t with
            | none => exact .none
            | some first => exact (hnext hnext' h).prepend first

end Body
end Template
end Triage
