import Mathlib.Data.List.Forall2
import Triage.Proofs.Template.Names

/-!
This module contains a check of templates. It takes what is known of the values of names, and a template that passes
does not fail on any values of this kind, and prints the texts that it is to show as they are.
-/

namespace Triage
namespace Template

/--
What is known of a value.
-/
inductive Shape where
  | anything
  /-- It is there. -/
  | present
  /-- It is a map. -/
  | map
  /-- It is a member of a map: a list of its name and its value. -/
  | member
  /-- It is a list of values of one shape. -/
  | list (items : Shape)
deriving DecidableEq

namespace Shape

def Holds : Shape → Value → Prop
  | anything, _ => True
  | present, v => v.isDefined = true
  | map, v => ∃ ms, v = .map ms ∧ ∀ m ∈ ms, m.2.isDefined = true
  | member, v => ∃ x y, v = .list [x, y] ∧ x.isDefined = true ∧ y.isDefined = true
  | list items, v => ∃ vs, v = .list vs ∧ ∀ x ∈ vs, items.Holds x

def isPresent : Shape → Bool
  | anything => false
  | present | map | member | list _ => true

/--
The shape of one of two values.
-/
def either (s t : Shape) : Shape :=
  if s.isPresent && t.isPresent then present else anything

variable {s t : Shape} {v : Value}

theorem Holds.isDefined (h : s.Holds v) (hs : s.isPresent = true) : v.isDefined = true := by
  cases s with
  | anything => contradiction
  | present => exact h
  | map =>
    obtain ⟨ms, rfl, -⟩ := h
    rfl
  | member =>
    obtain ⟨x, y, rfl, -⟩ := h
    rfl
  | list items =>
    obtain ⟨vs, rfl, -⟩ := h
    rfl

theorem Holds.left (h : s.Holds v) (t : Shape) : (s.either t).Holds v := by
  unfold either
  split
  . next hpresent =>
    rw [Bool.and_eq_true] at hpresent
    exact h.isDefined hpresent.1
  . trivial

theorem Holds.right (h : t.Holds v) (s : Shape) : (s.either t).Holds v := by
  unfold either
  split
  . next hpresent =>
    rw [Bool.and_eq_true] at hpresent
    exact h.isDefined hpresent.2
  . trivial

/--
The shape of what a filter makes of a value, if it cannot fail.
-/
def filtered? (filter : String) (s : Shape) (arguments : List Shape) : Option Shape :=
  match filter, arguments with
  | "default", [other] => some (if other.isPresent then present else anything)
  | "length", [] =>
    match s with
    | list _ | map => some present
    | _ => none
  | "items", [] => if s = map then some (list member) else none
  | _, _ => none

theorem exists_run_of_filtered? {filter : String} {arguments : List Shape} {vs : List Value}
    (h : s.filtered? filter arguments = some t) (hv : s.Holds v) (hvs : List.Forall₂ Holds arguments vs) :
    ∃ w, Filter.run filter v vs = some w ∧ t.Holds w := by
  unfold filtered? at h
  split at h
  . next other =>
    cases h
    cases hvs with
    | @cons _ w _ rest hother hrest =>
    cases hrest
    refine ⟨if v.isDefined then v else w, rfl, ?_⟩
    split
    . next hpresent =>
      split
      . next hdefined => exact hdefined
      . exact hother.isDefined hpresent
    . trivial
  . cases hvs
    split at h
    . cases h
      obtain ⟨vs, rfl, -⟩ := hv
      exact ⟨_, rfl, rfl⟩
    . cases h
      obtain ⟨ms, rfl, -⟩ := hv
      exact ⟨_, rfl, rfl⟩
    . contradiction
  . cases hvs
    split at h
    . next hmap =>
      cases h
      rw [hmap] at hv
      obtain ⟨ms, rfl, hms⟩ := hv
      refine ⟨_, rfl, _, rfl, ?_⟩
      intro x hx
      obtain ⟨m, hm, rfl⟩ := List.mem_map.mp hx
      exact ⟨.text m.1, m.2, rfl, rfl, hms m hm⟩
    . contradiction
  . contradiction

end Shape

/--
Whether the values of names have the shapes that are known of them. The names in `hidden` are not looked at.
-/
def Fits (hidden : List String) (known : Members Shape) (scope : Scope) : Prop :=
  ∀ n s, n ∉ hidden → Members.get? n known = some s → ∃ v, Members.get? n scope = some v ∧ s.Holds v

namespace Expr

mutual

/--
The shape of the value of an expression, if it cannot fail.
-/
def shape? (known : Members Shape) : Expr → Option Shape
  | const v => some (if v.isDefined then .present else .anything)
  | name n => some ((Members.get? n known).getD .anything)
  | property e _ => (shape? known e).bind fun s => if s.isPresent then some .anything else none
  | filter e f arguments => do
    let s ← shape? known e
    let ss ← shapes? known arguments
    s.filtered? f ss
  | choose condition yes no => do
    let _ ← shape? known condition
    let s ← shape? known yes
    let t ← shape? known no
    return s.either t
  | list _ | map _ _ | item _ _ | call _ _ | test _ _ _ | not _ | negate _ | apply _ _ _ | and _ _ | or _ _ => none
termination_by structural e => e

def shapes? (known : Members Shape) : List Expr → Option (List Shape)
  | [] => some []
  | e :: es => do
    let s ← shape? known e
    let ss ← shapes? known es
    return s :: ss
termination_by structural es => es

end

variable {known : Members Shape} {scope : Scope}

mutual

theorem exists_eval_of_shape? (hscope : Fits [] known scope) : (e : Expr) → (s : Shape) → e.shape? known = some s →
    ∃ v, e.eval scope = some v ∧ s.Holds v
  | .const v, s, h => by
    cases h
    refine ⟨v, rfl, ?_⟩
    split
    . next hdefined => exact hdefined
    . trivial
  | .name n, s, h => by
    cases h
    rw [eval]
    cases hknown : Members.get? n known with
    | none => exact ⟨_, rfl, trivial⟩
    | some s =>
      obtain ⟨v, hv, hs⟩ := hscope n s List.not_mem_nil hknown
      rw [hv]
      exact ⟨v, rfl, hs⟩
  | .property e key, s, h => by
    rw [shape?] at h
    obtain ⟨s', hs', h⟩ := Option.bind_eq_some_iff.mp h
    obtain ⟨v, hv, hholds⟩ := exists_eval_of_shape? hscope e s' hs'
    split at h
    . next hpresent =>
      cases h
      rw [eval, hv, Option.bind_some]
      -- only what is not there has no properties
      have hdefined := hholds.isDefined hpresent
      cases v with
      | undefined => contradiction
      | null | bool | integer | real | text | list | map => exact ⟨_, rfl, trivial⟩
    . contradiction
  | .filter e f arguments, s, h => by
    rw [shape?] at h
    obtain ⟨s', hs', h⟩ := Option.bind_eq_some_iff.mp h
    obtain ⟨ss, hss, h⟩ := Option.bind_eq_some_iff.mp h
    obtain ⟨v, hv, hholds⟩ := exists_eval_of_shape? hscope e s' hs'
    obtain ⟨vs, hvs, hall⟩ := exists_evalAll_of_shapes? hscope arguments ss hss
    rw [eval, hv, hvs]
    exact Shape.exists_run_of_filtered? h hholds hall
  | .choose condition yes no, s, h => by
    rw [shape?] at h
    obtain ⟨_, hcondition, h⟩ := Option.bind_eq_some_iff.mp h
    obtain ⟨s', hyes, h⟩ := Option.bind_eq_some_iff.mp h
    obtain ⟨t', hno, h⟩ := Option.bind_eq_some_iff.mp h
    cases h
    obtain ⟨b, hb, -⟩ := exists_eval_of_shape? hscope condition _ hcondition
    obtain ⟨v, hv, hs⟩ := exists_eval_of_shape? hscope yes s' hyes
    obtain ⟨w, hw, ht⟩ := exists_eval_of_shape? hscope no t' hno
    rw [eval, hb, hv, hw]
    dsimp only [Option.bind_eq_bind, Option.bind_some]
    split
    . exact ⟨v, rfl, hs.left t'⟩
    . exact ⟨w, rfl, ht.right s'⟩
  | .list _, _, h | .map _ _, _, h | .item _ _, _, h | .call _ _, _, h | .test _ _ _, _, h | .not _, _, h
  | .negate _, _, h | .apply _ _ _, _, h | .and _ _, _, h | .or _ _, _, h => by
    cases h
termination_by structural e => e

theorem exists_evalAll_of_shapes? (hscope : Fits [] known scope) : (es : List Expr) → (ss : List Shape) →
    shapes? known es = some ss → ∃ vs, evalAll scope es = some vs ∧ List.Forall₂ Shape.Holds ss vs
  | [], ss, h => by
    cases h
    exact ⟨[], rfl, .nil⟩
  | e :: es, ss, h => by
    rw [shapes?] at h
    obtain ⟨s, hs, h⟩ := Option.bind_eq_some_iff.mp h
    obtain ⟨rest, hrest, h⟩ := Option.bind_eq_some_iff.mp h
    cases h
    obtain ⟨v, hv, hholds⟩ := exists_eval_of_shape? hscope e s hs
    obtain ⟨vs, hvs, hall⟩ := exists_evalAll_of_shapes? hscope es rest hrest
    rw [evalAll, hv, hvs]
    exact ⟨v :: vs, rfl, .cons hholds hall⟩
termination_by structural es => es

end

end Expr

/--
Values under the names that shapes are known for.
-/
def Matches (values : Scope) (shapes : Members Shape) : Prop :=
  List.Forall₂ (fun m k => m.1 = k.1 ∧ k.2.Holds m.2) values shapes

theorem Matches.get? {values : Scope} {shapes : Members Shape} (h : Matches values shapes) (n : String) :
    (n ∉ shapes.map Prod.fst ∧ Members.get? n shapes = none ∧ Members.get? n values = none) ∨
      (n ∈ shapes.map Prod.fst ∧
        ∃ s v, Members.get? n shapes = some s ∧ Members.get? n values = some v ∧ s.Holds v) := by
  induction h with
  | nil => exact .inl ⟨List.not_mem_nil, rfl, rfl⟩
  | @cons m k values shapes hm _ ih =>
    obtain ⟨name, v⟩ := m
    obtain ⟨name', s⟩ := k
    obtain ⟨rfl, hholds⟩ := hm
    rw [Members.get?, Members.get?, List.map_cons, List.mem_cons]
    by_cases hn : name = n
    . rw [if_pos hn, if_pos hn]
      exact .inr ⟨.inl hn.symm, s, v, rfl, rfl, hholds⟩
    . rw [if_neg hn, if_neg hn, or_iff_right (Ne.symm hn)]
      exact ih

theorem Matches.fits {values : Scope} {shapes : Members Shape} (h : Matches values shapes) : Fits [] shapes values := by
  intro n s _ hs
  rcases h.get? n with ⟨-, hnone, -⟩ | ⟨-, s', v, hs', hv, hholds⟩
  . rw [hnone] at hs
    contradiction
  . rw [hs'] at hs
    cases hs
    exact ⟨v, hv, hholds⟩

/--
Names that are given again are known by what is given now.
-/
theorem Fits.reveal {known shapes : Members Shape} {scope values : Scope} (h : Fits (shapes.map Prod.fst) known scope)
    (hvalues : Matches values shapes) : Fits [] (shapes ++ known) (values ++ scope) := by
  intro n s _ hs
  rw [Members.get?_append] at hs ⊢
  rcases hvalues.get? n with ⟨hn, hnone, hnone'⟩ | ⟨-, s', v, hs', hv, hholds⟩
  . rw [hnone, Option.none_or] at hs
    rw [hnone', Option.none_or]
    exact h n s hn hs
  . rw [hs', Option.some_or] at hs
    cases hs
    rw [hv, Option.some_or]
    exact ⟨v, rfl, hholds⟩

/--
Names that are not looked at can be given again.
-/
theorem Fits.hide {known shapes : Members Shape} {scope values : Scope} (h : Fits (shapes.map Prod.fst) known scope)
    (hvalues : Matches values shapes) : Fits (shapes.map Prod.fst) known (values ++ scope) := by
  intro n s hn hs
  rcases hvalues.get? n with ⟨-, -, hnone⟩ | ⟨hmem, -⟩
  . rw [Members.get?_append, hnone, Option.none_or]
    exact h n s hn hs
  . contradiction

/--
The shapes of what a target gives names to, in a value of the shape `items`.
-/
def Target.shapes? (items : Shape) : Target → Option (Members Shape)
  | .name n => some [(n, items)]
  | .parts [.name key, .name value] => if items = .member then some [(value, .present), (key, .present)] else none
  | .parts _ => none

theorem Target.exists_bind_of_shapes? {target : Target} {items : Shape} {shapes : Members Shape} {v : Value}
    (h : target.shapes? items = some shapes) (hv : items.Holds v) :
    ∃ values, target.bind v [] = some values ∧ Matches values shapes := by
  unfold shapes? at h
  split at h
  . cases h
    exact ⟨_, rfl, .cons ⟨rfl, hv⟩ .nil⟩
  . split at h
    . next hmember =>
      cases h
      rw [hmember] at hv
      obtain ⟨x, y, rfl, hx, hy⟩ := hv
      exact ⟨_, rfl, .cons ⟨rfl, hy⟩ (.cons ⟨rfl, hx⟩ .nil)⟩
    . contradiction
  . contradiction

/--
Whether one text stands in another one as it is.
-/
def Occurs (part text : String) : Prop :=
  ∃ front back, text = front ++ part ++ back

theorem Occurs.prepend {part text : String} (h : Occurs part text) (front : String) : Occurs part (front ++ text) := by
  obtain ⟨before, back, rfl⟩ := h
  exact ⟨front ++ before, back, by simp only [String.append_assoc]⟩

namespace Body

/--
Whether a template cannot fail and gives no names but in loops, for all values of the shapes that are known.
-/
def check : Body → Members Shape → Bool
  | done, _ => true
  | text _ next, known => check next known
  | output e next, known => (e.shape? known).isSome && check next known
  | assign _ _ _, _ => false
  | branch test yes no next, known =>
    (test.shape? known).isSome && check yes known && check no known && check next known
  | loop target source only body otherwise next, known =>
    only.isNone && check otherwise known && check next known &&
      match source.shape? known with
      | some (.list items) =>
        match target.shapes? items with
        | some shapes => check body (shapes ++ [("loop", .present)] ++ known)
        | none => false
      | _ => false

/--
Whether the value of a name is printed wherever loops and branches lead.
-/
def shows (n : String) : Body → Bool
  | done | assign _ _ _ => false
  | output (.name m) next => m = n || shows n next
  | output _ next | text _ next | branch _ _ _ next | loop _ _ _ _ _ next => shows n next

/--
Whether the texts that a template shows stand in what it prints.
-/
def Displays (b : Body) (scope : Scope) (text : String) : Prop :=
  ∀ n s, b.shows n = true → Members.get? n scope = some (.text s) → Occurs s text

variable {known : Members Shape} {scope : Scope}

theorem Displays.prepend {b next : Body} {rest : String} (h : next.Displays scope rest)
    (hshows : ∀ n, b.shows n = next.shows n) (front : String) : b.Displays scope (front ++ rest) := by
  intro n s hn hs
  rw [hshows] at hn
  exact (h n s hn hs).prepend front

/--
The rounds of a loop: each of them gives the names of the one before it again.
-/
theorem exists_rounds {run : Scope → Option (String × Scope)} {target : Target} {items : Shape} {shapes : Members Shape}
    {vs : List Value} (length index : Nat) (before : Option Value) (htarget : target.shapes? items = some shapes)
    (hrun : ∀ scope, Fits [] (shapes ++ [("loop", .present)] ++ known) scope → ∃ text, run scope = some (text, scope))
    (hvs : ∀ v ∈ vs, items.Holds v) (hscope : Fits ((shapes ++ [("loop", Shape.present)]).map Prod.fst) known scope) :
    ∃ text, rounds run target length index before vs scope = some text := by
  induction vs generalizing index before scope with
  | nil => exact ⟨"", rfl⟩
  | cons v vs ih =>
    rw [List.forall_mem_cons] at hvs
    obtain ⟨values, hbind, hmatches⟩ := Target.exists_bind_of_shapes? htarget hvs.1
    have hround : Matches (values ++ [("loop", round index length before vs.head?)]) (shapes ++ [("loop", .present)]) :=
      List.rel_append hmatches (.cons ⟨rfl, rfl⟩ .nil)
    obtain ⟨first, hfirst⟩ := hrun _ (hscope.reveal hround)
    obtain ⟨rest, hrest⟩ := ih (index + 1) (some v) hvs.2 (hscope.hide hround)
    rw [List.append_assoc, List.singleton_append] at hfirst hrest
    rw [rounds, Target.bind_eq, hbind]
    dsimp only [Option.map_some, Option.bind_eq_bind, Option.bind_some]
    rw [hfirst]
    dsimp only [Option.bind_some]
    rw [hrest]
    exact ⟨first ++ rest, rfl⟩

theorem eq_name_or_shows {n : String} {e : Expr} {next : Body} (h : (output e next).shows n = true) :
    e = .name n ∨ next.shows n = true := by
  cases e with
  | name m =>
    rw [shows, Bool.or_eq_true, decide_eq_true_iff] at h
    exact h.imp_left fun hname => by rw [hname]
  | _ => exact .inr h

theorem exists_shapes_of_check {target : Target} {source : Expr} {only : Option Expr} {body otherwise next : Body}
    (h : (loop target source only body otherwise next).check known = true) :
    only = none ∧ otherwise.check known = true ∧ next.check known = true ∧
      ∃ items shapes, source.shape? known = some (.list items) ∧ target.shapes? items = some shapes ∧
        body.check (shapes ++ [("loop", .present)] ++ known) = true := by
  rw [check, Bool.and_eq_true, Bool.and_eq_true, Bool.and_eq_true, Option.isNone_iff_eq_none] at h
  obtain ⟨⟨⟨honly, hotherwise⟩, hnext⟩, hbody⟩ := h
  refine ⟨honly, hotherwise, hnext, ?_⟩
  split at hbody
  . next items hsource =>
    split at hbody
    . next shapes htarget => exact ⟨items, shapes, hsource, htarget, hbody⟩
    . contradiction
  . contradiction

/--
A template that passes the check prints a text for all values of the shapes that are known, with the texts in it that
it shows.
-/
theorem exists_render_of_check (b : Body) (h : b.check known = true) (hscope : Fits [] known scope) :
    ∃ text, b.render scope = some (text, scope) ∧ b.Displays scope text := by
  induction b generalizing known scope with
  | done => exact ⟨"", rfl, fun n s hshows => by contradiction⟩
  | text front next ih =>
    obtain ⟨rest, hrest, hdisplays⟩ := ih h hscope
    rw [render, hrest]
    exact ⟨front ++ rest, rfl, hdisplays.prepend (fun _ => rfl) front⟩
  | output e next ih =>
    rw [check, Bool.and_eq_true, Option.isSome_iff_exists] at h
    obtain ⟨⟨shape, he⟩, hnext⟩ := h
    obtain ⟨v, hv, -⟩ := e.exists_eval_of_shape? hscope shape he
    obtain ⟨rest, hrest, hdisplays⟩ := ih hnext hscope
    rw [render, hv, hrest]
    refine ⟨v.shown ++ rest, rfl, ?_⟩
    intro n s hshows hs
    rcases eq_name_or_shows hshows with rfl | hshows
    . rw [Expr.eval, hs] at hv
      cases hv
      exact ⟨"", rest, by rw [String.empty_append]; rfl⟩
    . exact (hdisplays n s hshows hs).prepend v.shown
  | assign target e next ih => contradiction
  | branch test yes no next hyes hno hnext =>
    rw [check, Bool.and_eq_true, Bool.and_eq_true, Bool.and_eq_true, Option.isSome_iff_exists] at h
    obtain ⟨⟨⟨⟨shape, htest⟩, hyes'⟩, hno'⟩, hnext'⟩ := h
    obtain ⟨v, hv, -⟩ := test.exists_eval_of_shape? hscope shape htest
    obtain ⟨yesText, hyes, -⟩ := hyes hyes' hscope
    obtain ⟨noText, hno, -⟩ := hno hno' hscope
    obtain ⟨rest, hrest, hdisplays⟩ := hnext hnext' hscope
    rw [render, hv, hyes, hno]
    dsimp only [Option.bind_eq_bind, Option.bind_some]
    split
    . rw [hrest]
      exact ⟨yesText ++ rest, rfl, hdisplays.prepend (fun _ => rfl) yesText⟩
    . rw [hrest]
      exact ⟨noText ++ rest, rfl, hdisplays.prepend (fun _ => rfl) noText⟩
  | loop target source only body otherwise next hbody hotherwise hnext =>
    obtain ⟨rfl, hotherwise', hnext', items, shapes, hsource, htarget, hbody'⟩ := exists_shapes_of_check h
    obtain ⟨_, hv, vs, rfl, hvs⟩ := source.exists_eval_of_shape? hscope _ hsource
    obtain ⟨otherText, hother, -⟩ := hotherwise hotherwise' hscope
    obtain ⟨rest, hrest, hdisplays⟩ := hnext hnext' hscope
    have hrun (scope : Scope) (hscope : Fits [] (shapes ++ [("loop", .present)] ++ known) scope) :
        ∃ text, body.render scope = some (text, scope) := by
      obtain ⟨text, htext, -⟩ := hbody hbody' hscope
      exact ⟨text, htext⟩
    have hhidden : Fits ((shapes ++ [("loop", Shape.present)]).map Prod.fst) known scope :=
      fun n s _ => hscope n s List.not_mem_nil
    obtain ⟨rounds, hrounds⟩ := exists_rounds vs.length 0 none htarget hrun hvs hhidden
    rw [render, hv, hother]
    dsimp only [Option.bind_eq_bind, Option.bind_some, Value.steps, keep]
    rw [hrounds, hrest]
    dsimp only [Option.bind_some]
    split
    . exact ⟨otherText ++ rest, rfl, hdisplays.prepend (fun _ => rfl) otherText⟩
    . exact ⟨rounds ++ rest, rfl, hdisplays.prepend (fun _ => rfl) rounds⟩

end Body

end Template
end Triage
