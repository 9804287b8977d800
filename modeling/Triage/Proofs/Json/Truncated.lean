import Triage.Proofs.Json.Completion
import Triage.Proofs.Json.Literal

/-!
This module contains the truncations of values: what is left of a value when its text breaks off, with nothing in it that
the value does not have.
-/

namespace Triage
namespace Json

/--
Whether a value is a truncation of another one, which stands at a place of a text. Of an array or an object the first
items or members are left, all of them whole but for the last one. Of a string a first part is left, and of a number
the value of a first part of its literal.
-/
inductive Truncated (limit : Nat) (text : List Char) : List Frame → Json → Json → Prop where
  | same {place : List Frame} (v : Json) : Truncated limit text place v v
  | string {place : List Frame} {s t : String} (h : s.toList <+: t.toList) :
      Truncated limit text place (.string s) (.string t)
  | number {place : List Frame} {part literal : List Char} {n m : Number}
      (hliteral : Reader.HasLiteral limit text place literal) (hpart : part <+: literal)
      (hn : numberOf? part = some n) (hm : numberOf? literal = some m) :
      Truncated limit text place (.number n) (.number m)
  | noItems {place : List Frame} (items : List Json) : Truncated limit text place (.array []) (.array items)
  | items {place : List Frame} {items more : List Json} {v w : Json}
      (h : Truncated limit text (.array items.reverse :: place) v w) :
      Truncated limit text place (.array (items ++ [v])) (.array (items ++ w :: more))
  | noMembers {place : List Frame} (members : List (String × Json)) :
      Truncated limit text place (.object []) (.object members)
  | members {place : List Frame} {members more : List (String × Json)} {key : String} {v w : Json}
      (h : Truncated limit text (.member members.reverse key :: place) v w) :
      Truncated limit text place (.object (members ++ [(key, v)])) (.object (members ++ (key, w) :: more))

variable {limit : Nat} {text : List Char} {place stack : List Frame} {u v w : Json}

theorem truncated_array (items more : List Json) :
    Truncated limit text place (.array items) (.array (items ++ more)) := by
  rcases List.eq_nil_or_concat items with rfl | ⟨items, last, rfl⟩
  . apply Truncated.noItems
  . rw [List.concat_eq_append, List.append_assoc]
    apply Truncated.items
    apply Truncated.same

theorem truncated_object (members more : List (String × Json)) :
    Truncated limit text place (.object members) (.object (members ++ more)) := by
  rcases List.eq_nil_or_concat members with rfl | ⟨members, ⟨key, last⟩, rfl⟩
  . apply Truncated.noMembers
  . rw [List.concat_eq_append, List.append_assoc]
    apply Truncated.members
    apply Truncated.same

/--
With a truncation in the containers around a value, the whole value is truncated.
-/
theorem Truncated.wrap (h : Truncated limit text stack u v) (hcontains : Reader.Contains w stack v) :
    Truncated limit text [] (Reader.wrap stack u) w := by
  induction stack generalizing u v with
  | nil =>
    rw [← hcontains]
    exact h
  | cons frame stack ih =>
    cases frame with
    | array items =>
      obtain ⟨more, hmore⟩ := hcontains
      have hitems : Truncated limit text stack (.array (items.reverse ++ [u])) (.array (items.reverse ++ v :: more)) := by
        apply Truncated.items
        rwa [List.reverse_reverse]
      unfold Reader.wrap
      rw [List.reverse_cons]
      exact ih hitems hmore
    | member members key =>
      obtain ⟨more, hmore⟩ := hcontains
      have hmembers : Truncated limit text stack (.object (members.reverse ++ [(key, u)]))
          (.object (members.reverse ++ (key, v) :: more)) := by
        apply Truncated.members
        rwa [List.reverse_reverse]
      unfold Reader.wrap
      rw [List.reverse_cons]
      exact ih hmembers hmore

namespace Reader

variable {r r' : Reader} {front rest : List Char}

theorem hasLiteral_of_run {state final : Digits} {part back : List Char}
    (hfront : start.run limit front = some ⟨stack, .digits state⟩) (hpart : part.foldlM extend? state = some final)
    (hback : ∀ c cs, back = c :: cs → extend? final c = none) :
    ∃ first, HasLiteral limit (front ++ (part ++ back)) stack (first ++ part) ∧ Digits.read? first = some state ∧
      Digits.read? (first ++ part) = some final := by
  obtain ⟨before, first, r, rfl, hbefore, hplace, hfirst⟩ := literal_of_run hfront
  have hliteral : Digits.read? (first ++ part) = some final := by
    rw [Digits.read?_append hfirst, hpart]
  refine ⟨first, ⟨before, back, r, ?_, hbefore, hplace, ?_⟩, hfirst, hliteral⟩
  . simp
  . intro c cs hcons
    rw [Digits.read?_append hliteral]
    simp [hback c cs hcons]

/--
The innermost value of a text that breaks off is a truncation of the one that stands there in the whole text.
-/
theorem truncated_of_innermost (hfront : start.run limit front = some r) (hsound : r.Sound)
    (hinnermost : r.innermost? = some u) (hleads : Leads w r rest) :
    ∃ v, Contains w r.stack v ∧ Truncated limit (front ++ rest) r.stack u v := by
  obtain ⟨stack, phase⟩ := r
  cases phase with
  | text text escape =>
    cases escape with
    | none =>
      cases hinnermost
      obtain ⟨more, hmore⟩ := hleads
      refine ⟨_, hmore, .string ?_⟩
      rw [String.toList_ofList, String.toList_ofList]
      apply List.prefix_append
    | _ => contradiction
  | digits state =>
    obtain ⟨n, hn, rfl⟩ := Option.map_eq_some_iff.mp hinnermost
    obtain ⟨part, back, final, m, rfl, hpart, hback, hm, hcontains⟩ := hleads
    obtain ⟨first, hliteral, hfirst, hwhole⟩ := hasLiteral_of_run hfront hpart hback
    refine ⟨_, hcontains, .number hliteral (List.prefix_append _ _) ?_ ?_⟩
    . rw [numberOf?_eq hfirst, hn]
    . rw [numberOf?_eq hwhole, hm]
  | firstItem =>
    cases hinnermost
    obtain ⟨items, hitems⟩ := hleads
    exact ⟨_, hitems, .noItems items⟩
  | afterItem items =>
    cases hinnermost
    obtain ⟨more, hmore⟩ := hleads
    exact ⟨_, hmore, truncated_array _ _⟩
  | firstKey =>
    cases hinnermost
    obtain ⟨members, hmembers⟩ := hleads
    exact ⟨_, hmembers, .noMembers members⟩
  | afterMember members =>
    cases hinnermost
    obtain ⟨more, hmore⟩ := hleads
    exact ⟨_, hmore, truncated_object _ _⟩
  | done v =>
    unfold Sound at hsound
    dsimp only at hsound
    subst hsound
    cases hinnermost
    exact ⟨u, hleads, .same u⟩
  | _ => contradiction

/--
Closed where its text breaks off, a value is truncated.
-/
theorem truncated_of_closing (hfront : start.run limit front = some r)
    (hwhole : readWithin limit (front ++ rest) = some w)
    (hclosing : (r.run limit r.nesting.closing).bind finish = some v) : Truncated limit (front ++ rest) [] v w := by
  have hsound : r.Sound := sound_of_run hfront sound_start
  unfold readWithin at hwhole
  rw [run_append, hfront, Option.bind_some, Option.bind_eq_some_iff] at hwhole
  obtain ⟨r', hrest, hfinish⟩ := hwhole
  obtain ⟨u, hinnermost, rfl⟩ := innermost_of_closing hsound hclosing
  obtain ⟨v, hcontains, htruncated⟩ := truncated_of_innermost hfront hsound hinnermost (leads_of_run hrest hfinish)
  exact htruncated.wrap hcontains

end Reader

/--
A value without an object that has two members of the same name.
-/
inductive DistinctNames : Json → Prop where
  | null : DistinctNames .null
  | bool (b : Bool) : DistinctNames (.bool b)
  | number (n : Number) : DistinctNames (.number n)
  | string (s : String) : DistinctNames (.string s)
  | array {items : List Json} (h : ∀ v ∈ items, DistinctNames v) : DistinctNames (.array items)
  | object {members : List (String × Json)} (hnames : (members.map Prod.fst).Nodup)
      (h : ∀ m ∈ members, DistinctNames m.2) : DistinctNames (.object members)

theorem Truncated.distinctNames (h : Truncated limit text place v w) (hw : DistinctNames w) : DistinctNames v := by
  induction h with
  | same v => exact hw
  | string => apply DistinctNames.string
  | number => apply DistinctNames.number
  | noItems =>
    apply DistinctNames.array
    simp
  | items h ih =>
    cases hw with
    | array hitems =>
      apply DistinctNames.array
      rw [List.forall_mem_append, List.forall_mem_cons] at hitems
      rw [List.forall_mem_append, List.forall_mem_singleton]
      exact ⟨hitems.1, ih hitems.2.1⟩
  | noMembers =>
    apply DistinctNames.object
    . simp
    . simp
  | members h ih =>
    cases hw with
    | object hnames hmembers =>
      apply DistinctNames.object
      . rw [List.map_append, List.map_cons] at hnames
        rw [List.map_append]
        exact hnames.sublist (by simp)
      . rw [List.forall_mem_append, List.forall_mem_cons] at hmembers
        rw [List.forall_mem_append, List.forall_mem_singleton]
        exact ⟨hmembers.1, ih hmembers.2.1⟩

end Json
end Triage
