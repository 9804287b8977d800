import Triage.Llm.Completion
import Triage.Proofs.Json.Codec
import Triage.Proofs.Json.Record

/-!
This module contains what is decoded as a completion. The decoders accept what is described here and nothing else, and it does
not matter to them whether a body is read as a whole or skimmed.
-/

namespace Triage
namespace Llm

open Json

/--
What an optional field amounts to. It may be missing or `null`.
-/
inductive Optionally {α : Type} (IsOf : Json → α → Prop) : Option Json → Option α → Prop where
  | missing : Optionally IsOf none none
  | null : Optionally IsOf (some .null) none
  | given {v : Json} {x : α} (h : IsOf v x) : Optionally IsOf (some v) (some x)

def IsText (v : Json) (s : String) : Prop :=
  v = .string s

def IsCount (v : Json) (n : UInt32) : Prop :=
  ∃ i : Integer, v = .number (.integer i) ∧ i.val = n.toNat

namespace Choice

/--
Whether a value is a message with the given content.
-/
structure IsMessage (v : Json) (content : Option String) : Prop where
  record : IsRecord ["content"] v
  content : Optionally IsText (field? ["content"] "content" v) content

abbrev names : List String := ["message", "finish_reason"]

/--
Whether a choice is the one that a value describes.
-/
structure IsOf (v : Json) (c : Choice) : Prop where
  record : IsRecord names v
  message : ∃ w, field? names "message" v = some w ∧ IsMessage w c.content
  finishReason : Optionally IsText (field? names "finish_reason" v) c.finishReason

end Choice

namespace TokenCount

abbrev names : List String := ["prompt_tokens", "completion_tokens", "total_tokens"]

/--
Whether counts are the ones that a value describes. An array has to have all of them.
-/
structure IsOf (v : Json) (t : TokenCount) : Prop where
  record : IsRecord names v
  complete : v.items?.isSome = true → ∀ name ∈ names, (field? names name v).isSome = true
  prompt : Optionally IsCount (field? names "prompt_tokens" v) t.prompt
  completion : Optionally IsCount (field? names "completion_tokens" v) t.completion
  total : Optionally IsCount (field? names "total_tokens" v) t.total

end TokenCount

namespace Completion

abbrev names : List String := ["model", "choices", "usage"]

/--
Whether a completion is the one that a value describes.
-/
structure IsOf (v : Json) (c : Completion) : Prop where
  record : IsRecord names v
  model : Optionally IsText (field? names "model" v) c.model
  choices : ∃ items, field? names "choices" v = some (.array items) ∧ List.Forall₂ Choice.IsOf items c.choices
  usage : Optionally TokenCount.IsOf (field? names "usage" v) c.usage

end Completion

/-! What the decoders accept. -/

variable {α : Type} {f : Fields} {key : String} {v? : Option Json} {decode : Json → Option α} {IsOf : Json → α → Prop}

theorem string_eq_some_iff {v : Json} {s : String} : Decode.string v = some s ↔ IsText v s := by
  unfold Decode.string string? IsText
  cases v <;> simp

theorem uint32_eq_some_iff {v : Json} {n : UInt32} : Decode.uint32 v = some n ↔ IsCount v n := by
  have hlimit : (UInt32.size : Int) = 4294967296 := rfl
  unfold Decode.uint32 IsCount
  rw [Option.map_eq_some_iff]
  constructor
  . rintro ⟨m, hm, rfl⟩
    unfold Decode.natBelow? at hm
    split at hm
    . next i =>
      split at hm
      . next hrange =>
        cases hm
        have hmod : i.val.toNat.toUInt32.toNat = i.val.toNat % 4294967296 := rfl
        exact ⟨i, rfl, by omega⟩
      . contradiction
    . contradiction
  . rintro ⟨i, rfl, hi⟩
    have hlt := n.toNat_lt
    refine ⟨n.toNat, ?_, UInt32.ofNat_toNat⟩
    unfold Decode.natBelow?
    dsimp only
    rw [if_pos (by omega), hi]
    rfl

theorem list_eq_some_iff (hdecode : ∀ v x, decode v = some x ↔ IsOf v x) {v : Json} {xs : List α} :
    Decode.list decode v = some xs ↔ ∃ items, v = .array items ∧ List.Forall₂ IsOf items xs := by
  have hitems (items : List Json) : items.mapM decode = some xs ↔ List.Forall₂ IsOf items xs := by
    induction items generalizing xs with
    | nil =>
      rw [List.mapM_nil, List.forall₂_nil_left_iff]
      exact ⟨fun h => (Option.some.inj h).symm, fun h => congrArg some h.symm⟩
    | cons item items ih =>
      rw [List.mapM_cons, List.forall₂_cons_left_iff]
      simp only [Option.bind_eq_bind, Option.bind_eq_some_iff, Option.pure_def, Option.some.injEq, hdecode, ih]
      constructor
      . rintro ⟨x, hx, rest, hrest, rfl⟩
        exact ⟨x, rest, hx, hrest, rfl⟩
      . rintro ⟨x, rest, hx, hrest, rfl⟩
        exact ⟨x, hx, rest, hrest, rfl⟩
  unfold Decode.list
  cases v with
  | array items =>
    dsimp only
    rw [hitems]
    simp
  | _ => simp

theorem required_eq_some_iff (hget : Members.get? key f.given = v?) {x : α} :
    f.required key decode = some x ↔ ∃ v, v? = some v ∧ decode v = some x := by
  unfold Fields.required
  rw [hget, Option.bind_eq_some_iff]

theorem nullable_eq_some_iff (hdecode : ∀ v x, decode v = some x ↔ IsOf v x) (hnull : decode .null = none) {v : Json}
    {x : Option α} : Fields.nullable decode v = some x ↔ Optionally IsOf (some v) x := by
  constructor
  . intro h
    by_cases hv : v = .null
    . subst hv
      cases h
      exact .null
    . rw [RoundTrips.nullable_of_ne hv] at h
      obtain ⟨y, hy, rfl⟩ := Option.map_eq_some_iff.mp h
      exact .given ((hdecode v y).mp hy)
  . intro h
    cases h with
    | null => rfl
    | @given _ y h =>
      have hy := (hdecode v y).mpr h
      have hv : v ≠ .null := by
        rintro rfl
        rw [hnull] at hy
        contradiction
      rw [RoundTrips.nullable_of_ne hv, hy]
      rfl

theorem orDefault_nullable_eq_some_iff (hget : Members.get? key f.given = v?)
    (hdecode : ∀ v x, decode v = some x ↔ IsOf v x) (hnull : decode .null = none) {x : Option α} :
    f.orDefault key (Fields.nullable decode) none = some x ↔ Optionally IsOf v? x := by
  unfold Fields.orDefault
  rw [hget]
  cases v? with
  | none =>
    dsimp only
    rw [Option.some.injEq]
    constructor
    . rintro rfl
      exact .missing
    . intro h
      cases h
      rfl
  | some v => exact nullable_eq_some_iff hdecode hnull

theorem optional_eq_some_iff (hget : Members.get? key f.given = v?) (hdecode : ∀ v x, decode v = some x ↔ IsOf v x)
    (hnull : decode .null = none) {x : Option α} :
    f.optional key decode = some x ↔ (f.inOrder = true → v?.isSome = true) ∧ Optionally IsOf v? x := by
  unfold Fields.optional
  rw [hget]
  cases v? with
  | none =>
    dsimp only
    constructor
    . intro h
      split at h
      . contradiction
      . next horder =>
        cases h
        exact ⟨fun hinOrder => absurd hinOrder horder, .missing⟩
    . rintro ⟨horder, hcount⟩
      cases hcount
      rw [if_neg fun hinOrder => nomatch horder hinOrder]
  | some v =>
    dsimp only
    rw [nullable_eq_some_iff hdecode hnull]
    simp

theorem Choice.messageContent?_eq_some_iff {v : Json} {content : Option String} :
    Choice.messageContent? v = some content ↔ Choice.IsMessage v content := by
  unfold Choice.messageContent?
  rw [Option.bind_eq_bind, Fields.bind_ofJson?_iff fun f hf _ =>
    orDefault_nullable_eq_some_iff (hf "content" (by simp)) (fun _ _ => string_eq_some_iff) rfl]
  exact ⟨fun h => ⟨h.1, h.2⟩, fun h => ⟨h.1, h.2⟩⟩

theorem Choice.ofJson?_eq_some_iff {v : Json} {c : Choice} : Choice.ofJson? v = some c ↔ c.IsOf v := by
  obtain ⟨content, finishReason⟩ := c
  unfold Choice.ofJson?
  rw [Option.bind_eq_bind, Fields.bind_ofJson?_iff (P := (∃ w, field? names "message" v = some w ∧ IsMessage w content) ∧
    Optionally IsText (field? names "finish_reason" v) finishReason)]
  . exact ⟨fun h => ⟨h.1, h.2.1, h.2.2⟩, fun h => ⟨h.record, h.message, h.finishReason⟩⟩
  . intro f hf _
    rw [← orDefault_nullable_eq_some_iff (hf "finish_reason" (by simp)) (fun _ _ => string_eq_some_iff) rfl]
    simp only [← messageContent?_eq_some_iff, ← required_eq_some_iff (hf "message" (by simp)), Option.bind_eq_bind,
      Option.bind_eq_some_iff, Option.pure_def, Option.some.injEq, Choice.mk.injEq]
    constructor
    . rintro ⟨_, hmessage, _, hreason, rfl, rfl⟩
      exact ⟨hmessage, hreason⟩
    . rintro ⟨hmessage, hreason⟩
      exact ⟨_, hmessage, _, hreason, rfl, rfl⟩

theorem TokenCount.ofJson?_eq_some_iff {v : Json} {t : TokenCount} : TokenCount.ofJson? v = some t ↔ t.IsOf v := by
  obtain ⟨prompt, completion, total⟩ := t
  have hcount (v : Json) (n : UInt32) : Decode.uint32 v = some n ↔ IsCount v n := uint32_eq_some_iff
  unfold TokenCount.ofJson?
  rw [Option.bind_eq_bind, Fields.bind_ofJson?_iff (P :=
    (v.items?.isSome = true → ∀ name ∈ names, (field? names name v).isSome = true) ∧
    Optionally IsCount (field? names "prompt_tokens" v) prompt ∧
    Optionally IsCount (field? names "completion_tokens" v) completion ∧
    Optionally IsCount (field? names "total_tokens" v) total)]
  . exact ⟨fun h => ⟨h.1, h.2.1, h.2.2.1, h.2.2.2.1, h.2.2.2.2⟩,
      fun h => ⟨h.record, h.complete, h.prompt, h.completion, h.total⟩⟩
  . intro f hf horder
    have hprompt := optional_eq_some_iff (hf "prompt_tokens" (by simp)) hcount rfl (x := prompt)
    have hcompletion := optional_eq_some_iff (hf "completion_tokens" (by simp)) hcount rfl (x := completion)
    have htotal := optional_eq_some_iff (hf "total_tokens" (by simp)) hcount rfl (x := total)
    rw [horder] at hprompt hcompletion htotal
    simp only [Option.bind_eq_bind, Option.bind_eq_some_iff, Option.pure_def, Option.some.injEq, TokenCount.mk.injEq, names,
      List.forall_mem_cons, List.not_mem_nil, false_implies, implies_true, and_true]
    constructor
    . rintro ⟨_, hp, _, hc, _, ht, rfl, rfl, rfl⟩
      obtain ⟨hp, hprompt⟩ := hprompt.mp hp
      obtain ⟨hc, hcompletion⟩ := hcompletion.mp hc
      obtain ⟨ht, htotal⟩ := htotal.mp ht
      exact ⟨fun h => ⟨hp h, hc h, ht h⟩, hprompt, hcompletion, htotal⟩
    . rintro ⟨h, hp, hc, ht⟩
      exact ⟨_, hprompt.mpr ⟨fun hi => (h hi).1, hp⟩, _, hcompletion.mpr ⟨fun hi => (h hi).2.1, hc⟩, _,
        htotal.mpr ⟨fun hi => (h hi).2.2, ht⟩, rfl, rfl, rfl⟩

theorem Completion.ofJson?_eq_some_iff {v : Json} {c : Completion} : Completion.ofJson? v = some c ↔ c.IsOf v := by
  obtain ⟨model, choices, usage⟩ := c
  unfold Completion.ofJson?
  rw [Option.bind_eq_bind, Fields.bind_ofJson?_iff (P :=
    Optionally IsText (field? names "model" v) model ∧
    (∃ items, field? names "choices" v = some (.array items) ∧ List.Forall₂ Choice.IsOf items choices) ∧
    Optionally TokenCount.IsOf (field? names "usage" v) usage)]
  . exact ⟨fun h => ⟨h.1, h.2.1, h.2.2.1, h.2.2.2⟩, fun h => ⟨h.record, h.model, h.choices, h.usage⟩⟩
  . intro f hf _
    have hlist : f.required "choices" (Decode.list Choice.ofJson?) = some choices ↔
        ∃ items, field? names "choices" v = some (.array items) ∧ List.Forall₂ Choice.IsOf items choices := by
      rw [required_eq_some_iff (hf "choices" (by simp))]
      simp only [list_eq_some_iff fun _ _ => Choice.ofJson?_eq_some_iff]
      constructor
      . rintro ⟨_, hfield, items, rfl, hitems⟩
        exact ⟨items, hfield, hitems⟩
      . rintro ⟨items, hfield, hitems⟩
        exact ⟨_, hfield, items, rfl, hitems⟩
    rw [← hlist, ← orDefault_nullable_eq_some_iff (hf "model" (by simp)) (fun _ _ => string_eq_some_iff) rfl,
      ← orDefault_nullable_eq_some_iff (hf "usage" (by simp)) (fun _ _ => TokenCount.ofJson?_eq_some_iff) rfl]
    simp only [Option.bind_eq_bind, Option.bind_eq_some_iff, Option.pure_def, Option.some.injEq, Completion.mk.injEq]
    constructor
    . rintro ⟨_, hmodel, _, hchoices, _, husage, rfl, rfl, rfl⟩
      exact ⟨hmodel, hchoices, husage⟩
    . rintro ⟨hmodel, hchoices, husage⟩
      exact ⟨_, hmodel, _, hchoices, _, husage, rfl, rfl, rfl⟩

/-! Only the fields matter. -/

theorem Choice.isMessage_congr {v w : Json} (h : SameFields ["content"] v w) {content : Option String} :
    IsMessage v content ↔ IsMessage w content := by
  have hcontent := h.fields "content" (by simp)
  constructor
  . exact fun hv => ⟨h.isRecord.mp hv.record, hcontent ▸ hv.content⟩
  . exact fun hw => ⟨h.isRecord.mpr hw.record, hcontent ▸ hw.content⟩

theorem Choice.isOf_congr {v w : Json} (h : SameFields names v w) {c : Choice} : c.IsOf v ↔ c.IsOf w := by
  have hmessage := h.fields "message" (by simp)
  have hreason := h.fields "finish_reason" (by simp)
  constructor
  . exact fun hv => ⟨h.isRecord.mp hv.record, hmessage ▸ hv.message, hreason ▸ hv.finishReason⟩
  . exact fun hw => ⟨h.isRecord.mpr hw.record, hmessage ▸ hw.message, hreason ▸ hw.finishReason⟩

theorem TokenCount.isOf_congr {v w : Json} (h : SameFields names v w) {t : TokenCount} : t.IsOf v ↔ t.IsOf w := by
  have hprompt := h.fields "prompt_tokens" (by simp)
  have hcompletion := h.fields "completion_tokens" (by simp)
  have htotal := h.fields "total_tokens" (by simp)
  have hcomplete : (v.items?.isSome = true → ∀ name ∈ names, (field? names name v).isSome = true) ↔
      (w.items?.isSome = true → ∀ name ∈ names, (field? names name w).isSome = true) := by
    rw [h.inOrder]
    simp [hprompt, hcompletion, htotal]
  constructor
  . exact fun hv => ⟨h.isRecord.mp hv.record, hcomplete.mp hv.complete, hprompt ▸ hv.prompt, hcompletion ▸ hv.completion,
      htotal ▸ hv.total⟩
  . exact fun hw => ⟨h.isRecord.mpr hw.record, hcomplete.mpr hw.complete, hprompt ▸ hw.prompt, hcompletion ▸ hw.completion,
      htotal ▸ hw.total⟩

theorem Completion.isOf_congr {v w : Json} (h : SameFields names v w) {c : Completion} : c.IsOf v ↔ c.IsOf w := by
  have hmodel := h.fields "model" (by simp)
  have hchoices := h.fields "choices" (by simp)
  have husage := h.fields "usage" (by simp)
  constructor
  . exact fun hv => ⟨h.isRecord.mp hv.record, hmodel ▸ hv.model, hchoices ▸ hv.choices, husage ▸ hv.usage⟩
  . exact fun hw => ⟨h.isRecord.mpr hw.record, hmodel ▸ hw.model, hchoices ▸ hw.choices, husage ▸ hw.usage⟩

/-! What is left of a completion by skipping. -/

section Skipping

variable {s : Shape} {v w : Json}

theorem isSome_eq_of_rel {β : Type} {R : α → β → Prop} {a? : Option α} {b? : Option β} (h : Option.Rel R a? b?) :
    a?.isSome = b?.isSome := by
  cases h <;> rfl

theorem Optionally.of_rel {v? w? : Option Json} {x : Option α} (h : Optionally IsOf v? x)
    (hrel : Option.Rel (SameFor (some s)) v? w?) (hof : ∀ v w x, SameFor (some s) v w → IsOf v x → IsOf w x) :
    Optionally IsOf w? x := by
  cases h with
  | missing =>
    cases hrel
    exact .missing
  | null =>
    cases hrel with
    | some hsame =>
      cases hsame.eq_of_single rfl rfl
      exact .null
  | given hv =>
    cases hrel with
    | some hsame => exact .given (hof _ _ _ hsame hv)

theorem IsText.of_sameFor {text : String} (hsame : SameFor (some s) v w) (h : IsText v text) : IsText w text := by
  cases h
  exact (hsame.eq_of_single rfl rfl).symm

theorem IsCount.of_sameFor {n : UInt32} (hsame : SameFor (some s) v w) (h : IsCount v n) : IsCount w n := by
  obtain ⟨i, rfl, hi⟩ := h
  exact ⟨i, (hsame.eq_of_single rfl rfl).symm, hi⟩

theorem Choice.IsMessage.of_sameFor {content : Option String}
    (hsame : SameFor (some (.record [("content", .single)])) v w) (h : IsMessage v content) : IsMessage w content := by
  constructor
  . exact hsame.isRecord rfl h.record
  . exact h.content.of_rel (hsame.rel_field? rfl (by decide) (i := 0) rfl) fun _ _ _ => IsText.of_sameFor

theorem Choice.IsOf.of_sameFor {c : Choice} (hsame : SameFor (some Choice.shape) v w) (h : c.IsOf v) : c.IsOf w := by
  have hmessage : Option.Rel (SameFor _) (field? names "message" v) (field? names "message" w) :=
    hsame.rel_field? rfl (by decide) (i := 0) rfl
  constructor
  . exact hsame.isRecord rfl h.record
  . obtain ⟨message, hfield, hcontent⟩ := h.message
    rw [hfield] at hmessage
    generalize field? names "message" w = field at hmessage ⊢
    cases hmessage with
    | some hrel => exact ⟨_, rfl, hcontent.of_sameFor hrel⟩
  . exact h.finishReason.of_rel (hsame.rel_field? rfl (by decide) (i := 1) rfl) fun _ _ _ => IsText.of_sameFor

theorem TokenCount.IsOf.of_sameFor {t : TokenCount} (hsame : SameFor (some TokenCount.shape) v w) (h : t.IsOf v) :
    t.IsOf w := by
  have hprompt : Option.Rel (SameFor _) (field? names "prompt_tokens" v) (field? names "prompt_tokens" w) :=
    hsame.rel_field? rfl (by decide) (i := 0) rfl
  have hcompletion : Option.Rel (SameFor _) (field? names "completion_tokens" v) (field? names "completion_tokens" w) :=
    hsame.rel_field? rfl (by decide) (i := 1) rfl
  have htotal : Option.Rel (SameFor _) (field? names "total_tokens" v) (field? names "total_tokens" w) :=
    hsame.rel_field? rfl (by decide) (i := 2) rfl
  constructor
  . exact hsame.isRecord rfl h.record
  . intro hitems
    have hcomplete := h.complete (hsame.isSome_items?_eq.trans hitems)
    simp only [names, List.forall_mem_cons, List.not_mem_nil, false_implies, implies_true, and_true] at hcomplete ⊢
    rw [← isSome_eq_of_rel hprompt, ← isSome_eq_of_rel hcompletion, ← isSome_eq_of_rel htotal]
    exact hcomplete
  . exact h.prompt.of_rel hprompt fun _ _ _ => IsCount.of_sameFor
  . exact h.completion.of_rel hcompletion fun _ _ _ => IsCount.of_sameFor
  . exact h.total.of_rel htotal fun _ _ _ => IsCount.of_sameFor

theorem Completion.IsOf.of_sameFor {c : Completion} (hsame : SameFor (some Completion.shape) v w) (h : c.IsOf v) :
    c.IsOf w := by
  have hchoices : Option.Rel (SameFor (some (.list Choice.shape))) (field? names "choices" v) (field? names "choices" w) :=
    hsame.rel_field? rfl (by decide) (i := 1) rfl
  constructor
  . exact hsame.isRecord rfl h.record
  . exact h.model.of_rel (hsame.rel_field? rfl (by decide) (i := 0) rfl) fun _ _ _ => IsText.of_sameFor
  . obtain ⟨items, hfield, hitems⟩ := h.choices
    rw [hfield] at hchoices
    generalize field? names "choices" w = field at hchoices ⊢
    cases hchoices with
    | some hrel =>
      cases hrel with
      | single _ hscalar => contradiction
      | array hlength hrel =>
        refine ⟨_, rfl, ?_⟩
        rw [List.forall₂_iff_get] at hitems ⊢
        refine ⟨hlength.symm.trans hitems.1, ?_⟩
        intro i hi hchoice
        have hbefore : i < items.length := by omega
        apply Choice.IsOf.of_sameFor _ (hitems.2 i hbefore hchoice)
        exact hrel i _ _ (List.getElem?_eq_getElem hbefore) (List.getElem?_eq_getElem hi)
  . exact h.usage.of_rel (hsame.rel_field? rfl (by decide) (i := 2) rfl) fun _ _ _ => TokenCount.IsOf.of_sameFor

/--
A body that can be read as a whole is decoded as its value is.
-/
theorem Completion.read?_of_read? {body : String} {v : Json} (h : Json.read? body = some v) :
    Completion.read? body = Completion.ofJson? v := by
  obtain ⟨w, hw, hsame⟩ := skim?_of_read? Completion.shape h
  have hiff (c : Completion) : Completion.ofJson? w = some c ↔ Completion.ofJson? v = some c := by
    rw [Completion.ofJson?_eq_some_iff, Completion.ofJson?_eq_some_iff]
    exact ⟨fun hc => hc.of_sameFor hsame.symm, fun hc => hc.of_sameFor hsame⟩
  unfold Completion.read?
  rw [hw, Option.bind_some]
  exact Option.ext hiff

end Skipping

end Llm
end Triage
