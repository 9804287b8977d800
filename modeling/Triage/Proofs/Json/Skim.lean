import Triage.Json.Skim
import Triage.Proofs.Json.Nesting

/-!
This module contains the proof that skipping does no harm: a text that can be read as a whole can be skimmed, and what is wanted
of its value is the same.
-/

namespace Triage
namespace Json

/--
Two values that are the same as far as they are wanted.
-/
inductive SameFor : Option Shape → Json → Json → Prop where
  | skipped (v w : Json) : SameFor none v w
  | single (s : Option Shape) {v : Json} (hitems : v.items? = none) (hmembers : v.members? = none) : SameFor s v v
  | array {s : Shape} {items items' : List Json} (hlength : items.length = items'.length)
      (h : ∀ i v w, items[i]? = some v → items'[i]? = some w → SameFor (s.item? i) v w) :
      SameFor (some s) (.array items) (.array items')
  | object {s : Shape} {members members' : List (String × Json)} (hnames : members.map Prod.fst = members'.map Prod.fst)
      (h : ∀ (i : Nat) (m m' : String × Json), members[i]? = some m → members'[i]? = some m' →
        SameFor (s.member? m.1) m.2 m'.2) :
      SameFor (some s) (.object members) (.object members')

/--
Two lists with a common property at all positions have it with one more position, too.
-/
theorem forall_getElem?_concat {α : Type} {as bs : List α} {a b : α} {P : Nat → α → α → Prop}
    (hlength : as.length = bs.length) (h : ∀ i v w, as[i]? = some v → bs[i]? = some w → P i v w) (hlast : P as.length a b)
    (i : Nat) (v w : α) (hv : (as ++ [a])[i]? = some v) (hw : (bs ++ [b])[i]? = some w) : P i v w := by
  by_cases hi : i < as.length
  . rw [List.getElem?_append_left hi] at hv
    rw [List.getElem?_append_left (hlength ▸ hi)] at hw
    exact h i v w hv hw
  . obtain rfl : i = as.length := by
      have hbound := (List.getElem?_eq_some_iff.mp hv).1
      rw [List.length_append, List.length_singleton] at hbound
      omega
    rw [List.getElem?_concat_length, Option.some.injEq] at hv
    rw [hlength, List.getElem?_concat_length, Option.some.injEq] at hw
    rw [← hv, ← hw]
    exact hlast

theorem sameFor_nil_items (s : Option Shape) : SameFor s (.array []) (.array []) := by
  cases s with
  | none => exact .skipped _ _
  | some s => exact .array rfl nofun

theorem sameFor_nil_members (s : Option Shape) : SameFor s (.object []) (.object []) := by
  cases s with
  | none => exact .skipped _ _
  | some s => exact .object rfl nofun

theorem SameFor.length_eq {s : Shape} {items items' : List Json} (h : SameFor (some s) (.array items) (.array items')) :
    items.length = items'.length := by
  cases h with
  | single _ hitems => contradiction
  | array hlength => exact hlength

theorem SameFor.concat_item {s : Option Shape} {items items' : List Json} {v w : Json}
    (h : SameFor s (.array items) (.array items')) (hlast : SameFor (s.bind (Shape.item? items.length)) v w) :
    SameFor s (.array (items ++ [v])) (.array (items' ++ [w])) := by
  cases h with
  | skipped => exact .skipped _ _
  | single _ hitems => contradiction
  | array hlength h =>
    apply SameFor.array
    . rw [List.length_append, List.length_append, hlength]
      rfl
    . exact forall_getElem?_concat hlength h hlast

theorem SameFor.concat_member {s : Option Shape} {members members' : List (String × Json)} {m m' : String × Json}
    (h : SameFor s (.object members) (.object members')) (hkey : s.isSome = true → m.1 = m'.1)
    (hlast : SameFor (s.bind (Shape.member? m.1)) m.2 m'.2) :
    SameFor s (.object (members ++ [m])) (.object (members' ++ [m'])) := by
  cases h with
  | skipped => exact .skipped _ _
  | single _ _ hmembers => contradiction
  | @object wanted _ _ hnames h =>
    have hlength := congrArg List.length hnames
    rw [List.length_map, List.length_map] at hlength
    apply SameFor.object
    . rw [List.map_append, List.map_append, hnames, List.map_singleton, List.map_singleton, hkey rfl]
    . exact forall_getElem?_concat (P := fun _ (m m' : String × Json) => SameFor (wanted.member? m.1) m.2 m'.2) hlength h hlast

/--
Two positions inside a string that the same characters may follow, but for the value of a code unit and for what the half of
a pair asks for.
-/
inductive Escape.Loosens : Escape → Escape → Prop where
  | none : Loosens .none .none
  | backslash : Loosens .backslash .backslash
  | unit (lead lead' : Option Nat) (value value' left : Nat) : Loosens (.unit lead value left) (.unit lead' value' left)
  | pair (lead : Nat) : Loosens (.pair lead) .none
  | pairBackslash (lead : Nat) : Loosens (.pairBackslash lead) .backslash

namespace Reader

variable {s : Shape}

/--
Containers that hold the same as far as it is wanted. A container that is still open is compared as if it ended.
-/
inductive SameStack (s : Shape) : List Frame → List Frame → Prop where
  | nil : SameStack s [] []
  | array {stack stack' : List Frame} {items items' : List Json} (hstack : SameStack s stack stack')
      (hitems : SameFor (s.within? stack) (.array items.reverse) (.array items'.reverse)) :
      SameStack s (.array items :: stack) (.array items' :: stack')
  | member {stack stack' : List Frame} {members members' : List (String × Json)} {key key' : String}
      (hstack : SameStack s stack stack')
      (hmembers : SameFor (s.within? stack) (.object members.reverse) (.object members'.reverse))
      (hkey : (s.within? stack).isSome = true → key = key') :
      SameStack s (.member members key :: stack) (.member members' key' :: stack')

/--
Two positions inside a string, which are the same if the string is wanted.
-/
inductive SameText : Option Shape → List Char → Escape → List Char → Escape → Prop where
  | wanted (s : Shape) (text : List Char) (escape : Escape) : SameText (some s) text escape text escape
  | skipped {text text' : List Char} {escape escape' : Escape} (h : escape.Loosens escape') :
      SameText none text escape text' escape'

inductive SamePhase (s : Shape) (wanted : Option Shape) : Phase → Phase → Prop where
  | value : SamePhase s wanted .value .value
  | firstItem : SamePhase s wanted .firstItem .firstItem
  | afterItem {items items' : List Json} (h : SameFor wanted (.array items.reverse) (.array items'.reverse)) :
      SamePhase s wanted (.afterItem items) (.afterItem items')
  | firstKey : SamePhase s wanted .firstKey .firstKey
  | key {members members' : List (String × Json)} (h : SameFor wanted (.object members.reverse) (.object members'.reverse)) :
      SamePhase s wanted (.key members) (.key members')
  | keyText {members members' : List (String × Json)} {text text' : List Char} {escape escape' : Escape}
      (h : SameFor wanted (.object members.reverse) (.object members'.reverse))
      (htext : SameText wanted text escape text' escape') :
      SamePhase s wanted (.keyText members text escape) (.keyText members' text' escape')
  | colon {members members' : List (String × Json)} {key key' : String}
      (h : SameFor wanted (.object members.reverse) (.object members'.reverse)) (hkey : wanted.isSome = true → key = key') :
      SamePhase s wanted (.colon members key) (.colon members' key')
  | afterMember {members members' : List (String × Json)}
      (h : SameFor wanted (.object members.reverse) (.object members'.reverse)) :
      SamePhase s wanted (.afterMember members) (.afterMember members')
  | text {text text' : List Char} {escape escape' : Escape} (h : SameText wanted text escape text' escape') :
      SamePhase s wanted (.text text escape) (.text text' escape')
  | digits (state : Digits) : SamePhase s wanted (.digits state) (.digits state)
  | word (rest : List Char) {v : Json} (hitems : v.items? = none) (hmembers : v.members? = none) :
      SamePhase s wanted (.word rest v) (.word rest v)
  | done {v w : Json} (h : SameFor (some s) v w) : SamePhase s wanted (.done v) (.done w)

/--
Two readers that have read the same as far as it is wanted.
-/
structure Same (s : Shape) (r r' : Reader) : Prop where
  stack : SameStack s r.stack r'.stack
  phase : SamePhase s (s.within? r.stack) r.phase r'.phase

variable {stack stack' : List Frame} {v w : Json}

theorem sameText_start (s : Option Shape) : SameText s [] .none [] .none := by
  cases s with
  | none => exact .skipped .none
  | some s => exact .wanted s [] .none

theorem SameStack.within?_eq (h : SameStack s stack stack') : s.within? stack = s.within? stack' := by
  induction h with
  | nil => rfl
  | array _ hitems ih =>
    unfold Shape.within?
    rw [← ih]
    generalize s.within? _ = wanted at hitems ⊢
    cases wanted with
    | none => rfl
    | some wanted =>
      have hlength := hitems.length_eq
      rw [List.length_reverse, List.length_reverse] at hlength
      rw [hlength]
  | member _ _ hkey ih =>
    unfold Shape.within?
    rw [← ih]
    generalize s.within? _ = wanted at hkey ⊢
    cases wanted with
    | none => rfl
    | some wanted => rw [hkey rfl]

theorem SameStack.length_eq (h : SameStack s stack stack') : stack.length = stack'.length := by
  induction h with
  | nil => rfl
  | array _ _ ih => rw [List.length_cons, List.length_cons, ih]
  | member _ _ _ ih => rw [List.length_cons, List.length_cons, ih]

theorem same_close (hstack : SameStack s stack stack') (h : SameFor (s.within? stack) v w) :
    Same s (close stack v) (close stack' w) := by
  cases hstack with
  | nil => exact ⟨.nil, .done h⟩
  | array hstack hitems =>
    refine ⟨hstack, .afterItem ?_⟩
    rw [List.reverse_cons, List.reverse_cons]
    apply hitems.concat_item
    rw [List.length_reverse]
    exact h
  | member hstack hmembers hkey =>
    refine ⟨hstack, .afterMember ?_⟩
    rw [List.reverse_cons, List.reverse_cons]
    exact hmembers.concat_member hkey h

/--
What comes of a character for two readers: if the first one goes on, so does the second one, and they still have the same.
-/
inductive SameNext (s : Shape) : Option Reader → Option Reader → Prop where
  | refused (r' : Option Reader) : SameNext s none r'
  | read {r r' : Reader} (h : Same s r r') : SameNext s (some r) (some r')

theorem SameNext.ite {p : Prop} [Decidable p] {r r' n n' : Option Reader} (h : SameNext s r r') (hn : SameNext s n n') :
    SameNext s (if p then r else n) (if p then r' else n') := by
  split
  . exact h
  . exact hn

variable {limit : Nat} {c : Char} {r r' : Reader}

theorem sameNext_opened {phase phase' : Phase} (hstack : SameStack s stack stack')
    (hlimit : stack'.length < depthLimit → stack'.length < limit) (hphase : SamePhase s (s.within? stack) phase phase') :
    SameNext s (opened depthLimit stack phase) (opened limit stack' phase') := by
  unfold opened
  rw [hstack.length_eq]
  split
  . next hdepth =>
    rw [if_pos (hlimit hdepth)]
    exact .read ⟨hstack, hphase⟩
  . exact .refused _

theorem sameNext_open? (hstack : SameStack s stack stack') (hlimit : stack'.length < depthLimit → stack'.length < limit) :
    SameNext s (open? depthLimit stack c) (open? limit stack' c) := by
  unfold open?
  split
  . exact sameNext_opened hstack hlimit .firstItem
  . exact sameNext_opened hstack hlimit .firstKey
  . exact .read ⟨hstack, .text (sameText_start _)⟩
  . exact .read ⟨hstack, .digits _⟩
  . exact .read ⟨hstack, .word _ rfl rfl⟩
  . exact .read ⟨hstack, .word _ rfl rfl⟩
  . exact .read ⟨hstack, .word _ rfl rfl⟩
  . exact .ite (.read ⟨hstack, .digits _⟩) (.refused _)

theorem sameNext_between (hsame : Same s r r') (hlimit : ∀ n ≤ r'.stack.length + 1, n < depthLimit → n < limit) :
    SameNext s (between depthLimit r c) (between limit r' c) := by
  obtain ⟨hstack, hphase⟩ := hsame
  obtain ⟨stack, phase⟩ := r
  obtain ⟨stack', phase'⟩ := r'
  have hnone : SameFor (s.within? stack) (.array (List.reverse [])) (.array (List.reverse [])) := sameFor_nil_items _
  have hempty : SameFor (s.within? stack) (.object (List.reverse [])) (.object (List.reverse [])) := sameFor_nil_members _
  unfold between
  apply SameNext.ite (.read ⟨hstack, hphase⟩)
  cases hphase with
  | value => exact sameNext_open? hstack (hlimit _ (Nat.le_succ _))
  | firstItem =>
    apply SameNext.ite (.read (same_close hstack hnone))
    exact sameNext_open? (.array hstack hnone) (hlimit _ (Nat.le_refl _))
  | afterItem hitems =>
    apply SameNext.ite (.read ⟨.array hstack hitems, .value⟩)
    exact .ite (.read (same_close hstack hitems)) (.refused _)
  | firstKey =>
    apply SameNext.ite (.read (same_close hstack hempty))
    exact .ite (.read ⟨hstack, .keyText hempty (sameText_start _)⟩) (.refused _)
  | key hmembers => exact .ite (.read ⟨hstack, .keyText hmembers (sameText_start _)⟩) (.refused _)
  | colon hmembers hkey => exact .ite (.read ⟨.member hstack hmembers hkey, .value⟩) (.refused _)
  | afterMember hmembers =>
    refine .ite (.read ⟨hstack, .key hmembers⟩) ?_
    exact .ite (.read (same_close hstack hmembers)) (.refused _)
  | keyText => exact .refused _
  | text => exact .refused _
  | digits => exact .refused _
  | word => exact .refused _
  | done => exact .refused _

theorem hexDigit?_lt {c : Char} {d : Nat} (h : Text.hexDigit? c = some d) : d < 16 := by
  unfold Text.hexDigit? at h
  split at h
  . next hdigit =>
    cases h
    have hle : c.toNat ≤ '9'.toNat := by
      simp only [Char.isDigit, Bool.and_eq_true, decide_eq_true_eq] at hdigit
      exact hdigit.2
    have hzero : '0'.toNat = 48 := rfl
    have hnine : '9'.toNat = 57 := rfl
    omega
  . split at h
    . next hsmall =>
      cases h
      have hle : c.toNat ≤ 'f'.toNat := hsmall.2
      have ha : 'a'.toNat = 97 := rfl
      have hf : 'f'.toNat = 102 := rfl
      omega
    . split at h
      . next hlarge =>
        cases h
        have hle : c.toNat ≤ 'F'.toNat := hlarge.2
        have ha : 'A'.toNat = 65 := rfl
        have hf : 'F'.toNat = 70 := rfl
        omega
      . contradiction

theorem endUnit?_of_lt (text : List Char) {unit : Nat} (h : unit < 16) :
    endUnit? text none unit = some (Char.ofNat unit :: text, .none) := by
  unfold endUnit?
  rw [if_neg (by omega), if_neg (by omega)]

theorem loosens_endUnit? {text text' : List Char} {lead : Option Nat} {unit : Nat} {escape : Escape}
    (h : endUnit? text lead unit = some (text', escape)) : escape.Loosens .none := by
  unfold endUnit? at h
  split at h
  . split at h
    . cases h
      exact .pair unit
    . split at h
      . contradiction
      . cases h
        exact .none
  . split at h
    . cases h
      exact .none
    . contradiction

/--
A character of a string that is wanted may stand in one that is skipped, too.
-/
theorem scan_of_loosens {text next : List Char} (text' : List Char) {escape escape' after : Escape} {c : Char}
    (hloosens : escape.Loosens escape') (h : scan text escape c = .more next after) :
    ∃ next' after', scan text' escape'.unvalued c = .more next' after' ∧ after.Loosens after' := by
  unfold scan at h ⊢
  cases hloosens with
  | none =>
    dsimp only [Escape.unvalued] at h ⊢
    split at h
    . contradiction
    . next hquote =>
      rw [if_neg hquote]
      split at h
      . next hslash =>
        cases h
        rw [if_pos hslash]
        exact ⟨_, _, rfl, .backslash⟩
      . next hslash =>
        rw [if_neg hslash]
        split at h
        . contradiction
        . next hcontrol =>
          cases h
          rw [if_neg hcontrol]
          exact ⟨_, _, rfl, .none⟩
  | backslash =>
    dsimp only [Escape.unvalued] at h ⊢
    split at h
    . next hc =>
      cases h
      rw [if_pos hc]
      exact ⟨_, _, rfl, .unit _ _ _ _ _⟩
    . next hc =>
      rw [if_neg hc]
      split at h
      . cases h
        exact ⟨_, _, rfl, .none⟩
      . contradiction
  | unit lead lead' value value' left =>
    dsimp only [Escape.unvalued] at h ⊢
    split at h
    . contradiction
    . next d hd =>
      split at h
      . next hleft =>
        -- The unit that is skipped has one digit only, so it is a character.
        rw [if_pos hleft, Nat.zero_mul, Nat.zero_add, endUnit?_of_lt _ (hexDigit?_lt hd)]
        split at h
        . next hunit =>
          cases h
          exact ⟨_, _, rfl, loosens_endUnit? hunit⟩
        . contradiction
      . next hleft =>
        cases h
        rw [if_neg hleft]
        exact ⟨_, _, rfl, .unit _ _ _ _ _⟩
  | pair lead =>
    dsimp only [Escape.unvalued] at h ⊢
    split at h
    . next hslash =>
      cases h
      rw [hslash]
      exact ⟨_, _, rfl, .pairBackslash _⟩
    . contradiction
  | pairBackslash lead =>
    dsimp only [Escape.unvalued] at h ⊢
    split at h
    . next hc =>
      cases h
      rw [if_pos hc]
      exact ⟨_, _, rfl, .unit _ _ _ _ _⟩
    . contradiction

/--
The position inside a string as it counts for the next character.
-/
def Escape.seen (wanted : Option Shape) (escape : Escape) : Escape :=
  match wanted with
  | some _ => escape
  | none => escape.unvalued

inductive SameScan (wanted : Option Shape) : Scan → Scan → Prop where
  | more {text text' : List Char} {escape escape' : Escape} (h : SameText wanted text escape text' escape') :
      SameScan wanted (.more text escape) (.more text' escape')
  | ended {text text' : List Char} (h : wanted.isSome = true → text = text') : SameScan wanted (.ended text) (.ended text')
  | refused (result : Scan) : SameScan wanted .refused result

theorem sameScan_scan {wanted : Option Shape} {text text' : List Char} {escape escape' : Escape}
    (h : SameText wanted text escape text' escape') (c : Char) :
    SameScan wanted (scan text escape c) (scan text' (Escape.seen wanted escape') c) := by
  cases h with
  | wanted s =>
    unfold Escape.seen
    cases scan text escape c with
    | more text' escape' => exact .more (.wanted s text' escape')
    | ended text' => exact .ended fun _ => rfl
    | refused => exact .refused _
  | skipped hloosens =>
    unfold Escape.seen
    cases hscan : scan text escape c with
    | more next after =>
      obtain ⟨next', after', hscan', hafter⟩ := scan_of_loosens text' hloosens hscan
      rw [hscan']
      exact .more (.skipped hafter)
    | ended next =>
      obtain ⟨rfl, rfl, -⟩ := of_scan_ended hscan
      cases hloosens
      exact .ended nofun
    | refused => exact .refused _

/-! Steps and runs. -/

theorem length_close_le (stack : List Frame) (v : Json) : (close stack v).stack.length ≤ stack.length := by
  cases stack with
  | nil => exact Nat.le_refl 0
  | cons frame stack => cases frame <;> exact Nat.le_succ _

theorem sameNext_between_close (hstack : SameStack s stack stack') (hvalue : SameFor (s.within? stack) v w)
    (hlimit : ∀ n ≤ stack'.length + 1, n < depthLimit → n < limit) :
    SameNext s (between depthLimit (close stack v) c) (between limit (close stack' w) c) := by
  apply sameNext_between (same_close hstack hvalue)
  intro n hn
  have hle := length_close_le stack' w
  exact hlimit n (by omega)

theorem sameNext_text {text text' : List Char} {escape escape' : Escape} (hstack : SameStack s stack stack')
    (htext : SameText (s.within? stack) text escape text' escape') (limit : Nat) :
    SameNext s (step depthLimit ⟨stack, .text text escape⟩ c)
      (step limit ⟨stack', .text text' (Escape.seen (s.within? stack) escape')⟩ c) := by
  have hscan := sameScan_scan htext c
  unfold step
  dsimp only
  generalize scan text escape c = result at hscan ⊢
  generalize scan text' (Escape.seen (s.within? stack) escape') c = result' at hscan ⊢
  cases hscan with
  | more htext => exact .read ⟨hstack, .text htext⟩
  | ended htext =>
    apply SameNext.read
    apply same_close hstack
    generalize s.within? stack = wanted at htext
    cases wanted with
    | none => exact .skipped _ _
    | some wanted =>
      rw [htext rfl]
      exact .single _ rfl rfl
  | refused => exact .refused _

theorem sameNext_keyText {members members' : List (String × Json)} {text text' : List Char} {escape escape' : Escape}
    (hstack : SameStack s stack stack')
    (hmembers : SameFor (s.within? stack) (.object members.reverse) (.object members'.reverse))
    (htext : SameText (s.within? stack) text escape text' escape') (limit : Nat) :
    SameNext s (step depthLimit ⟨stack, .keyText members text escape⟩ c)
      (step limit ⟨stack', .keyText members' text' (Escape.seen (s.within? stack) escape')⟩ c) := by
  have hscan := sameScan_scan htext c
  unfold step
  dsimp only
  generalize scan text escape c = result at hscan ⊢
  generalize scan text' (Escape.seen (s.within? stack) escape') c = result' at hscan ⊢
  cases hscan with
  | more htext => exact .read ⟨hstack, .keyText hmembers htext⟩
  | ended htext =>
    refine .read ⟨hstack, .colon hmembers ?_⟩
    intro hwanted
    rw [htext hwanted]
  | refused => exact .refused _

theorem sameNext_word {rest : List Char} (hstack : SameStack s stack stack') (hitems : v.items? = none)
    (hmembers : v.members? = none) (limit : Nat) :
    SameNext s (step depthLimit ⟨stack, .word rest v⟩ c) (step limit ⟨stack', .word rest v⟩ c) := by
  unfold step
  dsimp only
  split
  . exact .refused _
  . exact .ite (.read (same_close hstack (.single _ hitems hmembers))) (.refused _)
  . exact .ite (.read ⟨hstack, .word _ hitems hmembers⟩) (.refused _)

/--
A number that can be read is complete, and that is all that is asked of one that is skipped.
-/
theorem sameNext_digits {state : Digits} (hstack : SameStack s stack stack') :
    SameNext s (step depthLimit ⟨stack, .digits state⟩ c)
      (match s.within? stack with
        | some _ => step depthLimit ⟨stack', .digits state⟩ c
        | none => skip ⟨stack', .digits state⟩ c) := by
  unfold step skip closeDigits
  dsimp only
  cases extend? state c with
  | some state =>
    dsimp only
    split
    . exact .read ⟨hstack, .digits state⟩
    . exact .read ⟨hstack, .digits state⟩
  | none =>
    cases numeral? state with
    | none => exact .refused _
    | some n =>
      dsimp only [Option.bind_some]
      cases n.value? with
      | none => exact .refused _
      | some x =>
        split
        . exact sameNext_between_close hstack (.single _ rfl rfl) fun _ _ hlt => hlt
        . next hwanted =>
          apply sameNext_between_close hstack
          . rw [hwanted]
            exact .skipped _ _
          . exact fun _ hn _ => Nat.lt_succ_of_le hn

theorem skip_of_isBetween (h : r.phase.isBetween = true) : r.skip c = between (r.stack.length + 2) r c := by
  obtain ⟨stack, phase⟩ := r
  rw [← step_of_isBetween h]
  cases phase with
  | keyText members text escape => contradiction
  | text text escape => contradiction
  | digits state => contradiction
  | word rest v => contradiction
  | _ => rfl

theorem SamePhase.isBetween_eq {wanted : Option Shape} {phase phase' : Phase} (h : SamePhase s wanted phase phase') :
    phase.isBetween = phase'.isBetween := by
  cases h <;> rfl

/--
A character that can be read can be skimmed, and the readers still have the same.
-/
theorem sameNext_skim (hsame : Same s r r') (c : Char) : SameNext s (r.step depthLimit c) (r'.skim s c) := by
  unfold skim
  rw [← hsame.stack.within?_eq]
  by_cases hbetween : r.phase.isBetween = true
  . have hbetween' := hsame.phase.isBetween_eq.symm.trans hbetween
    rw [step_of_isBetween hbetween, step_of_isBetween hbetween', skip_of_isBetween hbetween']
    split
    . exact sameNext_between hsame fun _ _ hlt => hlt
    . exact sameNext_between hsame fun _ hn _ => Nat.lt_succ_of_le hn
  obtain ⟨hstack, hphase⟩ := hsame
  obtain ⟨stack, phase⟩ := r
  obtain ⟨stack', phase'⟩ := r'
  dsimp only at hstack hphase ⊢
  cases hphase with
  | text htext =>
    have hnext := sameNext_text (c := c) hstack htext
    generalize s.within? stack = wanted at hnext ⊢
    cases wanted with
    | none => exact hnext (stack'.length + 2)
    | some wanted => exact hnext depthLimit
  | keyText hmembers htext =>
    have hnext := sameNext_keyText (c := c) hstack hmembers htext
    generalize s.within? stack = wanted at hnext ⊢
    cases wanted with
    | none => exact hnext (stack'.length + 2)
    | some wanted => exact hnext depthLimit
  | word rest hitems hmembers =>
    split
    . exact sameNext_word hstack hitems hmembers depthLimit
    . exact sameNext_word hstack hitems hmembers (stack'.length + 2)
  | digits state => exact sameNext_digits hstack
  | _ => exact absurd rfl hbetween

theorem sameNext_runSkimming (hsame : Same s r r') (cs : List Char) :
    SameNext s (r.run depthLimit cs) (r'.runSkimming s cs) := by
  induction cs generalizing r r' with
  | nil => exact .read hsame
  | cons c cs ih =>
    have hnext := sameNext_skim hsame c
    unfold run runSkimming
    generalize r.step depthLimit c = next at hnext ⊢
    generalize r'.skim s c = next' at hnext ⊢
    cases hnext with
    | refused => exact .refused _
    | read hsame => exact ih hsame

theorem same_finish (hsame : Same s r r') (h : r.finish = some v) : ∃ w, r'.finish = some w ∧ SameFor (some s) v w := by
  obtain ⟨hstack, hphase⟩ := hsame
  obtain ⟨stack, phase⟩ := r
  obtain ⟨stack', phase'⟩ := r'
  dsimp only at hstack hphase
  cases hphase with
  | done hvalue =>
    cases h
    exact ⟨_, rfl, hvalue⟩
  | digits state =>
    unfold finish at h ⊢
    dsimp only at h ⊢
    cases hclosed : closeDigits stack state with
    | none =>
      rw [hclosed] at h
      contradiction
    | some closed =>
      obtain ⟨n, hn, rfl⟩ := closeDigits_eq_some_iff.mp hclosed
      have hclosed' : closeDigits stack' state = some (close stack' (.number n)) :=
        closeDigits_eq_some_iff.mpr ⟨n, hn, rfl⟩
      rw [hclosed] at h
      rw [hclosed']
      cases hstack with
      | nil =>
        cases h
        exact ⟨_, rfl, .single _ rfl rfl⟩
      | array => contradiction
      | member => contradiction
  | _ => contradiction

end Reader

/--
Whoever can read a text can skim it, and gets the same as far as it is wanted.
-/
theorem skim?_of_read? (s : Shape) {text : String} {v : Json} (h : read? text = some v) :
    ∃ w, skim? s text = some w ∧ SameFor (some s) v w := by
  have hstart : Reader.Same s Reader.start Reader.start := ⟨.nil, .value⟩
  have hrun := Reader.sameNext_runSkimming hstart text.toList
  unfold read? readWithin at h
  unfold skim?
  generalize Reader.start.run depthLimit text.toList = r at h hrun
  generalize Reader.start.runSkimming s text.toList = r' at hrun ⊢
  cases hrun with
  | refused => contradiction
  | read hsame => exact Reader.same_finish hsame h

end Json
end Triage
