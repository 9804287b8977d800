import Triage.Proofs.Json.Move
import Triage.Repair.Brackets

/-!
This module contains the proof that the scan for open strings and containers, which looks at quotes, backslashes
and brackets only, agrees with the reader of JSON text after every prefix of a text.
-/

namespace Triage
namespace Json

open Repair

def Escape.place : Escape → Place
  | .none | .unit .. | .pair _ => .inside
  | .backslash | .pairBackslash _ => .escaped

def Phase.place : Phase → Place
  | .keyText _ _ escape | .text _ escape => escape.place
  | _ => .outside

theorem Phase.place_of_isBetween {phase : Phase} (h : phase.isBetween = true) : phase.place = .outside := by
  cases phase with
  | keyText members text escape => contradiction
  | text text escape => contradiction
  | _ => rfl

/--
The closing character of the container that a phase belongs to, if the container is not on the stack.
-/
def Phase.closers : Phase → List Char
  | .firstItem | .afterItem _ => [']']
  | .firstKey | .key _ | .keyText .. | .colon .. | .afterMember _ => ['}']
  | .value | .text .. | .digits _ | .word .. | .done _ => []

def Frame.closer : Frame → Char
  | .array _ => ']'
  | .member .. => '}'

namespace Reader

/--
What is open at the position of a reader.
-/
def nesting (r : Reader) : Nesting :=
  ⟨r.phase.place, r.phase.closers ++ r.stack.map Frame.closer⟩

/--
Whether a reader is in a state that a text can lead to: the rest of a word holds letters and its value is no object,
and at the end of the text no container is open.
-/
def Sound (r : Reader) : Prop :=
  match r.phase with
  | .word rest v => rest.all Char.isAlpha = true ∧ v.members? = none
  | .done _ => r.stack = []
  | _ => True

theorem sound_start : start.Sound := trivial

@[simp]
theorem sound_close (stack : List Frame) (v : Json) : (close stack v).Sound := by
  unfold close
  cases stack with
  | nil => rfl
  | cons frame stack => cases frame <;> trivial

@[simp]
theorem nesting_close (stack : List Frame) (v : Json) :
    (close stack v).nesting = ⟨.outside, stack.map Frame.closer⟩ := by
  unfold close
  cases stack with
  | nil => rfl
  | cons frame stack => cases frame <;> rfl

theorem Opens.sound {limit : Nat} {stack : List Frame} {c : Char} {r : Reader}
    (h : Opens limit stack c r) : r.Sound := by
  cases h with
  | word hc hrest hv => exact ⟨hrest, hv⟩
  | _ => trivial

theorem Move.sound {limit : Nat} {r r' : Reader} {c : Char} (h : Move limit r c r') (hr : r.Sound) :
    r'.Sound := by
  induction h with
  | word =>
    unfold Sound at hr ⊢
    simp_all
  | endDigits _ _ _ ih => exact ih (sound_close _ _)
  | space => exact hr
  | value h => exact h.sound
  | firstItem h => exact h.sound
  | endText | endWord | noItem | endArray | noMember | endObject => exact sound_close _ _
  | _ => trivial

theorem sound_of_run {limit : Nat} {r r' : Reader} {cs : List Char} (h : r.run limit cs = some r')
    (hr : r.Sound) : r'.Sound :=
  run_induction (fun _ _ _ _ hr hmove => hmove.sound hr) h hr

def isPlain (c : Char) : Bool :=
  c != '"' && c != '\\' && c != '{' && c != '[' && c != '}' && c != ']'

theorem isPlain_of_any {p : Char → Bool} (hp : ['"', '\\', '{', '[', '}', ']'].any p = false) {c : Char}
    (h : p c = true) : isPlain c = true := by
  rw [List.any_eq_false] at hp
  unfold isPlain
  simp only [Bool.and_eq_true, bne_iff_ne]
  refine ⟨⟨⟨⟨⟨?_, ?_⟩, ?_⟩, ?_⟩, ?_⟩, ?_⟩ <;> rintro rfl <;> simp [hp] at h

theorem isPlain_of_isAlpha {c : Char} (h : c.isAlpha = true) : isPlain c = true :=
  isPlain_of_any rfl h

theorem isPlain_of_isDigit {c : Char} (h : c.isDigit = true) : isPlain c = true :=
  isPlain_of_any rfl h

theorem isPlain_of_isSpace {c : Char} (h : isSpace c = true) : isPlain c = true :=
  isPlain_of_any rfl h

theorem mem_of_extend? {state state' : Digits} {c : Char} (h : extend? state c = some state') :
    c.isDigit = true ∨ c ∈ ['.', 'e', 'E', '+', '-'] := by
  unfold extend? at h
  cases state <;> grind

theorem isPlain_of_extend? {state state' : Digits} {c : Char} (h : extend? state c = some state') :
    isPlain c = true := by
  cases mem_of_extend? h with
  | inl hdigit => exact isPlain_of_isDigit hdigit
  | inr hmem =>
    simp only [List.mem_cons, List.not_mem_nil, or_false] at hmem
    rcases hmem with rfl | rfl | rfl | rfl | rfl <;> rfl

theorem next_of_isPlain {closers : List Char} {c : Char} (h : isPlain c = true) :
    Nesting.next ⟨.outside, closers⟩ c = ⟨.outside, closers⟩ := by
  unfold isPlain at h
  simp only [Bool.and_eq_true, bne_iff_ne] at h
  obtain ⟨⟨⟨⟨⟨hquote, -⟩, hbrace⟩, hbracket⟩, hbrace'⟩, hbracket'⟩ := h
  simp [Nesting.next, Place.next, hquote, hbrace, hbracket, hbrace', hbracket']

theorem place_ne_outside (escape : Escape) : escape.place ≠ .outside := by
  cases escape <;> simp [Escape.place]

theorem next_of_place {escape : Escape} {closers : List Char} (c : Char) :
    Nesting.next ⟨escape.place, closers⟩ c = ⟨escape.place.next c, closers⟩ := by
  have := place_ne_outside escape
  unfold Nesting.next
  cases hplace : escape.place with
  | outside => contradiction
  | inside => rfl
  | escaped => rfl

theorem place_of_endUnit? {text text' : List Char} {lead : Option Nat} {unit : Nat} {escape : Escape}
    (h : endUnit? text lead unit = some (text', escape)) : escape.place = .inside := by
  unfold endUnit? at h
  cases lead <;> grind [Escape.place]

theorem ne_of_hexDigit? {c : Char} {d : Nat} (h : Text.hexDigit? c = some d) :
    c ≠ '"' ∧ c ≠ '\\' := by
  constructor <;> rintro rfl <;> contradiction

theorem place_of_scan_more {text text' : List Char} {escape escape' : Escape} {c : Char}
    (h : scan text escape c = .more text' escape') : escape.place.next c = escape'.place := by
  unfold scan at h
  cases escape with
  | none =>
    dsimp only at h
    split at h
    . contradiction
    . next hquote =>
      split at h
      . next hslash =>
        cases h
        simp [Escape.place, Place.next, hslash]
      . next hslash =>
        split at h
        . contradiction
        . cases h
          simp [Escape.place, Place.next, hquote, hslash]
  | backslash =>
    dsimp only at h
    split at h
    . cases h
      rfl
    . split at h
      . cases h
        rfl
      . contradiction
  | unit lead value left =>
    dsimp only at h
    split at h
    . contradiction
    . next d hdigit =>
      obtain ⟨hquote, hslash⟩ := ne_of_hexDigit? hdigit
      have hnext : Place.next .inside c = .inside := by
        simp [Place.next, hquote, hslash]
      split at h
      . split at h
        . next hunit =>
          cases h
          rw [place_of_endUnit? hunit]
          exact hnext
        . contradiction
      . cases h
        exact hnext
  | pair lead =>
    dsimp only at h
    split at h
    . next hslash =>
      cases h
      rw [hslash]
      rfl
    . contradiction
  | pairBackslash lead =>
    dsimp only at h
    split at h
    . cases h
      rfl
    . contradiction

theorem of_scan_ended {text text' : List Char} {escape : Escape} {c : Char}
    (h : scan text escape c = .ended text') : escape = .none ∧ c = '"' ∧ text' = text := by
  unfold scan at h
  cases escape <;> grind

theorem Opens.nesting {limit : Nat} {stack : List Frame} {c : Char} {r : Reader}
    (h : Opens limit stack c r) :
    Nesting.next ⟨.outside, stack.map Frame.closer⟩ c = r.nesting := by
  cases h with
  | array => rfl
  | object => rfl
  | text => rfl
  | minus => rfl
  | digit hdigit => exact next_of_isPlain (isPlain_of_isDigit hdigit)
  | word hc => exact next_of_isPlain (isPlain_of_isAlpha hc)

/--
The scan for open strings and containers follows the reader.
-/
theorem Move.nesting {limit : Nat} {r r' : Reader} {c : Char} (h : Move limit r c r') (hr : r.Sound) :
    r.nesting.next c = r'.nesting := by
  induction h with
  | text h =>
    unfold Reader.nesting Phase.place
    dsimp only
    rw [next_of_place, place_of_scan_more h]
    rfl
  | endText h =>
    obtain ⟨rfl, rfl, rfl⟩ := of_scan_ended h
    rw [nesting_close]
    rfl
  | keyText h =>
    unfold Reader.nesting Phase.place
    dsimp only
    rw [next_of_place, place_of_scan_more h]
    rfl
  | endKey h =>
    obtain ⟨rfl, rfl, rfl⟩ := of_scan_ended h
    rfl
  | word =>
    unfold Sound at hr
    simp only [List.all_cons, Bool.and_eq_true] at hr
    exact next_of_isPlain (isPlain_of_isAlpha hr.1.1)
  | endWord =>
    unfold Sound at hr
    simp only [List.all_cons, Bool.and_eq_true] at hr
    rw [nesting_close]
    exact next_of_isPlain (isPlain_of_isAlpha hr.1.1)
  | digits h => exact next_of_isPlain (isPlain_of_extend? h)
  | endDigits h hnumber hmove ih =>
    -- The character that ends a number is read as the one behind it.
    rw [← ih (sound_close _ _), nesting_close]
    rfl
  | @space r c h hphase =>
    obtain ⟨stack, phase⟩ := r
    unfold Reader.nesting
    dsimp only
    -- A blank between the parts of a text leaves everything that is open as it is.
    rw [Phase.place_of_isBetween hphase]
    exact next_of_isPlain (isPlain_of_isSpace h)
  | value h => exact h.nesting
  | firstItem h => exact h.nesting
  | noItem =>
    rw [nesting_close]
    rfl
  | nextItem => rfl
  | endArray =>
    rw [nesting_close]
    rfl
  | firstKey => rfl
  | noMember =>
    rw [nesting_close]
    rfl
  | key => rfl
  | colon => rfl
  | nextMember => rfl
  | endObject =>
    rw [nesting_close]
    rfl

theorem Move.place {limit : Nat} {r r' : Reader} {c : Char} (h : Move limit r c r') (hr : r.Sound) :
    r.phase.place.next c = r'.phase.place := by
  have := congrArg Nesting.place (h.nesting hr)
  rwa [Nesting.place_next] at this

theorem nesting_after_of_run {limit : Nat} {r r' : Reader} {cs : List Char}
    (h : r.run limit cs = some r') (hr : r.Sound) : r.nesting.after cs = r'.nesting := by
  induction cs generalizing r with
  | nil =>
    cases h
    rfl
  | cons c cs ih =>
    obtain ⟨next, hnext, hrest⟩ := run_cons_eq_some_iff.mp h
    have hmove := move_of_step hnext
    rw [Nesting.after_cons, hmove.nesting hr]
    exact ih hrest (hmove.sound hr)

theorem place_of_run {limit : Nat} {r r' : Reader} {cs : List Char} (hr : r.Sound)
    (h : r.run limit cs = some r') : r.phase.place.after cs = r'.phase.place := by
  have := congrArg Nesting.place (nesting_after_of_run h hr)
  rwa [Nesting.place_after] at this

theorem nesting_of_finish {r : Reader} {v : Json} (hr : r.Sound) (h : r.finish = some v) :
    r.nesting = Nesting.start := by
  obtain ⟨stack, phase⟩ := r
  unfold finish at h
  cases phase with
  | done w =>
    unfold Sound at hr
    dsimp only at hr
    rw [hr]
    rfl
  | digits state =>
    dsimp only at h
    split at h
    . next hclose =>
      obtain ⟨n, -, hn⟩ := closeDigits_eq_some_iff.mp hclose
      cases stack with
      | nil => rfl
      | cons frame stack => cases frame <;> simp [close] at hn
    . contradiction
  | _ => contradiction

end Reader

theorem balance_of_after {cs : List Char} (h : Nesting.start.after cs = Nesting.start) : balance cs = cs := by
  unfold balance
  rw [h]
  exact List.append_nil cs

theorem balance_of_readWithin {limit : Nat} {cs : List Char} {v : Json} (h : readWithin limit cs = some v) :
    balance cs = cs := by
  unfold readWithin at h
  rw [Option.bind_eq_some_iff] at h
  obtain ⟨r, hrun, hfinish⟩ := h
  have hnesting := Reader.nesting_after_of_run hrun Reader.sound_start
  rw [Reader.nesting_of_finish (Reader.sound_of_run hrun Reader.sound_start) hfinish] at hnesting
  exact balance_of_after hnesting

end Json
end Triage
