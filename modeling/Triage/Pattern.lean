/-!
This module contains the patterns that texts are searched for, and the search itself.
-/

namespace Triage

/--
A set of characters.
-/
inductive CharSet where
  | none
  | range (first last : Char)
  | union (a b : CharSet)
  | complement (a : CharSet)
deriving DecidableEq

namespace CharSet

def contains (c : Char) : CharSet → Bool
  | none => false
  | range first last => first ≤ c && c ≤ last
  | union a b => contains c a || contains c b
  | complement a => !contains c a

def single (c : Char) : CharSet := range c c

def unions (sets : List CharSet) : CharSet :=
  sets.foldr union none

end CharSet

/--
A pattern.
-/
inductive Pattern where
  | empty
  | char (set : CharSet)
  | textStart
  | textEnd
  /-- A place between a character of a word and one of none, or any other place. -/
  | wordEdge (negated : Bool)
  | seq (p q : Pattern)
  | either (p q : Pattern)
  | repeated (p : Pattern) (least : Nat) (most : Option Nat)
  /-- A place where the text that follows matches, or does not. -/
  | ahead (p : Pattern) (negated : Bool)
deriving DecidableEq

namespace Pattern

/--
A place in a text: the character in front of it, if any, and the text behind it.
-/
structure Place where
  before : Option Char
  rest : List Char

def isWordChar (c : Char) : Bool :=
  c.isAlphanum || c == '_'

def Place.atWordEdge (s : Place) : Bool :=
  s.before.any isWordChar != s.rest.head?.any isWordChar

/--
Match at least `least` and at most `most` times, in at most `fuel` rounds. Rounds that are not required have
to get ahead.
-/
def rounds (round : Place → (Place → Bool) → Bool) (next : Place → Bool) :
    Nat → Nat → Option Nat → Place → Bool
  | 0, least, _, s => least == 0 && next s
  | fuel + 1, least + 1, most, s => round s fun s' => rounds round next fuel least (most.map (· - 1)) s'
  | fuel + 1, 0, most, s =>
    next s
      || (most != some 0 && round s fun s' =>
        decide (s'.rest.length < s.rest.length) && rounds round next fuel 0 (most.map (· - 1)) s')
termination_by structural fuel => fuel

/--
Whether a pattern matches from a place on such that `next` holds for the place behind the match.
-/
def matchesAt : Pattern → Place → (Place → Bool) → Bool
  | empty, s, next => next s
  | char set, s, next =>
    match s.rest with
    | [] => false
    | c :: cs => set.contains c && next ⟨some c, cs⟩
  | textStart, s, next => s.before.isNone && next s
  | textEnd, s, next => s.rest.isEmpty && next s
  | wordEdge negated, s, next => (s.atWordEdge != negated) && next s
  | seq p q, s, next => matchesAt p s fun s' => matchesAt q s' next
  | either p q, s, next => matchesAt p s next || matchesAt q s next
  | repeated p least most, s, next => rounds (matchesAt p) next (least + s.rest.length) least most s
  | ahead p negated, s, next => (matchesAt p s (fun _ => true) != negated) && next s

def occursIn (p : Pattern) (text : String) : Bool :=
  go none text.toList
where
  go (before : Option Char) : List Char → Bool
    | [] => matchesAt p ⟨before, []⟩ fun _ => true
    | c :: cs => matchesAt p ⟨before, c :: cs⟩ (fun _ => true) || go (some c) cs

end Pattern
end Triage
