import Triage.Binary.Round
import Triage.Decimal.Layout

/-!
This module contains the numbers of JSON, which keeps integers apart from floating point numbers, the
value of a numeral, and the text of a number.
-/

namespace Triage
namespace Json

/--
An integer that fits a signed or an unsigned word of 64 bits.
-/
structure Integer where
  val : Int
  lower : -9223372036854775808 ≤ val := by decide
  upper : val < 18446744073709551616 := by decide
deriving DecidableEq

namespace Integer

/--
The integer `n`, if it fits.
-/
def ofInt? (n : Int) : Option Integer :=
  if h : -9223372036854775808 ≤ n ∧ n < 18446744073709551616 then some ⟨n, h.1, h.2⟩ else none

def ofUInt64 (n : UInt64) : Integer :=
  ⟨n.toNat, by omega, by have := n.toNat_lt; omega⟩

def ofUInt32 (n : UInt32) : Integer :=
  ⟨n.toNat, by omega, by have := n.toNat_lt; omega⟩

def zero : Integer := ⟨0, by decide, by decide⟩

instance : Inhabited Integer := ⟨zero⟩

end Integer

/--
A number: an integer, or a finite floating point number. `1` and `1.0` are different numbers.
-/
inductive Number where
  | integer (n : Integer)
  | real (x : Double) (finite : x.isFinite = true)
deriving DecidableEq

namespace Number

def toDouble : Number → Double
  | .integer n => Binary.ofInt n.val
  | .real x _ => x

/--
The layout of floating point numbers: positional while the leading digit stands between `10 ^ (-5)` and
`10 ^ 15`, and always with a point or an exponent.
-/
def doubleLayout : Decimal.Layout :=
  { positional := some (-5, 15), pointZero := true, tie := .toEven,
    infinityText := "null", nanText := "null" }

/--
The layout of floating point numbers of 32 bits.
-/
def singleLayout : Decimal.Layout :=
  { doubleLayout with positional := some (-6, 12) }

/--
The decimal digits of an integer, after a minus sign if it is negative.
-/
def integerChars (n : Int) : List Char :=
  if n < 0 then '-' :: Nat.toDigits 10 n.natAbs else Nat.toDigits 10 n.natAbs

def chars : Number → List Char
  | .integer n => integerChars n.val
  | .real x _ => doubleLayout.render x

end Number

/--
The parts of the text of a number. `whole` and the digits of the exponent are never empty, and neither is
`fraction` if there is a point.
-/
structure Numeral where
  negative : Bool
  whole : List Char
  fraction : Option (List Char)
  exponent : Option (Bool × List Char)
deriving DecidableEq

namespace Numeral

/--
The largest significand that reading keeps.
-/
def significandLimit : Nat := UInt64.size - 1

def digit (c : Char) : Nat :=
  c.toNat - '0'.toNat

/--
Append digits to a significand while it stays in its limit. The first digit that does not fit and all
digits after it are dropped; the second part of the result is the number of digits that were kept.
-/
def absorb (significand : Nat) : List Char → Nat × Nat
  | [] => (significand, 0)
  | c :: cs =>
    if significand * 10 + digit c ≤ significandLimit then
      let (s, kept) := absorb (significand * 10 + digit c) cs
      (s, kept + 1)
    else
      (significand, 0)

def powerOfTen (n : Nat) : Double :=
  Binary.ofRatio false (Nat.pow 10 n) 1

def maxPower : Nat := 308

/--
The floating point number for `significand * 10 ^ exponent`: the significand is rounded and then multiplied
or divided by one power of ten, after divisions by the largest power while the exponent lies below it.
There is none if the result is infinite.
-/
def scale (significand : Nat) (exponent : Int) : Option Double :=
  if 0 ≤ exponent then scaleUp (Binary.ofInt significand) exponent.toNat
  else some (scaleDown (Binary.ofInt significand) (-exponent).toNat)
where
  scaleUp (x : Double) (n : Nat) : Option Double :=
    if n ≤ maxPower then
      let y := x.mul (powerOfTen n)
      if y.isFinite then some y else none
    else if x.isZero then some x
    else none
  scaleDown (x : Double) (n : Nat) : Double :=
    if n ≤ maxPower then x.div (powerOfTen n)
    else if x.isZero then x
    else scaleDown (x.div (powerOfTen maxPower)) (n - maxPower)
  termination_by n
  decreasing_by simp only [maxPower] at *; omega

/--
The largest exponent that is read as such.
-/
def exponentLimit : Nat := 2147483647

def natOfDigits (cs : List Char) : Nat :=
  cs.foldl (fun n c => n * 10 + digit c) 0

/--
An exponent moved by the written one, kept within 32 bits.
-/
def moveExponent (start : Int) (negative : Bool) (written : Nat) : Int :=
  if negative then max (start - written) (-exponentLimit - 1) else min (start + written) exponentLimit

/--
The magnitude of a numeral with a point, with an exponent or with too many digits. There is none if it is
too large.
-/
def magnitude? (n : Numeral) : Option Double :=
  let (s, kept) := absorb 0 n.whole
  let dropped : Int := ((n.whole.length - kept : Nat) : Int)
  let (s, exponent) :=
    match n.fraction with
    | none => (s, dropped)
    | some cs =>
      let (s, kept) := absorb s cs
      (s, dropped - kept)
  match n.exponent with
  | none => scale s exponent
  | some (negative, cs) =>
    let written := natOfDigits cs
    if exponentLimit < written then
      if s ≠ 0 ∧ !negative then none else some 0
    else
      scale s (moveExponent exponent negative written)

/--
The floating point number of a numeral, if it is finite.
-/
def real? (n : Numeral) : Option Number :=
  n.magnitude?.bind fun x =>
    let y := if n.negative then -x else x
    if h : y.isFinite = true then some (.real y h) else none

/--
The number of a numeral. Digits alone make an integer if it fits; `-0` and all other numerals make a
floating point number. There is none if that is too large.
-/
def value? (n : Numeral) : Option Number :=
  match n.fraction, n.exponent with
  | none, none =>
    let magnitude : Int := natOfDigits n.whole
    if n.negative then
      if magnitude = 0 then n.real?
      else
        match Integer.ofInt? (-magnitude) with
        | some i => some (.integer i)
        | none => n.real?
    else
      match Integer.ofInt? magnitude with
      | some i => some (.integer i)
      | none => n.real?
  | _, _ => n.real?

end Numeral
end Json
end Triage
