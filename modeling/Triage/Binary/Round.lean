import Triage.Binary.Basic

/-!
This module contains rounding to the nearest number of a binary format, a half to the even neighbour, and
the arithmetic that is defined by it: take the exact result and round it once.
-/

namespace Triage
namespace Binary

variable {fmt : BinaryFormat}

/--
The quotient `num / den` rounded to the nearest integer, a half to the even one.
-/
def divNearest (num den : Nat) : Nat :=
  let q := num / den
  let r := num % den
  if 2 * r < den then q
  else if den < 2 * r then q + 1
  else if q % 2 = 0 then q else q + 1

/--
The largest `l` with `2 ^ l ≤ num / den`, for a positive quotient.
-/
def log2Ratio (num den : Nat) : Int :=
  let l : Int := (num.log2 : Int) - (den.log2 : Int)
  if den <<< l.toNat ≤ num <<< (-l).toNat then l else l - 1

/--
The rank of the magnitude of `fmt` that is nearest to `num / den`.
-/
def roundRank (fmt : BinaryFormat) (num den : Nat) : Nat :=
  if num = 0 ∨ den = 0 then 0 else
    let unit := Max.max fmt.least (log2Ratio num den - (fmt.precision - 1 : Nat))
    (unit - fmt.least).toNat * fmt.block + divNearest (num <<< (-unit).toNat) (den <<< unit.toNat)

/--
The number nearest to `num / den`, with a sign; past the largest finite number it is infinity.
-/
def ofRatio (negative : Bool) (num den : Nat) : Binary fmt :=
  ofRank negative (roundRank fmt num den)

/--
The number nearest to `m * 2 ^ e`; an exact zero takes the sign `zeroSign`.
-/
def ofScaled (m e : Int) (zeroSign : Bool) : Binary fmt :=
  let negative := if m = 0 then zeroSign else m < 0
  ofRatio negative (m.natAbs <<< e.toNat) (1 <<< (-e).toNat)

def ofInt (n : Int) : Binary fmt :=
  ofScaled n 0 false

def convert {fmt fmt' : BinaryFormat} : Binary fmt → Binary fmt'
  | .nan => .nan
  | .signed negative rank _ =>
    if rank < fmt.infinity then
      ofScaled (if negative then -(significand fmt rank : Int) else significand fmt rank)
        (exponent fmt rank) negative
    else
      infinite negative

/--
The sign of a number; `nan` counts as positive.
-/
def isNegative : Binary fmt → Bool
  | .nan => false
  | .signed negative _ _ => negative

def isZero : Binary fmt → Bool
  | .nan => false
  | .signed _ rank _ => rank == 0

def mul (x y : Binary fmt) : Binary fmt :=
  let negative := x.isNegative != y.isNegative
  match x.scaled?, y.scaled? with
  | some (m, e), some (n, f) => ofScaled (m * n) (e + f) negative
  | _, _ =>
    if x.isNaN || y.isNaN || x.isZero || y.isZero then .nan else infinite negative

def div (x y : Binary fmt) : Binary fmt :=
  let negative := x.isNegative != y.isNegative
  match x.scaled?, y.scaled? with
  | some (m, e), some (n, f) =>
    if n = 0 then
      if m = 0 then .nan else infinite negative
    else
      let shift := e - f
      ofRatio negative (m.natAbs <<< shift.toNat) (n.natAbs <<< (-shift).toNat)
  | some _, none => if y.isNaN then .nan else ofRank negative 0
  | none, some _ => if x.isNaN then .nan else infinite negative
  | none, none => .nan

/--
Two finite numbers over one power of two.
-/
def aligned (m e n f : Int) : Int × Int × Int :=
  let low := min e f
  (m <<< (e - low).toNat, n <<< (f - low).toNat, low)

def add (x y : Binary fmt) : Binary fmt :=
  match x.scaled?, y.scaled? with
  | some (m, e), some (n, f) =>
    let (a, b, low) := aligned m e n f
    ofScaled (a + b) low (x.isNegative && y.isNegative)
  | some _, none => y
  | none, some _ => x
  | none, none => if x = y then x else .nan

def sub (x y : Binary fmt) : Binary fmt :=
  x.add (-y)

/--
The remainder of the division of two numbers that goes toward zero; it has the sign of `x`.
-/
def rem (x y : Binary fmt) : Binary fmt :=
  match x.scaled?, y.scaled? with
  | some (m, e), some (n, f) =>
    let (a, b, low) := aligned m e n f
    if b = 0 then .nan else ofScaled (a.tmod b) low x.isNegative
  | some _, none => if y.isNaN then .nan else x
  | none, _ => .nan

def truncate? (x : Binary fmt) : Option Int :=
  x.scaled?.map fun (m, e) => (m <<< e.toNat).tdiv (1 <<< (-e).toNat)

def isInteger (x : Binary fmt) : Bool :=
  match x.scaled? with
  | some (m, e) => m % ((1 : Int) <<< (-e).toNat) == 0
  | none => false

end Binary
end Triage
