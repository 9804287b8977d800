import Triage.Binary.Basic

/-!
This module contains the shortest decimal that reads back as a given magnitude of a binary format. For one
digit, two digits and so on it tests the two points of that decimal grid which lie around the magnitude;
the first grid with a point in the rounding interval of the magnitude wins, and of two such points the
nearer one. All tests are exact.
-/

namespace Triage

/--
A decimal magnitude: `digits * 10 ^ exponent`.
-/
structure Decimal where
  digits : Nat
  exponent : Int
deriving DecidableEq

namespace Decimal

/--
Which point is taken when the magnitude lies in the middle between two points of the grid.
-/
inductive Tie where
  | toEven
  | up
deriving DecidableEq

/--
The number of decimal digits of `n`; zero has none.
-/
def width (n : Nat) : Nat :=
  if n = 0 then 0 else (Nat.toDigits 10 n).length

/--
The largest `e` with `10 ^ e ≤ num / den`, for a positive quotient.
-/
def log10Ratio (num den : Nat) : Int :=
  if den ≤ num then (width (num / den) : Int) - 1
  else -(width ((den + num - 1) / num - 1) : Int)

/--
A magnitude with the reals that round to it: `low`, `value` and `high` over `den`, and whether the two
ends belong to the interval.
-/
structure Interval where
  low : Nat
  value : Nat
  high : Nat
  den : Nat
  closed : Bool

/--
The interval of the reals that round to the magnitude of rank `rank`. Below a power of two the neighbour is
only half as far away as above it.
-/
def Interval.ofRank (fmt : BinaryFormat) (rank : Nat) : Interval :=
  let m := Binary.significand fmt rank
  let q := Binary.exponent fmt rank - 2
  let scale := 1 <<< q.toNat
  let below := if m = fmt.block ∧ fmt.block < rank then 1 else 2
  { low := (4 * m - below) * scale
    value := 4 * m * scale
    high := (4 * m + 2) * scale
    den := 1 <<< (-q).toNat
    closed := m % 2 == 0 }

/--
Whether `digits * 10 ^ exponent` lies in an interval.
-/
def Interval.contains (i : Interval) (d : Decimal) : Bool :=
  let x := d.digits * Nat.pow 10 d.exponent.toNat * i.den
  let scale := Nat.pow 10 (-d.exponent).toNat
  if i.closed then i.low * scale ≤ x && x ≤ i.high * scale
  else i.low * scale < x && x < i.high * scale

/--
The point of the grid `10 ^ e` that stands for the value of an interval, if one of the two points around the
value lies in the interval.
-/
def Interval.pick? (tie : Tie) (i : Interval) (e : Int) : Option Decimal :=
  let num := i.value * Nat.pow 10 (-e).toNat
  let den := i.den * Nat.pow 10 e.toNat
  let floor := num / den
  let below : Decimal := ⟨floor, e⟩
  let above : Decimal := ⟨floor + 1, e⟩
  match 0 < floor && i.contains below, i.contains above with
  | true, false => some below
  | false, true => some above
  | false, false => none
  | true, true =>
    match Ord.compare (2 * (num % den)) den, tie with
    | .lt, _ => some below
    | .gt, _ => some above
    | .eq, .up => some above
    | .eq, .toEven => some (if floor % 2 = 0 then below else above)

def strip (d : Decimal) : Decimal :=
  go d.digits d
where
  go : Nat → Decimal → Decimal
    | 0, d => d
    | fuel + 1, d =>
      if d.digits ≠ 0 ∧ d.digits % 10 = 0 then go fuel ⟨d.digits / 10, d.exponent + 1⟩ else d

/--
The first grid with a point in the interval, among the grids from `10 ^ e` down to `10 ^ (e - fuel)`.
-/
def search (tie : Tie) (i : Interval) : (fuel : Nat) → (e : Int) → Decimal
  | 0, e => ⟨i.value * Nat.pow 10 (-e).toNat / (i.den * Nat.pow 10 e.toNat), e⟩
  | fuel + 1, e => (i.pick? tie e).getD (search tie i fuel (e - 1))

/--
The shortest decimal that reads back as the magnitude of rank `rank`; seventeen digits are enough for every
format of up to 64 bits.
-/
def shortest (fmt : BinaryFormat) (tie : Tie) (rank : Nat) : Decimal :=
  if rank = 0 then ⟨0, 0⟩ else
    let i := Interval.ofRank fmt rank
    strip (search tie i 17 (log10Ratio i.value i.den))

end Decimal
end Triage
