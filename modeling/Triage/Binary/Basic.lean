/-!
This module contains binary floating point numbers as exact data: a sign and the rank of the magnitude
among the magnitudes of its format. Order is the order of signed ranks, so that no statement about order
needs arithmetic; arithmetic itself is exact arithmetic on `Int` and `Nat` followed by one rounding.
-/

namespace Triage

/--
A binary interchange format: the bits of its significand, the hidden one included, and the exponents of
two of its smallest and of its largest unit in the last place.
-/
structure BinaryFormat where
  precision : Nat
  least : Int
  greatest : Int
deriving DecidableEq

namespace BinaryFormat

/--
The format of 64 bits.
-/
def double : BinaryFormat := ⟨53, -1074, 971⟩

/--
The format of 32 bits.
-/
def single : BinaryFormat := ⟨24, -149, 104⟩

/--
The number of magnitudes that share one unit in the last place.
-/
def block (fmt : BinaryFormat) : Nat :=
  1 <<< (fmt.precision - 1)

/--
The rank of infinity among the magnitudes: every finite magnitude has a smaller rank.
-/
def infinity (fmt : BinaryFormat) : Nat :=
  ((fmt.greatest - fmt.least).toNat + 2) * fmt.block

end BinaryFormat

/--
A floating point number of the format `fmt`: not a number, or a sign with the rank of a magnitude.
-/
inductive Binary (fmt : BinaryFormat) where
  | nan
  | signed (negative : Bool) (rank : Nat) (bounded : rank ≤ fmt.infinity)
deriving DecidableEq

/--
A floating point number of 64 bits.
-/
abbrev Double := Binary .double

/--
A floating point number of 32 bits.
-/
abbrev Single := Binary .single

namespace Binary

variable {fmt : BinaryFormat}

/--
The number of a sign and a rank; a rank past infinity stands for infinity.
-/
def ofRank (negative : Bool) (rank : Nat) : Binary fmt :=
  .signed negative (min rank fmt.infinity) (Nat.min_le_right ..)

instance : Zero (Binary fmt) := ⟨ofRank false 0⟩

instance : Inhabited (Binary fmt) := ⟨0⟩

def infinite (negative : Bool) : Binary fmt :=
  .signed negative fmt.infinity (Nat.le_refl _)

/--
Whether a number is neither infinite nor `nan`.
-/
def isFinite : Binary fmt → Bool
  | .nan => false
  | .signed _ rank _ => rank < fmt.infinity

/--
Whether a number is `nan`.
-/
def isNaN : Binary fmt → Bool
  | .nan => true
  | .signed .. => false

/--
The rank with its sign, which orders all numbers but `nan`; both zeros have the key zero.
-/
def key? : Binary fmt → Option Int
  | .nan => none
  | .signed negative rank _ => some (if negative then -(rank : Int) else rank)

/--
How two numbers compare; `nan` compares to nothing.
-/
def compare (x y : Binary fmt) : Option Ordering :=
  match x.key?, y.key? with
  | some a, some b => some (Ord.compare a b)
  | _, _ => none

def lt (x y : Binary fmt) : Bool :=
  x.compare y == some .lt

def le (x y : Binary fmt) : Bool :=
  x.compare y == some .lt || x.compare y == some .eq

/--
Equal as numbers: both zeros are equal, and `nan` is equal to nothing.
-/
def eq (x y : Binary fmt) : Bool :=
  x.compare y == some .eq

/--
The larger of two numbers; of `nan` and another operand, the other one.
-/
def max (x y : Binary fmt) : Binary fmt :=
  match x, y with
  | .nan, y => y
  | x, .nan => x
  | x, y => if x.lt y then y else x

def neg : Binary fmt → Binary fmt
  | .nan => .nan
  | .signed negative rank bounded => .signed (!negative) rank bounded

instance : Neg (Binary fmt) := ⟨neg⟩

/--
The significand of the magnitude with rank `rank`, in units in its last place.
-/
def significand (fmt : BinaryFormat) (rank : Nat) : Nat :=
  if rank < fmt.block then rank else fmt.block + rank % fmt.block

/--
The exponent of two of the unit in the last place of the magnitude with rank `rank`.
-/
def exponent (fmt : BinaryFormat) (rank : Nat) : Int :=
  fmt.least + ((rank / fmt.block - 1 : Nat) : Int)

/--
The exact value of a finite number as an integer times a power of two, if it has one.
-/
def scaled? : Binary fmt → Option (Int × Int)
  | .nan => none
  | .signed negative rank _ =>
    if rank < fmt.infinity then
      let m : Int := significand fmt rank
      some (if negative then -m else m, exponent fmt rank)
    else
      none

end Binary
end Triage
