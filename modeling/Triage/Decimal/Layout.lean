import Triage.Decimal.Shortest

/-!
This module contains the layouts of decimals: where positional notation ends, and what a whole number and
an exponent look like.
-/

namespace Triage
namespace Decimal

/--
How a decimal is written.
-/
structure Layout where
  /-- The exponents of ten of the leading digit that are written positionally; all if there is none. -/
  positional : Option (Int × Int)
  /-- Whether a positional whole number ends in `.0`. -/
  pointZero : Bool
  /-- How a tie between two shortest decimals is decided. -/
  tie : Tie
  /-- What stands for infinity and for `nan`. -/
  infinityText : String
  nanText : String

/--
The digits of `d`, leading digit first.
-/
def digitChars (d : Decimal) : List Char :=
  Nat.toDigits 10 d.digits

/--
The exponent of ten of the leading digit.
-/
def leading (d : Decimal) : Int :=
  d.exponent + (d.digitChars.length : Int) - 1

def positionalChars (pointZero : Bool) (d : Decimal) : List Char :=
  let cs := d.digitChars
  let point : Int := d.leading + 1
  if 0 ≤ d.exponent then
    cs ++ List.replicate d.exponent.toNat '0' ++ (if pointZero then ['.', '0'] else [])
  else if 0 < point then
    cs.take point.toNat ++ '.' :: cs.drop point.toNat
  else
    '0' :: '.' :: (List.replicate (-point).toNat '0' ++ cs)

/--
A decimal with one digit before the point and an exponent that always has a sign.
-/
def scientificChars (d : Decimal) : List Char :=
  let mantissa :=
    match d.digitChars with
    | [] => []
    | [c] => [c]
    | c :: cs => c :: '.' :: cs
  let sign := if d.leading < 0 then '-' else '+'
  mantissa ++ 'e' :: sign :: Nat.toDigits 10 d.leading.natAbs

def Layout.chars (layout : Layout) (d : Decimal) : List Char :=
  match layout.positional with
  | none => positionalChars layout.pointZero d
  | some (low, high) =>
    if d.digits = 0 ∨ (low ≤ d.leading ∧ d.leading ≤ high) then positionalChars layout.pointZero d
    else scientificChars d

/--
A binary number in a layout: the shortest decimal that reads back as it, after a minus sign if the number
has one.
-/
def Layout.render {fmt : BinaryFormat} (layout : Layout) : Binary fmt → List Char
  | .nan => layout.nanText.toList
  | .signed negative rank _ =>
    let magnitude :=
      if rank < fmt.infinity then layout.chars (shortest fmt layout.tie rank)
      else layout.infinityText.toList
    if negative then '-' :: magnitude else magnitude

def Layout.plain : Layout :=
  { positional := none, pointZero := false, tie := .up, infinityText := "inf", nanText := "NaN" }

end Decimal
end Triage
