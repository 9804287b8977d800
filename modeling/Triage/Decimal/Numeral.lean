import Triage.Binary.Round

/-!
This module contains decimal numerals as they are written in settings and templates, the floating point
number that is nearest to one.
-/

namespace Triage
namespace Decimal

/--
The parts of a decimal numeral: its sign, all its digits, and the exponent of ten of the last digit.
-/
structure Numeral where
  negative : Bool
  digits : List Char
  exponent : Int

namespace Numeral

def splitDigits (cs : List Char) : List Char × List Char :=
  (cs.takeWhile Char.isDigit, cs.dropWhile Char.isDigit)

def value (digits : List Char) : Nat :=
  digits.foldl (fun n c => n * 10 + (c.toNat - '0'.toNat)) 0

/--
The exponent behind digits: `e` or `E`, a sign if any, and digits.
-/
def exponent? : List Char → Option Int
  | [] => some 0
  | c :: cs =>
    if c = 'e' ∨ c = 'E' then
      let (negative, cs) :=
        match cs with
        | '-' :: cs => (true, cs)
        | '+' :: cs => (false, cs)
        | cs => (false, cs)
      if cs.isEmpty || !cs.all Char.isDigit then none
      else some (if negative then -(value cs : Int) else value cs)
    else none

/--
The numeral of a text: a sign if any, digits with a point in front of, between or behind them if any, and an
exponent if any.
-/
def read? (cs : List Char) : Option Numeral :=
  let (negative, cs) :=
    match cs with
    | '-' :: cs => (true, cs)
    | '+' :: cs => (false, cs)
    | cs => (false, cs)
  let (whole, rest) := splitDigits cs
  let (fraction, rest) :=
    match rest with
    | '.' :: rest => splitDigits rest
    | rest => ([], rest)
  if whole.isEmpty && fraction.isEmpty then none
  else
    (exponent? rest).map fun e =>
      { negative := negative, digits := whole ++ fraction, exponent := e - fraction.length }

/--
The largest exponent of ten whose power is worked out.
-/
def exponentReach (n : Numeral) : Int :=
  400 + n.digits.length

def toDouble (n : Numeral) : Double :=
  let v := value n.digits
  if v = 0 then Binary.ofRank n.negative 0
  else if n.exponentReach < n.exponent then Binary.infinite n.negative
  else if n.exponent < -n.exponentReach then Binary.ofRank n.negative 0
  else Binary.ofRatio n.negative (v * Nat.pow 10 n.exponent.toNat) (Nat.pow 10 (-n.exponent).toNat)

end Numeral

end Decimal
end Triage
