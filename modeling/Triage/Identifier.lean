/-!
This module contains the ids of runs: sixteen bytes, all but six bits of them at random, in hexadecimal digits with
dashes between some of them.
-/

namespace Triage
namespace Identifier

def digits (b : UInt8) : List Char :=
  let two := Nat.toDigits 16 b.toNat
  List.replicate (2 - two.length) '0' ++ two

/--
The bytes with the marks of a random id: four bits of the seventh and two bits of the ninth byte are fixed.
-/
def marked (bytes : List UInt8) : List UInt8 :=
  bytes.mapIdx fun i b => if i = 6 then b % 16 + 64 else if i = 8 then b % 64 + 128 else b

def ofBytes (bytes : List UInt8) : String :=
  String.ofList ((marked bytes).mapIdx fun i b =>
    if i = 4 ∨ i = 6 ∨ i = 8 ∨ i = 10 then '-' :: digits b else digits b).flatten

end Identifier
end Triage
