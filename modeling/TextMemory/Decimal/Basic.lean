import TextMemory.Binary64

/-!
# Decimal values

A decimal `digits * 10 ^ exponent` and the binary64 number nearest to it.
-/
namespace TextMemory

structure Decimal where
  digits : Nat
  exponent : Int
deriving DecidableEq, Repr

namespace Decimal

def ratio (d : Decimal) : Nat × Nat :=
  if 0 ≤ d.exponent then (d.digits * Nat.pow 10 d.exponent.toNat, 1)
  else (d.digits, Nat.pow 10 (-d.exponent).toNat)

/-- Bits of the nearest magnitude. Exponents far outside the range are settled before the powers are
formed. -/
def nearestBits (d : Decimal) : Nat :=
  if d.digits = 0 then 0
  else if 400 < d.exponent then Binary64.infinityBits
  else if d.exponent + d.digits.log2 < -400 then 0
  else
    let (num, den) := d.ratio
    Binary64.nearest num den

def toFloat (negative : Bool) (d : Decimal) : Float :=
  Binary64.ofMagnitude negative d.nearestBits

def trimmed : Nat → Decimal → Decimal
  | 0, d => d
  | fuel + 1, d =>
    if d.digits = 0 || d.digits % 10 != 0 then d
    else trimmed fuel ⟨d.digits / 10, d.exponent + 1⟩

end Decimal

def decimalChars (n : Nat) : List Char := Nat.toDigits 10 n

def ofDigits (ds : List Nat) : Nat := ds.foldl (fun n d => 10 * n + d) 0

end TextMemory
