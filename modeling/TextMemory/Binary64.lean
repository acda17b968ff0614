/-!
# Rounding to binary64

A quotient of naturals is rounded to the nearest of the magnitudes m * 2 ^ q that sixty-four bits
hold, a half to the even one. All arithmetic is exact; a magnitude is named by its bits without the
sign, so that greater magnitudes have greater bits.
-/
namespace TextMemory.Binary64

def roundDiv (num den : Nat) : Nat :=
  let q := num / den
  let r := num % den
  if 2 * r < den then q else if den < 2 * r then q + 1 else q + q % 2

def infinityBits : Nat := 0x7FF0000000000000

def parts (bits : Nat) : Nat × Int :=
  let e : Nat := bits / Nat.pow 2 52
  if e = 0 then (bits, -1074) else (Nat.pow 2 52 + bits % Nat.pow 2 52, (e : Int) - 1075)

def scaled (num den : Nat) (q : Int) : Nat × Nat :=
  if 0 ≤ q then (num, den * Nat.pow 2 q.toNat) else (num * Nat.pow 2 (-q).toNat, den)

def lastPlace (num den : Nat) : Int :=
  let q : Int := (num.log2 : Int) - den.log2 - 52
  let (a, b) := scaled num den q
  max (if a / b < Nat.pow 2 52 then q - 1 else q) (-1074)

/-- Bits of the magnitude nearest to `num / den`; `infinityBits` or more when it is out of range. A
carry out of the last place moves on into the exponent by itself. -/
def nearest (num den : Nat) : Nat :=
  if num = 0 then 0
  else
    let q := lastPlace num den
    let (a, b) := scaled num den q
    (q + 1074).toNat * Nat.pow 2 52 + roundDiv a b

def ofMagnitude (negative : Bool) (bits : Nat) : Float :=
  Float.ofBits (UInt64.ofNat (min bits infinityBits + if negative then Nat.pow 2 63 else 0))

def isNegative (x : Float) : Bool := Nat.pow 2 63 ≤ x.toBits.toNat

def magnitude (x : Float) : Nat := x.toBits.toNat % Nat.pow 2 63

def ratio (bits : Nat) : Nat × Nat :=
  let (m, q) := parts bits
  if 0 ≤ q then (m * Nat.pow 2 q.toNat, 1) else (m, Nat.pow 2 (-q).toNat)

def ofInt? (n : Int) : Option Float :=
  let bits := nearest n.natAbs 1
  if infinityBits ≤ bits then none else some (ofMagnitude (n < 0) bits)

def ofQuotient? (num den : Int) : Option Float :=
  let bits := nearest num.natAbs den.natAbs
  if infinityBits ≤ bits then none
  else some (ofMagnitude (num != 0 && (num < 0) != (den < 0)) bits)

def truncate (x : Float) : Int :=
  let (a, b) := ratio (magnitude x)
  if isNegative x then -((a / b : Nat) : Int) else ((a / b : Nat) : Int)

end TextMemory.Binary64
