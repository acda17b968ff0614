import TextMemory.Binary64

/-!
# Numbers of sixty-four binary digits

Magnitudes `digits * 2 ^ place` that carry eleven binary digits more than binary64. Each operation
is exact and then rounded to sixty-four digits, a half to the even one; the place is not limited.
-/
namespace TextMemory

structure Extended where
  digits : Nat
  place : Int
deriving DecidableEq, Repr

namespace Extended

def ratio (x : Extended) : Nat × Nat :=
  if 0 ≤ x.place then (x.digits * Nat.pow 2 x.place.toNat, 1)
  else (x.digits, Nat.pow 2 (-x.place).toNat)

def nearest (num den : Nat) : Extended :=
  if num = 0 then ⟨0, 0⟩
  else
    let q : Int := (num.log2 : Int) - den.log2 - 63
    let (a, b) := Binary64.scaled num den q
    let q := if a / b < Nat.pow 2 63 then q - 1 else q
    let (a, b) := Binary64.scaled num den q
    ⟨Binary64.roundDiv a b, q⟩

def ofFloat (x : Float) : Extended :=
  let (m, q) := Binary64.parts (Binary64.magnitude x)
  ⟨m, q⟩

def toFloat (x : Extended) : Float :=
  let (a, b) := x.ratio
  Binary64.ofMagnitude false (Binary64.nearest a b)

def add (x y : Extended) : Extended :=
  let (a, b) := x.ratio
  let (c, d) := y.ratio
  nearest (a * d + c * b) (b * d)

def mul (x y : Extended) : Extended :=
  let (a, b) := x.ratio
  let (c, d) := y.ratio
  nearest (a * c) (b * d)

def div (x y : Extended) : Extended :=
  let (a, b) := x.ratio
  let (c, d) := y.ratio
  nearest (a * d) (b * c)

def atMost (x y : Extended) : Bool :=
  let (a, b) := x.ratio
  let (c, d) := y.ratio
  a * d ≤ c * b

def floor (x : Extended) : Nat :=
  let (a, b) := x.ratio
  a / b

def fraction (x : Extended) : Extended :=
  let (a, b) := x.ratio
  nearest (a % b) b

end Extended
end TextMemory
