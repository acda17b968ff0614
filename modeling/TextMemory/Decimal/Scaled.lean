import TextMemory.Extended
import TextMemory.Settings.Literal

/-!
# Decimals in sixty-four binary digits

The first digits of a decimal form an integer below two to the sixty-third, which is multiplied or
divided by a power of ten. Power and result are rounded to sixty-four binary digits before the
result is rounded to binary64, so that it can differ from the number nearest to the decimal.
-/
namespace TextMemory.Scaled

def digitRoom : Nat := 922337203685477579

def tenfoldRoom : Nat := 922337203685477580

def gather (n : Nat) : List Char → Nat × List Char
  | [] => (n, [])
  | c :: cs =>
    if n < digitRoom then gather (10 * n + (c.toNat - '0'.toNat)) cs else (n, c :: cs)

/-- The power of ten that digits name; once it has come to 10000, a further digit makes it that. -/
def powerOf (ds : List Char) : Nat :=
  ds.foldl (fun e c => if e < 10000 then 10 * e + (c.toNat - '0'.toNat) else 10000) 0

def raise : Nat → Nat → Nat × Nat
  | n, 0 => (n, 0)
  | n, e + 1 => if n < tenfoldRoom then raise (10 * n) e else (n, e + 1)

def lower : Nat → Nat → Nat × Nat
  | n, 0 => (n, 0)
  | n, e + 1 => if n % 10 = 0 then lower (n / 10) e else (n, e + 1)

def timesPower (square product : Extended) (e : Nat) : Extended :=
  let product := if e % 2 = 1 then product.mul square else product
  if _ : e / 2 = 0 then product else timesPower (square.mul square) product (e / 2)
termination_by e

def powerOfTen (e : Nat) : Extended := timesPower (Extended.nearest 10 1) (Extended.nearest 1 1) e

/-- An integer times or over ten to a power. A power above 307 is applied in two steps, and one of
342 or more leads out of range. -/
def apply (f : Extended → Extended → Extended) (g : Float → Float → Float) (beyond : Float)
    (n e : Nat) : Float :=
  let x := Extended.nearest n 1
  if e = 0 then x.toFloat
  else if e ≤ 307 then (f x (powerOfTen e)).toFloat
  else if e < 342 then g (f x (powerOfTen (e - 308))).toFloat 1e308
  else beyond

def value (n : Nat) (e : Int) : Float :=
  if n = 0 then 0
  else if 0 ≤ e then
    let (n, e) := raise n e.toNat
    apply Extended.mul (· * ·) (1.0 / 0.0) n e
  else
    let (n, e) := lower n (-e).toNat
    apply Extended.div (· / ·) 0 n e

def read (whole places : List Char) (power : Int) : Float :=
  let (n, left) := gather 0 whole
  let (n, left') := gather n places
  value n (power + left.length - (places.length - left'.length : Nat))

end TextMemory.Scaled
