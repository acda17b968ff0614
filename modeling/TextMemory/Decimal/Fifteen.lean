import TextMemory.Decimal.Written
import TextMemory.Extended

/-!
# Fifteen digits

A number is written with at most fifteen significant digits, computed in numbers of sixty-four
binary digits: it is divided by a power of ten so that one digit stands before the point, five units
of the sixteenth digit are added, and the digits are split off one by one. The last digit can
therefore differ from the nearest decimal's.
-/
namespace TextMemory.Fifteen

def ten : Extended := Extended.ofFloat 10

def climb (step : Extended) (size : Int) (x : Extended) : Nat → Extended × Int → Extended × Int
  | 0, s => s
  | fuel + 1, (scale, e) =>
    let next := step.mul scale
    if next.atMost x then climb step size x fuel (next, e + size) else (scale, e)

/-- A number below `bound` multiplied by `step` until it is not, at most `fuel` times; each step
takes `size` from the exponent of ten. -/
def lift (bound step : Extended) (size : Int) : Nat → Extended × Int → Extended × Int
  | 0, s => s
  | fuel + 1, (x, e) =>
    if bound.atMost x then (x, e) else lift bound step size fuel (x.mul step, e - size)

def normalized (x : Extended) : Extended × Int :=
  let one := Extended.ofFloat 1
  let s := climb (Extended.ofFloat 1e100) 100 x 4 (one, 0)
  let s := climb (Extended.ofFloat 1e10) 10 x 10 s
  let (scale, e) := climb ten 1 x 10 s
  let s := lift (Extended.ofFloat 1e-8) (Extended.ofFloat 1e8) 8 50 (x.div scale, e)
  lift one ten 1 10 s

def halfUnit : Extended := Extended.ofFloat (5.0e-05 * 1.0e-10)

def rounded (x : Extended × Int) : Extended × Int :=
  let y := x.1.add halfUnit
  if ten.atMost y then (y.mul (Extended.ofFloat 0.1), x.2 + 1) else (y, x.2)

def digits : Nat → Extended → List Char
  | 0, _ => []
  | n + 1, x => Nat.digitChar x.floor :: digits n (x.fraction.mul ten)

def trimmed (ds : List Char) : List Char :=
  ds.take 1 ++ ((ds.drop 1).reverse.dropWhile (· == '0')).reverse

def significant (x : Float) : List Char × Int :=
  let (y, e) := rounded (normalized (Extended.ofFloat x))
  (trimmed (digits 15 y), e + 1)

def scientificPoint (ds : List Char) (point : Int) : List Char :=
  scientific (if ds.length ≤ 1 then ds ++ ['0'] else ds) point

def chars (x : Float) : List Char :=
  if Binary64.magnitude x = 0 then "0.0".toList
  else
    let (ds, point) := significant x
    signChars x ++
      if -4 < point ∧ point ≤ 15 then positional ds point else scientificPoint ds point

end TextMemory.Fifteen
