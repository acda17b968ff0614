import TextMemory.Fault
import TextMemory.Decimal.Written

/-!
# Numbers

A number is an integer of any size or a binary64 value; the two are kept apart because text and
division tell them apart.
-/
namespace TextMemory

inductive Number
  | int (n : Int)
  | float (x : Float)
deriving DecidableEq, Repr

namespace Number

def toFloat : Number → Except Fault Float
  | .float x => .ok x
  | .int n =>
    match Binary64.ofInt? n with
    | some x => .ok x
    | none => .error .integerTooLarge

def text : Number → String
  | .int n => toString n
  | .float x => naturalText ("inf", "nan") x

/-- A number over a natural: exact and then rounded for an integer. -/
def dividedBy : Number → Nat → Except Fault Float
  | .float x, n =>
    match Binary64.ofInt? n with
    | some y => .ok (x / y)
    | none => .error .integerTooLarge
  | .int m, n =>
    match Binary64.ofQuotient? m n with
    | some y => .ok y
    | none => .error .quotientTooLarge

def ratio? : Number → Option (Int × Nat)
  | .int n => some (n, 1)
  | .float x =>
    if Binary64.infinityBits ≤ Binary64.magnitude x then none
    else
      let (a, b) := Binary64.ratio (Binary64.magnitude x)
      some (if Binary64.isNegative x then -(a : Int) else a, b)

def atMost (x y : Number) : Bool :=
  match x, y, x.ratio?, y.ratio? with
  | _, _, some (a, b), some (c, d) => a * d ≤ c * b
  | .float x, .float y, _, _ => x ≤ y
  | .float x, _, none, _ => Binary64.isNegative x
  | _, .float y, _, _ => !Binary64.isNegative y
  | _, _, _, _ => true

def isFinite : Number → Bool
  | .int _ => true
  | .float x => Binary64.magnitude x < Binary64.infinityBits

def canonical : Number → Number
  | .int n => .int n
  | .float x =>
    let n := Binary64.truncate x
    if Binary64.magnitude x < Binary64.infinityBits && Float.ofInt n == x then .int n else .float x

end Number
end TextMemory
