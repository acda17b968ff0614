import TextMemory.Decimal.Basic

/-!
# The fewest digits that read back

A number is written with the fewest digits whose nearest number is the one written, and of those the
closest to it. The search goes through the grids of 1, 2, 3, ... digits and tries the two neighbours
of the value on each.
-/
namespace TextMemory.Decimal

def above (num den : Nat) : Int :=
  ((num.log2 : Int) - den.log2 + 1) * 30103 / 100000 + 2

def onGrid (bits num den : Nat) (e : Int) : Option Decimal :=
  let (a, b) :=
    if 0 ≤ e then (num, den * Nat.pow 10 e.toNat) else (num * Nat.pow 10 (-e).toNat, den)
  let low : Decimal := ⟨a / b, e⟩
  let high : Decimal := ⟨a / b + 1, e⟩
  let nearLow := 2 * a < (2 * (a / b) + 1) * b ||
    (2 * a == (2 * (a / b) + 1) * b && a / b % 2 == 0)
  if nearLow && low.nearestBits = bits then some low
  else if high.nearestBits = bits then some high
  else if low.nearestBits = bits then some low
  else none

def searchGrids (bits num den : Nat) : Nat → Int → Option Decimal
  | 0, _ => none
  | fuel + 1, e =>
    match onGrid bits num den e with
    | some d => some d
    | none => searchGrids bits num den fuel (e - 1)

def exact (bits : Nat) : Decimal :=
  let (m, q) := Binary64.parts bits
  if 0 ≤ q then ⟨m * Nat.pow 2 q.toNat, 0⟩ else ⟨m * Nat.pow 5 (-q).toNat, q⟩

def shortest (bits : Nat) : Decimal :=
  if bits = 0 then ⟨0, 0⟩
  else
    let (num, den) := Binary64.ratio bits
    ((searchGrids bits num den 21 (above num den - 1)).getD (exact bits)).trimmed 400

end TextMemory.Decimal
