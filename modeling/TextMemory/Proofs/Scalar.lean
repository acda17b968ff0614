import TextMemory.Proofs.FloatRange
import TextMemory.Proofs.Result
import TextMemory.Store.Cell

/-!
# The order of a column

All numbers but NaN stand in one order: finite ones at their exact values, infinite ones at the
ends. What a column of integers keeps is such a number or a text, and texts stand behind the
numbers, so the column can be sorted.
-/
namespace TextMemory

namespace Number

open Binary64

def Placed : Number → Prop
  | .int _ => True
  | .float x => magnitude x ≤ infinityBits

def place (x : Number) : WithBot (WithTop ℚ) :=
  match x.ratio? with
  | some (a, b) => ((a / b : ℚ) : WithTop ℚ)
  | none => if x.atMost (.int 0) then ⊥ else ⊤

theorem Placed.cases {x : Number} (h : x.Placed) :
    x.isFinite = true ∨ x = .float (1.0 / 0.0) ∨ x = .float (-1.0 / 0.0) := by
  cases x with
  | int n => exact .inl rfl
  | float x =>
    rcases Nat.lt_or_eq_of_le (show magnitude x ≤ infinityBits from h) with hless | hsame
    · exact .inl (decide_eq_true hless)
    · right
      rw [← ofMagnitude_magnitude h, hsame]
      cases isNegative x with
      | false => exact .inl (congrArg Number.float ofMagnitude_infinity)
      | true => exact .inr (congrArg Number.float ofMagnitude_neg_infinity)

section

variable {x y z : Number}

end
end Number

namespace Scalar

def Placed : Scalar → Prop
  | .number n => n.Placed
  | .text _ => True

section

variable {x y z : Scalar}

/-- One index is less than another: it is at most as great, and no other form of it. -/
def Below (x y : Scalar) : Prop := x.atMost y = true ∧ x.canonical ≠ y.canonical

end
end Scalar

namespace Scaled

open FloatOrder

end Scaled

namespace Cell

open Binary64 FloatOrder

end Cell
end TextMemory
