import TextMemory.Number

/-!
# Cosine distance

Vectors are compared by direction: distance 0 for the same, 2 for the opposite one, and 1 where a
vector has no length. The lengths and the products come from a numerical library, which may add the
components in any order and round as it does.
-/
namespace TextMemory

/-- The operations of the numerical library on rows of components, and what is relied on. -/
class Numerics where
  norm : List Float → Float
  norms : List (List Float) → List Float
  products : List (List Float) → List Float → List Float
  length_norms : ∀ rows, (norms rows).length = rows.length
  length_products : ∀ rows query, (products rows query).length = rows.length
  norm_zeros : ∀ x, (∀ c ∈ x, c == 0) → norm x = 0
  norms_zeros : ∀ (rows : List (List Float)) (i : Nat) x, rows[i]? = some x →
    (∀ c ∈ x, c == 0) → (norms rows)[i]? = some 0

namespace Similarity

-- What is no number stays so.
def clip (x : Float) : Float := if x < 0 then 0 else if 2 < x then 2 else x

def distance (size product : Float) : Float :=
  let similarity := if 0 < size then product / size else 0
  clip (1 - similarity)

def distances [Numerics] (rows : List (List Float)) (query : List Float) : List Float :=
  List.zipWith (fun norm product => distance (norm * Numerics.norm query) product)
    (Numerics.norms rows) (Numerics.products rows query)

@[simp] theorem length_distances [Numerics] (rows : List (List Float)) (query : List Float) :
    (distances rows query).length = rows.length := by
  rw [distances, List.length_zipWith, Numerics.length_norms, Numerics.length_products, Nat.min_self]

-- Ascending, and what is no number last.
def before (d e : Float) : Bool := d ≤ e || e != e

def score (d : Float) : Float := 1 - d / 2

def nearestFirst {α : Type} (items : List (α × Float)) : List (α × Float) :=
  items.mergeSort fun a b => before a.2 b.2

end Similarity

namespace Numerics

open Float.Model

theorem unpack_of_zero {c : Float} (h : c == 0) : ∃ sign, c.toModel.unpack = .zero sign := by
  have hbeq : UnpackedFloat.beq c.toModel.unpack (.zero .positive) = true := h
  cases hc : c.toModel.unpack with
  | zero sign => exact ⟨sign, rfl⟩
  | notANumber =>
    rw [hc] at hbeq
    cases hbeq
  | infinity sign | finite sign =>
    rw [hc] at hbeq
    cases sign <;> cases hbeq

theorem mul_self_of_zero {c : Float} (h : c == 0) : c * c = 0 := by
  obtain ⟨sign, hsign⟩ := unpack_of_zero h
  change Float.ofModel (Float.Model.mul c.toModel c.toModel) = 0
  rw [Float.Model.mul, hsign]
  cases sign <;> rfl

def sumProduct (x y : List Float) : Float := (List.zipWith (· * ·) x y).foldl (· + ·) 0

theorem sumProduct_zeros {x : List Float} (h : ∀ c ∈ x, c == 0) : sumProduct x x = 0 := by
  rw [sumProduct, List.zipWith_self]
  induction x with
  | nil => rfl
  | cons c x ih =>
    obtain ⟨hc, hx⟩ := List.forall_mem_cons.mp h
    rw [List.map_cons, List.foldl_cons, mul_self_of_zero hc]
    exact ih hx

instance leftToRight : Numerics where
  norm x := (sumProduct x x).sqrt
  norms rows := rows.map fun x => (sumProduct x x).sqrt
  products rows query := rows.map fun x => sumProduct x query
  length_norms rows := List.length_map _
  length_products rows query := List.length_map _
  norm_zeros x h := by
    rw [sumProduct_zeros h]
    rfl
  norms_zeros rows i x hx h := by
    rw [List.getElem?_map, hx, Option.map_some, sumProduct_zeros h]
    rfl

end Numerics
end TextMemory
