import TextMemory.Settings.Literal
import TextMemory.Similarity
import TextMemory.Store.Embedding

/-!
# Grids of numbers

Lists in lists form a grid if all lists of one depth have one length and all single values lie at
one depth. What a row keeps as its embedding may be any JSON, so the rows together may form a grid
of any shape or none; distances are taken in a grid of rows and columns.
-/
namespace TextMemory

structure Outline where
  lengths : List Nat
  settled : Bool
  ragged : Bool
deriving DecidableEq, Repr

namespace Outline

def deepest : Nat := 64

def cut (o : Outline) (depth : Nat) : Outline :=
  { o with lengths := o.lengths.take depth, ragged := true }

def meet (o : Outline) (depth : Nat) : Outline :=
  if !o.settled then { o with settled := true }
  else if o.lengths.length = depth then o
  else o.cut depth

def enter (o : Outline) (depth length : Nat) : Outline × Bool :=
  if o.settled then if o.lengths[depth]? = some length then (o, true) else (o.cut depth, false)
  else if depth = deepest then ({ o with settled := true, ragged := true }, false)
  else ({ o with lengths := o.lengths ++ [length], settled := length = 0 }, true)

mutual

def visit (depth : Nat) (o : Outline) : Json → Outline
  | .array items =>
    let (o, inside) := o.enter depth items.length
    if inside then visitAll (depth + 1) o items else o
  | _ => o.meet depth

def visitAll (depth : Nat) (o : Outline) : List Json → Outline
  | [] => o
  | v :: vs => visitAll depth (visit depth o v) vs

end

end Outline

structure Grid where
  shape : List Nat
  rows : List (List Float)

namespace Grid

def shapeOf (rows : List Json) : Except Fault (List Nat) :=
  let o := Outline.visit 0 ⟨[], false, false⟩ (.array rows)
  if !o.ragged then .ok o.lengths
  else if o.lengths.length = Outline.deepest then .error (.deepGrid Outline.deepest)
  else .error (.raggedGrid o.lengths)

def component : Json → Except Fault Float
  | .number n => n.toFloat
  | .bool b => .ok (if b then 1 else 0)
  | .null => .ok (0.0 / 0.0)
  | .string s =>
    match Literal.float? s with
    | some x => .ok x
    | none => .error (.numberText s)
  | v => .error (.numberKind v.kind)

mutual

def leaves : Json → List Json
  | .array items => allLeaves items
  | v => [v]

def allLeaves : List Json → List Json
  | [] => []
  | v :: vs => leaves v ++ allLeaves vs

end

def read (rows : List Json) : Except Fault Grid := do
  let shape ← shapeOf rows
  return ⟨shape, ← rows.mapM fun r => (leaves r).mapM component⟩

def fit (xs ys : List Nat) : Bool :=
  (xs.reverse.zip ys.reverse).all fun (x, y) => x = y || x = 1 || y = 1

/-- The distance of each row from a query, in a grid of rows and columns. A deeper grid has
lengths for its second depth, and products for its last one, which need not fit. -/
def distances [Numerics] (g : Grid) (query : List Float) : Except Fault (List Float) :=
  match g.shape with
  | rows :: columns :: deeper =>
    let width := (columns :: deeper).getLast (by simp)
    if width ≠ query.length then .error (.vectorWidth width query.length)
    else if deeper.isEmpty then .ok (Similarity.distances g.rows query)
    else
      let products := (rows :: columns :: deeper).dropLast
      if fit products (rows :: deeper) then .error .deepDistances
      else .error (.shapes products (rows :: deeper))
  | _ => .error .flatGrid

end Grid
end TextMemory
