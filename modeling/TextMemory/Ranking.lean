import TextMemory.Scalar
import TextMemory.Sorting.Runs

/-!
# Merging two rankings

Each ranking gives the result at position i a share `weight / (k + i + 1)`. Results are told apart
by source and index; one that occurs more than once gets the sum of its shares and keeps the form
in which it was first seen. The merged ranking goes from the highest sum to the lowest, equal sums
in the order in which they were first seen.
-/
namespace TextMemory

structure Hit where
  content : String
  source : String
  title : Option String
  index : Json
  score : Float
deriving Repr

namespace Ranking

structure Scoring (W S : Type) where
  share : W → Nat → Except Fault S
  add : S → S → S
  less : S → S → Bool
  /-- Scores that differ from all scores; no order places them. -/
  unordered : S → Bool

def binary64 : Scoring Number Float where
  share := Number.dividedBy
  add := (· + ·)
  less x y := x < y
  unordered x := x != x

abbrev Key := String × Option Scalar

/-- An index as a scalar: a truth value counts as one or zero, and null is none. -/
def scalarOf : Json → Option Scalar
  | .bool b => some (.int (if b then 1 else 0))
  | .number n => some (.number n.canonical)
  | .string s => some (.text s)
  | _ => none

def key (h : Hit) : Key := (h.source, scalarOf h.index)

def checkIndex (h : Hit) : Except Fault Unit :=
  match h.index with
  | .array _ | .object _ => .error (.unhashable h.index.kind)
  | _ => .ok ()

variable {W S : Type}

def credit (add : S → S → S) (h : Hit) (share : S) : List (Hit × S) → List (Hit × S)
  | [] => [(h, share)]
  | e :: es => if key e.1 = key h then (e.1, add e.2 share) :: es else e :: credit add h share es

def collect (sc : Scoring W S) (weight : W) (k : Nat) :
    Nat → List Hit → List (Hit × S) → Except Fault (List (Hit × S))
  | _, [], seen => .ok seen
  | i, h :: hs, seen => do
    let s ← sc.share weight (k + i + 1)
    collect sc weight k (i + 1) hs (credit sc.add h s seen)

/-- From the highest score to the lowest, equal scores in their order. -/
def ordered (sc : Scoring W S) (es : List (Hit × S)) : List (Hit × S) :=
  if es.any fun e => sc.unordered e.2 then
    (Sorting.sort (fun a b => sc.less a.2 b.2) es.reverse).reverse
  else es.mergeSort fun a b => !sc.less a.2 b.2

def fuseWith (sc : Scoring W S) (first second : W × List Hit) (k limit : Int) :
    Except Fault (List (Hit × S)) :=
  if k < 0 then .error (.rankConstant k)
  else if limit ≤ 0 then .ok []
  else do
    let seen ← collect sc first.1 k.toNat 0 first.2 []
    let seen ← collect sc second.1 k.toNat 0 second.2 seen
    return (ordered sc seen).take limit.toNat

def fuse (vector keyword : Number × List Hit) (k limit : Int) : Except Fault (List Hit) := do
  let es ← fuseWith binary64 vector keyword k limit
  if 0 < limit then (vector.2 ++ keyword.2).forM checkIndex
  return es.map fun e => { e.1 with score := e.2 }

end Ranking
end TextMemory
