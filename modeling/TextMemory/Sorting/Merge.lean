import TextMemory.Sorting.Search

/-!
# Merging two sorted lists

Elements are taken one by one from the list whose front comes first, until one list has won often in
a row; then whole stretches of either list are taken, until the stretches become short. The shorter
list is the one that is merged into the other, from the left or from the right.
-/
namespace TextMemory.Sorting

variable {α : Type}

structure Fronts (α : Type) where
  second : α → α → Bool
  skipFirst : List α → α → Nat
  skipSecond : α → List α → Nat
  settled : List α → List α → Bool

inductive Phase
  | compare (first second : Nat)
  | skipFirst
  | moveSecond (first : Nat)
  | skipSecond (first : Nat)
  | moveFirst (first second : Nat)
  | judge (first second : Nat)

structure Merge (α : Type) where
  done : List α
  first : List α
  second : List α
  patience : Nat

def longStretch : Nat := 7

namespace Merge

def takeFirst (n : Nat) (m : Merge α) : Merge α :=
  { m with done := (m.first.take n).reverse ++ m.done, first := m.first.drop n }

def takeSecond (n : Nat) (m : Merge α) : Merge α :=
  { m with done := (m.second.take n).reverse ++ m.done, second := m.second.drop n }

def step (f : Fronts α) (m : Merge α) : Phase → Merge α × Phase
  | .compare first second =>
    match m.first, m.second with
    | x :: _, y :: _ =>
      if f.second x y then
        (m.takeSecond 1, if m.patience ≤ second + 1 then .skipFirst else .compare 0 (second + 1))
      else (m.takeFirst 1, if m.patience ≤ first + 1 then .skipFirst else .compare (first + 1) 0)
    | _, _ => (m, .compare 0 0)
  | .skipFirst =>
    let n := (m.second.head?.map (f.skipFirst m.first)).getD 0
    (m.takeFirst n, .moveSecond n)
  | .moveSecond n => (m.takeSecond 1, .skipSecond n)
  | .skipSecond k =>
    let n := (m.first.head?.map fun x => f.skipSecond x m.second).getD 0
    (m.takeSecond n, .moveFirst k n)
  | .moveFirst k n => (m.takeFirst 1, .judge k n)
  | .judge k n =>
    if longStretch ≤ k || longStretch ≤ n then
      ({ m with patience := max 1 (m.patience - 1) }, .skipFirst)
    else ({ m with patience := m.patience + 1 }, .compare 0 0)

def run (f : Fronts α) : Nat → Merge α → Phase → Merge α
  | 0, m, _ => m
  | fuel + 1, m, p =>
    if f.settled m.first m.second then m
    else
      let (m, p) := m.step f p
      run f fuel m p

def finish (f : Fronts α) (m : Merge α) : Merge α :=
  run f (4 * (m.first.length + m.second.length)) m (.compare 0 0)

end Merge

def holdsAt (p : α → Bool) (xs : Array α) (i : Nat) : Bool := (xs[i]?.map p).getD false

def rightOf (less : α → α → Bool) (x : α) (xs : List α) (hint : Nat) : Nat :=
  gallop (holdsAt (fun y => !less x y) xs.toArray) xs.length hint

def leftOf (less : α → α → Bool) (x : α) (xs : List α) (hint : Nat) : Nat :=
  gallop (holdsAt (fun y => less y x) xs.toArray) xs.length hint

def fromLeft (less : α → α → Bool) : Fronts α where
  second x y := less y x
  skipFirst xs y := rightOf less y xs 0
  skipSecond x ys := leftOf less x ys 0
  settled xs ys := xs.length ≤ 1 || ys.isEmpty

def fromRight (less : α → α → Bool) : Fronts α where
  second x y := !less y x
  skipFirst xs y := xs.length - rightOf less y xs.reverse (xs.length - 1)
  skipSecond x ys := ys.length - leftOf less x ys.reverse (ys.length - 1)
  settled xs ys := ys.length ≤ 1 || xs.isEmpty

/-- Two sorted lists merged, and the patience after it. What the first list has before the second
one's front stays where it is, and so does what the second list has after the first one's end. -/
def merge (less : α → α → Bool) (xs ys : List α) (patience : Nat) : List α × Nat :=
  let k := (ys.head?.map fun y => rightOf less y xs 0).getD 0
  let front := xs.take k
  let xs := xs.drop k
  let n := (xs.getLast?.map fun x => leftOf less x ys (ys.length - 1)).getD 0
  let back := ys.drop n
  let ys := ys.take n
  if xs.isEmpty || ys.isEmpty then (front ++ xs ++ ys ++ back, patience)
  else if xs.length ≤ ys.length then
    let m := Merge.finish (fromLeft less) (Merge.takeSecond 1 ⟨[], xs, ys, patience⟩)
    (front ++ m.done.reverse ++ m.second ++ m.first ++ back, m.patience)
  else
    let start : Merge α := ⟨[], xs.reverse, ys.reverse, patience⟩
    let m := Merge.finish (fromRight less) (start.takeFirst 1)
    (front ++ m.second.reverse ++ m.first.reverse ++ m.done ++ back, m.patience)

end TextMemory.Sorting
