/-!
# Dividing cells among pages

Cells in their order are laid into pages, as many into each as fit; then, from the last page to the
first, cells move to the next page as long as that makes the two more even. Between two pages a cell
may be left out that parts them.
-/
namespace TextMemory.Pages

structure Share (α : Type) where
  cells : List α
  parting : Option α

structure Division (α : Type) where
  weight : α → Nat
  room : Nat
  parted : Bool

namespace Division

variable {α : Type}

def load (d : Division α) (cells : List α) : Nat := cells.foldl (fun n c => n + d.weight c) 0

def onto (a : α) : List (Share α) → List (Share α)
  | [] => [⟨[a], none⟩]
  | s :: rest => { s with cells := a :: s.cells } :: rest

def packed (d : Division α) : Nat → List α → List (Share α)
  | _, [] => [⟨[], none⟩]
  | left, a :: as =>
    if d.weight a ≤ left then onto a (d.packed (left - d.weight a) as)
    else if d.parted then ⟨[], some a⟩ :: d.packed d.room as
    else ⟨[], none⟩ :: onto a (d.packed (d.room - d.weight a) as)

def shift (d : Division α) (slack : Nat) :
    Nat → Nat → List α → Option α → List α → Share α × List α
  | _, _, [], parting, after => (⟨[], parting⟩, after)
  | before, load, r :: rs, parting, after =>
    let moved := parting.getD r
    if load ≠ 0 ∧ before + slack < load + d.weight moved + d.weight r then
      (⟨(r :: rs).reverse, parting⟩, after)
    else
      d.shift slack (before - d.weight r) (load + d.weight moved) rs (parting.map fun _ => r)
        (moved :: after)

def evened (d : Division α) : List (Share α) → List (Share α)
  | [] => []
  | s :: rest =>
    match d.evened rest with
    | [] => [s]
    | next :: more =>
      let (s, cells) := d.shift (if more.isEmpty then 2 else 0) (d.load s.cells)
        (d.load next.cells) s.cells.reverse s.parting next.cells
      s :: { next with cells := cells } :: more

def divide (d : Division α) (cells : List α) : List (Share α) := d.evened (d.packed d.room cells)

end Division
end TextMemory.Pages
