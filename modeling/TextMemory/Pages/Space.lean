/-!
# The pages of a file

A file of pages grows at its end. Pages that are no longer needed are kept for later: a free page is
a trunk, or a leaf that a trunk lists. The newest trunk takes leaves until it is full, and gives
them back before it is itself given.
-/
namespace TextMemory.Pages

def pageSize : Nat := 4096

structure Trunk where
  page : Nat
  leaves : List Nat
deriving DecidableEq, Repr

structure Space where
  size : Nat
  trunks : List Trunk
deriving DecidableEq, Repr

namespace Space

def freeCount (s : Space) : Nat := s.trunks.foldl (fun n t => n + t.leaves.length + 1) 0

def trunkRoom : Nat := pageSize / 4 - 8

def distance (a b : Nat) : Nat := (a - b) + (b - a)

def nearest (near : Nat) (first : Nat) (leaves : List Nat) : Nat :=
  if near = 0 then first
  else leaves.foldl (fun best l => if distance l near < distance best near then l else best) first

def without (leaf : Nat) (leaves : List Nat) : List Nat :=
  match leaves.getLast? with
  | none => []
  | some last => leaves.dropLast.map fun l => if l = leaf then last else l

end Space

/-- A page for use, near to another one if there is a choice. -/
def take (near : Nat) : StateM Space Nat := fun s =>
  match s.trunks with
  | [] => (s.size + 1, { s with size := s.size + 1 })
  | ⟨page, []⟩ :: rest => (page, { s with trunks := rest })
  | ⟨page, l :: ls⟩ :: rest =>
    let leaf := Space.nearest near l ls
    (leaf, { s with trunks := ⟨page, Space.without leaf (l :: ls)⟩ :: rest })

def takeMany : Nat → Nat → StateM Space (List Nat)
  | 0, _ => return []
  | n + 1, near => do
    let page ← take near
    return page :: (← takeMany n page)

def give (page : Nat) : StateM Space Unit := fun s =>
  match s.trunks with
  | t :: rest =>
    if t.leaves.length < Space.trunkRoom then
      ((), { s with trunks := { t with leaves := t.leaves ++ [page] } :: rest })
    else ((), { s with trunks := ⟨page, []⟩ :: t :: rest })
  | [] => ((), { s with trunks := [⟨page, []⟩] })

end TextMemory.Pages
