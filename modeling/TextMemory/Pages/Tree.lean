import TextMemory.Pages.Cell
import TextMemory.Pages.Division

/-!
# Trees of pages

A tree keeps cells in the order of their keys. All its leaves have the same distance from the root;
the kids of a node lie between its cells. One kind of tree keeps cells in leaves only, and in the
nodes above them only repeats keys. A node that has become too full, or too empty, is mended: its
cells and those of its neighbours are divided anew among their pages and as many more as it takes.
-/
namespace TextMemory.Pages

structure Node (κ K : Type) where
  page : Nat
  cells : List (Cell κ)
  kids : List K

def Kid (κ : Type) : Nat → Type
  | 0 => Empty
  | h + 1 => Node κ (Kid κ h)

abbrev Level (κ : Type) (h : Nat) : Type := Node κ (Kid κ h)

structure Tree (κ : Type) where
  height : Nat
  root : Level κ height

structure TreeKind (κ : Type) where
  before : κ → κ → Bool
  innerSize : Cell κ → Nat
  /-- whether the nodes above the leaves only repeat keys -/
  repeats : Bool

namespace TreeKind

variable {κ : Type} (k : TreeKind κ)

def weight (h : Nat) (c : Cell κ) : Nat := (if h = 0 then c.size else k.innerSize c) + 2

def room (h : Nat) : Nat := pageSize - if h = 0 then 8 else 12

def load (h : Nat) (cells : List (Cell κ)) : Nat := cells.foldl (fun n c => n + k.weight h c) 0

def isOverfull (h : Nat) (cells : List (Cell κ)) : Bool := room h < k.load h cells

def isSparse (h : Nat) (cells : List (Cell κ)) : Bool :=
  2 * pageSize < 3 * (room h - k.load h cells)

def position (key : κ) (cells : List (Cell κ)) : Nat :=
  (cells.takeWhile fun c => k.before c.key key).length

/-! ## Dividing anew -/

def joined : List (List (Cell κ)) → List (Cell κ) → List (Cell κ)
  | [], _ => []
  | cs :: rest, p :: ps => cs ++ p :: joined rest ps
  | cs :: rest, [] => cs ++ joined rest []

def pagesFor (n : Nat) (pages : List Nat) : StateM Space (List Nat) := do
  let more ← takeMany (n - pages.length) (pages.headD 0)
  return (pages.take n ++ more).mergeSort

def dealt {K : Type} : List (Nat × Share (Cell κ)) → List K → List (Node κ K)
  | [], _ => []
  | (page, s) :: rest, kids =>
    let n := s.cells.length + 1
    ⟨page, s.cells, kids.take n⟩ :: dealt rest (kids.drop n)

def partingOf (repeating : Bool) (s : Share (Cell κ)) : Option (Cell κ) :=
  if repeating then s.cells.getLast?.map fun c => ⟨c.key, 0, []⟩ else s.parting

def neighbours (i last : Nat) : Nat × Nat :=
  if last < 2 then (0, last + 1) else (min (i - 1) (last - 2), 3)

/-- A node whose kid at a place, of height `h`, has been mended together with its neighbours. At the
top a kid that remains alone is dissolved, its page no longer needed. -/
def rebalance {K : Type} (h : Nat) (top : Bool) (n : Node κ (Node κ K)) (i : Nat) :
    StateM Space (Node κ (Node κ K)) := do
  let (first, count) := neighbours i n.cells.length
  let old := (n.kids.drop first).take count
  let partings := (n.cells.drop first).take (count - 1)
  let repeating := k.repeats && h = 0
  let division : Division (Cell κ) := ⟨k.weight h, room h, !repeating⟩
  let shares := division.divide
    (joined (old.map Node.cells) (if repeating then [] else partings))
  let pages ← pagesFor shares.length (old.map Node.page)
  let kids := dealt (pages.zip shares) (old.flatMap Node.kids)
  let cells := n.cells.take first ++ shares.dropLast.filterMap (partingOf repeating) ++
    n.cells.drop (first + count - 1)
  if top && cells.isEmpty then kids.forM fun kid => give kid.page
  (old.drop shares.length).forM fun kid => give kid.page
  return ⟨n.page, cells, n.kids.take first ++ kids ++ n.kids.drop (first + count)⟩

def append {K : Type} (n : Node κ (Node κ K)) (kid : Node κ K) (c : Cell κ) :
    StateM Space (Node κ (Node κ K)) := do
  let page ← take 0
  let rest := kid.cells.dropLast
  let repeated := rest.getLast?.toList.map fun c => ⟨c.key, 0, []⟩
  return ⟨n.page, n.cells ++ repeated,
    n.kids.dropLast ++ [⟨kid.page, rest, kid.kids⟩, ⟨page, [c], []⟩]⟩

def appended? {K : Type} (h : Nat) (new : Option κ) (n : Node κ (Node κ K)) (kid : Node κ K)
    (i : Nat) : Option (Cell κ) :=
  match new, kid.cells.getLast? with
  | some key, some c =>
    if k.repeats && h = 0 && k.isOverfull h kid.cells && i = n.cells.length &&
      !k.before key c.key then some c else none
  | _, _ => none

def mend {K : Type} (h : Nat) (top : Bool) (new : Option κ) (n : Node κ (Node κ K))
    (kid : Node κ K) (i : Nat) : StateM Space (Node κ (Node κ K)) :=
  match k.appended? h new n kid i with
  | some c => append n kid c
  | none => k.rebalance h top n i

def settle {K : Type} (h : Nat) (top : Bool) (new : Option κ) (n : Node κ (Node κ K)) (i : Nat) :
    Node κ K × Bool → StateM Space (Node κ (Node κ K) × Bool)
  | (kid, changed) => do
    let n := { n with kids := n.kids.set i kid }
    if changed && (k.isOverfull h kid.cells || k.isSparse h kid.cells) then
      return (← k.mend h top new n kid i, true)
    else return (n, false)

/-! ## Changes -/

def insertInto (c : Cell κ) :
    (h : Nat) → Bool → Level κ h → StateM Space (Level κ h × Bool)
  | 0, _, n =>
    let i := k.position c.key n.cells
    let cells := n.cells.take i ++ c :: n.cells.drop i
    return ({ n with cells := cells }, k.isOverfull 0 cells)
  | h + 1, top, n =>
    let i := k.position c.key n.cells
    match n.kids[i]? with
    | none => return (n, false)
    | some kid => do k.settle h top (some c.key) n i (← insertInto c h false kid)

def dropLast : (h : Nat) → Level κ h → StateM Space (Option (Cell κ) × Level κ h × Bool)
  | 0, n => return (n.cells.getLast?, { n with cells := n.cells.dropLast }, true)
  | h + 1, n =>
    match n.kids.getLast? with
    | none => return (none, n, false)
    | some kid => do
      let (c, result) ← dropLast h kid
      return (c, ← k.settle h false none n n.cells.length result)

/-- A node without the cell of a key, and whether its own cells have changed. A cell above the
leaves is replaced by the last one before it. -/
def eraseFrom (key : κ) : (h : Nat) → Bool → Level κ h → StateM Space (Level κ h × Bool)
  | 0, _, n => do
    let i := k.position key n.cells
    ((n.cells[i]?.map Cell.spill).getD []).forM give
    return ({ n with cells := n.cells.eraseIdx i }, true)
  | h + 1, top, n =>
    let i := k.position key n.cells
    match n.kids[i]? with
    | none => return (n, false)
    | some kid =>
      match n.cells[i]? with
      | some c =>
        if !k.repeats && !k.before key c.key then do
          c.spill.forM give
          let (last, result) ← k.dropLast h kid
          let n := { n with cells := n.cells.set i (last.getD c) }
          return ((← k.settle h top none n i result).1, true)
        else do k.settle h top none n i (← eraseFrom key h false kid)
      | none => do k.settle h top none n i (← eraseFrom key h false kid)

end TreeKind

namespace Tree

variable {κ : Type}

def blank (κ : Type) (page : Nat) : Tree κ := ⟨0, ⟨page, [], []⟩⟩

def grown (k : TreeKind κ) (new : Option κ) (t : Tree κ) : StateM Space (Tree κ) := do
  if k.isOverfull t.height t.root.cells then
    let page ← take t.root.page
    let kid : Level κ t.height := { t.root with page := page }
    let root ← k.mend t.height true new ⟨t.root.page, [], [kid]⟩ kid 0
    return ⟨t.height + 1, root⟩
  else return t

def lowered : Tree κ → Tree κ
  | ⟨h + 1, ⟨page, [], [kid]⟩⟩ => ⟨h, { kid with page := page }⟩
  | t => t

def insert (k : TreeKind κ) (c : Cell κ) (t : Tree κ) : StateM Space (Tree κ) := do
  let (root, _) ← k.insertInto c t.height true t.root
  return lowered (← grown k (some c.key) ⟨t.height, root⟩)

def erase (k : TreeKind κ) (key : κ) (t : Tree κ) : StateM Space (Tree κ) := do
  let (root, _) ← k.eraseFrom key t.height true t.root
  return lowered (← grown k none ⟨t.height, root⟩)

end Tree
end TextMemory.Pages
