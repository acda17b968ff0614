import TextMemory.Pages.Space
import TextMemory.Store.Table

/-!
# Cells

A row is kept as a record: the sizes of its values, then the values. Integers take as few bytes as
they need, and a size takes one byte for each seven binary digits. A record that is too long for a
page keeps its beginning there, and the rest in pages of its own.
-/
namespace TextMemory.Pages

def lengthSize (n : Nat) : Nat := sevens 8 n
where
  sevens : Nat → Nat → Nat
    | 0, _ => 1
    | k + 1, n => if n < 128 then 1 else sevens k (n / 128) + 1

inductive Field
  | absent
  | integer (n : Int)
  | real
  | text (bytes : Nat)
deriving DecidableEq, Repr

namespace Field

def ofText (s : String) : Field := .text s.utf8ByteSize

def ofText? (s : Option String) : Field := (s.map ofText).getD .absent

def ofScalar : Scalar → Field
  | .number (.int n) => .integer n
  | .number (.float _) => .real
  | .text s => ofText s

def integerSize (n : Int) : Nat :=
  let m := if n < 0 then (-n - 1).toNat else n.toNat
  if m < 2 && 0 ≤ n then 0
  else if m < 0x80 then 1
  else if m < 0x8000 then 2
  else if m < 0x800000 then 3
  else if m < 0x80000000 then 4
  else if m < 0x800000000000 then 6
  else 8

def size : Field → Nat
  | absent => 0
  | integer n => integerSize n
  | real => 8
  | text bytes => bytes

def headSize : Field → Nat
  | text bytes => lengthSize (13 + 2 * bytes)
  | _ => 1

end Field

def recordSize (fields : List Field) : Nat :=
  let head := fields.foldl (fun n f => n + f.headSize) 0
  fields.foldl (fun n f => n + f.size) ((if head < 127 then 1 else 2) + head)

structure Cell (κ : Type) where
  key : κ
  size : Nat
  spill : List Nat

namespace Cell

structure Quota where
  whole : Nat
  least : Nat

def rowQuota : Quota := ⟨pageSize - 35, (pageSize - 12) * 32 / 255 - 23⟩

def placeQuota : Quota := ⟨(pageSize - 12) * 64 / 255 - 23, (pageSize - 12) * 32 / 255 - 23⟩

/-- The bytes of a record that stay in the page, and how many pages take the rest. -/
def cut (q : Quota) (n : Nat) : Nat × Nat :=
  if n ≤ q.whole then (n, 0)
  else
    let even := q.least + (n - q.least) % (pageSize - 4)
    let kept := if even ≤ q.whole then even else q.least
    (kept, (n - kept + (pageSize - 5)) / (pageSize - 4))

def make {κ : Type} (q : Quota) (key : κ) (head record : Nat) : StateM Space (Cell κ) := do
  let (kept, pages) := cut q record
  let spill ← takeMany pages 0
  return ⟨key, max 4 (head + kept + if pages = 0 then 0 else 4), spill⟩

end Cell

/-! ## The cells of a row -/

structure Place where
  source : String
  index : Scalar
  id : Int
deriving DecidableEq, Repr

namespace Place

def ofRow (r : Row) : Place := ⟨r.source, r.index, r.id⟩

def before (a b : Place) : Bool :=
  if a.source = b.source then
    if b.index.atMost a.index then a.index.atMost b.index && a.id < b.id else true
  else a.source < b.source

end Place

def rowCell (r : Row) : StateM Space (Cell Int) :=
  let record := recordSize [.absent, .ofText r.content, .ofText r.source, .ofText? r.kind,
    .ofText? r.title, .ofScalar r.index, .ofScalar r.overlap, .ofText r.indexedAt,
    .ofText r.embedding]
  Cell.make Cell.rowQuota r.id (lengthSize record + lengthSize r.id.toNat) record

def placeCell (r : Row) : StateM Space (Cell Place) :=
  let record := recordSize [.ofText r.source, .ofScalar r.index, .integer r.id]
  Cell.make Cell.placeQuota (Place.ofRow r) (lengthSize record) record

end TextMemory.Pages
