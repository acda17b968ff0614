import TextMemory.Pages.Header
import TextMemory.Pages.Tree

/-!
# The pages of a database

A database's file begins with six pages: the first lists the tables, and each of the others is the
root of a tree. Two trees grow: the rows by their ids, and their places. The numbers in the file's
header follow from all changes since the database was made.
-/
namespace TextMemory.Pages

def rowKind : TreeKind Int where
  before a b := a < b
  innerSize c := 4 + lengthSize c.key.toNat
  repeats := true

def placeKind : TreeKind Place where
  before := Place.before
  innerSize c := 4 + c.size
  repeats := false

structure File where
  space : Space
  rows : Tree Int
  places : Tree Place
  changes : Nat

namespace File

def new : File := ⟨⟨6, []⟩, Tree.blank Int 2, Tree.blank Place 4, 1⟩

def insert (f : File) (r : Row) : File :=
  let place := do f.places.insert placeKind (← placeCell r)
  let row := do f.rows.insert rowKind (← rowCell r)
  let (places, space) := place.run f.space
  let (rows, space) := row.run space
  { f with space := space, rows := rows, places := places }

def erase (f : File) (r : Row) : File :=
  let (rows, space) := (f.rows.erase rowKind r.id).run f.space
  let (places, space) := (f.places.erase placeKind (Place.ofRow r)).run space
  { f with space := space, rows := rows, places := places }

def missing : List Row → List Row → List Row
  | [], _ => []
  | rs, [] => rs
  | r :: rs, s :: ss =>
    if r.id = s.id then missing rs ss
    else if r.id < s.id then r :: missing rs (s :: ss)
    else missing (r :: rs) ss
termination_by rs ss => rs.length + ss.length

/-- The file after a change from one table to another: rows go in the order of their places, and
others come in the order of their ids. -/
def change (f : File) (old new : Table) : File :=
  if old = new then f
  else
    let gone := (missing old.rows new.rows).mergeSort fun a b =>
      !(Place.ofRow b).before (Place.ofRow a)
    let f := gone.foldl erase f
    let f := (missing new.rows old.rows).foldl insert f
    { f with changes := f.changes + 1 }

def ofTables : List Table → File
  | [] => new
  | t :: past => (ofTables past).change (past.headD Table.empty) t

/-! ## The header -/

def header (f : File) : List UInt8 :=
  let firstTrunk := (f.space.trunks.head?.map Trunk.page).getD 0
  Header.magic ++ Header.written 2 pageSize ++ [1, 1, 0, 64, 32, 32] ++
    [f.changes, f.space.size, firstTrunk, f.space.freeCount, 3, 4, 0, 0, 1, 0, 0, 0, 0, 0, 0, 0,
      0, f.changes, 3040001].flatMap (Header.written 4) ++
    [13, 12, 0xf6]

end File
end TextMemory.Pages
