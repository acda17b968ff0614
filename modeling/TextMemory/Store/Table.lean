import TextMemory.Scalar

/-!
# The table of chunks

Rows stand in the order of their ids. An id is one more than the greatest that was ever given, so a
deleted row's id does not return. No two rows have the same source and index. Index and overlap are
integers in all rows that the memory writes; rows from elsewhere may have others.
-/
namespace TextMemory

/-- The columns of a chunk but its id. Time and embedding are kept as text. -/
structure Record where
  content : String
  source : String
  kind : Option String
  title : Option String
  index : Scalar
  overlap : Scalar
  indexedAt : String
  embedding : String
deriving DecidableEq, Repr

structure Row extends Record where
  id : Int
deriving DecidableEq, Repr

structure Table where
  rows : List Row
  /-- the greatest id that was ever given -/
  lastId : Int
deriving DecidableEq, Repr

def Record.key (r : Record) : String × Scalar := (r.source, r.index.canonical)

structure SourceInfo where
  source : String
  kind : Option String
  count : Nat
deriving DecidableEq, Repr

structure Stats where
  chunks : Nat
  sources : Nat
deriving DecidableEq, Repr

def greaterText : Option String → Option String → Option String
  | none, b => b
  | a, none => a
  | some a, some b => some (if a < b then b else a)

namespace Table

def empty : Table := ⟨[], 0⟩

def hasKey (t : Table) (key : String × Scalar) : Bool := t.rows.any fun r => r.key == key

def lastWord : Int := 9223372036854775807

def hasRoom (t : Table) : Bool := t.lastId < lastWord

def insert (t : Table) (r : Record) : Except Fault Table :=
  if !t.hasRoom then .error .noIdLeft
  else if t.hasKey r.key then .error (.duplicateKey ["source_path", "chunk_index"])
  else .ok ⟨t.rows ++ [⟨r, t.lastId + 1⟩], t.lastId + 1⟩

def insertAt (t : Table) (id : Int) (r : Record) : Except Fault Table :=
  if t.rows.any fun row => row.id == id then .error (.duplicateKey ["id"])
  else if t.hasKey r.key then .error (.duplicateKey ["source_path", "chunk_index"])
  else
    let before := t.rows.takeWhile fun row => row.id < id
    let after := t.rows.dropWhile fun row => row.id < id
    .ok ⟨before ++ ⟨r, id⟩ :: after, max t.lastId id⟩

def rowsOf (t : Table) (source : String) : List Row := t.rows.filter fun r => r.source == source

def erase (t : Table) (source : String) : Table :=
  { t with rows := t.rows.filter fun r => r.source != source }

def bySource (t : Table) (source : String) : List Row :=
  (t.rowsOf source).mergeSort fun a b => a.index.atMost b.index

def sourceNames (t : Table) : List String :=
  (t.rows.map fun r => r.source).eraseDups.mergeSort fun a b => !(b < a)

def info (t : Table) (source : String) : SourceInfo :=
  let rows := t.rowsOf source
  ⟨source, rows.foldl (fun k r => greaterText k r.kind) none, rows.length⟩

def sources (t : Table) : List SourceInfo := t.sourceNames.map t.info

def stats (t : Table) : Stats := ⟨t.rows.length, (t.rows.map fun r => r.source).eraseDups.length⟩

end Table
end TextMemory
