import TextMemory.Store.Basic

/-!
# Rows from elsewhere

Rows may also be given column by column. A column that is not given takes its default, and one that
must have a value refuses to be without. Letters of either case name a column, and of two values for
one column the first counts; the id has other names besides, and of its values the last counts.
-/
namespace TextMemory.Store

def columns : List String :=
  ["content", "source_path", "source_type", "title", "chunk_index", "overlap_chars", "indexed_at",
    "embedding"]

def idNames : List String := ["id", "rowid", "oid", "_rowid_"]

abbrev Cells := List (String × Json)

def namedCells (row : Cells) : Except Fault Cells := do
  if row.isEmpty then throw .noColumns
  row.mapM fun (name, v) =>
    let small := name.map Char.toLower
    if columns.contains small || idNames.contains small then .ok (small, v)
    else .error (.unknownColumn name)

def checkCell : Json × Nat → Except Fault Unit
  | (v, i) => (Cell.text (i + 1) v).map fun _ => ()

def idCell (row : Cells) : Except Fault (Option Int) :=
  match (row.filter fun c => idNames.contains c.1).getLast?.bind fun c => Cell.scalar c.2 with
  | none => .ok none
  | some (.number (.int n)) => .ok (some n)
  | some _ => .error .columnType

def textCell (row : Cells) (column : String) : Except Fault (Option String) :=
  Cell.text 0 ((row.lookup column).getD .null)

def scalarCell (row : Cells) (column : String) : Except Fault Scalar :=
  match row.lookup column with
  | none => .ok (.int 0)
  | some v => Cell.needed column (Cell.scalar v)

def recordOf (row : Cells) : Except Fault Record := do
  let content ← Cell.needed "content" (← textCell row "content")
  let source ← Cell.needed "source_path" (← textCell row "source_path")
  let kind ← textCell row "source_type"
  let title ← textCell row "title"
  let index ← scalarCell row "chunk_index"
  let overlap ← scalarCell row "overlap_chars"
  let time ← Cell.needed "indexed_at" (← textCell row "indexed_at")
  let embedding ← Cell.needed "embedding" (← textCell row "embedding")
  return ⟨content, source, kind, title, index, overlap, time, embedding⟩

def importRow (t : Table) (row : Cells) : Except Fault Table := do
  let row ← namedCells row
  (row.map Prod.snd).zipIdx.forM checkCell
  match ← idCell row with
  | some id => t.insertAt id (← recordOf row)
  | none =>
    if !t.hasRoom then throw .noIdLeft
    t.insert (← recordOf row)

/-- All the rows or none, in a database of the given dimensions; with `cancel` none, unless it says
nothing. The answer is how many rows the table then has. -/
def importRows (rows : List Cells) (dimensions : Int) (cancel : Json) :
    Action Store Nat := do
  establish dimensions
  let medium := (← get).medium
  let db := match medium with
    | .database db => db
    | _ => ⟨dimensions, Table.empty⟩
  let block : Action (Connection Table) Nat := do
    rows.forM fun row => Connection.statement fun t => (importRow t row).map fun t => ((), t)
    if cancel.isFilled then throw (.cancelled cancel.shown)
    return (← get).current.rows.length
  let (answer, c) := (Connection.transaction block).perform ⟨db.table, none⟩
  match medium with
  | .database _ => modify fun s => { s with medium := .database { db with table := c.committed } }
  | _ => pure ()
  Action.ofExcept answer

end TextMemory.Store
