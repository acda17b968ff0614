import TextMemory.Action
import TextMemory.Keyword
import TextMemory.Ranking
import TextMemory.Store.Cell
import TextMemory.Store.Database
import TextMemory.Store.Grid
import TextMemory.Timestamp.Reader

/-!
# The chunk store

A store works on the database at its path and opens it at its first use. All changes of one
operation are kept or none is.
-/
namespace TextMemory

/-- A chunk to be stored. What its columns cannot keep is refused only when it is stored. -/
structure Draft where
  content : String
  source : String
  embedding : List Number
  index : Json
  kind : Json
  title : Json
  overlap : Json
  indexedAt : Option Timestamp

structure Chunk where
  id : Int
  content : String
  source : String
  kind : Option String
  title : Option String
  index : Scalar
  overlap : Scalar
  indexedAt : Timestamp
  embedding : Json

structure Store where
  path : String
  dimensions : Int
  tried : Bool
  opened : Bool
  medium : Medium
  clock : Timestamp
  log : List LogLine

namespace Store

def create (path : String) (dimensions : Int) (medium : Medium) (clock : Timestamp) :
    Except Fault Store :=
  if dimensions ≤ 0 then .error (.dimensions dimensions)
  else .ok ⟨path, dimensions, false, false, medium, clock, []⟩

def note (level : LogLevel) (source message : String) : Action Store Unit :=
  modify fun s => { s with log := s.log ++ [⟨level, source, message⟩] }

def tell (message : String) : Action Store Unit := note .info "agentmemory.store" message

def establish (dimensions : Int) : Action Store Unit := do
  let s ← get
  let (result, medium) := s.medium.establish s.path dimensions
  set { s with tried := true, medium := medium }
  Action.ofExcept result

def ensureOpen : Action Store Unit := do
  let s ← get
  if s.opened then return
  establish s.dimensions
  modify fun s => { s with opened := true }
  tell s!"Chunk store initialized at {s.path} (dimensions={s.dimensions})"

def connect : Action Store Database := do
  ensureOpen
  match (← get).medium with
  | .database db => return db
  | .blocked fault _ => throw fault
  | .refused fault => throw fault
  | .blank => throw .noTable
  | .fleeting => throw .noTable

/-- A transaction on the table; what has been committed at its end lies at the path. -/
def transact {α : Type} (block : Action (Connection Table) α) : Action Store α := do
  let db ← connect
  let (answer, c) := (Connection.transaction block).perform ⟨db.table, none⟩
  modify fun s => { s with medium := .database { db with table := c.committed } }
  Action.ofExcept answer

def checkSize (what : String) (size : Nat) (dimensions : Int) : Except Fault Unit :=
  if (size : Int) = dimensions then .ok () else .error (.mismatch what dimensions size)

def prepare (dimensions : Int) (clock : Timestamp) (d : Draft) :
    Except Fault (Draft × String × String) := do
  if d.content.isEmpty then throw (.emptyChunk d.index.shown d.source)
  checkSize (s!"embedding of {d.source}#" ++ d.index.shown) d.embedding.length dimensions
  let v ← Embedding.floats d.embedding
  return (d, (d.indexedAt.getD clock).text, Embedding.write v)

def bind (p : Draft × String × String) : Except Fault Record := do
  let (d, time, embedding) := p
  let kind ← Cell.text 3 d.kind
  let title ← Cell.text 4 d.title
  let index ← Cell.integer 5 d.index
  let overlap ← Cell.integer 6 d.overlap
  let index ← Cell.needed "chunk_index" index
  let overlap ← Cell.needed "overlap_chars" overlap
  return ⟨d.content, d.source, kind, title, index, overlap, time, embedding⟩

def insertDraft (t : Table) (p : Draft × String × String) : Except Fault Table := do
  t.insert (← bind p)

def insertion (p : Draft × String × String) : Action (Connection Table) Unit :=
  Connection.statement fun t => (insertDraft t p).map fun t => ((), t)

def erasure (source : String) : Action (Connection Table) Nat :=
  Connection.statement fun t => .ok ((t.rowsOf source).length, t.erase source)

def prepareAll (ds : List Draft) : Action Store (List (Draft × String × String)) := do
  let s ← get
  Action.ofExcept (ds.mapM (prepare s.dimensions s.clock))

def write (d : Draft) : Action Store Int := do
  let s ← get
  let p ← Action.ofExcept (prepare s.dimensions s.clock d)
  transact do
    insertion p
    return (← get).current.lastId

def writeBatch (ds : List Draft) : Action Store Unit := do
  if ds.isEmpty then return
  let ps ← prepareAll ds
  transact (ps.forM insertion)

def deleteSource (source : String) : Action Store Nat := do
  let deleted ← transact (erasure source)
  tell s!"Deleted {deleted} chunks for source: {source}"
  return deleted

def replaceSource (source : String) (ds : List Draft) : Action Store Nat := do
  match ds.find? fun d => d.source != source with
  | some d => throw (.foreignChunk d.source source)
  | none => pure ()
  let ps ← prepareAll ds
  let deleted ← transact do
    let deleted ← erasure source
    ps.forM insertion
    return deleted
  tell s!"Replaced source {source}: {deleted} chunks deleted, {ps.length} written"
  return deleted

def chunkOf (r : Row) : Except Fault Chunk := do
  let time ← Timestamp.read r.indexedAt
  let embedding ← Embedding.read r.embedding
  return ⟨r.id, r.content, r.source, r.kind, r.title, r.index, r.overlap, time, embedding⟩

def getSource (source : String) : Action Store (List Chunk) := do
  let db ← connect
  Action.ofExcept ((db.table.bySource source).mapM chunkOf)

def hitOf (r : Row) (score : Float) : Hit :=
  ⟨r.content, r.source, r.title, r.index.json, score⟩

def rowDistances [Numerics] (rows : List Row) (query : List Number) :
    Except Fault (List (Row × Float)) := do
  let texts ← rows.mapM fun r => Embedding.read r.embedding
  let grid ← Grid.read texts
  let query ← Embedding.floats query
  return rows.zip (← grid.distances query)

def vectorSearch [Numerics] (query : List Number) (limit : Int) : Action Store (List Hit) := do
  let s ← get
  Action.ofExcept (checkSize "query embedding" query.length s.dimensions)
  if limit ≤ 0 then return []
  let db ← connect
  if db.table.rows.isEmpty then return []
  let found ← Action.ofExcept (rowDistances db.table.rows query)
  return ((Similarity.nearestFirst found).take limit.toNat).map fun (r, d) =>
    hitOf r (Similarity.score d)

def matching (patterns : List String) (rows : List Row) : List (Row × Nat) :=
  ((rows.map fun r => (r, Keyword.matchCount patterns r.content)).filter fun m => 0 < m.2).mergeSort
    fun a b => b.2 ≤ a.2

def keywordSearch (query : String) (limit : Int) : Action Store (List Hit) := do
  let keywords := Keyword.extract query
  if keywords.isEmpty || limit ≤ 0 then return []
  let db ← connect
  let limit ← Action.ofExcept (Cell.word limit)
  let patterns := keywords.map Keyword.pattern
  if !db.table.rows.isEmpty && patterns.any fun p => Keyword.longestPattern < p.utf8ByteSize then
    throw .patternTooLong
  return ((matching patterns db.table.rows).take limit.toNat).map fun (r, n) =>
    hitOf r (n.toFloat / keywords.length.toFloat)

def stats : Action Store Stats := return (← connect).table.stats

def sources : Action Store (List SourceInfo) := return (← connect).table.sources

def dump : Action Store (List Chunk) := do
  let infos ← sources
  let lists ← infos.mapM fun i => getSource i.source
  return lists.flatten

end Store
end TextMemory
