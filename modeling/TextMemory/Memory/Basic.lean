import TextMemory.Embedder.Basic
import TextMemory.Memory.SourceName
import TextMemory.Settings.Basic
import TextMemory.Store.Basic
import TextMemory.Widths

/-!
# The memory

Content is written under a source, in place of all that the source had: it is cut into pieces, each
piece gets a vector, and the pieces are stored. Search asks the store by vector and by keyword and
merges the two rankings; reading joins a source's pieces again.
-/
namespace TextMemory

structure Memory where
  settings : Settings
  store : Store
  embedder : Embedder
  /-- the lists of texts that the embedder was given -/
  calls : List (List String)
  /-- the sources at work, with how many hold them -/
  holders : List (String × Nat)

structure Written where
  chunks : Nat
  source : String
deriving DecidableEq, Repr

def Written.text (w : Written) : String := s!"Wrote {w.chunks} chunk(s) to memory at '{w.source}'."

namespace Memory

def create (settings : Settings) (medium : Medium) (clock : Timestamp) (embedder : Embedder) :
    Except Fault Memory := do
  let store ← Store.create settings.path settings.dimensions medium clock
  if embedder.dimensions ≠ store.dimensions then
    throw (.mismatch "embedding provider" store.dimensions embedder.dimensions)
  return ⟨settings, store, embedder, [], []⟩

def onStore {α : Type} (a : Action Store α) : Action Memory α :=
  Action.onPart store (fun s m => { m with store := s }) a

def tell (level : LogLevel) (message : String) : Action Memory Unit :=
  onStore (Store.note level "agentmemory.service" message)

def hold (source : String) : List (String × Nat) → List (String × Nat)
  | [] => [(source, 1)]
  | h :: hs => if h.1 = source then (source, h.2 + 1) :: hs else h :: hold source hs

def release (source : String) : List (String × Nat) → List (String × Nat)
  | [] => []
  | h :: hs =>
    if h.1 = source then if h.2 ≤ 1 then hs else (source, h.2 - 1) :: hs
    else h :: release source hs

def holding {α : Type} (source : String) (a : Action Memory α) : Action Memory α :=
  ExceptT.mk fun m =>
    let (answer, m) := a.perform { m with holders := hold source m.holders }
    (answer, { m with holders := release source m.holders })

def embed (texts : List String) : Action Memory (List Vector) := do
  let m ← get
  if !texts.isEmpty then set { m with calls := m.calls ++ [texts] }
  Action.ofExcept (m.embedder.embed texts)

def embedOne (text : String) : Action Memory Vector := do
  match ← embed [text] with
  | v :: _ => return v
  | [] => return []

def search [Numerics] (query : String) (limit : Int) : Action Memory (List Hit) := do
  if limit < 1 then throw (.resultCount limit)
  tell .debug s!"memory search: query={Text.quoted query} max_results={limit}"
  let query := Text.strip query
  if query.isEmpty then return []
  let s := (← get).settings
  let vector ← embedOne query
  let candidates := limit * s.candidateMultiplier
  let near ← onStore (Store.vectorSearch vector candidates)
  let matching ← onStore (Store.keywordSearch query candidates)
  Action.ofExcept
    (Ranking.fuse (s.vectorWeight, near) (s.keywordWeight, matching) s.rankConstant limit)

def drafts (source : String) (title : Json) (overlap : Int) (now : Timestamp)
    (pieces : List (String × Vector)) : List Draft :=
  pieces.zipIdx.map fun ((content, embedding), i) =>
    { content, source, embedding, title
      index := .int i
      kind := .string (SourceKind.of source).text
      overlap := .int (if i = 0 then 0 else overlap)
      indexedAt := some now }

def checkContent (content : String) : Except Fault Unit :=
  if Text.isBlankText content then .error .blankContent else .ok ()

def write (content : String) (source : Option String) (title : Json) : Action Memory Written := do
  Action.ofExcept (checkContent content)
  let m ← get
  let source := sourceName m.store.clock source
  tell .debug (s!"memory write: source={Text.quoted source} title={title.inner} " ++
    s!"length={content.length}")
  let written ← holding source do
    let pieces ← Action.ofExcept (chunk content m.settings.chunkSize m.settings.chunkOverlap)
    let vectors ← embed pieces
    let ds := drafts source title m.settings.chunkOverlap m.store.clock (pieces.zip vectors)
    discard (onStore (Store.replaceSource source ds))
    return ds.length
  tell .info s!"Wrote {written} chunks to memory source '{source}'"
  return ⟨written, source⟩

def read (source : String) : Action Memory (Option String) := do
  tell .debug s!"memory get: source={Text.quoted source}"
  let chunks ← onStore (Store.getSource source)
  if chunks.isEmpty then return none
  let widths := Json.array (chunks.map fun c => c.overlap.json)
  return some (← Action.ofExcept (mergeBy widths (chunks.map Chunk.content)))

def delete (source : String) : Action Memory Nat :=
  holding source (onStore (Store.deleteSource source))

def stats : Action Memory Stats := onStore Store.stats

def sources : Action Memory (List SourceInfo) := onStore Store.sources

def chunks (source : String) : Action Memory (List Chunk) := onStore (Store.getSource source)

def held (m : Memory) : List String := (m.holders.map Prod.fst).mergeSort fun a b => !(b < a)

def nothingFound : String := "No relevant information found in memory."

def notFound (source : String) : String := s!"No memory found at source '{source}'."

end Memory
end TextMemory
