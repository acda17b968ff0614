import TextMemory.Proofs.Memory.Source
import TextMemory.Proofs.Store.Dimensions
import TextMemory.Proofs.Timestamp

/-!
# Each row has the vector of its content

Where the embedder gives each text a vector of its own, whatever else it may answer, each stored row
keeps the vector of its content, and it is read back as it was given. A write asks once, for the
contents that are then stored, in their order.
-/
namespace TextMemory

open TextMemory.Action

/-- The chunk shows what the row keeps, and its embedding has the components of a vector. -/
structure Store.Reveals (v : Vector) (r : Row) (c : Chunk) : Prop where
  id : c.id = r.id
  content : c.content = r.content
  index : c.index = r.index
  embedding : ∃ xs, Embedding.floats v = .ok xs ∧ c.embedding = .array (xs.map Json.float)

theorem Table.Shelves.chunkOf_draft {t : Table} {a : Writing} (h : t.Shelves a) {r : Row}
    (hr : r ∈ t.rowsOf a.source) :
    ∃ d ∈ a.drafts, d.content = r.content ∧
      ∃ c, Store.chunkOf r = .ok c ∧ Store.Reveals d.embedding r c := by
  obtain ⟨d, hd, hk⟩ := Result.exists_of_mem_right h.keeps (List.mem_map_of_mem hr)
  obtain ⟨xs, hxs, hwritten⟩ := hk.embedding
  have hread : Embedding.read r.embedding = .ok (.array (xs.map Json.float)) := by
    rw [hwritten, Embedding.read_write]
  have htime : Timestamp.read r.indexedAt = .ok a.now.asRead := by
    rw [(h.alike hr).2.1, Timestamp.read_text]
  have hcontent : r.content = d.content := hk.content
  refine ⟨d, hd, hcontent.symm, ?chunk, ?found, ?reveals⟩
  case found =>
    rw [Store.chunkOf, htime, Result.ok_bind, hread, Result.ok_bind]
    rfl
  case reveals => exact ⟨rfl, rfl, rfl, xs, hxs, rfl⟩

namespace Memory.History

private def measure (text : String) : Vector := [.int text.length, .float 0.5]

private def measured (texts : List String) : Except Outage (List Vector) := .ok (texts.map measure)

private def tooFew (texts : List String) : Except Outage (List Vector) :=
  .ok ((texts.map measure).drop 1)

private def letters : List Event := [
  .enter (.cutting 2 4 1) ⟨"test", 2, measured⟩ .noon,
  .call 0 .noon measured (.write "abcdefg" (some "A") .null),
  .call 0 .noon tooFew (.write "hijk" (some "A") .null),
  .call 0 .noon measured (.delete "B")]

private def shelf : Store :=
  ⟨"memory.db", 2, false, false, ((start .blank).run letters).medium, .noon, []⟩

end Memory.History
end TextMemory
