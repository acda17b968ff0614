import TextMemory.Json.Reader
import TextMemory.Json.Writer
import TextMemory.Store.Database

/-!
# Databases as files

Between runs a database is kept as one JSON object with its dimensions, its greatest id and its
rows.
-/
namespace TextMemory

namespace Row

def json (r : Row) : Json := .object [
  ("id", .int r.id), ("content", .string r.content), ("source", .string r.source),
  ("kind", Json.textOrNull r.kind), ("title", Json.textOrNull r.title), ("index", r.index.json),
  ("overlap", r.overlap.json), ("indexedAt", .string r.indexedAt),
  ("embedding", .string r.embedding)]

end Row

def Row.ofJson? (j : Json) : Option Row := do
  return {
    id := ← j.int? "id"
    content := ← j.text? "content"
    source := ← j.text? "source"
    kind := ← j.nullableText? "kind"
    title := ← j.nullableText? "title"
    index := ← (j.member? "index").bind Scalar.ofJson?
    overlap := ← (j.member? "overlap").bind Scalar.ofJson?
    indexedAt := ← j.text? "indexedAt"
    embedding := ← j.text? "embedding" }

namespace Database

def json (db : Database) : Json := .object [
  ("dimensions", .int db.dimensions), ("lastId", .int db.table.lastId),
  ("rows", .array (db.table.rows.map Row.json))]

def ofJson? (j : Json) : Option Database := do
  let rows ← match j.member? "rows" with
    | some (.array items) => items.mapM Row.ofJson?
    | _ => none
  return ⟨← j.int? "dimensions", ⟨rows, ← j.int? "lastId"⟩⟩

def text (db : Database) : String := db.json.text

def ofText? (s : String) : Option Database :=
  match Json.read s.toList with
  | .ok j => ofJson? j
  | .error _ => none

end Database
end TextMemory
