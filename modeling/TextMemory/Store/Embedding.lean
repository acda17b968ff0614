import TextMemory.Json.Reader

/-!
# Embeddings as text

A row keeps its embedding as a JSON array. Written are binary64 values in their natural form; read
may be any JSON, since a row may also come from elsewhere.
-/
namespace TextMemory.Embedding

def floats (v : List Number) : Except Fault (List Float) := v.mapM Number.toFloat

def write (v : List Float) : String :=
  "[" ++ ", ".intercalate (v.map (naturalText ("Infinity", "NaN"))) ++ "]"

/-- How deep lists and objects may stand in each other: at most a thousand calls may be open at
once, and thirteen are where a stored vector is read. -/
def nesting : Nat := 987

def read (s : String) : Except Fault Json := Json.readWithin nesting s.toList

end TextMemory.Embedding
