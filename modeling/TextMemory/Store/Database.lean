import TextMemory.Store.Connection
import TextMemory.Store.Table

/-!
# Databases

A database keeps the number of dimensions with which it was made and a table of chunks. At a path
there may be a database, nothing yet, something that no database can be made of, or a place that
forgets what is written to it.
-/
namespace TextMemory

structure Database where
  dimensions : Int
  table : Table
deriving DecidableEq, Repr

inductive Medium
  | blank
  | database (db : Database)
  /-- the first attempt to open it fails with the one fault, each later one with the other -/
  | blocked (first later : Fault)
  /-- it could not be opened, and cannot be -/
  | refused (fault : Fault)
  /-- each connection begins with nothing -/
  | fleeting
deriving DecidableEq, Repr

def Database.setUp (path : String) (dimensions : Int) :
    Action (Connection (Option Database)) Unit := do
  let recorded ← Connection.statement fun found =>
    let db := found.getD ⟨dimensions, Table.empty⟩
    .ok (db.dimensions, some db)
  if recorded ≠ dimensions then
    throw (.mismatch s!"configuration for database {path}" recorded dimensions)

namespace Medium

def setUp (path : String) (dimensions : Int) (found : Option Database) :
    Except Fault Unit × Medium :=
  let (answer, c) :=
    (Connection.transaction (Database.setUp path dimensions)).perform ⟨found, none⟩
  (answer, match c.committed with
    | some db => database db
    | none => blank)

def establish (path : String) (dimensions : Int) : Medium → Except Fault Unit × Medium
  | blank => setUp path dimensions none
  | database db => setUp path dimensions (some db)
  | blocked first later => (.error first, refused later)
  | refused fault => (.error fault, refused fault)
  | fleeting => (.ok (), fleeting)

end Medium
end TextMemory
