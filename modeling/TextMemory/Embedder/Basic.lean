import TextMemory.Number

/-!
# Embedders

An embedder turns texts into vectors. Whatever goes wrong inside it is an embedding fault, and so is
a wrong number of vectors; a vector of a wrong size is a mismatch of dimensions.
-/
namespace TextMemory

abbrev Vector := List Number

inductive Outage
  | embedding (message : String)
  | other (message : String)
deriving DecidableEq, Repr

structure Embedder where
  name : String
  dimensions : Int
  vectors : List String → Except Outage (List Vector)

namespace Embedder

def outageFault (name : String) : Outage → Fault
  | .embedding message => .embedding message
  | .other message => .embedding s!"{name} failed: {message}"

def misfit? (dimensions : Int) (vs : List Vector) : Option Vector :=
  vs.find? fun v => (v.length : Int) != dimensions

def checked (name : String) (dimensions : Int) (count : Nat) :
    Except Outage (List Vector) → Except Fault (List Vector)
  | .error o => .error (outageFault name o)
  | .ok vs =>
    if vs.length ≠ count then
      .error (.embedding s!"provider returned {vs.length} vectors for {count} texts")
    else
      match misfit? dimensions vs with
      | some v => .error (.mismatch "provider embedding" dimensions v.length)
      | none => .ok vs

def embed (e : Embedder) (texts : List String) : Except Fault (List Vector) :=
  if texts.isEmpty then .ok [] else checked e.name e.dimensions texts.length (e.vectors texts)

def characterCounts (dimensions : Nat) (text : String) : Vector :=
  let counts := text.toList.foldl (fun (a : Array Nat) c => a.modify (c.toNat % dimensions) (· + 1))
    (Array.replicate dimensions 0)
  counts.toList.map fun n => .float n.toFloat

def componentCount (dimensions : Int) : Except Outage Nat :=
  if 9223372036854775807 < dimensions then
    .error (.other "cannot fit 'int' into an index-sized integer")
  else if 4294967296 < dimensions then .error (.other "")
  else .ok dimensions.toNat

def countedVectors (dimensions : Int) (texts : List String) : Except Outage (List Vector) := do
  let n ← componentCount dimensions
  return texts.map (characterCounts n)

def counting (name : String) (dimensions : Int) : Embedder where
  name := name
  dimensions := dimensions
  vectors := countedVectors dimensions

end Embedder
end TextMemory
