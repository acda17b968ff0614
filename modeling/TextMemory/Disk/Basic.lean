import TextMemory.Disk.Path
import TextMemory.Store.Database

/-!
# Files and folders

A disk has folders, files and databases at places below the working folder. A path is walked name by
name, and what stands in the way of a walk is named by the whole path.
-/
namespace TextMemory

inductive Entry
  | folder
  | file (bytes : List UInt8)
  | database (db : Database) (past : List Table)
deriving DecidableEq, Repr

structure Disk where
  entries : List (List String × Entry)
deriving DecidableEq, Repr

inductive Obstacle
  | missing
  | notFolder
  | tooLong
  | present
deriving DecidableEq, Repr

def Obstacle.fault (p : Path) : Obstacle → Fault
  | missing => .noFile p.text
  | notFolder => .notFolder p.text
  | tooLong => .nameTooLong p.text
  | present => .fileExists p.text

namespace Disk

def empty : Disk := ⟨[]⟩

def entry? (d : Disk) (place : List String) : Option Entry :=
  if place = ["/"] ∨ place.all (· = "..") then some .folder else d.entries.lookup place

def put (d : Disk) (place : List String) (e : Entry) : Disk :=
  ⟨(place, e) :: d.entries.filter fun x => x.1 != place⟩

def remove (d : Disk) (place : List String) : Disk :=
  ⟨d.entries.filter fun x => x.1 != place⟩

def hasNul (s : String) : Bool := s.toList.contains (Char.ofNat 0)

def longestName : Nat := 255

def pathLimit : Nat := 4096

def step (d : Disk) (place : List String) (name : String) : Except Obstacle (List String) :=
  match d.entry? place with
  | none => .error .missing
  | some .folder =>
    if longestName < name.utf8ByteSize then .error .tooLong else .ok (Path.enter place name)
  | some _ => .error .notFolder

def walk (d : Disk) (p : Path) : Except Obstacle (List String) :=
  if pathLimit ≤ p.text.utf8ByteSize then .error .tooLong else p.names.foldlM d.step p.start

def makeFolder (d : Disk) (p : Path) : Except Obstacle Disk := do
  let place ← d.walk p
  if (d.entry? place).isSome then .error .present else .ok (d.put place .folder)

def settle (d : Disk) (p : Path) (o : Obstacle) : Except Fault Unit :=
  match o, (d.walk p).toOption.bind d.entry? with
  | .present, some .folder => .ok ()
  | o, _ => .error (o.fault p)

def makeFolders (d : Disk) (p : Path) : Except Fault Unit × Disk :=
  if hasNul p.text then (.error .nulInPath, d)
  else
    match d.makeFolder p with
    | .ok d => (.ok (), d)
    | .error o =>
      if _ : o = .missing ∧ p.names ≠ [] then
        match makeFolders d p.parent with
        | (.error f, d) => (.error f, d)
        | (.ok (), d) =>
          match d.makeFolder p with
          | .ok d => (.ok (), d)
          | .error o => (d.settle p o, d)
      else (d.settle p o, d)
termination_by p.names.length
decreasing_by
  rename_i h
  have := List.length_pos_iff.2 h.2
  simp only [Path.parent, List.length_dropLast]
  omega

end Disk
end TextMemory
