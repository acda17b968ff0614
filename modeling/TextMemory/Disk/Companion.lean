import TextMemory.Disk.Basic

/-!
# Beside a database

Three names belong to a database besides its own: those of its journal, of its log and of the log's
index. What lies there when a database is opened is taken for what an earlier run left: it is
removed, or it stands in the way.
-/
namespace TextMemory

inductive Companion
  | journal
  | log
  | logIndex
deriving DecidableEq, Repr

def Companion.ending : Companion → String
  | journal => "-journal"
  | log => "-wal"
  | logIndex => "-shm"

def Entry.counts : Entry → Bool
  | .file bytes => !bytes.isEmpty
  | _ => true

def Entry.isPending : Entry → Bool
  | .file bytes => bytes.headD 0 != 0
  | _ => true

namespace Disk

def beside (place : List String) (c : Companion) : List String :=
  place.dropLast ++ [place.getLast?.getD "" ++ c.ending]

def companion? (d : Disk) (place : List String) (c : Companion) : Option Entry :=
  (d.entry? (beside place c)).filter Entry.counts

/-- The disk without a companion of what lies at a place; a folder stays. -/
def removeBeside (d : Disk) (place : List String) (c : Companion) : Disk :=
  match d.entry? (beside place c) with
  | some .folder => d
  | _ => d.remove (beside place c)

def isBlank (d : Disk) (place : List String) : Bool :=
  match d.entry? place with
  | none => true
  | some (.file bytes) => bytes.length ≤ 1
  | some _ => false

def logHeadSize : Nat := 32

def clearBlankLog (d : Disk) (place : List String) : Except Fault Unit × Disk :=
  match d.companion? place .log with
  | none => (.ok (), d)
  | some .folder => (.error .diskFailure, d)
  | some _ => (.ok (), d.removeBeside place .log)

/-- What becomes of the log of a database. Its index is needed to read it, and goes with it. -/
def clearLog (d : Disk) (place : List String) : Except Fault Unit × Disk :=
  match d.companion? place .log, d.companion? place .logIndex with
  | none, _ => (.ok (), d)
  | some .folder, _ => (.error .cannotOpen, d)
  | some (.file bytes), some .folder =>
    (.error (if bytes.length < logHeadSize then .readOnly else .lockOrder), d)
  | some (.database ..), some .folder => (.error .lockOrder, d)
  | some _, _ => (.ok (), (d.removeBeside place .log).removeBeside place .logIndex)

def clear (d : Disk) (place : List String) : Except Fault Unit × Disk :=
  let journal := d.companion? place .journal
  if d.entry? place = some .folder then (.error .cannotOpen, d)
  else if d.isBlank place then
    (if journal.isSome then d.removeBeside place .journal else d).clearBlankLog place
  else if journal = some .folder then (.error .diskFailure, d)
  else (if journal.any Entry.isPending then d.removeBeside place .journal else d).clearLog place

end Disk
end TextMemory
