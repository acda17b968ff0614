import TextMemory.Disk.Companion
import TextMemory.Pages.File
import TextMemory.Store.Basic

/-!
# Databases on a disk

A database is opened at a path; the folders on the way to it are made first, and stay when it cannot
be opened. A database is also a file with bytes of its own.
-/
namespace TextMemory.Disk

def fleetingPath : String := ":memory:"

def workingFolderSize : Nat := 20

def fullSize (place : List String) : Nat :=
  place.foldl (fun n name => if name = "/" then 0 else n + 1 + name.utf8ByteSize) workingFolderSize

def isTooFar (p : Path) : Bool :=
  504 < fullSize p.place || p.steps.any fun step => 511 < fullSize step.place

def lastSize (p : Path) : Nat := (p.names.getLast?.getD "").utf8ByteSize

def isOpenable (p : Path) : Bool := !hasNul p.text && !isTooFar p && lastSize p ≤ longestName

def hasJournalRoom (d : Disk) (p : Path) : Bool :=
  lastSize p + Companion.journal.ending.utf8ByteSize ≤ longestName &&
    d.companion? p.place .journal ≠ some .folder

def blankAt (d : Disk) (p : Path) : Medium :=
  if d.hasJournalRoom p then .blank else .blocked .cannotOpen .cannotOpen

def found (d : Disk) (p : Path) : Medium :=
  match d.clear p.place with
  | (.error f, _) => .blocked f f
  | (.ok (), _) =>
    match d.entry? p.place with
    | some (.database db _) => .database db
    | some (.file bytes) =>
      match if bytes.length ≤ 1 then .ok () else Pages.Header.check bytes with
      | .ok () => d.blankAt p
      | .error f => .blocked f f
    | _ => d.blankAt p

def mediumAt (d : Disk) (path : String) : Medium :=
  let p := Path.read path
  match d.makeFolders p.parent with
  | (.error f, made) =>
    match (made.makeFolders p.parent).1 with
    | .error g => .blocked f g
    | .ok () => .blocked f f
  | (.ok (), made) =>
    if hasNul p.text then .blocked .nulInPath .nulInPath
    else if p.text = fleetingPath then .fleeting
    else if !isOpenable p then .blocked .cannotOpen .cannotOpen
    else made.found p

def entryAfter (old : Option Entry) (db : Database) : Entry :=
  match old with
  | some (.database before past) =>
    .database db (if before.table = db.table then past else before.table :: past)
  | _ => .database db []

/-- The disk after a store has tried to open what lies at its path. A database that has been made or
changed leaves no journal; an attempt that failed leaves the folders, and an empty file if one could
be made. -/
def afterAttempt (d : Disk) (p : Path) (m : Medium) : Disk :=
  match m, d.makeFolders p.parent with
  | .database db, (_, made) =>
    let old := made.entry? p.place
    let new := entryAfter old db
    let left := (made.clear p.place).2
    (if old = some new then left else left.removeBeside p.place .journal).put p.place new
  | .refused _, (.ok (), made) =>
    if isOpenable p then
      let left := (made.clear p.place).2
      if (left.entry? p.place).isNone then left.put p.place (.file []) else left
    else made
  | .refused _, (.error _, made) => made
  | _, _ => d

def keep (d : Disk) (s : Store) : Disk :=
  if s.tried then d.afterAttempt (Path.read s.path) s.medium else d

/-- The bytes of a file; of a database, enough of them to show that it is no text. -/
def read (d : Disk) (path : String) : Except Fault (List UInt8) :=
  let p := Path.read path
  if hasNul p.text then .error .nulInPath
  else
    match d.walk p with
    | .error o => .error (o.fault p)
    | .ok place =>
      match d.entry? place with
      | some (.file bytes) => .ok bytes
      | some (.database db past) => .ok (Pages.File.ofTables (db.table :: past)).header
      | some .folder => .error (.isFolder p.text)
      | none => .error (.noFile p.text)

end TextMemory.Disk
