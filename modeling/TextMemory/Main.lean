import Std.Time.DateTime.Timestamp
import TextMemory.CommandLine.Run
import TextMemory.Store.Snapshot

/-!
# The program

Reads what a run needs of the world, runs the command line on it, and writes back what has changed.
Vectors are made by counting characters.
-/
namespace TextMemory

def variableNames : List String :=
  ["AGENTMEMORY_DB_PATH", "AGENTMEMORY_EMBEDDING_BACKEND", "AGENTMEMORY_EMBEDDING_MODEL",
    "AGENTMEMORY_DIMENSIONS", "AGENTMEMORY_CHUNK_SIZE", "AGENTMEMORY_CHUNK_OVERLAP",
    "AGENTMEMORY_VECTOR_WEIGHT", "AGENTMEMORY_KEYWORD_WEIGHT", "AGENTMEMORY_RRF_K",
    "AGENTMEMORY_CANDIDATE_MULTIPLIER", "AGENTMEMORY_LOG_LEVEL"]

def readEnvironment : IO Environment := do
  let values ← variableNames.mapM fun name => do
    return (← IO.getEnv name).map fun v => (name, v)
  return values.filterMap id

def readClock : IO Timestamp := do
  let now ← Std.Time.Timestamp.now
  match Timestamp.ofSeconds? now.toSecondsSinceUnixEpoch.val.toNat with
  | some t => return t
  | none => throw (IO.userError "the clock is out of range")

def entryOf (bytes : List UInt8) : Entry :=
  match Text.Utf8.decode bytes with
  | .ok s => ((Database.ofText? s).map fun db => .database db []).getD (.file bytes)
  | .error _ => .file bytes

def readEntry (path : String) : IO (Option Entry) := do
  try
    let bytes ← IO.FS.readBinFile path
    return some (entryOf bytes.toList)
  catch
    | .noFileOrDirectory .. => return none
    | _ => return some .folder

def survey (d : Disk) (p : Path) : IO Disk := do
  let found ← p.steps.mapM fun step => do
    return (step.place, ← readEntry step.text)
  return found.foldl (fun d f => (f.2.map (d.put f.1)).getD d) d

/-- The files that a command line reads besides the database, and whether it reads the input. -/
def readsOf (args : List String) : List String × Bool :=
  match CommandLine.Command.read args with
  | .ok (.write file _ _) =>
    let name := file.getD ""
    if name = "" || name = "-" then ([], true) else ([name], false)
  | _ => ([], false)

def saveDatabase (path : Path) (d : Disk) : IO Unit := do
  match d.entry? path.place with
  | some (.database db _) =>
    IO.FS.createDirAll path.parent.text
    IO.FS.writeFile path.text db.text
  | _ => return ()

end TextMemory

open TextMemory in
def main (args : List String) : IO UInt32 := do
  let environment ← readEnvironment
  let clock ← readClock
  let path := Path.read (Settings.databasePath "." environment)
  let (files, wantsInput) := readsOf args
  let disk ← (path :: files.map Path.read).foldlM survey Disk.empty
  let input ← if wantsInput then (← IO.getStdin).readBinToEnd else pure ByteArray.empty
  let around : CommandLine.Surroundings := {
    environment, root := ".", clock, input := input.toList
    embedder := fun s => Embedder.counting "CharacterCounts" s.dimensions }
  let (result, after) := CommandLine.run around args disk
  if after ≠ disk then saveDatabase path after
  match result with
  | .error fault =>
    (← IO.getStderr).putStrLn fault.message
    return 1
  | .ok o =>
    (← IO.getStdout).putStr o.output
    (← IO.getStderr).putStr o.errors
    return o.code.toUInt32
