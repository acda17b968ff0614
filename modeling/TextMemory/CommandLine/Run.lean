import TextMemory.CommandLine.Command
import TextMemory.Disk.Medium
import TextMemory.Memory.Basic
import TextMemory.Text.LineEnd

/-!
# Running a command

A command works on the memory that the environment sets, and that lies on the disk. What it has to
say is printed once the work is done, and the output may refuse it; what went wrong and the log go
to the second output, and the exit code tells whether all went well, also that at the end both
outputs get out what they have kept back.
-/
namespace TextMemory.CommandLine

variable [Numerics]

structure Output where
  /-- What becomes of a line that is printed: nothing more, or what is told of the failure. -/
  takes : String → Except String Unit
  /-- Whether these texts of the two outputs get out at the end. -/
  ends : String → String → Bool

def Output.open : Output := ⟨fun _ => .ok (), fun _ _ => true⟩

structure Surroundings where
  environment : Environment
  root : String
  clock : Timestamp
  input : List UInt8
  embedder : Settings → Embedder
  output : Output := .open

structure Outcome where
  code : Nat
  output : String
  errors : String
deriving DecidableEq, Repr

-- The code 120 tells that something of the texts has not got out.
def Output.close (out : Output) (code : Nat) (output errors : String) : Outcome :=
  ⟨if out.ends output errors then code else 120, output, errors⟩

def threshold? (name : String) : Option Nat :=
  [("CRITICAL", 50), ("FATAL", 50), ("ERROR", 40), ("WARN", 30), ("WARNING", 30), ("INFO", 20),
    ("DEBUG", 10), ("NOTSET", 0)].lookup name

def threshold (env : Environment) : Except Fault Nat :=
  let name := Text.upper ((env.lookup "AGENTMEMORY_LOG_LEVEL").getD "WARNING")
  match threshold? name with
  | some n => .ok n
  | none => .error (.logLevel name)

def logText (least : Nat) (log : List LogLine) : String :=
  String.join ((log.filter fun l => least ≤ l.level.rank).map fun l => l.text ++ "\n")

def contentOf (bytes : List UInt8) : Except Fault String := do
  let text ← Text.Utf8.decode bytes
  return String.ofList (Text.unifyLineEnds text.toList)

def content (input : List UInt8) (disk : Disk) (file : Option String) : Except Fault String := do
  let name := file.getD ""
  if name = "" || name = "-" then contentOf input
  else contentOf (← disk.read name)

def hitLines (i : Nat) (h : Hit) : List String :=
  [s!"[{i}] " ++ fixedText 4 h.score ++ s!" {h.source}#" ++ h.index.shown, h.content, ""]

/-- The lines that a command prints; the left side is what could not be done. -/
def perform (input : List UInt8) (disk : Disk) :
    Command → Action Memory (Except String (List String))
  | .write file source title => do
    let text ← Action.ofExcept (content input disk file)
    let written ← Memory.write text source ((title.map Json.string).getD .null)
    return .ok [written.text]
  | .search query limit => do
    let hits ← Memory.search query limit
    if hits.isEmpty then return .ok [Memory.nothingFound]
    return .ok (hits.zipIdx.flatMap fun (h, i) => hitLines (i + 1) h)
  | .get source => do
    match ← Memory.read source with
    | some text => return .ok [text]
    | none => return .error (Memory.notFound source)
  | .delete source => do
    let deleted ← Memory.delete source
    return .ok [s!"Deleted {deleted} chunk(s)."]
  | .stats => do
    let s ← Memory.stats
    return .ok [s!"{s.chunks} chunks across {s.sources} sources"]

/-- The lines up to the first one that the output refuses, and what is told of that one. -/
def print (output : Output) : List String → String × Option String
  | [] => ("", none)
  | line :: lines =>
    match output.takes line with
    | .ok () =>
      let (text, refusal) := print output lines
      (line ++ "\n" ++ text, refusal)
    | .error why => ("", some why)

def outcome (output : Output) (least : Nat) (log : List LogLine) :
    Except Fault (Except String (List String)) → Outcome
  | .ok (.ok lines) =>
    match print output lines with
    | (text, none) => output.close 0 text (logText least log)
    | (text, some why) => output.close 1 text (logText least log ++ s!"Error: {why}\n")
  | .ok (.error text) => output.close 1 "" (logText least log ++ text ++ "\n")
  | .error fault => output.close 1 "" (logText least log ++ s!"Error: {fault.message}\n")

def runCommand (w : Surroundings) (least : Nat) (disk : Disk) (c : Command) : Outcome × Disk :=
  match Settings.read w.root w.environment with
  | .error f => (outcome w.output least [] (.error f), disk)
  | .ok (settings, warnings) =>
    match Memory.create settings (disk.mediumAt settings.path) w.clock (w.embedder settings) with
    | .error f => (outcome w.output least warnings (.error f), disk)
    | .ok memory =>
      let (answer, memory) := (perform w.input disk c).perform memory
      (outcome w.output least (warnings ++ memory.store.log) answer,
        disk.keep memory.store)

def stopped (output : Output) : Stop → Outcome
  | .usage program message => output.close 2 "" s!"{program}: error: {message}\n"
  | .help program => output.close 0 s!"usage: {program} [-h] ...\n" ""

/-- The outcome of a command line and the disk after it; an unknown log level ends the run at
once. -/
def run (w : Surroundings) (args : List String) (disk : Disk) :
    Except Fault Outcome × Disk :=
  match threshold w.environment with
  | .error f => (.error f, disk)
  | .ok least =>
    match Command.read args with
    | .error stop => (.ok (stopped w.output stop), disk)
    | .ok command =>
      let (o, disk) := runCommand w least disk command
      (.ok o, disk)

end TextMemory.CommandLine
