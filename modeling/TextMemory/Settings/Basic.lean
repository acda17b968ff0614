import TextMemory.Action
import TextMemory.Settings.Literal
import TextMemory.Disk.Path
import TextMemory.Text.LetterCase

/-!
# Settings

Settings are read from the environment. A blank value stands for the default, and so does one that
is no number where a number is asked for, with a warning.
-/
namespace TextMemory

abbrev Environment := List (String × String)

structure Settings where
  path : String
  backend : String
  model : String
  dimensions : Int
  chunkSize : Int
  chunkOverlap : Int
  vectorWeight : Number
  keywordWeight : Number
  rankConstant : Int
  candidateMultiplier : Int
deriving DecidableEq, Repr

namespace Settings

def localModel : String := "sentence-transformers/all-MiniLM-L6-v2"

def remoteModel : String := "text-embedding-3-small"

def defaultPath (root : String) : String := Path.normal (root ++ "/data/agentmemory.db")

def databasePath (root : String) (env : Environment) : String :=
  match env.lookup "AGENTMEMORY_DB_PATH" with
  | none | some "" => defaultPath root
  | some path => Path.normal path

def setting? (env : Environment) (name : String) : Option String :=
  match env.lookup name with
  | none => none
  | some raw =>
    let value := Text.strip raw
    if value.isEmpty then none else some value

def textSetting (env : Environment) (name absent : String) : String :=
  (setting? env name).getD absent

def warning (what name value : String) : LogLine :=
  ⟨.warning, "agentmemory.config", s!"Ignoring {what} {name}={Text.quoted value}"⟩

abbrev Reading (α : Type) := StateM (List LogLine) α

def intSetting (env : Environment) (name : String) (absent : Int) : Reading Int := do
  match setting? env name with
  | none => return absent
  | some value =>
    match Literal.int value with
    | .ok n => return n
    | .error _ =>
      modify (· ++ [warning "non-integer" name value])
      return absent

def numberSetting (env : Environment) (name : String) (absent : Number) : Reading Number := do
  match setting? env name with
  | none => return absent
  | some value =>
    match Literal.float? value with
    | some x => return .float x
    | none =>
      modify (· ++ [warning "non-numeric" name value])
      return absent

def backendDefaults? (backend : String) : Option (String × Int) :=
  if backend = "fastembed" then some (localModel, 384)
  else if backend = "openai" then some (remoteModel, 1536)
  else none

def read (root : String) (env : Environment) : Except Fault (Settings × List LogLine) :=
  let backend := Text.lower (textSetting env "AGENTMEMORY_EMBEDDING_BACKEND" "fastembed")
  match backendDefaults? backend with
  | none => .error (.backendSetting backend)
  | some (model, dimensions) =>
    let fields : Reading Settings := do
      let dimensions ← intSetting env "AGENTMEMORY_DIMENSIONS" dimensions
      let chunkSize ← intSetting env "AGENTMEMORY_CHUNK_SIZE" 500
      let chunkOverlap ← intSetting env "AGENTMEMORY_CHUNK_OVERLAP" 64
      let vectorWeight ← numberSetting env "AGENTMEMORY_VECTOR_WEIGHT" (.float 0.7)
      let keywordWeight ← numberSetting env "AGENTMEMORY_KEYWORD_WEIGHT" (.float 0.3)
      let rankConstant ← intSetting env "AGENTMEMORY_RRF_K" 60
      let candidateMultiplier ← intSetting env "AGENTMEMORY_CANDIDATE_MULTIPLIER" 2
      return {
        path := databasePath root env
        backend := backend
        model := textSetting env "AGENTMEMORY_EMBEDDING_MODEL" model
        dimensions, chunkSize, chunkOverlap, vectorWeight, keywordWeight, rankConstant
        candidateMultiplier }
    .ok (fields.run [])

end Settings
end TextMemory
