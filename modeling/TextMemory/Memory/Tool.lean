import TextMemory.Memory.Basic
import TextMemory.Settings.Literal

/-!
# Tools

Three tools let a language model search, write and read the memory. Their arguments are JSON of any
kind: what is no text is shown as text, and a call that cannot be answered tells why.
-/
namespace TextMemory

inductive Tool
  | search
  | write
  | get
deriving DecidableEq, Repr

namespace Tool

def name : Tool → String
  | search => "memory_search"
  | write => "memory_write"
  | get => "memory_get"

def of? (s : String) : Option Tool := [search, write, get].find? fun t => t.name = s

def mostHits : Int := 50

def usualHits : Int := 6

def description : Tool → String
  | search =>
      "Search persistent memory for relevant information. Use this to find past context, " ++
      "decisions, preferences, or facts."
  | write => "Write content to persistent memory. Use this to save important decisions, " ++
      "preferences, facts, or context for future reference. Write to 'MEMORY.md' for long-term " ++
      "durable facts, or let it default to the daily log."
  | get =>
      "Read a specific memory source by its path. Use this to review what's already stored there."

def parameter (name kind description : String) (more : List (String × Json)) : String × Json :=
  (name, .object (("type", .string kind) :: more ++ [("description", .string description)]))

def parameters : Tool → List (String × Json)
  | search => [
      parameter "query" "string" "The search query to find relevant information in memory" [],
      parameter "max_results" "integer" "Maximum number of results to return (default 6)"
        [("minimum", .int 1), ("maximum", .int mostHits)]]
  | write => [
      parameter "content" "string" "The content to write to memory" [],
      parameter "source" "string" "Source path for the memory entry (default: daily log)" [],
      parameter "title" "string" "Optional title for the memory entry" []]
  | get => [
      parameter "source" "string"
        "The source path to read (e.g., 'MEMORY.md' or 'memory/2026-02-14.md')" []]

def definition (t : Tool) : Json := .object [
  ("type", .string "function"),
  ("name", .string t.name),
  ("description", .string t.description),
  ("parameters", .object [
    ("type", .string "object"),
    ("properties", .object t.parameters),
    ("required", .array ((t.parameters.take 1).map fun p => .string p.1))])]

def definitions : List Json := [search, write, get].map definition

def argument? (arguments : Json) (name : String) : Except Fault (Option Json) :=
  match arguments with
  | .object members => .ok (members.lookup name)
  | v => .error (.noMember v.kind "get")

def neededText (arguments : Json) (name : String) : Except Fault String := do
  let value := (← argument? arguments name).getD (.string "")
  let text := Text.strip value.shown
  if text.isEmpty then throw (.requiredField name)
  return text

def integer : Json → Except Fault Int
  | .bool b => .ok (if b then 1 else 0)
  | .number (.int n) => .ok n
  | .number (.float x) =>
    if Binary64.infinityBits < Binary64.magnitude x then .error .notANumber
    else if Binary64.magnitude x = Binary64.infinityBits then .error .infinite
    else .ok (Binary64.truncate x)
  | .string s => Literal.int s
  | v => .error (.notNumeric v.kind)

def hitLimit (arguments : Json) : Except Fault Int := do
  match (← argument? arguments "max_results").getD .null with
  | .null => return usualHits
  | raw => return min (← integer raw) mostHits

def filled? (arguments : Json) (name : String) : Except Fault (Option Json) := do
  return (← argument? arguments name).filter Json.isFilled

def hitText (i : Nat) (h : Hit) : String :=
  s!"**Result {i}** (score: " ++ fixedText 3 h.score ++ s!", source: {h.source})\n" ++ h.content

variable [Numerics]

def callSearch (arguments : Json) : Action Memory String := do
  let query ← Action.ofExcept (neededText arguments "query")
  let limit ← Action.ofExcept (hitLimit arguments)
  let hits ← Memory.search query limit
  if hits.isEmpty then return Memory.nothingFound
  return "\n\n---\n\n".intercalate (hits.zipIdx.map fun (h, i) => hitText (i + 1) h)

def sourceArgument : Option Json → Except Fault (Option String)
  | none => .ok none
  | some v => (v.textFor "strip").map some

def callWrite (arguments : Json) : Action Memory String := do
  let content := ((← Action.ofExcept (filled? arguments "content")).map Json.shown).getD ""
  let source ← Action.ofExcept (filled? arguments "source")
  let title ← Action.ofExcept (filled? arguments "title")
  Action.ofExcept (Memory.checkContent content)
  let source ← Action.ofExcept (sourceArgument source)
  return (← Memory.write content source (title.getD .null)).text

def callGet (arguments : Json) : Action Memory String := do
  let source ← Action.ofExcept (neededText arguments "source")
  return (← Memory.read source).getD (Memory.notFound source)

def call : Tool → Json → Action Memory String
  | search => callSearch
  | write => callWrite
  | get => callGet

inductive Answer
  | text (result : String)
  | failure (message : String)
deriving DecidableEq, Repr

def execute (tool : Tool) (arguments : Json) : StateM Memory Answer := do
  match ← (tool.call arguments).run with
  | .ok result => return .text result
  | .error fault => return .failure fault.message

def executeNamed (name : Json) (arguments : Json) : Action Memory Answer :=
  match name with
  | .array _ | .object _ => throw (.unhashable name.kind)
  | .string s =>
    match of? s with
    | some tool => ExceptT.lift (execute tool arguments)
    | none => return .failure s!"Unknown tool: {s}"
  | v => return .failure ("Unknown tool: " ++ v.shown)

end Tool
end TextMemory
