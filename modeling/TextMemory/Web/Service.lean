import TextMemory.Memory.Tool
import TextMemory.Web.Form
import TextMemory.Web.Target

/-!
# The web service

The memory answers requests under `/api/v1`. A request is checked before it reaches the memory; what
the memory refuses is told as a bad request, and any other fault as one of the service.
-/
namespace TextMemory.Web

structure Options where
  name : String
  origins : String
  mostHits : Int
deriving DecidableEq, Repr

namespace Options

def defaultOrigin : String := "http://localhost:5173"

def read (env : Environment) : Except Fault Options := do
  let mostHits ← Literal.int ((env.lookup "AGENTMEMORY_MAX_SEARCH_RESULTS").getD "50")
  let origins := Text.strip ((env.lookup "AGENTMEMORY_CORS_ORIGIN").getD defaultOrigin)
  return ⟨"agentmemory-api", origins, mostHits⟩

def sites (o : Options) : List String :=
  let named := ((o.origins.splitOn ",").map Text.strip).filter fun s => !s.isEmpty
  if named.isEmpty then [defaultOrigin] else named

def allowed? (o : Options) (origin : String) : Option String :=
  if o.sites.contains "*" || o.sites.contains origin then some origin else none

end Options

structure Content where
  kind : String
  bytes : List UInt8
deriving DecidableEq, Repr

structure Request where
  method : String
  target : Target
  content : Content
  origin : Option String
deriving DecidableEq, Repr

inductive Body
  | json (v : Json)
  | text (s : String)
  | findings (fs : List Finding)
deriving Repr

structure Response where
  status : Nat
  body : Body
deriving Repr

structure Service where
  options : Options
  memory : Memory

namespace Response

def ok (v : Json) : Response := ⟨200, .json v⟩

def detail (status : Nat) (message : String) : Response :=
  ⟨status, .json (.object [("detail", .string message)])⟩

def notFound : Response := detail 404 "Not Found"

def methodNotAllowed : Response := detail 405 "Method Not Allowed"

def redirect : Response := ⟨307, .text ""⟩

def unreadable : Response := detail 400 "There was an error parsing the body"

def broken : Response := ⟨500, .text "Internal Server Error"⟩

/-- The answer to a request in which something is wrong. What is found is told with it, which
numbers that JSON has no form for prevent. -/
def invalid (fs : List Finding) : Response :=
  if fs.all fun f => f.found.allNumbers Number.isFinite then ⟨422, .findings fs⟩ else broken

def ofFault (f : Fault) : Response := if f.isRejection then detail 400 f.message else broken

end Response

namespace Service

def start (root : String) (env : Environment) (medium : String → Medium) (clock : Timestamp)
    (embedder : Embedder) : Except Fault Service := do
  let options ← Options.read env
  let (settings, _) ← Settings.read root env
  let memory ← Memory.create settings (medium settings.path) clock embedder
  match (Memory.onStore Store.ensureOpen).perform memory with
  | (.ok (), memory) => return ⟨options, memory⟩
  | (.error f, _) => throw f

def contentType (kind : String) : String × String :=
  let whole := Text.lower (Text.strip (String.ofList (cutAt ';' kind.toList).1))
  match splitAt '/' whole.toList with
  | [main, special] => (String.ofList main, String.ofList special)
  | _ => ("text", "plain")

def isJson (kind : String) : Bool :=
  let (main, special) := contentType kind
  main == "application" && (special == "json" || special.endsWith "+json")

def bodyChars? (bytes : List UInt8) : Option (List Char) :=
  match Text.Wide.form? bytes with
  | some form => Text.Wide.decode? form bytes
  | none =>
    match Text.Utf8.decode bytes with
    | .ok s =>
      some (if s.toList.head? = some Json.byteOrderMark then s.toList.drop 1 else s.toList)
    | .error _ => none

/-- How deep lists and objects may stand in each other: at most a thousand calls may be open at
once, and fifty-five are where a body is read. -/
def nesting : Nat := 945

def bodyValue (c : Content) : Except Response (Option Json) :=
  if c.bytes.isEmpty then .ok none
  else if !isJson c.kind then .ok (some .null)
  else
    match bodyChars? c.bytes with
    | none => .error Response.unreadable
    | some cs =>
      match Json.readWithin nesting cs with
      | .ok v => .ok (some v)
      | .error (.malformedJson _ position _ _) =>
        .error (.invalid [⟨[.name "body", .position position], .notJson, .object []⟩])
      | .error _ => .error Response.unreadable

def withFields {α : Type} (c : Content) (f : (String → Field) → Checked α) :
    Except Response α := do
  let value ← bodyValue c
  let body : Field := ⟨["body"], .null, value⟩
  let checked := match value with
    | none => body.complain .missing
    | some (.object members) => f fun name => ⟨["body", name], .object members, members.lookup name⟩
    | some _ => body.complain .notFields
  match checked with
  | .ok a => return a
  | .error fs => throw (Response.invalid fs)

def queryValue (r : Request) (name : String) : Except Response String :=
  let value := r.target.query.reverse.lookup name
  match Field.filledText ⟨["query", name], .null, value.map Json.string⟩ with
  | .ok s => .ok s
  | .error fs => .error (Response.invalid fs)

def finite (n : Number) : Json :=
  match n with
  | .float x => if Binary64.infinityBits ≤ Binary64.magnitude x then .null else .float x
  | .int i => .int i

def hitJson (h : Hit) : Json := .object [
  ("content", .string h.content), ("source_path", .string h.source),
  ("title", Json.textOrNull h.title), ("chunk_index", h.index),
  ("score", finite (.float h.score))]

def infoJson (i : SourceInfo) : Json := .object [
  ("source_path", .string i.source), ("source_type", Json.textOrNull i.kind),
  ("chunk_count", .int i.count)]

def answer {α : Type} (a : Action Memory α) (whenOk : α → Response) (whenFault : Fault → Response) :
    StateM Service Response := fun s =>
  let (result, memory) := a.perform s.memory
  let response := match result with
    | .ok x => whenOk x
    | .error f => whenFault f
  (response, { s with memory := memory })

def reading {α : Type} (a : Except Response α) (f : α → StateM Service Response) :
    StateM Service Response :=
  match a with
  | .ok x => f x
  | .error response => pure response

def health : StateM Service Response := pure (.ok (.object [("status", .string "ok")]))

def publicSettings : StateM Service Response := do
  let service ← get
  let s := service.memory.settings
  return .ok (.object [
    ("auth", .string "disabled_dev_only"), ("cors_origin", .string service.options.origins),
    ("embedding_backend", .string s.backend), ("embedding_model", .string s.model),
    ("dimensions", .int s.dimensions), ("chunk_size", .int s.chunkSize),
    ("chunk_overlap", .int s.chunkOverlap), ("vector_weight", finite s.vectorWeight),
    ("keyword_weight", finite s.keywordWeight), ("rrf_k", .int s.rankConstant)])

def usualHits : Int := 6

variable [Numerics]

def search (r : Request) : StateM Service Response := do
  let fields := withFields r.content fun field =>
    Checked.both (field "query").filledText ((field "max_results").boundedInteger 1 usualHits)
  let most := (← get).options.mostHits
  reading fields fun (query, limit) =>
    answer (Memory.search query (min limit most))
      (fun hits => .ok (.object
        [("query", .string query), ("results", .array (hits.map hitJson))]))
      .ofFault

def write (r : Request) : StateM Service Response :=
  let fields := withFields r.content fun field =>
    Checked.both (field "content").filledText
      (Checked.both (field "source").optionalText (field "title").optionalText)
  reading fields fun (content, source, title) =>
    answer (Memory.write content source (Json.textOrNull title))
      (fun w => .ok (.object [("chunks_written", .int w.chunks), ("source", .string w.source)]))
      .ofFault

def readSource (r : Request) : StateM Service Response :=
  reading (queryValue r "source") fun source =>
    answer (Memory.read source)
      (fun content => match content with
        | some text => .ok (.object [("source", .string source), ("content", .string text)])
        | none => .detail 404 (Memory.notFound source))
      (fun _ => .broken)

def deleteSource (r : Request) : StateM Service Response :=
  reading (queryValue r "source") fun source =>
    answer (Memory.delete source)
      (fun n => .ok (.object [("source", .string source), ("deleted", .int n)]))
      (fun _ => .broken)

def stats : StateM Service Response :=
  answer Memory.stats
    (fun s => .ok (.object [("total_chunks", .int s.chunks), ("unique_sources", .int s.sources)]))
    (fun _ => .broken)

def sources : StateM Service Response :=
  answer Memory.sources (fun is => .ok (.array (is.map infoJson))) (fun _ => .broken)

def toolAnswer : Tool.Answer → Json
  | .text result => .object [("ok", .bool true), ("result", .string result)]
  | .failure message => .object [("ok", .bool false), ("error", .string message)]

def callTool (name : String) (r : Request) : StateM Service Response :=
  let fields := withFields r.content fun field =>
    (field "arguments").objectOrEmpty
  reading fields fun arguments =>
    answer (Tool.executeNamed (.string name) arguments) (fun a => .ok (toolAnswer a))
      fun _ => .broken

abbrev Offer := List (String × (Request → StateM Service Response))

def fixedOffers : List (String × Offer) := [
  ("/healthz", [("GET", fun _ => health)]),
  ("/config/public", [("GET", fun _ => publicSettings)]),
  ("/memory/search", [("POST", search)]),
  ("/memory/write", [("POST", write)]),
  ("/memory/source", [("GET", readSource), ("DELETE", deleteSource)]),
  ("/memory/stats", [("GET", fun _ => stats)]),
  ("/memory/sources", [("GET", fun _ => sources)]),
  ("/memory/tools", [("GET", fun _ => pure (.ok (.array Tool.definitions)))])]

def toolsPath : List Char := "/memory/tools/".toList

def base : List Char := "/api/v1".toList

def toolName? (path : List Char) : Option String :=
  let name := path.drop toolsPath.length
  if toolsPath.isPrefixOf path && !name.isEmpty && !name.contains '/' then some (String.ofList name)
  else none

/-- Whether a place is meant by a path. A line end after the path does not count. -/
def isAt (path : List Char) (place : String) : Bool :=
  path = place.toList || path = place.toList ++ ['\n']

def offer? (path : List Char) : Option Offer :=
  match fixedOffers.find? fun o => isAt path o.1 with
  | some o => some o.2
  | none => (toolName? path).map fun name => [("POST", callTool name)]

/-- The places of the pages that describe the service, which are left out here. -/
def pages : List String := ["/docs", "/docs/oauth2-redirect", "/redoc", "/openapi.json"]

def page (_ : Request) : StateM Service Response := pure ⟨200, .text ""⟩

def offerAt? (path : List Char) : Option Offer :=
  if pages.any (isAt path) then some [("GET", page), ("HEAD", page)]
  else if base.isPrefixOf path then offer? (path.drop base.length)
  else none

def otherPath (path : List Char) : List Char :=
  if path.getLast? = some '/' then (path.reverse.dropWhile (· == '/')).reverse else path ++ ['/']

def dispatch (r : Request) : StateM Service Response :=
  let path := r.target.path.toList
  match offerAt? path with
  | some offer =>
    match offer.lookup r.method with
    | some handler => handler r
    | none => pure .methodNotAllowed
  | none =>
    if path ≠ ['/'] && (offerAt? (otherPath path)).isSome then pure .redirect
    else pure .notFound

/-- The response to a request; without its body where only the head is asked for. A method may be
named in small letters. -/
def respond (r : Request) : StateM Service Response := do
  let r := { r with method := Text.upper r.method }
  let response ← dispatch r
  return if r.method = "HEAD" then { response with body := .text "" } else response

/-- The site that a response names as its reader; a broken service names none. -/
def reader? (o : Options) (r : Request) (response : Response) : Option String :=
  if response.status = 500 then none else r.origin.bind o.allowed?

end Service
end TextMemory.Web
