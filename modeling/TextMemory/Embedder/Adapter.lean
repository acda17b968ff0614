import TextMemory.Action
import TextMemory.Embedder.Basic
import TextMemory.Settings.Basic

/-!
# Backends

Two backends make vectors: a local model, which is loaded at its first use, and a remote service,
whose client is made at its first use. The requests to them are kept in order. Whatever else a
backend does, such as an answer that is no vectors or has no order, is an outage.
-/
namespace TextMemory

inductive Provider
  | remote (model : String) (dimensions : Int)
  | onSite (model : String) (dimensions : Int) (batch : Int)
deriving DecidableEq, Repr

namespace Provider

def name : Provider → String
  | remote .. => "OpenAIEmbeddingProvider"
  | onSite .. => "FastEmbedProvider"

def dimensions : Provider → Int
  | remote _ d => d
  | onSite _ d _ => d

def of? (backend model : String) (dimensions : Int) : Except Fault Provider :=
  if backend = "openai" then .ok (remote model dimensions)
  else if backend = "fastembed" then .ok (onSite model dimensions 32)
  else .error (.backend backend)

end Provider

structure Account where
  key : String
  address : Option String
deriving DecidableEq, Repr

def Account.read (env : Environment) : Except Fault Account :=
  match Settings.setting? env "OPENAI_API_KEY" with
  | none => .error .apiKey
  | some key => .ok ⟨key, Settings.setting? env "OPENAI_BASE_URL"⟩

def executionUnits (env : Environment) : Option (List String) :=
  let raw := Text.strip ((env.lookup "AGENTMEMORY_EMBEDDING_PROVIDERS").getD "CPUExecutionProvider")
  if raw.isEmpty || Text.lower raw = "auto" then none
  else
    let parts := (raw.splitOn ",").map Text.strip
    some (parts.filter fun p => !p.isEmpty)

inductive Request
  | client (account : Account)
  | load (model : String) (units : Option (List String))
  | remote (model : String) (texts : List String) (dimensions : Int)
  | onSite (texts : List String) (batch : Int)
deriving DecidableEq, Repr

structure Item where
  position : Int
  vector : Except Outage Vector

inductive Reply
  | listed (items : List Item)
  | vectors (vs : List Vector)
  | outage (o : Outage)

def Reply.items (data : List (Int × Vector)) : Reply := .listed (data.map fun i => ⟨i.1, .ok i.2⟩)

structure Adapter where
  provider : Provider
  environment : Environment
  ready : Bool
  requests : List Request
  replies : List Reply
  /-- what goes wrong, if anything, at the next attempts to get ready -/
  attempts : List (Option Outage) := []

namespace Adapter

def sortItems (items : List Item) : List Item := items.mergeSort fun a b => a.position ≤ b.position

def vectorsOf : Provider → Reply → Except Outage (List Vector)
  | _, .outage o => .error o
  | _, .listed items => (sortItems items).mapM Item.vector
  | .remote .., .vectors vs => .ok vs
  | .onSite .., .vectors vs =>
    match vs.mapM fun v => v.mapM fun n => n.toFloat.map Number.float with
    | .ok vs => .ok vs
    | .error f => .error (.other f.message)

def ask (r : Request) (a : Adapter) : Reply × Adapter :=
  let a := { a with requests := a.requests ++ [r] }
  match a.replies with
  | reply :: rest => (reply, { a with replies := rest })
  | [] => (.outage (.other "pop from empty list"), a)

def beginning (a : Adapter) : Except Fault Request :=
  match a.provider with
  | .remote .. => (Account.read a.environment).map .client
  | .onSite model .. => .ok (.load model (executionUnits a.environment))

/-- The backend made ready, unless it is; an attempt that fails is made again at the next use. -/
def prepare (a : Adapter) : Except Outage Unit × Adapter :=
  if a.ready then (.ok (), a)
  else
    match a.beginning with
    | .error f => (.error (.other f.message), a)
    | .ok r =>
      match a.attempts with
      | some o :: rest => (.error o, { a with attempts := rest })
      | rest =>
          (.ok (), { a with ready := true, requests := a.requests ++ [r], attempts := rest.tail })

def request (provider : Provider) (texts : List String) : Request :=
  match provider with
  | .remote model dimensions => .remote model texts dimensions
  | .onSite _ _ batch => .onSite texts batch

def fetch (texts : List String) (a : Adapter) : Except Outage (List Vector) × Adapter :=
  match a.prepare with
  | (.error o, a) => (.error o, a)
  | (.ok (), a) =>
    let (reply, a) := ask (request a.provider texts) a
    (vectorsOf a.provider reply, a)

def embed (texts : List String) : Action Adapter (List Vector) :=
  ExceptT.mk fun a =>
    if texts.isEmpty then (.ok [], a)
    else
      let (result, a) := fetch texts a
      (Embedder.checked a.provider.name a.provider.dimensions texts.length result, a)

def embedOne (text : String) : Action Adapter Vector := do
  match ← embed [text] with
  | [v] => return v
  | vs => throw (.notOne vs.length)

end Adapter
end TextMemory
