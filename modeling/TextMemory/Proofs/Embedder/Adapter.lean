import TextMemory.Proofs.Embedder.Backend

/-!
# Calls of a backend

A call of an adapter gives a vector of the right size for each of its texts, or tells of an
embedder's fault, whatever the backend does. A backend is made ready once, before it is first asked,
and it is asked at most once in a call, for the texts of the call; if there are none, it is not
asked.
-/
namespace TextMemory.Adapter

open TextMemory.Action

variable {a : Adapter}

inductive Call
  | embed (texts : List String)
  | embedOne (text : String)

namespace Call

def texts : Call → List String
  | embed texts => texts
  | embedOne text => [text]

def action : Call → Action Adapter (List Vector)
  | embed texts => Adapter.embed texts
  | embedOne text => (fun v => [v]) <$> Adapter.embedOne text

theorem action_perform (c : Call) (a : Adapter) :
    c.action.perform a = (Adapter.embed c.texts).perform a := by
  cases c with
  | embed texts => rfl
  | embedOne text =>
    have hembed := embed_perform (List.cons_ne_nil text []) a
    rw [action, perform_map, Adapter.embedOne, perform_bind, texts, hembed]
    cases hchecked : Embedder.checked a.provider.name a.provider.dimensions [text].length
        a.response with
    | error f => rfl
    | ok vs =>
      obtain ⟨-, hcount, -⟩ := Embedder.checked_eq_ok.mp hchecked
      obtain ⟨v, rfl⟩ := List.length_eq_one_iff.mp hcount
      rfl

end Call

structure Turn where
  call : Call
  before : Adapter
  answer : Except Fault (List Vector)
  after : Adapter

namespace Turn

def begun (t : Turn) : List Request := if t.call.texts = [] then [] else t.before.begun

def asked (t : Turn) : List Request :=
  if t.call.texts = [] then [] else t.before.asked t.call.texts

/-- A turn with a provider's backend as it has to be, whatever the backend does: it gives vectors or
raises something. Vectors of the right size, one for each text, are the answer. An embedder's fault
that the backend raises is told as it is, and everything else as such a fault, also that there is no
key. The backend is asked once at most, for the texts of the call, and each attempt to get it ready
and each reply is met once. -/
structure Sound (p : Provider) (t : Turn) : Prop where
  fits : ∀ vs, t.answer = .ok vs →
    vs.length = t.call.texts.length ∧ ∀ v ∈ vs, (v.length : Int) = p.dimensions
  complains : ∀ f, t.answer = .error f → Embedder.Complains p.dimensions f
  idle : t.call.texts = [] → t.answer = .ok [] ∧ t.after = t.before
  meets : (∃ vs, t.before.Gives vs) ∨ ∃ o, t.before.Raises o
  accepts : t.call.texts ≠ [] → ∀ vs, t.before.Gives vs → vs.length = t.call.texts.length →
    (∀ v ∈ vs, (v.length : Int) = p.dimensions) → t.answer = .ok vs
  passes : t.call.texts ≠ [] → ∀ m, t.before.Raises (.embedding m) →
    t.answer = .error (.embedding m)
  wraps : t.call.texts ≠ [] → ∀ m, t.before.Raises (.other m) →
    t.answer = .error (.embedding s!"{p.name} failed: {m}")
  asks : t.asked = [] ∨ t.call.texts ≠ [] ∧ t.asked = [request p t.call.texts]
  reaches : t.call.texts ≠ [] → t.before.Available → t.asked = [request p t.call.texts]
  requests : t.after.requests = t.before.requests ++ t.begun ++ t.asked
  replies : t.after.replies = if t.asked = [] then t.before.replies else t.before.replies.tail
  attempts : t.call.texts ≠ [] → t.before.ready = false → ¬t.before.Keyless →
    t.after.attempts = t.before.attempts.tail

end Turn

def under (environment : Environment) (a : Adapter) : Adapter := { a with environment }

def turn (a : Adapter) (visit : Environment × Call) : Turn :=
  let outcome := visit.2.action.perform (a.under visit.1)
  ⟨visit.2, a.under visit.1, outcome.1, outcome.2⟩

def turns (a : Adapter) : List (Environment × Call) → List Turn
  | [] => []
  | visit :: rest => a.turn visit :: (a.turn visit).after.turns rest

def leaving (a : Adapter) : List (Environment × Call) → Adapter
  | [] => a
  | visit :: rest => (a.turn visit).after.leaving rest

variable {visit : Environment × Call}

example :
    let a : Adapter :=
      ⟨.remote "steeper" 1, [], false, [], [.vectors [[.int 1]], .vectors [[]], .vectors []],
      [some (.embedding "no pot")]⟩
    let key : Environment := [("OPENAI_API_KEY", "k")]
    let visits : List (Environment × Call) :=
      [([], .embed ["tea"]), (key, .embedOne "tea"), ([], .embed []),
      (key, .embedOne "tea"), (key, .embedOne "iced tea"), ([], .embed ["a", "b"])]
    (a.turns visits).map Turn.answer = [
      .error (.embedding "OpenAIEmbeddingProvider failed: Set OPENAI_API_KEY"),
      .error (.embedding "no pot"), .ok [],
      .ok [[.int 1]], .error (.mismatch "provider embedding" 1 0),
      .error (.embedding "provider returned 0 vectors for 2 texts")] ∧
    (a.leaving visits).requests = [.client ⟨"k", none⟩, .remote "steeper" ["tea"] 1,
      .remote "steeper" ["iced tea"] 1, .remote "steeper" ["a", "b"] 1] := by
  decide +kernel

end TextMemory.Adapter
