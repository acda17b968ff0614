import TextMemory.Embedder.Adapter
import TextMemory.Proofs.Action
import TextMemory.Proofs.Embedder.Basic
import TextMemory.Proofs.Precedence
import TextMemory.Proofs.Result

/-!
# What a backend does

A backend may be hindered from getting ready, and once it is ready it answers a request with vectors
or raises something. Which of these it does is told by its account, by the attempts to get it ready
and by the reply that is next. An adapter asks it once, for the texts that it is given, and checks
what it comes to.
-/
namespace TextMemory

/-- Items in the order of their positions; those of one position keep their order. -/
structure Item.Ordered (items sorted : List Item) : Prop where
  ascends : sorted.Pairwise fun i j => i.position ≤ j.position
  keeps : ∀ n, sorted.filter (fun i => i.position = n) = items.filter fun i => i.position = n

inductive Number.Floats : Number → Number → Prop
  | float (x : Float) : Floats (.float x) (.float x)
  | int {n : Int} {x : Float} (h : Binary64.ofInt? n = some x) : Floats (.int n) (.float x)

namespace Reply

/-- The vectors that a reply has, one behind the other in the order of their texts. -/
inductive Gives : Provider → Reply → List Vector → Prop
  | listed {p : Provider} {items sorted : List Item} {vs : List Vector}
      (hsorted : Item.Ordered items sorted)
      (h : List.Forall₂ (fun i v => i.vector = .ok v) sorted vs) : Gives p (.listed items) vs
  | remote {model : String} {dimensions : Int} (vs : List Vector) :
      Gives (.remote model dimensions) (.vectors vs) vs
  | onSite {model : String} {dimensions batch : Int} {vs ws : List Vector}
      (h : List.Forall₂ (List.Forall₂ Number.Floats) vs ws) :
      Gives (.onSite model dimensions batch) (.vectors vs) ws

/-- What is raised in place of a reply's vectors. -/
inductive Raises : Provider → Reply → Outage → Prop
  | outage {p : Provider} (o : Outage) : Raises p (.outage o) o
  | listed {p : Provider} {items before after : List Item} {i : Item} {o : Outage}
      (hsorted : Item.Ordered items (before ++ i :: after))
      (hbefore : ∀ j ∈ before, ∃ v, j.vector = .ok v) (h : i.vector = .error o) :
      Raises p (.listed items) o
  | onSite {model : String} {dimensions batch : Int} {vs : List Vector} {v : Vector} {n : Int}
      (hv : v ∈ vs) (hn : .int n ∈ v) (h : Binary64.ofInt? n = none) :
      Raises (.onSite model dimensions batch) (.vectors vs)
        (.other "int too large to convert to float")

end Reply

namespace Adapter

open TextMemory.Action

variable {a : Adapter} {p : Provider} {items sorted : List Item} {vs : List Vector} {o : Outage}

def Keyless (a : Adapter) : Prop :=
  (∃ model dimensions, a.provider = .remote model dimensions) ∧
    Settings.setting? a.environment "OPENAI_API_KEY" = none

/-- The backend is ready, or gets ready at the next attempt. -/
def Available (a : Adapter) : Prop :=
  a.ready = true ∨ ¬a.Keyless ∧ ∀ o rest, a.attempts ≠ some o :: rest

structure Gives (a : Adapter) (vs : List Vector) : Prop where
  available : a.Available
  reply : ∃ reply rest, a.replies = reply :: rest ∧ reply.Gives a.provider vs

/-- What is raised in place of the vectors that are asked for: there is no key, getting ready fails,
there is no reply, or the reply is no vectors. -/
inductive Raises (a : Adapter) : Outage → Prop
  | keyless (hready : a.ready = false) (h : a.Keyless) : Raises a (.other "Set OPENAI_API_KEY")
  | unready {o : Outage} {rest : List (Option Outage)} (hready : a.ready = false)
      (hkey : ¬a.Keyless) (h : a.attempts = some o :: rest) : Raises a o
  | silent (h : a.Available) (hreplies : a.replies = []) : Raises a (.other "pop from empty list")
  | reply {reply : Reply} {rest : List Reply} {o : Outage} (h : a.Available)
      (hreplies : a.replies = reply :: rest) (hreply : reply.Raises a.provider o) : Raises a o

theorem sortItems_perm (items : List Item) : (sortItems items).Perm items :=
  List.mergeSort_perm items _

theorem sortItems_ordered (items : List Item) : Item.Ordered items (sortItems items) := by
  have htrans : ∀ i j k : Item, decide (i.position ≤ j.position) = true →
      decide (j.position ≤ k.position) = true → decide (i.position ≤ k.position) = true :=
    fun i j k => by simpa using Int.le_trans
  have htotal : ∀ i j : Item,
      (decide (i.position ≤ j.position) || decide (j.position ≤ i.position)) = true :=
    fun i j => by simpa using Int.le_total i.position j.position
  constructor
  case ascends =>
    apply (List.pairwise_mergeSort htrans htotal items).imp
    exact fun h => of_decide_eq_true h
  case keeps =>
    intro n
    apply Precedence.filter_mergeSort htrans htotal
    intro i j hi hj
    simp only [decide_eq_true_eq] at hi hj ⊢
    omega

def hindrance? (a : Adapter) : Option Outage :=
  if a.ready then none
  else
    match a.beginning with
    | .error f => some (.other f.message)
    | .ok _ => a.attempts.head?.join

def response (a : Adapter) : Except Outage (List Vector) :=
  match a.hindrance? with
  | some o => .error o
  | none => vectorsOf a.provider (a.replies.headD (.outage (.other "pop from empty list")))

theorem keyless_iff : a.Keyless ↔ a.beginning = .error .apiKey := by
  unfold Keyless beginning
  cases hprovider : a.provider with
  | remote model dimensions =>
    rw [Account.read]
    cases Settings.setting? a.environment "OPENAI_API_KEY" with
    | none => simp [Except.map]
    | some key => simp [Except.map]
  | onSite model dimensions batch => simp

theorem beginning_of_key (h : ¬a.Keyless) : ∃ r, a.beginning = .ok r := by
  rw [keyless_iff] at h
  unfold beginning at h ⊢
  split at h
  · rw [Account.read] at h ⊢
    split at h
    · exact absurd rfl h
    · exact ⟨_, rfl⟩
  · exact ⟨_, rfl⟩

theorem hindrance?_of_ready (h : a.ready = true) : a.hindrance? = none := if_pos h

theorem hindrance?_of_keyless (hready : a.ready = false) (h : a.Keyless) :
    a.hindrance? = some (.other "Set OPENAI_API_KEY") := by
  rw [hindrance?, if_neg (ne_true_of_eq_false hready), keyless_iff.mp h]
  rfl

theorem hindrance?_of_key (hready : a.ready = false) (h : ¬a.Keyless) :
    a.hindrance? = a.attempts.head?.join := by
  obtain ⟨r, hr⟩ := beginning_of_key h
  rw [hindrance?, if_neg (ne_true_of_eq_false hready), hr]

theorem join_head?_eq_none {attempts : List (Option Outage)} :
    attempts.head?.join = none ↔ ∀ o rest, attempts ≠ some o :: rest := by
  cases attempts with
  | nil => simp
  | cons attempt rest => cases attempt <;> simp

theorem join_head?_eq_some {attempts : List (Option Outage)} :
    attempts.head?.join = some o ↔ ∃ rest, attempts = some o :: rest := by
  cases attempts with
  | nil => simp
  | cons attempt rest => cases attempt <;> simp

theorem hindrance?_eq_none : a.hindrance? = none ↔ a.Available := by
  unfold Available
  cases hready : a.ready with
  | true => simp [hindrance?_of_ready hready]
  | false =>
    by_cases hkey : a.Keyless
    · simp [hindrance?_of_keyless hready hkey, hkey]
    · simp [hindrance?_of_key hready hkey, hkey, join_head?_eq_none]

theorem hindrance?_eq_some : a.hindrance? = some o ↔ a.ready = false ∧
    (a.Keyless ∧ o = .other "Set OPENAI_API_KEY" ∨
      ¬a.Keyless ∧ ∃ rest, a.attempts = some o :: rest) := by
  cases hready : a.ready with
  | true => simp [hindrance?_of_ready hready]
  | false =>
    by_cases hkey : a.Keyless
    · simp [hindrance?_of_keyless hready hkey, hkey, eq_comm]
    · simp [hindrance?_of_key hready hkey, hkey, join_head?_eq_some]

theorem response_of_some (h : a.hindrance? = some o) : a.response = .error o := by
  rw [response, h]

theorem response_of_available (h : a.Available) :
    a.response =
      vectorsOf a.provider (a.replies.headD (.outage (.other "pop from empty list"))) := by
  rw [response, hindrance?_eq_none.mpr h]

def begun (a : Adapter) : List Request :=
  if a.ready || a.hindrance?.isSome then [] else a.beginning.toOption.toList

def asked (a : Adapter) (texts : List String) : List Request :=
  if a.hindrance?.isSome then [] else [request a.provider texts]

def untried (a : Adapter) : List (Option Outage) :=
  if a.ready || !a.beginning.isOk then a.attempts else a.attempts.tail

def used (a : Adapter) (texts : List String) : Adapter :=
  { a with
    ready := a.ready || a.hindrance?.isNone
    requests := a.requests ++ a.begun ++ a.asked texts
    replies := if a.hindrance?.isSome then a.replies else a.replies.tail
    attempts := a.untried }

theorem begun_of_some (h : a.hindrance? = some o) : a.begun = [] := by
  rw [begun, h, Option.isSome_some, Bool.or_true, if_pos rfl]

theorem begun_of_ready (h : a.ready = true) : a.begun = [] := by
  rw [begun, h, Bool.true_or, if_pos rfl]

theorem begun_of_none (hready : a.ready = false) (h : a.hindrance? = none) {r : Request}
    (hr : a.beginning = .ok r) : a.begun = [r] := by
  rw [begun, hready, h, hr]
  rfl

theorem untried_of_ready (h : a.ready = true) : a.untried = a.attempts := by
  rw [untried, h]
  rfl

theorem untried_of_keyless (h : a.Keyless) : a.untried = a.attempts := by
  rw [untried, keyless_iff.mp h, if_pos]
  exact Bool.or_true _

theorem untried_of_key (hready : a.ready = false) (h : ¬a.Keyless) :
    a.untried = a.attempts.tail := by
  obtain ⟨r, hr⟩ := beginning_of_key h
  rw [untried, hready, hr]
  rfl

theorem prepare_of_some (h : a.hindrance? = some o) :
    a.prepare = (.error o, { a with attempts := a.untried }) := by
  obtain ⟨hready, ⟨hkeyless, rfl⟩ | ⟨hkey, rest, hattempts⟩⟩ := hindrance?_eq_some.mp h
  · rw [prepare, if_neg (ne_true_of_eq_false hready), keyless_iff.mp hkeyless,
      untried_of_keyless hkeyless]
    rfl
  · obtain ⟨r, hr⟩ := beginning_of_key hkey
    rw [prepare, if_neg (ne_true_of_eq_false hready), hr, untried_of_key hready hkey, hattempts]
    rfl

theorem prepare_of_none (h : a.hindrance? = none) :
    a.prepare = (.ok (),
      { a with ready := true, requests := a.requests ++ a.begun, attempts := a.untried }) := by
  cases hready : a.ready with
  | true =>
    rw [prepare, if_pos hready, begun_of_ready hready, List.append_nil, untried_of_ready hready,
      ← hready]
  | false =>
    obtain ⟨hkey, hattempts⟩ := (hindrance?_eq_none.mp h).resolve_left (ne_true_of_eq_false hready)
    obtain ⟨r, hr⟩ := beginning_of_key hkey
    rw [prepare, if_neg (ne_true_of_eq_false hready), hr, begun_of_none hready h hr,
      untried_of_key hready hkey]
    dsimp only
    split
    · rename_i o rest hfails
      exact absurd hfails (hattempts o rest)
    · rfl

theorem fetch_eq (texts : List String) (a : Adapter) :
    fetch texts a = (a.response, a.used texts) := by
  rw [fetch]
  cases h : a.hindrance? with
  | some o =>
    rw [prepare_of_some h, response_of_some h, used, asked, begun_of_some h, h]
    simp
  | none =>
    rw [prepare_of_none h, response_of_available (hindrance?_eq_none.mp h), used, asked, h]
    cases hreplies : a.replies with
    | nil => simp [ask]
    | cons reply rest => simp [ask]

theorem embed_perform {texts : List String} (hne : texts ≠ []) (a : Adapter) :
    (embed texts).perform a = (Embedder.checked a.provider.name a.provider.dimensions texts.length
      a.response, a.used texts) := by
  have hperform : (embed texts).perform a = if texts.isEmpty then (.ok [], a) else
      (Embedder.checked (fetch texts a).2.provider.name (fetch texts a).2.provider.dimensions
        texts.length (fetch texts a).1, (fetch texts a).2) := rfl
  rw [hperform, if_neg (mt List.isEmpty_iff.mp hne), fetch_eq]
  rfl

end Adapter
end TextMemory
