import Mathlib.Data.List.Permutation
import TextMemory.Proofs.Embedder.Adapter
import TextMemory.Proofs.Result

/-!
# Positions of items

The items of a remote service's reply come in any order. Each has the position of its text, so it
does not matter in which order they come: the vectors are the same, and so is what is wrong with
them.
-/
namespace TextMemory

open Adapter (sortItems vectorsOf)

/-- Two replies with the same items, each of which has a position of its own. -/
inductive Reply.Reordered : Reply → Reply → Prop
  | same (r : Reply) : Reordered r r
  | listed {is js : List Item} (hperm : is.Perm js) (hown : (is.map Item.position).Nodup) :
      Reordered (.listed is) (.listed js)

namespace Adapter

open TextMemory.Action

variable {is js : List Item} {a b : Adapter} {texts : List String}

theorem sortItems_eq (hperm : is.Perm js) (hown : (is.map Item.position).Nodup) :
    sortItems is = sortItems js := by
  have hsame : (sortItems is).Perm (sortItems js) :=
    (sortItems_perm is).trans (hperm.trans (sortItems_perm js).symm)
  refine hsame.eq_of_pairwise ?_ (sortItems_ordered is).ascends (sortItems_ordered js).ascends
  intro i j hi hj hij hji
  have hmem : j ∈ is := hperm.mem_iff.mpr ((sortItems_perm js).mem_iff.mp hj)
  exact List.inj_on_of_nodup_map hown ((sortItems_perm is).mem_iff.mp hi) hmem
    (Int.le_antisymm hij hji)

theorem vectorsOf_reordered (p : Provider) {r s : Reply} (h : r.Reordered s) :
    vectorsOf p r = vectorsOf p s := by
  cases h with
  | same => rfl
  | listed hperm hown => rw [vectorsOf, vectorsOf, sortItems_eq hperm hown]

def Alike (a b : Adapter) : Prop :=
  ∃ rs, List.Forall₂ Reply.Reordered a.replies rs ∧ b = { a with replies := rs }

theorem Alike.under (h : a.Alike b) (environment : Environment) :
    (a.under environment).Alike (b.under environment) := by
  obtain ⟨rs, hrs, rfl⟩ := h
  exact ⟨rs, hrs, rfl⟩

theorem Alike.provider (h : a.Alike b) : b.provider = a.provider := by
  obtain ⟨rs, -, rfl⟩ := h
  rfl

theorem Alike.requests (h : a.Alike b) : b.requests = a.requests := by
  obtain ⟨rs, -, rfl⟩ := h
  rfl

theorem prepare_replies (a : Adapter) (rs : List Reply) :
    a.prepare.2.replies = a.replies ∧
      ({ a with replies := rs } : Adapter).prepare =
        (a.prepare.1, { a.prepare.2 with replies := rs }) := by
  have hbeginning : ({ a with replies := rs } : Adapter).beginning = a.beginning := rfl
  unfold prepare
  rw [hbeginning]
  dsimp only
  split
  · exact ⟨rfl, rfl⟩
  · cases a.beginning with
    | error f => exact ⟨rfl, rfl⟩
    | ok r =>
      dsimp only
      split <;> exact ⟨rfl, rfl⟩

theorem ask_alike (h : a.Alike b) (r : Request) :
    (ask r a).1.Reordered (ask r b).1 ∧ (ask r a).2.Alike (ask r b).2 := by
  obtain ⟨rs, hrs, rfl⟩ := h
  obtain ⟨provider, environment, ready, requests, replies, attempts⟩ := a
  cases hrs with
  | nil => exact ⟨.same _, [], .nil, rfl⟩
  | cons hreply hrest => exact ⟨hreply, _, hrest, rfl⟩

theorem fetch_alike (h : a.Alike b) (texts : List String) :
    (fetch texts b).1 = (fetch texts a).1 ∧ (fetch texts a).2.Alike (fetch texts b).2 := by
  obtain ⟨rs, hrs, rfl⟩ := h
  obtain ⟨hreplies, hprepare⟩ := prepare_replies a rs
  rw [← hreplies] at hrs
  rw [fetch, fetch, hprepare]
  generalize a.prepare = outcome at hrs
  obtain ⟨⟨o⟩ | ⟨⟩, c⟩ := outcome
  · exact ⟨rfl, rs, hrs, rfl⟩
  · obtain ⟨hreply, hafter⟩ := ask_alike ⟨rs, hrs, rfl⟩ (request c.provider texts)
    refine ⟨?_, hafter⟩
    dsimp only
    rw [hafter.provider, vectorsOf_reordered _ hreply]

theorem embed_alike (h : a.Alike b) (texts : List String) :
    ((embed texts).perform b).1 = ((embed texts).perform a).1 ∧
      ((embed texts).perform a).2.Alike ((embed texts).perform b).2 := by
  have hperform (c : Adapter) : (embed texts).perform c = if texts.isEmpty then (.ok [], c) else
      (Embedder.checked (fetch texts c).2.provider.name (fetch texts c).2.provider.dimensions
        texts.length (fetch texts c).1, (fetch texts c).2) := rfl
  obtain ⟨hvectors, hafter⟩ := fetch_alike h texts
  rw [hperform, hperform]
  split
  · exact ⟨rfl, h⟩
  · exact ⟨by rw [hafter.provider, hvectors], hafter⟩

theorem turn_alike (h : a.Alike b) (visit : Environment × Call) :
    (b.turn visit).answer = (a.turn visit).answer ∧
    (a.turn visit).after.Alike (b.turn visit).after := by
  rw [turn, turn, Call.action_perform, Call.action_perform]
  exact embed_alike (h.under visit.1) visit.2.texts

theorem turns_alike (h : a.Alike b) (visits : List (Environment × Call)) :
    (b.turns visits).map Turn.answer = (a.turns visits).map Turn.answer ∧
      (a.leaving visits).Alike (b.leaving visits) := by
  induction visits generalizing a b with
  | nil => exact ⟨rfl, h⟩
  | cons visit rest ih =>
    obtain ⟨hanswer, hafter⟩ := turn_alike h visit
    obtain ⟨hanswers, hleaving⟩ := ih hafter
    exact ⟨congrArg₂ List.cons hanswer hanswers, hleaving⟩

theorem map_position_sortItems {n : Nat}
    (h : (is.map Item.position).Perm ((List.range n).map Nat.cast)) :
    (sortItems is).map Item.position = (List.range n).map Nat.cast := by
  have hsame := ((sortItems_perm is).map Item.position).trans h
  have hsorted : ((sortItems is).map Item.position).Pairwise (· ≤ ·) :=
    List.pairwise_map.mpr (sortItems_ordered is).ascends
  have hrange : ((List.range n).map (Nat.cast : Nat → Int)).Pairwise (· ≤ ·) :=
    List.pairwise_map.mpr (List.pairwise_le_range.imp Int.ofNat_le.mpr)
  exact hsame.eq_of_pairwise (fun i j _ _ => Int.le_antisymm) hsorted hrange

theorem vectors_of_positions {n : Nat}
    (h : (is.map Item.position).Perm ((List.range n).map Nat.cast))
    (hvectors : ∀ i ∈ is, ∃ v, i.vector = .ok v) :
    ∃ vs, (sortItems is).mapM Item.vector = .ok vs ∧ vs.length = n ∧
      ∀ i ∈ is, ∃ v, i.vector = .ok v ∧ vs[i.position.toNat]? = some v := by
  have hpositions := map_position_sortItems h
  have hcount : (sortItems is).length = n := by simpa using congrArg List.length hpositions
  obtain ⟨vs, hvs⟩ := Result.exists_forall₂ fun i hi =>
    hvectors i ((sortItems_perm is).mem_iff.mp hi)
  refine ⟨vs, Result.mapM_eq_ok.mpr hvs, by rw [← hvs.length_eq, hcount], ?_⟩
  intro i hi
  obtain ⟨k, hk, rfl⟩ := List.getElem_of_mem ((sortItems_perm is).mem_iff.mpr hi)
  have hplace : (sortItems is)[k].position = k := by
    have hitem := List.getElem_of_eq hpositions (i := k) (by rwa [List.length_map])
    simpa using hitem
  have hkvs : k < vs.length := by rwa [← hvs.length_eq]
  refine ⟨vs[k], hvs.get hk hkvs, ?_⟩
  rw [hplace, Int.toNat_natCast, List.getElem?_eq_getElem hkvs]

/-- The order in which a service lists the items of its replies changes no answer and no request, as
long as each item of a reply has a position of its own. Where the positions are those of the texts
and every vector fits, each text has the vector of its position. -/
theorem answers_of_reordered {a : Adapter} {replies : List Reply}
    (h : List.Forall₂ Reply.Reordered a.replies replies) (visits : List (Environment × Call)) :
    let b : Adapter := { a with replies }
    (b.turns visits).map Turn.answer = (a.turns visits).map Turn.answer ∧
      (b.leaving visits).requests = (a.leaving visits).requests ∧
      ∀ texts items rest, a.hindrance? = none → a.replies = .listed items :: rest →
        (items.map Item.position).Perm ((List.range texts.length).map Nat.cast) →
        (∀ i ∈ items, ∃ v, i.vector = .ok v ∧ (v.length : Int) = a.provider.dimensions) →
          ∃ vs, ((embed texts).perform a).1 = .ok vs ∧ vs.length = texts.length ∧
            ∀ i ∈ items, ∃ v, i.vector = .ok v ∧ vs[i.position.toNat]? = some v := by
  intro b
  have halike : a.Alike b := ⟨replies, h, rfl⟩
  obtain ⟨hanswers, hleaving⟩ := turns_alike halike visits
  refine ⟨hanswers, hleaving.requests, ?_⟩
  intro texts items rest hready hreplies hpositions hvectors
  obtain ⟨vs, hvs, hcount, hplaces⟩ := vectors_of_positions hpositions fun i hi =>
    (hvectors i hi).imp fun v hv => hv.1
  refine ⟨vs, ?_, hcount, hplaces⟩
  by_cases hempty : texts = []
  · subst hempty
    rw [List.length_eq_zero_iff.mp hcount]
    rfl
  · have hresponse : a.response = .ok vs := by
      rw [response, hready, hreplies]
      exact hvs
    rw [embed_perform hempty, Embedder.checked_eq_ok]
    refine ⟨hresponse, hcount, ?_⟩
    intro v hv
    obtain ⟨i, hi, hiv⟩ := Result.exists_of_mem_right (Result.mapM_eq_ok.mp hvs) hv
    obtain ⟨u, hu, hsize⟩ := hvectors i ((sortItems_perm items).mem_iff.mp hi)
    obtain rfl : u = v := Except.ok.inj (hu.symm.trans hiv)
    exact hsize

private def poured : List Item := [⟨1, .ok [.int 1]⟩, ⟨0, .ok [.int 0]⟩]

private def spilled : List Item :=
  [⟨2, .error (.other "cold")⟩, ⟨0, .ok []⟩, ⟨1, .error (.other "empty")⟩]

private def steeper : Adapter :=
  ⟨.remote "steeper" 1, [], true, [], [.listed poured, .listed spilled], []⟩

private def orders : List (Environment × Call) :=
  [([], .embed ["milk", "tea"]), ([], .embed ["a", "b", "c"])]

theorem answers_of_reordered_of_steeper :
    let replies : List Reply := [.items [(0, [.int 0]), (1, [.int 1])], .listed spilled.reverse]
    let answers : List (Except Fault (List Vector)) :=
      [.ok [[.int 0], [.int 1]], .error (.embedding "OpenAIEmbeddingProvider failed: empty")]
    List.Forall₂ Reply.Reordered steeper.replies replies ∧
      (steeper.turns orders).map Turn.answer = answers ∧
      (turns { steeper with replies } orders).map Turn.answer = answers ∧
      (leaving { steeper with replies } orders).requests = (steeper.leaving orders).requests ∧
      steeper.hindrance? = none ∧ (poured.map Item.position).Perm ((List.range 2).map Nat.cast) ∧
      (∀ i ∈ poured, ∃ v, i.vector = .ok v ∧ (v.length : Int) = 1) ∧
      ∃ vs, ((embed ["milk", "tea"]).perform steeper).1 = .ok vs ∧ vs.length = 2 ∧
        ∀ i ∈ poured, ∃ v, i.vector = .ok v ∧ vs[i.position.toNat]? = some v := by
  intro replies answers
  have hpoured : (Reply.listed poured).Reordered (.items [(0, [.int 0]), (1, [.int 1])]) :=
    .listed (.swap _ _ _) (by decide)
  have hspilled : (Reply.listed spilled).Reordered (.listed spilled.reverse) :=
    .listed (List.reverse_perm _).symm (by decide)
  have hreplies : List.Forall₂ Reply.Reordered steeper.replies replies :=
    .cons hpoured (.cons hspilled .nil)
  have hanswers : (steeper.turns orders).map Turn.answer = answers := by cbv
  have hpositions : (poured.map Item.position).Perm ((List.range 2).map Nat.cast) := by decide
  have hvectors : ∀ i ∈ poured, ∃ v, i.vector = .ok v ∧ (v.length : Int) = 1 := by
    simp [poured]
  obtain ⟨hsame, hrequests, hplaces⟩ := answers_of_reordered hreplies orders
  exact ⟨hreplies, hanswers, hsame.trans hanswers, hrequests, rfl, hpositions, hvectors,
    hplaces ["milk", "tea"] poured _ rfl rfl hpositions hvectors⟩

end Adapter
end TextMemory
