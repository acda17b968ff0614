import Mathlib.Logic.Basic
import TextMemory.Embedder.Basic

/-!
# Checked vectors

The answer of a backend passes when it has a vector of the right size for each text. Whatever else
it is becomes an embedding fault or a mismatch of dimensions.
-/
namespace TextMemory.Embedder

variable {name : String} {dimensions : Int} {count : Nat} {found : Except Outage (List Vector)}
  {vs : List Vector} {f : Fault}

inductive Complains (dimensions : Int) : Fault → Prop
  | embedding (message : String) : Complains dimensions (.embedding message)
  | mismatch (actual : Int) :
      Complains dimensions (.mismatch "provider embedding" dimensions actual)

theorem misfit?_eq_none : misfit? dimensions vs = none ↔
    ∀ v ∈ vs, (v.length : Int) = dimensions := by
  rw [misfit?, List.find?_eq_none]
  refine forall₂_congr fun v _ => ?_
  rw [bne_iff_ne, not_not]

theorem checked_eq_ok : checked name dimensions count found = .ok vs ↔
    found = .ok vs ∧ vs.length = count ∧ ∀ v ∈ vs, (v.length : Int) = dimensions := by
  rw [← misfit?_eq_none]
  constructor
  · intro h
    unfold checked at h
    split at h
    · cases h
    · split at h
      · cases h
      · rename_i hcount
        split at h
        · cases h
        · rename_i hfits
          cases h
          exact ⟨rfl, not_not.mp hcount, hfits⟩
  · rintro ⟨rfl, rfl, hfits⟩
    rw [checked, if_neg (not_not.mpr rfl), hfits]

theorem embed_eq_ok {e : Embedder} {texts : List String} : e.embed texts = .ok vs ↔
    if texts = [] then vs = []
    else e.vectors texts = .ok vs ∧ vs.length = texts.length ∧
      ∀ v ∈ vs, (v.length : Int) = e.dimensions := by
  rw [embed]
  by_cases hempty : texts = []
  · rw [if_pos (List.isEmpty_iff.mpr hempty), if_pos hempty, Except.ok.injEq, eq_comm]
  · rw [if_neg (mt List.isEmpty_iff.mp hempty), if_neg hempty, checked_eq_ok]

theorem embed_ok {e : Embedder} {texts : List String} (h : e.embed texts = .ok vs) :
    vs.length = texts.length := by
  have hembed := embed_eq_ok.mp h
  split at hembed
  · rename_i hempty
    rw [hembed, hempty]
    rfl
  · exact hembed.2.1

def flat (texts : List String) : Except Outage (List Vector) :=
  .ok (texts.map fun _ => [.float 1])

end TextMemory.Embedder
