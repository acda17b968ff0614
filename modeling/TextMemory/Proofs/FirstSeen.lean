import Mathlib.Data.List.Induction
import Mathlib.Data.List.Nodup

/-!
# Items where they are first seen

A list without what repeats earlier items has each item once. What comes last is kept only if it is
new.
-/
namespace TextMemory.FirstSeen

variable {α : Type} [BEq α] [LawfulBEq α] {xs : List α} {x : α}

theorem eraseDups_append_of_mem (h : x ∈ xs) : (xs ++ [x]).eraseDups = xs.eraseDups := by
  rw [List.eraseDups_append]
  simp [List.removeAll, h]

theorem eraseDups_append_of_notMem (h : x ∉ xs) : (xs ++ [x]).eraseDups = xs.eraseDups ++ [x] := by
  rw [List.eraseDups_append]
  simp [List.removeAll, h, List.eraseDups_cons]

theorem nodup_eraseDups (xs : List α) : xs.eraseDups.Nodup := by
  induction xs using List.reverseRecOn with
  | nil => exact List.nodup_nil
  | append_singleton xs x ih =>
    by_cases hx : x ∈ xs
    · rw [eraseDups_append_of_mem hx]
      exact ih
    · rw [eraseDups_append_of_notMem hx, List.nodup_append]
      refine ⟨ih, List.nodup_singleton x, fun a ha b hb hab => hx ?_⟩
      rw [hab, List.mem_singleton.mp hb] at ha
      exact List.mem_eraseDups.mp ha

end TextMemory.FirstSeen
