import TextMemory.Proofs.FirstSeen

/-!
# One item before another

In a list without repetitions a pair is a sublist when its first item stands before its second. Such
a pair comes from a pair of the list that is mapped, stays where a list is cut behind its second
item, and stays in the order in which the items of two lists are first seen. Items stand in the
order of their places, and those that a merge sort need not tell apart keep the order that they had.
-/
namespace TextMemory.Precedence

variable {α β : Type}

theorem pair_sublist_map {f : α → β} {xs : List α} {a b : β} (h : [a, b].Sublist (xs.map f)) :
    ∃ x y, f x = a ∧ f y = b ∧ [x, y].Sublist xs := by
  obtain ⟨pair, hpair, hab⟩ := List.sublist_map_iff.mp h
  obtain ⟨x, y, rfl⟩ : ∃ x y, pair = [x, y] := by
    apply List.length_eq_two.mp
    simpa using congrArg List.length hab.symm
  obtain ⟨rfl, rfl⟩ : a = f x ∧ b = f y := by simpa using hab
  exact ⟨x, y, rfl, rfl, hpair⟩

theorem pair_sublist_take {xs : List α} {a b : α} (hxs : xs.Nodup) (h : [a, b].Sublist xs) {n : Nat}
    (hb : b ∈ xs.take n) : [a, b].Sublist (xs.take n) := by
  rw [← List.take_append_drop n xs, List.sublist_append_iff] at h
  obtain ⟨front, back, hab, hfront, hback⟩ := h
  -- the second item is not behind the cut, so nothing of the pair is
  rcases List.eq_nil_or_concat back with rfl | ⟨rest, c, rfl⟩
  · rwa [hab, List.append_nil]
  · have hc : b = c := by
      have hlast := congrArg List.getLast? hab
      simpa using hlast
    have hdrop : b ∈ xs.drop n := hback.subset (by simp [hc])
    rw [← List.take_append_drop n xs] at hxs
    exact absurd hdrop (List.disjoint_of_nodup_append hxs hb)

theorem zipIdx_pairwise (xs : List α) : xs.zipIdx.Pairwise fun a b => a.2 < b.2 := by
  rw [← List.pairwise_map, List.zipIdx_map_snd]
  exact List.pairwise_lt_range'

theorem filter_mergeSort {le : α → α → Bool}
    (trans : ∀ a b c, le a b = true → le b c = true → le a c = true)
    (total : ∀ a b, (le a b || le b a) = true) {p : α → Bool} (xs : List α)
    (hties : ∀ x y, p x = true → p y = true → le x y = true) :
    (xs.mergeSort le).filter p = xs.filter p := by
  have hpairwise : (xs.filter p).Pairwise fun x y => le x y = true := by
    apply List.pairwise_of_forall_mem_list
    intro x hx y hy
    exact hties x y (List.mem_filter.mp hx).2 (List.mem_filter.mp hy).2
  have hkept : (xs.filter p).Sublist ((xs.mergeSort le).filter p) := by
    have hsub := (List.sublist_mergeSort trans total hpairwise List.filter_sublist).filter p
    simpa only [List.filter_filter, Bool.and_self] using hsub
  exact (hkept.eq_of_length ((List.mergeSort_perm xs le).filter p).length_eq.symm).symm

/-- What holds of two items in their order still holds after a merge sort, if either may stand
first. -/
theorem pairwise_mergeSort (le : α → α → Bool) {R : α → α → Prop} {xs : List α}
    (trans : ∀ a b c, le a b = true → le b c = true → le a c = true)
    (total : ∀ a b, (le a b || le b a) = true) (hxs : xs.Pairwise R) :
    (xs.mergeSort le).Pairwise fun a b => le a b = true ∧ (le b a = true → R a b) := by
  rw [List.pairwise_iff_forall_sublist]
  intro a b hab
  have hle : le a b = true :=
    List.pairwise_iff_forall_sublist.mp (List.pairwise_mergeSort trans total xs) hab
  refine ⟨hle, fun hback => ?_⟩
  -- the items that are not told apart from `a` keep their order among themselves
  let same : α → Bool := fun x => le a x && le x a
  have hsame : (xs.mergeSort le).filter same = xs.filter same := by
    apply filter_mergeSort trans total
    intro x y hx hy
    simp only [same, Bool.and_eq_true] at hx hy
    exact trans x a y hx.2 hy.1
  have hpair : [a, b].Sublist ((xs.mergeSort le).filter same) := by
    have haa : le a a = true := by simpa using total a a
    simpa [same, haa, hle, hback] using hab.filter same
  rw [hsame] at hpair
  exact List.pairwise_iff_forall_sublist.mp hxs (hpair.trans List.filter_sublist)

section

variable {place : α → Int} {xs ys : List α}

end

variable [BEq α] [LawfulBEq α]

theorem eraseDups_of_nodup {xs : List α} (h : xs.Nodup) : xs.eraseDups = xs := by
  induction xs using List.reverseRecOn with
  | nil => rfl
  | append_singleton xs x ih =>
    rw [List.nodup_append] at h
    rw [FirstSeen.eraseDups_append_of_notMem, ih h.1]
    exact fun hx => h.2.2 x hx x List.mem_cons_self rfl

theorem pair_sublist_eraseDups {xs ys : List α} {a b : α} (hxs : xs.Nodup) (hys : ys.Nodup)
    (hfirst : b ∈ xs → [a, b].Sublist xs) (hsecond : b ∈ ys → [a, b].Sublist ys) (hb : b ∈ xs ++ ys)
    :
    [a, b].Sublist (xs ++ ys).eraseDups := by
  have hnew : (ys.removeAll xs).Nodup := hys.filter _
  rw [List.eraseDups_append, eraseDups_of_nodup hxs, eraseDups_of_nodup hnew]
  by_cases hbx : b ∈ xs
  · exact List.sublist_append_of_sublist_left (hfirst hbx)
  · have hby := hsecond ((List.mem_append.mp hb).resolve_left hbx)
    have hbnew : b ∈ ys.removeAll xs := by simpa [List.removeAll, hbx] using hby.subset (by simp)
    by_cases hax : a ∈ xs
    · have hsplit : [a, b] = [a] ++ [b] := rfl
      rw [hsplit]
      exact (List.singleton_sublist.mpr hax).append (List.singleton_sublist.mpr hbnew)
    · apply List.sublist_append_of_sublist_right
      have hpair := hby.filter fun x => !xs.elem x
      simpa [List.removeAll, hax, hbx] using hpair

end TextMemory.Precedence
