import TextMemory.Sorting.Runs

/-!
# Sorting rearranges

Whatever the comparison says, and even if it contradicts itself, no element is lost and none comes
twice: merging two stretches, cutting a list into runs and merging the runs only rearrange.
-/
namespace TextMemory.Sorting

variable {α : Type} {less : α → α → Bool}

theorem count_take_add_count_drop [BEq α] (n : Nat) (xs : List α) (a : α) :
    (xs.take n).count a + (xs.drop n).count a = xs.count a := by
  rw [← List.count_append, List.take_append_drop]

namespace Merge

def items (m : Merge α) : List α := m.done ++ (m.first ++ m.second)

theorem takeFirst_items (n : Nat) (m : Merge α) : (m.takeFirst n).items.Perm m.items := by
  classical
  apply List.perm_iff_count.mpr
  intro a
  have hfirst := count_take_add_count_drop n m.first a
  simp only [items, takeFirst, List.count_append, List.count_reverse]
  omega

theorem takeSecond_items (n : Nat) (m : Merge α) : (m.takeSecond n).items.Perm m.items := by
  classical
  apply List.perm_iff_count.mpr
  intro a
  have hsecond := count_take_add_count_drop n m.second a
  simp only [items, takeSecond, List.count_append, List.count_reverse]
  omega

theorem step_items (f : Fronts α) (m : Merge α) (p : Phase) :
    (m.step f p).1.items.Perm m.items := by
  cases p with
  | compare first second =>
    simp only [step]
    split
    · split
      · exact m.takeSecond_items 1
      · exact m.takeFirst_items 1
    · exact List.Perm.refl _
  | skipFirst => exact m.takeFirst_items _
  | moveSecond n => exact m.takeSecond_items 1
  | skipSecond k => exact m.takeSecond_items _
  | moveFirst k n => exact m.takeFirst_items 1
  | judge k n =>
    simp only [step]
    split
    · exact List.Perm.refl _
    · exact List.Perm.refl _

theorem run_items (f : Fronts α) (fuel : Nat) (m : Merge α) (p : Phase) :
    (run f fuel m p).items.Perm m.items := by
  induction fuel generalizing m p with
  | zero => exact List.Perm.refl _
  | succ fuel ih =>
    unfold run
    split
    · exact List.Perm.refl _
    · exact (ih _ _).trans (m.step_items f p)

theorem finish_items (f : Fronts α) (m : Merge α) : (finish f m).items.Perm m.items :=
  run_items f _ m _

end Merge

theorem merge_perm (xs ys : List α) (patience : Nat) :
    (merge less xs ys patience).1.Perm (xs ++ ys) := by
  classical
  unfold merge
  dsimp only
  generalize (ys.head?.map fun y => rightOf less y xs 0).getD 0 = k
  generalize ((xs.drop k).getLast?.map fun x => leftOf less x ys (ys.length - 1)).getD 0 = n
  apply List.perm_iff_count.mpr
  intro a
  have hxs := count_take_add_count_drop k xs a
  have hys := count_take_add_count_drop n ys a
  split
  · simp only [List.count_append]
    omega
  · split
    · have hmerged := ((Merge.finish_items (fromLeft less) _).trans
        (Merge.takeSecond_items 1 ⟨[], xs.drop k, ys.take n, patience⟩)).count_eq a
      simp only [Merge.items, List.count_append, List.count_reverse, List.count_nil] at hmerged ⊢
      omega
    · have hitems := (Merge.finish_items (fromRight less) _).trans
        (Merge.takeFirst_items 1 ⟨[], (xs.drop k).reverse, (ys.take n).reverse, patience⟩)
      have hmerged := hitems.count_eq a
      simp only [Merge.items, List.count_append, List.count_reverse, List.count_nil] at hmerged ⊢
      omega

/-! ### Runs -/

theorem insert_perm (xs : List α) (x : α) : (insert less xs x).Perm (x :: xs) := by
  unfold insert
  dsimp only
  refine List.perm_middle.trans (List.Perm.cons x ?_)
  rw [List.take_append_drop]

theorem foldl_insert_perm (start more : List α) :
    (more.foldl (insert less) start).Perm (start ++ more) := by
  induction more generalizing start with
  | nil => simp
  | cons x more ih =>
    rw [List.foldl_cons]
    refine (ih _).trans (((insert_perm start x).append_right more).trans ?_)
    exact List.perm_middle.symm

theorem runLength_pos (p : α → α → Bool) (x : α) (ys : List α) : 0 < runLength p x ys := by
  cases ys with
  | nil => exact Nat.one_pos
  | cons y ys =>
    unfold runLength
    split
    · exact Nat.succ_pos _
    · exact Nat.one_pos

theorem take_append_drop_take (n least : Nat) (xs : List α) :
    xs.take n ++ (xs.take least).drop n = xs.take (max n least) := by
  by_cases h : n ≤ least
  · have htake : xs.take n = (xs.take least).take n := by
      rw [List.take_take, Nat.min_eq_left h]
    rw [htake, List.take_append_drop, Nat.max_eq_right h]
  · have hdrop : (xs.take least).drop n = [] := by
      apply List.drop_eq_nil_of_le
      rw [List.length_take]
      omega
    rw [hdrop, List.append_nil, Nat.max_eq_left (Nat.le_of_not_le h)]

theorem firstRun_perm (least : Nat) {xs : List α} (h : xs ≠ []) :
    ∃ k, 0 < k ∧ (firstRun less least xs).Perm (xs.take k) := by
  match xs, h with
  | [x], _ => exact ⟨1, Nat.one_pos, List.Perm.refl _⟩
  | x :: y :: rest, _ =>
    unfold firstRun
    dsimp only
    generalize hn : (if less y x = true then runLength less x (y :: rest)
      else runLength (fun b a => !less b a) x (y :: rest)) = n
    have hpos : 0 < n := by
      rw [← hn]
      split
      · exact runLength_pos _ _ _
      · exact runLength_pos _ _ _
    refine ⟨max n least, by omega, (foldl_insert_perm _ _).trans ?_⟩
    rw [← take_append_drop_take]
    apply List.Perm.append_right _
    split
    · exact List.reverse_perm _
    · exact List.Perm.refl _

def elements (rs : List (Run α)) : List α := rs.flatMap fun r => r.elements

theorem runs_perm (least fuel start : Nat) {xs : List α} (h : xs.length ≤ fuel) :
    (elements (runs less least fuel start xs)).Perm xs := by
  induction fuel generalizing start xs with
  | zero =>
    rw [List.length_eq_zero_iff.mp (Nat.le_zero.mp h)]
    exact List.Perm.refl _
  | succ fuel ih =>
    unfold runs
    split
    · rename_i hempty
      rw [List.isEmpty_iff.mp hempty]
      exact List.Perm.refl _
    · rename_i hempty
      have hne : xs ≠ [] := fun he => hempty (List.isEmpty_iff.mpr he)
      obtain ⟨k, hk, hrun⟩ : ∃ k, 0 < k ∧ (firstRun less least xs).Perm (xs.take k) :=
        firstRun_perm least hne
      have hpos : 0 < xs.length := List.length_pos_iff.mpr hne
      have hlen : (firstRun less least xs).length = min k xs.length := by
        rw [hrun.length_eq, List.length_take]
      have hrest : (xs.drop (firstRun less least xs).length).length ≤ fuel := by
        rw [List.length_drop, hlen]
        omega
      have hdrop : xs.drop (firstRun less least xs).length = xs.drop k := by
        rw [hlen]
        rcases Nat.le_total k xs.length with hle | hle
        · rw [Nat.min_eq_left hle]
        · rw [Nat.min_eq_right hle, List.drop_eq_nil_of_le (Nat.le_refl _),
            List.drop_eq_nil_of_le hle]
      have hperm := hrun.append (ih (start + (firstRun less least xs).length) hrest)
      rw [hdrop, List.take_append_drop] at hperm
      simp only [elements, List.flatMap_cons]
      rw [hdrop]
      exact hperm

/-! ### Merging runs -/

theorem elements_cons (r : Run α) (rs : List (Run α)) :
    elements (r :: rs) = r.elements ++ elements rs := List.flatMap_cons

theorem join_perm {r s joined : Run α} {patience patience' : Nat}
    (h : r.join less s patience = (joined, patience')) (rest : List (Run α)) :
    (elements (joined :: rest)).Perm (elements (s :: r :: rest)) := by
  have hmerged : joined.elements.Perm (r.elements ++ s.elements) := by
    have hj : (r.join less s patience).1.elements.Perm (r.elements ++ s.elements) :=
      merge_perm r.elements s.elements patience
    rwa [h] at hj
  rw [elements_cons, elements_cons, elements_cons]
  apply (hmerged.append_right _).trans
  rw [List.append_assoc]
  exact List.perm_append_comm_assoc _ _ _

namespace Pending

theorem collapse_perm (limit patience : Nat) (rs : List (Run α)) :
    (elements (collapse less limit patience rs).stack).Perm (elements rs) := by
  fun_induction collapse less limit patience rs with
  | case1 => exact List.Perm.refl _
  | case2 => exact List.Perm.refl _
  | case3 patience s r rest h joined patience' hj ih => exact ih.trans (join_perm hj rest)
  | case4 => exact List.Perm.refl _

theorem push_perm (n : Nat) (p : Pending α) (s : Run α) :
    (elements (p.push less n s).stack).Perm (elements (s :: p.stack)) := by
  unfold push
  split
  · rename_i hstack
    rw [hstack]
  · rename_i r rest hstack
    have hcollapse : (elements (collapse less (power n r s) p.patience p.stack).stack).Perm
        (elements p.stack) := collapse_perm _ _ _
    dsimp only
    split
    · rename_i t more hmore
      rw [hmore] at hcollapse
      exact hcollapse.append_left s.elements
    · rename_i hnil
      rw [hnil] at hcollapse
      exact hcollapse.append_left s.elements

theorem foldl_push_perm (n : Nat) (p : Pending α) (rs : List (Run α)) :
    (elements (rs.foldl (push less n) p).stack).Perm (elements p.stack ++ elements rs) := by
  induction rs generalizing p with
  | nil => simp [elements]
  | cons r rs ih =>
    rw [List.foldl_cons, elements_cons]
    refine (ih _).trans (((push_perm n p r).append_right _).trans ?_)
    rw [elements_cons, List.append_assoc]
    exact List.perm_append_comm_assoc _ _ _

theorem mergeAll_perm (patience : Nat) (rs : List (Run α)) :
    (mergeAll less patience rs).Perm (elements rs) := by
  fun_induction mergeAll less patience rs with
  | case1 => exact List.Perm.refl _
  | case2 patience r => rw [elements_cons]; simp [elements]
  | case3 patience s r =>
    have hj := join_perm (r := r) (s := s) (Prod.eta (r.join less s patience)).symm []
    rwa [elements_cons, show elements ([] : List (Run α)) = [] from rfl, List.append_nil] at hj
  | case4 patience t s r rest h joined patience' hj ih =>
    apply ih.trans
    rw [elements_cons, elements_cons t]
    exact (join_perm hj rest).append_left t.elements
  | case5 patience t s r rest h joined patience' hj ih => exact ih.trans (join_perm hj (r :: rest))

end Pending

theorem sort_perm (less : α → α → Bool) (xs : List α) : (sort less xs).Perm xs := by
  unfold sort
  refine (Pending.mergeAll_perm _ _).trans ((Pending.foldl_push_perm _ _ _).trans ?_)
  exact runs_perm _ _ _ (Nat.le_refl _)

end TextMemory.Sorting
