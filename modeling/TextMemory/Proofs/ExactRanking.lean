import Mathlib.Algebra.Order.BigOperators.Group.List
import Mathlib.Algebra.Order.Field.Rat
import Mathlib.Tactic.Positivity
import TextMemory.Proofs.Precedence
import TextMemory.Proofs.Ranking

/-!
# Rankings with exact scores

Scores that are rational numbers are never rounded. A key that stands before another one wherever
that one occurs then stands before it in the merged ranking, also where weights are zero and scores
are equal: its sum is at least as large, it was seen first, and a stable sort keeps such a pair in
its order.
-/
namespace TextMemory.Ranking

def exact : Scoring ℚ ℚ where
  share weight n := .ok (weight / n)
  add := (· + ·)
  less x y := x < y
  unordered _ := false

def shared (ranking : ℚ × List Hit) (k : Nat) : List (Hit × ℚ) :=
  ranking.2.zipIdx.map fun place => (place.1, ranking.1 / ((k + place.2 + 1 : Nat) : ℚ))

variable {ranking first second : ℚ × List Hit} {k : Nat} {os es : List (Hit × ℚ)} {a b : Key}

theorem placed_exact (ranking : ℚ × List Hit) (k : Nat) :
    placed exact ranking k = .ok (shared ranking k) := by
  rw [placed, Result.mapM_eq_ok, shared, List.forall₂_map_right_iff, List.forall₂_same]
  exact fun place _ => rfl

theorem map_fst_shared (ranking : ℚ × List Hit) (k : Nat) :
    (shared ranking k).map Prod.fst = ranking.2 := map_fst_placed (placed_exact ranking k)

theorem keys_shared (ranking : ℚ × List Hit) (k : Nat) :
    keys (shared ranking k) = ranking.2.map key :=
  keys_placed (placed_exact ranking k)

theorem shared_nonneg (hweight : 0 ≤ ranking.1) : ∀ o ∈ shared ranking k, 0 ≤ o.2 := by
  intro o ho
  obtain ⟨place, -, rfl⟩ := List.mem_map.mp ho
  positivity

theorem shared_pairwise (hweight : 0 ≤ ranking.1) :
    (shared ranking k).Pairwise fun o later => later.2 ≤ o.2 := by
  refine List.pairwise_map.mpr ((Precedence.zipIdx_pairwise ranking.2).imp ?_)
  intro place later hlater
  apply div_le_div_of_nonneg_left hweight (by positivity)
  exact_mod_cast (by omega : k + place.2 + 1 ≤ k + later.2 + 1)

theorem merged_exact (first second : ℚ × List Hit) (k : Nat) :
    merged exact first second k = .ok (tally exact.add (shared first k ++ shared second k) []) :=
  merged_eq_ok.mpr ⟨_, _, placed_exact first k, placed_exact second k, rfl⟩

theorem sum_eq_of_total {ss : List ℚ} {s : ℚ} (h : total exact.add ss = some s) : ss.sum = s := by
  cases ss with
  | nil => cases h
  | cons t ss =>
    rw [total, Option.some_inj] at h
    rw [← h, List.sum_eq_foldl, List.foldl_cons, zero_add]
    rfl

/-! ### What the sum of a key is -/

theorem sum_sharesOf_le (hkeys : (keys os).Nodup) (hnonneg : ∀ o ∈ os, 0 ≤ o.2)
    (hfalls : os.Pairwise fun o later => later.2 ≤ o.2)
    (hbefore : b ∈ keys os → [a, b].Sublist (keys os)) :
    (sharesOf b os).sum ≤ (sharesOf a os).sum := by
  by_cases hb : b ∈ keys os
  · obtain ⟨x, y, rfl, rfl, hpair⟩ := Precedence.pair_sublist_map (hbefore hb)
    have hx : x ∈ os := hpair.subset (by simp)
    have hy : y ∈ os := hpair.subset (by simp)
    have hle : y.2 ≤ x.2 := List.pairwise_iff_forall_sublist.mp hfalls hpair
    simpa [sharesOf_of_mem hkeys hx, sharesOf_of_mem hkeys hy] using hle
  · rw [sharesOf_of_notMem hb, List.sum_nil]
    apply List.sum_nonneg
    intro s hs
    obtain ⟨o, ho, rfl⟩ := List.mem_map.mp hs
    exact hnonneg o (List.mem_filter.mp ho).1

theorem sum_shared_le (hweight : 0 ≤ ranking.1) (hkeys : (ranking.2.map key).Nodup)
    (hbefore : b ∈ ranking.2.map key → [a, b].Sublist (ranking.2.map key)) :
    (sharesOf b (shared ranking k)).sum ≤ (sharesOf a (shared ranking k)).sum := by
  rw [← keys_shared ranking k] at hkeys hbefore
  exact sum_sharesOf_le hkeys (shared_nonneg hweight) (shared_pairwise hweight) hbefore

theorem sum_of_mem_merged (h : merged exact first second k = .ok es) {e : Hit × ℚ} (he : e ∈ es) :
    e.2 = (sharesOf (key e.1) (shared first k)).sum +
      (sharesOf (key e.1) (shared second k)).sum := by
  obtain rfl := Except.ok.inj ((merged_exact first second k).symm.trans h)
  rw [← List.sum_append, ← sharesOf_append]
  exact (sum_eq_of_total (sumsUp_of_mem_tally he).sum).symm

/-! ### The order of the merged ranking -/

theorem ordered_exact (es : List (Hit × ℚ)) : ordered exact es = es.mergeSort fun a b =>
    !exact.less a.2 b.2 := by
  have hany : (es.any fun e => exact.unordered e.2) = false :=
    List.any_eq_false.mpr fun _ _ => nofun
  rw [ordered, hany]
  rfl

theorem not_less_iff {x y : Hit × ℚ} : (!exact.less x.2 y.2) = true ↔ y.2 ≤ x.2 := by
  simp [exact]

theorem not_less_trans (x y z : Hit × ℚ) (hxy : (!exact.less x.2 y.2) = true)
    (hyz : (!exact.less y.2 z.2) = true) :
    (!exact.less x.2 z.2) = true := by
  rw [not_less_iff] at hxy hyz ⊢
  exact hyz.trans hxy

theorem not_less_total (x y : Hit × ℚ) : ((!exact.less x.2 y.2) || !exact.less y.2 x.2) = true := by
  rw [Bool.or_eq_true, not_less_iff, not_less_iff]
  exact le_total y.2 x.2

theorem ordered_pair {x y : Hit × ℚ} (hle : y.2 ≤ x.2) (h : [x, y].Sublist es) :
    [x, y].Sublist (ordered exact es) := by
  rw [ordered_exact]
  exact List.pair_sublist_mergeSort not_less_trans not_less_total (not_less_iff.mpr hle) h

theorem ordered_of_pairwise (h : es.Pairwise fun e later => later.2 ≤ e.2) :
    ordered exact es = es := by
  rw [ordered_exact]
  exact List.mergeSort_of_pairwise (h.imp not_less_iff.mpr)

theorem keys_ordered_pair (hfirst : 0 ≤ first.1) (hsecond : 0 ≤ second.1)
    (hfirsts : (first.2.map key).Nodup) (hseconds : (second.2.map key).Nodup)
    (hinFirst : b ∈ first.2.map key → [a, b].Sublist (first.2.map key))
    (hinSecond : b ∈ second.2.map key → [a, b].Sublist (second.2.map key))
    (h : merged exact first second k = .ok es) (hb : b ∈ keys es) :
    [a, b].Sublist (keys (ordered exact es)) := by
  have hseen : keys es = (first.2.map key ++ second.2.map key).eraseDups := by
    obtain rfl := Except.ok.inj ((merged_exact first second k).symm.trans h)
    rw [keys_tally, keys_append, keys_shared, keys_shared]
  have hpair : [a, b].Sublist (keys es) := by
    rw [hseen] at hb ⊢
    exact Precedence.pair_sublist_eraseDups hfirsts hseconds hinFirst hinSecond
      (List.mem_eraseDups.mp hb)
  obtain ⟨x, y, rfl, rfl, hsub⟩ := Precedence.pair_sublist_map hpair
  have hle : y.2 ≤ x.2 := by
    rw [sum_of_mem_merged h (hsub.subset (by simp : x ∈ [x, y])),
      sum_of_mem_merged h (hsub.subset (by simp : y ∈ [x, y]))]
    exact add_le_add (sum_shared_le hfirst hfirsts hinFirst)
      (sum_shared_le hsecond hseconds hinSecond)
  exact (ordered_pair hle hsub).map fun e => key e.1

theorem ordered_merged_nil (hweight : 0 ≤ ranking.1) (hkeys : (ranking.2.map key).Nodup)
    (h : merged exact first second k = .ok es)
    (hone : shared first k ++ shared second k = shared ranking k) :
    (ordered exact es).map Prod.fst = ranking.2 := by
  obtain rfl := Except.ok.inj ((merged_exact first second k).symm.trans h)
  rw [hone, tally_of_nodup (by rwa [keys_shared]), ordered_of_pairwise (shared_pairwise hweight),
    map_fst_shared]

/-- Two rankings without repeated keys, with weights that are not negative, are merged; each key has
one place in what they come to. A key that stands before another one in each of the two where that
one occurs stands before it there too, if that one is among the results at all. A ranking that is
merged with an empty one keeps its order. -/
theorem earlier_stays_before (vector keyword : ℚ × List Hit) (hvector : 0 ≤ vector.1)
    (hkeyword : 0 ≤ keyword.1) (hnear : (vector.2.map key).Nodup)
    (hmatching : (keyword.2.map key).Nodup) {k : Int} (hk : 0 ≤ k) (limit : Int) :
    ∃ es, fuseWith exact vector keyword k limit = .ok es ∧ (keys es).Nodup ∧
      (∀ a b : Key, a ≠ b → (b ∈ vector.2.map key → [a, b].Sublist (vector.2.map key)) →
        (b ∈ keyword.2.map key → [a, b].Sublist (keyword.2.map key)) →
          b ∈ keys es → [a, b].Sublist (keys es)) ∧
      (keyword.2 = [] → es.map Prod.fst = vector.2.take limit.toNat) ∧
      (vector.2 = [] → es.map Prod.fst = keyword.2.take limit.toNat) := by
  by_cases hlimit : 0 < limit
  · have hmerged := merged_exact vector keyword k.toNat
    have hkeys : (keys (ordered exact (tally exact.add
        (shared vector k.toNat ++ shared keyword k.toNat) []))).Nodup :=
      ((ordered_perm exact _).map _).nodup_iff.mpr (nodup_keys_merged hmerged)
    refine ⟨_, (fuseWith_eq_ok hlimit).mpr ⟨hk, _, hmerged, rfl⟩, ?_, ?_, ?_, ?_⟩
    · rw [keys, List.map_take]
      exact hkeys.sublist (List.take_sublist _ _)
    · intro a b _ hinFirst hinSecond hb
      rw [keys, List.map_take] at hb ⊢
      apply Precedence.pair_sublist_take hkeys _ hb
      apply keys_ordered_pair hvector hkeyword hnear hmatching hinFirst hinSecond hmerged
      exact ((ordered_perm exact _).map _).mem_iff.mp (List.mem_of_mem_take hb)
    · intro hnone
      rw [List.map_take, ordered_merged_nil hvector hnear hmerged]
      simp [shared, hnone]
    · intro hnone
      rw [List.map_take, ordered_merged_nil hkeyword hmatching hmerged]
      simp [shared, hnone]
  · have hnone : fuseWith exact vector keyword k limit = .ok [] := by
      rw [fuseWith, if_neg (Int.not_lt.mpr hk), if_pos (Int.not_lt.mp hlimit)]
    have htake : limit.toNat = 0 := Int.toNat_of_nonpos (Int.not_lt.mp hlimit)
    refine ⟨[], hnone, List.nodup_nil, fun a b _ _ _ hb => absurd hb List.not_mem_nil, ?_, ?_⟩ <;>
      simp [htake]

private def steeped : ℚ × List Hit := (0, [teaHit "warm" "tea" 1])

private def served : ℚ × List Hit := (0, [teaHit "hot" "tea" 0, teaHit "black" "coffee" 0])

theorem earlier_stays_before_of_drinks :
    0 ≤ steeped.1 ∧ 0 ≤ served.1 ∧ (steeped.2.map key).Nodup ∧ (served.2.map key).Nodup ∧
    (0 : Int) ≤ 60 ∧
      ∃ es, fuseWith exact steeped served 60 3 = .ok es ∧
        [("tea", some (.int 0)), ("coffee", some (.int 0))].Sublist (keys es) := by
  have hsteeped : 0 ≤ steeped.1 := le_refl _
  have hserved : 0 ≤ served.1 := le_refl _
  have hnear : (steeped.2.map key).Nodup := by decide
  have hmatching : (served.2.map key).Nodup := by decide
  have hconstant : (0 : Int) ≤ 60 := by decide
  obtain ⟨es, hes, -, hbefore, -⟩ :=
    earlier_stays_before steeped served hsteeped hserved hnear hmatching hconstant 3
  have hmem : (("coffee", some (.int 0)) : Key) ∈ keys es := by
    obtain ⟨-, seen, hseen, rfl⟩ := (fuseWith_eq_ok (by decide)).mp hes
    have hlength : seen.length = 3 := by
      obtain rfl := Except.ok.inj ((merged_exact steeped served 60).symm.trans hseen)
      decide +kernel
    have hall : (ordered exact seen).length ≤ 3 := by
      rw [(ordered_perm exact seen).length_eq, hlength]
    have hfound : (("coffee", some (.int 0)) : Key) ∈ keys seen :=
      (mem_keys_merged hseen).mpr (.inr (by decide))
    rw [List.take_of_length_le (by simpa using hall)]
    exact ((ordered_perm exact seen).map _).mem_iff.mpr hfound
  refine ⟨hsteeped, hserved, hnear, hmatching, hconstant, es, hes, hbefore _ _ ?_ ?_ ?_ hmem⟩
  · decide
  · decide
  · decide

end TextMemory.Ranking
