import TextMemory.Proofs.ExactRanking

/-!
# Two rankings in either order

With exact scores it makes no difference to the sum of a key which of two rankings is taken first.
So both orders give the keys the same scores, and sorted lists of the same scores are equal, also
where they are cut. What is left to the order is the form of a result that is in both rankings, and
the places of results with equal scores.
-/
namespace TextMemory.Ranking

variable {first second : ℚ × List Hit} {k : Nat} {es es' : List (Hit × ℚ)}

def keyed (es : List (Hit × ℚ)) : List (Key × ℚ) := es.map fun e => (key e.1, e.2)

theorem map_fst_keyed (es : List (Hit × ℚ)) : (keyed es).map Prod.fst = keys es := List.map_map

theorem map_snd_keyed (es : List (Hit × ℚ)) : (keyed es).map Prod.snd = es.map Prod.snd :=
  List.map_map

theorem mem_keyed_merged (h : merged exact first second k = .ok es) {c : Key} {x : ℚ} :
    (c, x) ∈ keyed es ↔ (c ∈ first.2.map key ∨ c ∈ second.2.map key) ∧
      x = (sharesOf c (shared first k)).sum + (sharesOf c (shared second k)).sum := by
  rw [← mem_keys_merged h]
  constructor
  · intro hmem
    obtain ⟨e, he, heq⟩ := List.mem_map.mp hmem
    obtain ⟨rfl, rfl⟩ := Prod.mk.inj heq
    exact ⟨List.mem_map_of_mem he, sum_of_mem_merged h he⟩
  · rintro ⟨hkey, rfl⟩
    obtain ⟨e, he, rfl⟩ := List.mem_map.mp hkey
    exact List.mem_map.mpr ⟨e, he, Prod.ext rfl (sum_of_mem_merged h he)⟩

theorem nodup_keyed_merged (h : merged exact first second k = .ok es) : (keyed es).Nodup :=
  List.Nodup.of_map Prod.fst (map_fst_keyed es ▸ nodup_keys_merged h)

theorem keyed_merged_perm (h : merged exact first second k = .ok es)
    (h' : merged exact second first k = .ok es') : (keyed es).Perm (keyed es') := by
  rw [List.perm_ext_iff_of_nodup (nodup_keyed_merged h) (nodup_keyed_merged h')]
  rintro ⟨c, x⟩
  rw [mem_keyed_merged h, mem_keyed_merged h', or_comm, add_comm]

theorem find?_of_mem_merged (h : merged exact first second k = .ok es) {e : Hit × ℚ} (he : e ∈ es) :
    (first.2 ++ second.2).find? (fun hit => key hit = key e.1) = some e.1 := by
  obtain rfl := Except.ok.inj ((merged_exact first second k).symm.trans h)
  have hfirst := (sumsUp_of_mem_tally he).first
  rwa [List.map_append, map_fst_shared, map_fst_shared] at hfirst

theorem copies_merged (h : merged exact first second k = .ok es)
    (h' : merged exact second first k = .ok es') {e e' : Hit × ℚ} (he : e ∈ es) (he' : e' ∈ es')
    (hkey : key e.1 = key e'.1) : e.1 = e'.1 ∨ (e.1 ∈ first.2 ∧ e'.1 ∈ second.2) := by
  have hfound := find?_of_mem_merged h he
  have hfound' := find?_of_mem_merged h' he'
  rw [← hkey, List.find?_append] at hfound'
  rw [List.find?_append] at hfound
  cases hone : first.2.find? fun hit => key hit = key e.1 with
  | none =>
    rw [hone, Option.none_or] at hfound
    rw [hfound, Option.some_or] at hfound'
    exact .inl (Option.some.inj hfound')
  | some a =>
    rw [hone, Option.some_or] at hfound
    rw [hone] at hfound'
    cases htwo : second.2.find? fun hit => key hit = key e.1 with
    | none =>
      rw [htwo, Option.none_or, hfound] at hfound'
      exact .inl (Option.some.inj hfound')
    | some b =>
      rw [htwo, Option.some_or] at hfound'
      exact .inr ⟨List.mem_of_find?_eq_some (hone.trans hfound),
        List.mem_of_find?_eq_some (htwo.trans hfound')⟩

theorem ordered_exact_pairwise (es : List (Hit × ℚ)) :
    (ordered exact es).Pairwise fun e later => later.2 ≤ e.2 := by
  rw [ordered_exact]
  exact (List.pairwise_mergeSort not_less_trans not_less_total es).imp not_less_iff.mp

theorem scores_ordered_eq (h : (es.map Prod.snd).Perm (es'.map Prod.snd)) :
    (ordered exact es).map Prod.snd = (ordered exact es').map Prod.snd := by
  have hsorted : ∀ es : List (Hit × ℚ), ((ordered exact es).map Prod.snd).Pairwise fun x y =>
    y ≤ x :=
    fun es => List.pairwise_map.mpr (ordered_exact_pairwise es)
  have hperm : ∀ es : List (Hit × ℚ), ((ordered exact es).map Prod.snd).Perm (es.map Prod.snd) :=
    fun es => (ordered_perm exact es).map Prod.snd
  refine List.Perm.eq_of_pairwise ?_ (hsorted es) (hsorted es')
    ((hperm es).trans (h.trans (hperm es').symm))
  exact fun x y _ _ hyx hxy => le_antisymm hxy hyx

theorem keys_merged (h : merged exact first second k = .ok es) :
    keys es = ((first.2 ++ second.2).map key).eraseDups := by
  obtain rfl := Except.ok.inj ((merged_exact first second k).symm.trans h)
  rw [keys_tally, keys_append, keys_shared, keys_shared, List.map_append]

theorem length_merged (h : merged exact first second k = .ok es) :
    es.length = ((first.2 ++ second.2).map key).eraseDups.length := by
  rw [← keys_merged h, keys, List.length_map]

theorem take_ordered {limit : Int} (hall : (es.length : Int) ≤ limit) :
    (ordered exact es).take limit.toNat = ordered exact es := by
  apply List.take_of_length_le
  rw [(ordered_perm exact es).length_eq]
  omega

/-- Two rankings are merged in either order to the same list of scores, however many results are
asked for. A key has the same score in both, and in the same form, unless it is in both rankings; if
as many results are asked for as there are keys, each key is there once. -/
theorem scores_of_either_order (vector keyword : ℚ × List Hit) {k : Int} (hk : 0 ≤ k)
    (limit : Int) :
    ∃ es es', fuseWith exact vector keyword k limit = .ok es ∧
      fuseWith exact keyword vector k limit = .ok es' ∧
      es.map Prod.snd = es'.map Prod.snd ∧
      (∀ e ∈ es, ∀ e' ∈ es', key e.1 = key e'.1 →
        e.2 = e'.2 ∧ (e.1 = e'.1 ∨ (e.1 ∈ vector.2 ∧ e'.1 ∈ keyword.2))) ∧
      ((((vector.2 ++ keyword.2).map key).eraseDups.length : Int) ≤ limit →
        (keys es).Perm ((vector.2 ++ keyword.2).map key).eraseDups ∧
        (keyed es).Perm (keyed es')) := by
  by_cases hlimit : 0 < limit
  · have h := merged_exact vector keyword k.toNat
    have h' := merged_exact keyword vector k.toNat
    have hkeyed := keyed_merged_perm h h'
    have hscores := hkeyed.map Prod.snd
    rw [map_snd_keyed, map_snd_keyed] at hscores
    refine ⟨_, _, (fuseWith_eq_ok hlimit).mpr ⟨hk, _, h, rfl⟩,
      (fuseWith_eq_ok hlimit).mpr ⟨hk, _, h', rfl⟩,
      ?_, ?_, ?_⟩
    · rw [List.map_take, List.map_take, scores_ordered_eq hscores]
    · intro e he e' he' hkey
      have hmem := (ordered_perm exact _).mem_iff.mp (List.mem_of_mem_take he)
      have hmem' := (ordered_perm exact _).mem_iff.mp (List.mem_of_mem_take he')
      refine ⟨?_, copies_merged h h' hmem hmem' hkey⟩
      rw [sum_of_mem_merged h hmem, sum_of_mem_merged h' hmem', hkey, add_comm]
    · intro hall
      rw [← length_merged h] at hall
      have hlength := hkeyed.length_eq
      rw [keyed, keyed, List.length_map, List.length_map] at hlength
      rw [take_ordered hall, take_ordered (hlength ▸ hall), ← keys_merged h]
      refine ⟨(ordered_perm exact _).map _, ?_⟩
      exact ((ordered_perm exact _).map _).trans (hkeyed.trans ((ordered_perm exact _).map _).symm)
  · have hnone : ∀ first second, fuseWith exact first second k limit = .ok [] := by
      intro first second
      rw [fuseWith, if_neg (Int.not_lt.mpr hk), if_pos (Int.not_lt.mp hlimit)]
    refine ⟨[], [], hnone _ _, hnone _ _, rfl, fun e he =>
      absurd he List.not_mem_nil, fun hall => ⟨?_, .nil⟩⟩
    have hempty : ((vector.2 ++ keyword.2).map key).eraseDups = [] :=
      List.eq_nil_of_length_eq_zero (by omega)
    rw [hempty]
    exact .nil

private def infusion : ℚ × List Hit := (1, [teaHit "warm" "tea" 1, teaHit "black" "coffee" 0])

private def pressing : ℚ × List Hit := (1, [teaHit "hot" "tea" 0, teaHit "iced" "tea" 1])

theorem scores_of_either_order_of_teas :
    (0 : Int) ≤ 60 ∧ ∃ es es', fuseWith exact infusion pressing 60 3 = .ok es ∧
      fuseWith exact pressing infusion 60 3 = .ok es' ∧ es.map Prod.snd = es'.map Prod.snd ∧
      (keys es).Perm [("tea", some (.int 1)), ("coffee", some (.int 0)), ("tea", some (.int 0))] ∧
      (keyed es).Perm (keyed es') := by
  have hconstant : (0 : Int) ≤ 60 := by decide
  obtain ⟨es, es', hes, hes', hscores, -, hall⟩ :=
    scores_of_either_order infusion pressing hconstant 3
  obtain ⟨hkeys, hkeyed⟩ := hall (by decide)
  have hdistinct : ((infusion.2 ++ pressing.2).map key).eraseDups =
      [("tea", some (.int 1)), ("coffee", some (.int 0)), ("tea", some (.int 0))] := by decide
  exact ⟨hconstant, es, es', hes, hes', hscores, hdistinct ▸ hkeys, hkeyed⟩

end TextMemory.Ranking
