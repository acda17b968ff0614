import TextMemory.Proofs.Binary64
import TextMemory.Proofs.FloatOrder
import TextMemory.Proofs.Precedence
import TextMemory.Proofs.Shares
import TextMemory.Proofs.Sorting

/-!
# Merging two rankings

A result of either ranking is among the merged ones, once, in the form in which it was first seen,
with the sum of its shares. Ordering only rearranges them, and where all scores are numbers no score
is less than one that stands behind it and equal ones keep their order.
-/
namespace TextMemory.Ranking

variable {W S : Type} {sc : Scoring W S}

def merged (sc : Scoring W S) (first second : W × List Hit) (k : Nat) :
    Except Fault (List (Hit × S)) := do
  let seen ← collect sc first.1 k 0 first.2 []
  collect sc second.1 k 0 second.2 seen

theorem merged_eq_ok {first second : W × List Hit} {k : Nat} {es : List (Hit × S)} :
    merged sc first second k = .ok es ↔
      ∃ os os', placed sc first k = .ok os ∧ placed sc second k = .ok os' ∧
        tally sc.add (os ++ os') [] = es := by
  have hcollect : ∀ (ranking : W × List Hit) (seen : List (Hit × S)),
      collect sc ranking.1 k 0 ranking.2 seen =
        (placed sc ranking k).map fun os => tally sc.add os seen :=
    fun ranking seen => collect_eq_tally
  simp only [merged, Result.bind_eq_ok, hcollect, Result.map_eq_ok]
  constructor
  · rintro ⟨seen, ⟨os, hos, rfl⟩, os', hos', rfl⟩
    exact ⟨os, os', hos, hos', tally_append sc.add os os' []⟩
  · rintro ⟨os, os', hos, hos', rfl⟩
    exact ⟨tally sc.add os [], ⟨os, hos, rfl⟩, os', hos', (tally_append sc.add os os' []).symm⟩

section

variable {first second : W × List Hit} {k : Nat} {es : List (Hit × S)}

theorem mem_keys_merged (h : merged sc first second k = .ok es) {c : Key} :
    c ∈ keys es ↔ c ∈ first.2.map key ∨ c ∈ second.2.map key := by
  obtain ⟨os, os', hos, hos', rfl⟩ := merged_eq_ok.mp h
  rw [keys_tally, List.mem_eraseDups, keys_append, keys_placed hos, keys_placed hos',
    List.mem_append]

theorem nodup_keys_merged (h : merged sc first second k = .ok es) : (keys es).Nodup := by
  obtain ⟨os, os', -, -, rfl⟩ := merged_eq_ok.mp h
  exact nodup_keys_tally sc.add _

theorem fst_of_mem_merged (h : merged sc first second k = .ok es) {e : Hit × S} (he : e ∈ es) :
    e.1 ∈ first.2 ∨ e.1 ∈ second.2 := by
  obtain ⟨os, os', hos, hos', rfl⟩ := merged_eq_ok.mp h
  have hmem := List.mem_of_find?_eq_some (sumsUp_of_mem_tally he).first
  rwa [List.map_append, map_fst_placed hos, map_fst_placed hos', List.mem_append] at hmem

theorem fuseWith_eq_ok {k limit : Int} (hlimit : 0 < limit) :
    fuseWith sc first second k limit = .ok es ↔
      0 ≤ k ∧ ∃ seen, merged sc first second k.toNat = .ok seen ∧
        (ordered sc seen).take limit.toNat = es := by
  unfold fuseWith
  by_cases hk : k < 0
  · simp [hk]
  · rw [if_neg hk, if_neg (Int.not_le.mpr hlimit), and_iff_right (Int.not_lt.mp hk)]
    simp only [merged, Result.bind_eq_ok, Result.pure_eq_ok]
    constructor
    · rintro ⟨half, hhalf, seen, hseen, rfl⟩
      exact ⟨seen, ⟨half, hhalf, hseen⟩, rfl⟩
    · rintro ⟨seen, ⟨half, hhalf, hseen⟩, rfl⟩
      exact ⟨half, hhalf, seen, hseen, rfl⟩

end

def scored (e : Hit × Float) : Hit := { e.1 with score := e.2 }

/-- A weight over a rank: a binary64 weight over the binary64 value next to the rank, and an integer
one exactly, as the binary64 value next to the quotient. -/
inductive Share : Number → Int → Float → Prop
  | ofFloat {rank : Int} {y : Float} (weight : Float) (h : Binary64.ofInt? rank = some y) :
      Share (.float weight) rank (weight / y)
  | ofInt {rank : Int} {y : Float} (weight : Int) (h : Binary64.ofQuotient? weight rank = some y) :
      Share (.int weight) rank y

theorem share_eq_ok {weight : Number} {n : Nat} {y : Float} :
    binary64.share weight n = .ok y ↔ Share weight n y := by
  change weight.dividedBy n = .ok y ↔ _
  cases weight with
  | float x =>
    rw [Number.dividedBy]
    constructor
    · intro h
      cases hrank : Binary64.ofInt? n with
      | none =>
        rw [hrank] at h
        cases h
      | some z =>
        rw [hrank] at h
        cases h
        exact .ofFloat x hrank
    · rintro ⟨-, hrank⟩
      rw [hrank]
  | int m =>
    rw [Number.dividedBy]
    constructor
    · intro h
      cases hquotient : Binary64.ofQuotient? m n with
      | none =>
        rw [hquotient] at h
        cases h
      | some z =>
        rw [hquotient] at h
        cases h
        exact .ofInt m hquotient
    · intro h
      cases h with
      | ofInt _ hquotient => rw [hquotient]

theorem Share.exists_of_lt (x : Float) {n : Nat} (hn : n < 2 ^ 64) : ∃ y, Share (.float x) n y := by
  have hfinite : ¬Binary64.infinityBits ≤ Binary64.nearest n 1 :=
    Nat.not_le.mpr (Binary64.nearest_natural_lt hn)
  refine ⟨x / Binary64.ofMagnitude false (Binary64.nearest n 1), .ofFloat x ?_⟩
  have hsign : decide ((n : Int) < 0) = false := by simp
  rw [Binary64.ofInt?, Int.natAbs_natCast, if_neg hfinite, hsign]

def Shared (ranking : Number × List Hit) (k : Int) (os : List (Hit × Float)) : Prop :=
  os.map Prod.fst = ranking.2 ∧ ∀ i (hi : i < os.length), Share ranking.1 (k + i + 1) os[i].2

theorem Share.unique {weight : Number} {rank : Int} {x y : Float} (hx : Share weight rank x)
    (hy : Share weight rank y) : x = y := by
  cases hx with
  | ofFloat weight hx =>
    obtain ⟨-, hy⟩ := hy
    rw [Option.some.inj (hx.symm.trans hy)]
  | ofInt weight hx =>
    cases hy with
    | ofInt _ hy => exact Option.some.inj (hx.symm.trans hy)

theorem Shared.unique {ranking : Number × List Hit} {k : Int} {os os' : List (Hit × Float)}
    (hos : Shared ranking k os) (hos' : Shared ranking k os') : os = os' := by
  have hhits : os.map Prod.fst = os'.map Prod.fst := hos.1.trans hos'.1.symm
  have hlength : os.length = os'.length := by simpa using congrArg List.length hhits
  refine List.ext_getElem hlength ?_
  intro i hi hi'
  refine Prod.ext ?_ ((hos.2 i hi).unique (hos'.2 i hi'))
  simpa [hi, hi'] using congrArg (fun hs => hs[i]?) hhits

theorem rank_eq {k : Int} (hk : 0 ≤ k) (i : Nat) : ((k.toNat + i + 1 : Nat) : Int) = k + i + 1 := by
  omega

theorem placed_iff {ranking : Number × List Hit} {k : Int} (hk : 0 ≤ k) {os : List (Hit × Float)} :
    placed binary64 ranking k.toNat = .ok os ↔ Shared ranking k os := by
  simp only [placed_eq_ok, share_eq_ok, rank_eq hk, Shared]

theorem forM_checkIndex {hs : List Hit} :
    hs.forM checkIndex = .ok () ↔ ∀ h ∈ hs, checkIndex h = .ok () := by
  induction hs with
  | nil => exact ⟨fun _ => nofun, fun _ => rfl⟩
  | cons h hs ih =>
    change (checkIndex h >>= fun _ => hs.forM checkIndex) = .ok () ↔ _
    rw [Result.bind_eq_ok, List.forall_mem_cons, ← ih]
    constructor
    · rintro ⟨⟨⟩, hhead, htail⟩
      exact ⟨hhead, htail⟩
    · rintro ⟨hhead, htail⟩
      exact ⟨(), hhead, htail⟩

theorem fuse_eq_ok {vector keyword : Number × List Hit} {k limit : Int} (hlimit : 0 < limit)
    {hits : List Hit} :
    fuse vector keyword k limit = .ok hits ↔
      0 ≤ k ∧ ∃ es, merged binary64 vector keyword k.toNat = .ok es ∧
        (∀ h ∈ vector.2 ++ keyword.2, checkIndex h = .ok ()) ∧
        ((ordered binary64 es).take limit.toNat).map scored = hits := by
  simp only [fuse, if_pos hlimit, Result.bind_eq_ok, fuseWith_eq_ok hlimit, Result.pure_eq_ok]
  constructor
  · rintro ⟨_, ⟨hk, es, hes, rfl⟩, ⟨⟩, hindex, hhits⟩
    exact ⟨hk, es, hes, forM_checkIndex.mp hindex, hhits⟩
  · rintro ⟨hk, es, hes, hindex, hhits⟩
    exact ⟨_, ⟨hk, es, hes, rfl⟩, (), forM_checkIndex.mpr hindex, hhits⟩

theorem fuse_exists_iff {vector keyword : Number × List Hit} {k limit : Int} (hk : 0 ≤ k)
    (hlimit : 0 < limit) :
    (∃ hits, fuse vector keyword k limit = .ok hits) ↔
      (∀ i < vector.2.length, ∃ x, Share vector.1 (k + i + 1) x) ∧
      (∀ i < keyword.2.length, ∃ x, Share keyword.1 (k + i + 1) x) ∧
      ∀ h ∈ vector.2 ++ keyword.2, checkIndex h = .ok () := by
  have hshares : ∀ ranking : Number × List Hit, (∃ os, placed binary64 ranking k.toNat = .ok os) ↔
      ∀ i < ranking.2.length, ∃ x, Share ranking.1 (k + i + 1) x := by
    intro ranking
    simp only [exists_placed_iff, share_eq_ok, rank_eq hk]
  rw [← hshares, ← hshares]
  constructor
  · rintro ⟨hits, h⟩
    obtain ⟨-, es, hes, hindex, -⟩ := (fuse_eq_ok hlimit).mp h
    obtain ⟨os, os', hos, hos', -⟩ := merged_eq_ok.mp hes
    exact ⟨⟨os, hos⟩, ⟨os', hos'⟩, hindex⟩
  · rintro ⟨⟨os, hos⟩, ⟨os', hos'⟩, hindex⟩
    have hes := merged_eq_ok.mpr ⟨os, os', hos, hos', rfl⟩
    exact ⟨_, (fuse_eq_ok hlimit).mpr ⟨hk, _, hes, hindex, rfl⟩⟩

theorem fuse_exists (x y : Float) {near matching : List Hit} {k limit : Int} (hk : 0 ≤ k)
    (hlimit : 0 < limit) (hnear : k.toNat + near.length < 2 ^ 64)
    (hmatching : k.toNat + matching.length < 2 ^ 64)
    (hindex : ∀ h ∈ near ++ matching, checkIndex h = .ok ()) :
    ∃ hits, fuse (.float x, near) (.float y, matching) k limit = .ok hits := by
  have hshare (z : Float) (i : Nat) (hi : k.toNat + i + 1 < 2 ^ 64) :
      ∃ s, Share (.float z) (k + i + 1) s := by
    rw [← rank_eq hk]
    exact Share.exists_of_lt z hi
  refine (fuse_exists_iff hk hlimit).mpr ⟨?_, ?_, hindex⟩
  · exact fun i hi => hshare x i (by dsimp only at hi; omega)
  · exact fun i hi => hshare y i (by dsimp only at hi; omega)

theorem ordered_perm (sc : Scoring W S) (es : List (Hit × S)) : (ordered sc es).Perm es := by
  unfold ordered
  split
  · have hsort := Sorting.sort_perm (fun a b : Hit × S => sc.less a.2 b.2) es.reverse
    exact (List.reverse_perm _).trans (hsort.trans (List.reverse_perm es))
  · exact List.mergeSort_perm _ _

abbrev Numeric := { e : Hit × Float // e.2.isNaN = false }

def atLeast (a b : Numeric) : Bool := !binary64.less a.1.2 b.1.2

theorem atLeast_iff {a b : Numeric} : atLeast a b = true ↔ ¬a.1.2 < b.1.2 := by
  rw [atLeast, Bool.not_eq_true']
  exact decide_eq_false_iff_not

theorem atLeast_trans (a b c : Numeric) (hab : atLeast a b = true) (hbc : atLeast b c = true) :
    atLeast a c = true := by
  rw [atLeast_iff] at hab hbc ⊢
  exact FloatOrder.not_lt_trans a.2 b.2 c.2 hab hbc

theorem atLeast_total (a b : Numeric) : (atLeast a b || atLeast b a) = true := by
  rw [Bool.or_eq_true, atLeast_iff, atLeast_iff]
  exact FloatOrder.not_lt_or_not_lt a.2 b.2

theorem exists_numeric {es : List (Hit × Float)} (hes : ∀ e ∈ es, e.2.isNaN = false) :
    ∃ numbers : List Numeric, numbers.map Subtype.val = es ∧
      ordered binary64 es = (numbers.mergeSort atLeast).map Subtype.val := by
  refine ⟨es.attachWith _ hes, List.attachWith_map_subtype_val hes, ?_⟩
  have hany : (es.any fun e => binary64.unordered e.2) = false := by
    apply List.any_eq_false.mpr
    intro e he
    have hself : (e.2 != e.2) = false := (FloatOrder.bne_self e.2).trans (hes e he)
    exact Bool.eq_false_iff.mp hself
  rw [ordered, hany, List.map_mergeSort (s := fun a b => !binary64.less a.2 b.2),
    List.attachWith_map_subtype_val hes]
  · rfl
  · intro a _ b _
    rfl

theorem ordered_pairwise {es : List (Hit × Float)} (hes : ∀ e ∈ es, e.2.isNaN = false) :
    (ordered binary64 es).Pairwise fun a b => b.2 ≤ a.2 := by
  obtain ⟨numbers, -, hordered⟩ := exists_numeric hes
  rw [hordered, List.pairwise_map]
  apply (List.pairwise_mergeSort atLeast_trans atLeast_total numbers).imp
  intro a b hab
  exact FloatOrder.le_of_not_lt a.2 b.2 (atLeast_iff.mp hab)

theorem ordered_stable {es : List (Hit × Float)} (hes : ∀ e ∈ es, e.2.isNaN = false) (x : Float) :
    (ordered binary64 es).filter (fun e => e.2 == x) = es.filter fun e => e.2 == x := by
  obtain ⟨numbers, hnumbers, hordered⟩ := exists_numeric hes
  have hkept : (numbers.mergeSort atLeast).filter (fun e => e.1.2 == x) =
      numbers.filter fun e => e.1.2 == x := by
    apply Precedence.filter_mergeSort atLeast_trans atLeast_total
    intro a b ha hb
    exact atLeast_iff.mpr (FloatOrder.not_lt_of_beq ha hb)
  rw [hordered, ← hnumbers, List.filter_map, List.filter_map]
  exact congrArg (List.map Subtype.val) hkept

theorem key_eq_key {a b : Hit} {i j : Int} (ha : a.index = .number (.int i))
    (hb : b.index = .number (.int j)) : key a = key b ↔ a.source = b.source ∧ i = j := by
  simp [key, scalarOf, Number.canonical, ha, hb]

def entryOf (hs : List Hit) (os : List (Hit × Float)) (c : Key) : Option (Hit × Float) :=
  (hs.find? fun h => key h = c).bind fun hit =>
    (total (· + ·) (sharesOf c os)).map fun sum => (hit, sum)

theorem entries_eq {hs : List Hit} {os es : List (Hit × Float)}
    (h : ∀ e ∈ es, hs.find? (fun h => key h = key e.1) = some e.1 ∧
      total (· + ·) (sharesOf (key e.1) os) = some e.2) :
    es.map some = (keys es).map (entryOf hs os) := by
  rw [keys, List.map_map]
  apply List.map_congr_left
  intro e he
  rw [Function.comp_apply, entryOf, (h e he).1, (h e he).2]
  rfl

/-- Where no two entries have equal sums, there is one ranking of them by their sums. -/
theorem eq_of_ranked {ranked other : List (Hit × Float)} (hperm : ranked.Perm other)
    (hranked : ranked.Pairwise fun a b => b.2 ≤ a.2) (hother : other.Pairwise fun a b => b.2 ≤ a.2)
    (hnodup : (keys other).Nodup)
    (hsums : ∀ a ∈ other, ∀ b ∈ other, b.2 ≤ a.2 → a.2 ≤ b.2 → key a.1 = key b.1) :
    ranked = other := by
  apply List.Perm.eq_of_pairwise _ hranked hother hperm
  intro a b ha hb hba hab
  have ha' : a ∈ other := hperm.mem_iff.mp ha
  exact List.inj_on_of_nodup_map hnodup ha' hb (hsums a ha' b hb hba hab)

/-- Two rankings are merged unless a rank has no share or a result has an index that tells no
results apart. Each key of them gets one entry, in the order in which the keys are first seen: the
result as it was first seen, with the sum of the shares of all its occurrences in their order. If
all sums are numbers, the merged ranking has the first of the entries by their sums, from the
highest to the lowest and equal ones in the order in which their keys were first seen. -/
theorem fuse_sums_shares (vector keyword : Number × List Hit) {k limit : Int} (hk : 0 ≤ k)
    (hlimit : 0 < limit) :
    ((∃ hits, fuse vector keyword k limit = .ok hits) ↔
      (∀ i < vector.2.length, ∃ x, Share vector.1 (k + i + 1) x) ∧
      (∀ i < keyword.2.length, ∃ x, Share keyword.1 (k + i + 1) x) ∧
      ∀ h ∈ vector.2 ++ keyword.2, checkIndex h = .ok ()) ∧
    (∀ (a b : Hit) (i j : Int), a.index = .number (.int i) → b.index = .number (.int j) →
      (key a = key b ↔ a.source = b.source ∧ i = j)) ∧
    ∀ hits, fuse vector keyword k limit = .ok hits →
      ∃ near matching es, Shared vector k near ∧ Shared keyword k matching ∧
        keys es = ((vector.2 ++ keyword.2).map key).eraseDups ∧
        (∀ e ∈ es, (vector.2 ++ keyword.2).find? (fun h => key h = key e.1) = some e.1 ∧
          total (· + ·) (sharesOf (key e.1) (near ++ matching)) = some e.2) ∧
        ((∀ e ∈ es, e.2.isNaN = false) →
          ∃ ranked : List (Hit × Float), hits = (ranked.take limit.toNat).map scored ∧
            ranked.Perm es ∧
            (ranked.Pairwise fun a b => b.2 ≤ a.2) ∧
            ∀ x, ranked.filter (fun e => e.2 == x) = es.filter fun e => e.2 == x) := by
  refine ⟨fuse_exists_iff hk hlimit, fun a b i j => key_eq_key, ?_⟩
  intro hits h
  obtain ⟨-, es, hes, -, rfl⟩ := (fuse_eq_ok hlimit).mp h
  obtain ⟨near, matching, hnear, hmatching, htally⟩ := merged_eq_ok.mp hes
  refine ⟨near, matching, es, (placed_iff hk).mp hnear, (placed_iff hk).mp hmatching, ?_, ?_, ?_⟩
  · rw [← htally, keys_tally, keys_append, keys_placed hnear, keys_placed hmatching,
      List.map_append]
  · intro e he
    rw [← htally] at he
    obtain ⟨hfirst, hsum⟩ := sumsUp_of_mem_tally he
    rw [List.map_append, map_fst_placed hnear, map_fst_placed hmatching] at hfirst
    exact ⟨hfirst, hsum⟩
  · intro hnumbers
    exact ⟨_, rfl, ordered_perm binary64 es, ordered_pairwise hnumbers, ordered_stable hnumbers⟩

def teaHit (content source : String) (index : Int) : Hit :=
  ⟨content, source, none, .number (.int index), 0⟩

def nearTeas : Number × List Hit :=
  (.float 0.5, [teaHit "cold" "tea" 0, teaHit "hot" "tea" 1, teaHit "cold again" "tea" 0])

def matchingTeas : Number × List Hit :=
  (.int 1, [teaHit "black" "coffee" 0, teaHit "warm" "tea" 1])

def weighed : List (Hit × Float) := [
  (teaHit "hot" "tea" 1, 0.5 / 62 + 1 / 62),
  (teaHit "black" "coffee" 0, 1 / 61),
  (teaHit "cold" "tea" 0, 0.5 / 61 + 0.5 / 63)]

theorem fuse_sums_shares_of_teas :
    (0 : Int) ≤ 60 ∧ (0 : Int) < 2 ∧
      fuse nearTeas matchingTeas 60 2 = .ok ((weighed.take 2).map scored) := by
  have hconstant : (0 : Int) ≤ 60 := by decide
  have hlimit : (0 : Int) < 2 := by decide
  obtain ⟨hexists, -, hfused⟩ := fuse_sums_shares nearTeas matchingTeas hconstant hlimit
  have hnear : Shared nearTeas 60 (nearTeas.2.zip [0.5 / 61, 0.5 / 62, 0.5 / 63]) := by
    refine ⟨rfl, ?_⟩
    rintro (_ | _ | _ | i) hi
    · exact .ofFloat 0.5 (show Binary64.ofInt? 61 = some 61 by decide +kernel)
    · exact .ofFloat 0.5 (show Binary64.ofInt? 62 = some 62 by decide +kernel)
    · exact .ofFloat 0.5 (show Binary64.ofInt? 63 = some 63 by decide +kernel)
    · exact absurd hi (by simp [nearTeas])
  have hmatching : Shared matchingTeas 60 (matchingTeas.2.zip [1 / 61, 1 / 62]) := by
    refine ⟨rfl, ?_⟩
    rintro (_ | _ | i) hi
    · exact .ofInt 1 (show Binary64.ofQuotient? 1 61 = some (1 / 61) by decide +kernel)
    · exact .ofInt 1 (show Binary64.ofQuotient? 1 62 = some (1 / 62) by decide +kernel)
    · exact absurd hi (by simp [matchingTeas])
  obtain ⟨hits, hhits⟩ := hexists.mpr
    ⟨fun i hi => ⟨_, hnear.2 i hi⟩, fun i hi => ⟨_, hmatching.2 i hi⟩,
      by simp [nearTeas, matchingTeas, teaHit, checkIndex]⟩
  obtain ⟨near, matching, es, hnear', hmatching', hkeys, hsums, hranked⟩ := hfused hits hhits
  obtain rfl := hnear'.unique hnear
  obtain rfl := hmatching'.unique hmatching
  refine ⟨hconstant, hlimit, hhits.trans ?_⟩
  have hes := entries_eq hsums
  rw [hkeys] at hes
  have hes' : es = [weighed[2], weighed[0], weighed[1]] :=
    List.map_injective_iff.mpr (Option.some_injective _) (hes.trans rfl)
  subst hes'
  obtain ⟨ranked, rfl, hperm, hsorted, -⟩ := hranked (by decide +kernel)
  have hweighed : weighed.Perm [weighed[2], weighed[0], weighed[1]] :=
    show ([weighed[0], weighed[1]] ++ [weighed[2]]).Perm _ from List.perm_append_comm
  rw [eq_of_ranked (hperm.trans hweighed.symm) hsorted (by decide +kernel) (by decide)
    (by decide +kernel)]
  rfl

end TextMemory.Ranking
