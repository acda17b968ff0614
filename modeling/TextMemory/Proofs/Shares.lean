import TextMemory.Proofs.FirstSeen
import TextMemory.Proofs.Result
import TextMemory.Ranking

/-!
# What each result of a merging gets

Every occurrence of a result in a ranking has a share. Merging gives each key one entry, in the
order in which the keys are first seen: the result as it was first seen, with the sum of the shares
of all its occurrences, added in their order.
-/
namespace TextMemory.Ranking

variable {W S : Type} {sc : Scoring W S}

def keys (es : List (Hit × S)) : List Key := es.map fun e => key e.1

theorem keys_cons (e : Hit × S) (es : List (Hit × S)) : keys (e :: es) = key e.1 :: keys es := rfl

theorem keys_append (es es' : List (Hit × S)) : keys (es ++ es') = keys es ++ keys es' :=
  List.map_append

theorem keys_credit (add : S → S → S) (h : Hit) (share : S) (es : List (Hit × S)) :
    keys (credit add h share es) =
      if key h ∈ keys es then keys es else keys es ++ [key h] := by
  induction es with
  | nil => simp [credit, keys]
  | cons e es ih =>
    unfold credit
    by_cases he : key e.1 = key h
    · rw [if_pos he, keys_cons, keys_cons, he, if_pos List.mem_cons_self]
    · rw [if_neg he, keys_cons, keys_cons, ih]
      have hne : key h ≠ key e.1 := Ne.symm he
      by_cases hes : key h ∈ keys es
      · simp [hes]
      · simp [hes, hne]

/-- With one more share, a result is another one, has had shares before or is new. -/
theorem mem_credit {add : S → S → S} {h : Hit} {share : S} {es : List (Hit × S)} {e : Hit × S}
    (hes : (keys es).Nodup) (he : e ∈ credit add h share es) :
    (e ∈ es ∧ key e.1 ≠ key h) ∨ (∃ d ∈ es, key d.1 = key h ∧ e = (d.1, add d.2 share)) ∨
      (key h ∉ keys es ∧ e = (h, share)) := by
  induction es with
  | nil => exact .inr (.inr ⟨List.not_mem_nil, List.mem_singleton.mp he⟩)
  | cons d es ih =>
    rw [keys_cons, List.nodup_cons] at hes
    unfold credit at he
    by_cases hd : key d.1 = key h
    · rw [if_pos hd] at he
      rcases List.mem_cons.mp he with rfl | he
      · exact .inr (.inl ⟨d, List.mem_cons_self, hd, rfl⟩)
      · refine .inl ⟨List.mem_cons_of_mem d he, fun heq => hes.1 ?_⟩
        exact List.mem_map.mpr ⟨e, he, heq.trans hd.symm⟩
    · rw [if_neg hd] at he
      rcases List.mem_cons.mp he with rfl | he
      · exact .inl ⟨List.mem_cons_self, hd⟩
      · rcases ih hes.2 he with ⟨he, hne⟩ | ⟨c, hc, hkey, rfl⟩ | ⟨hnew, rfl⟩
        · exact .inl ⟨List.mem_cons_of_mem d he, hne⟩
        · exact .inr (.inl ⟨c, List.mem_cons_of_mem d hc, hkey, rfl⟩)
        · refine .inr (.inr ⟨?_, rfl⟩)
          rw [keys_cons, List.mem_cons]
          rintro (heq | hmem)
          · exact hd heq.symm
          · exact hnew hmem

def placed (sc : Scoring W S) (ranking : W × List Hit) (k : Nat) :
    Except Fault (List (Hit × S)) :=
  ranking.2.zipIdx.mapM fun place =>
    (sc.share ranking.1 (k + place.2 + 1)).map fun share => (place.1, share)

def sharesOf (c : Key) (os : List (Hit × S)) : List S :=
  (os.filter fun o => key o.1 = c).map Prod.snd

def total (add : S → S → S) : List S → Option S
  | [] => none
  | s :: ss => some (ss.foldl add s)

def tally (add : S → S → S) (os seen : List (Hit × S)) : List (Hit × S) :=
  os.foldl (fun es o => credit add o.1 o.2 es) seen

theorem tally_append (add : S → S → S) (os os' seen : List (Hit × S)) :
    tally add (os ++ os') seen = tally add os' (tally add os seen) :=
  List.foldl_append

theorem collect_eq_tally {weight : W} {k i : Nat} {hs : List Hit} {seen : List (Hit × S)} :
    collect sc weight k i hs seen =
      ((hs.zipIdx i).mapM fun place =>
        (sc.share weight (k + place.2 + 1)).map fun share => (place.1, share)).map
          fun os => tally sc.add os seen := by
  induction hs generalizing i seen with
  | nil => rfl
  | cons h hs ih =>
    rw [collect, List.zipIdx_cons, List.mapM_cons]
    cases sc.share weight (k + i + 1) with
    | error e => rfl
    | ok s =>
      rw [Result.ok_bind, ih]
      cases ((hs.zipIdx (i + 1)).mapM fun place =>
        (sc.share weight (k + place.2 + 1)).map fun share => (place.1, share)) with
      | error e => rfl
      | ok os => rfl

theorem placed_eq_ok {ranking : W × List Hit} {k : Nat} {os : List (Hit × S)} :
    placed sc ranking k = .ok os ↔ os.map Prod.fst = ranking.2 ∧
      ∀ i (hi : i < os.length), sc.share ranking.1 (k + i + 1) = .ok os[i].2 := by
  simp only [placed, Result.mapM_eq_ok, List.forall₂_iff_get, List.length_zipIdx,
    List.get_eq_getElem, List.getElem_zipIdx, Nat.zero_add, Result.map_eq_ok]
  constructor
  · rintro ⟨hlength, hplaces⟩
    refine ⟨List.ext_getElem (by rw [List.length_map, hlength]) ?_, ?_⟩
    · intro i hi hi'
      rw [List.length_map] at hi
      obtain ⟨share, -, ho⟩ := hplaces i hi' hi
      rw [List.getElem_map, ← ho]
    · intro i hi
      obtain ⟨share, hshare, ho⟩ := hplaces i (by rwa [hlength]) hi
      rw [hshare, ← ho]
  · rintro ⟨hhits, hshares⟩
    refine ⟨by rw [← hhits, List.length_map], ?_⟩
    intro i hi hi'
    refine ⟨os[i].2, hshares i hi', ?_⟩
    simp only [← hhits, List.getElem_map]

theorem map_fst_placed {ranking : W × List Hit} {k : Nat} {os : List (Hit × S)}
    (h : placed sc ranking k = .ok os) : os.map Prod.fst = ranking.2 :=
  (placed_eq_ok.mp h).1

theorem keys_placed {ranking : W × List Hit} {k : Nat} {os : List (Hit × S)}
    (h : placed sc ranking k = .ok os) : keys os = ranking.2.map key := by
  rw [← map_fst_placed h, List.map_map]
  rfl

theorem exists_placed_iff {ranking : W × List Hit} {k : Nat} :
    (∃ os, placed sc ranking k = .ok os) ↔
      ∀ i < ranking.2.length, ∃ s, sc.share ranking.1 (k + i + 1) = .ok s := by
  constructor
  · rintro ⟨os, hos⟩ i hi
    rw [← map_fst_placed hos, List.length_map] at hi
    exact ⟨os[i].2, (placed_eq_ok.mp hos).2 i hi⟩
  · intro hshare
    simp only [placed, Result.mapM_eq_ok]
    apply Result.exists_forall₂
    rintro ⟨hit, i⟩ hplace
    obtain ⟨s, hs⟩ := hshare i (by have := List.snd_lt_of_mem_zipIdx hplace; omega)
    exact ⟨(hit, s), Result.map_eq_ok.mpr ⟨s, hs, rfl⟩⟩

theorem keys_tally (add : S → S → S) (os : List (Hit × S)) :
    keys (tally add os []) = (keys os).eraseDups := by
  induction os using List.reverseRecOn with
  | nil => rfl
  | append_singleton os o ih =>
    have hkeys : keys (os ++ [o]) = keys os ++ [key o.1] := keys_append os [o]
    have hlast : tally add (os ++ [o]) [] = credit add o.1 o.2 (tally add os []) :=
      tally_append add os [o] []
    rw [hlast, keys_credit, ih, hkeys]
    by_cases ho : key o.1 ∈ keys os
    · rw [if_pos (List.mem_eraseDups.mpr ho), FirstSeen.eraseDups_append_of_mem ho]
    · rw [if_neg (mt List.mem_eraseDups.mp ho), FirstSeen.eraseDups_append_of_notMem ho]

theorem nodup_keys_tally (add : S → S → S) (os : List (Hit × S)) :
    (keys (tally add os [])).Nodup := by
  rw [keys_tally]
  exact FirstSeen.nodup_eraseDups _

theorem sharesOf_append (c : Key) (os os' : List (Hit × S)) :
    sharesOf c (os ++ os') = sharesOf c os ++ sharesOf c os' := by
  rw [sharesOf, List.filter_append, List.map_append]
  rfl

theorem sharesOf_of_notMem {c : Key} {os : List (Hit × S)} (h : c ∉ keys os) :
    sharesOf c os = [] := by
  rw [sharesOf, List.filter_eq_nil_iff.mpr, List.map_nil]
  intro o ho hc
  exact h (List.mem_map.mpr ⟨o, ho, of_decide_eq_true hc⟩)

theorem sharesOf_of_mem {os : List (Hit × S)} (hos : (keys os).Nodup) {o : Hit × S} (ho : o ∈ os) :
    sharesOf (key o.1) os = [o.2] := by
  obtain ⟨before, after, rfl⟩ := List.append_of_mem ho
  rw [keys_append, keys_cons, List.nodup_middle, List.nodup_cons, List.mem_append, not_or] at hos
  have hone : sharesOf (key o.1) [o] = [o.2] := by simp [sharesOf]
  have hsplit : before ++ o :: after = before ++ ([o] ++ after) := rfl
  rw [hsplit, sharesOf_append, sharesOf_append, hone, sharesOf_of_notMem hos.1.1,
    sharesOf_of_notMem hos.1.2, List.nil_append, List.append_nil]

theorem credit_of_notMem {add : S → S → S} {h : Hit} {share : S} {es : List (Hit × S)}
    (hnew : key h ∉ keys es) : credit add h share es = es ++ [(h, share)] := by
  induction es with
  | nil => rfl
  | cons e es ih =>
    rw [keys_cons, List.mem_cons, not_or] at hnew
    rw [credit, if_neg (Ne.symm hnew.1), ih hnew.2, List.cons_append]

theorem tally_of_nodup {add : S → S → S} {os : List (Hit × S)} (hos : (keys os).Nodup) :
    tally add os [] = os := by
  induction os using List.reverseRecOn with
  | nil => rfl
  | append_singleton os o ih =>
    rw [keys_append, List.nodup_append] at hos
    have hlast : tally add (os ++ [o]) [] = credit add o.1 o.2 (tally add os []) :=
      tally_append add os [o] []
    rw [hlast, ih hos.1, credit_of_notMem]
    exact fun ho => hos.2.2 (key o.1) ho (key o.1) (by simp [keys]) rfl

theorem total_append_singleton {add : S → S → S} {ss : List S} {s t : S}
    (h : total add ss = some s) : total add (ss ++ [t]) = some (add s t) := by
  cases ss with
  | nil => cases h
  | cons s' ss =>
    cases h
    rw [List.cons_append, total, List.foldl_append]
    rfl

/-- An entry as the occurrences make it: the result as it was first seen, with the sum of the
shares of its key. -/
structure SumsUp (add : S → S → S) (os : List (Hit × S)) (e : Hit × S) : Prop where
  first : (os.map Prod.fst).find? (fun h => key h = key e.1) = some e.1
  sum : total add (sharesOf (key e.1) os) = some e.2

theorem first_append {os : List (Hit × S)} {c : Key} {h : Hit}
    (hfirst : (os.map Prod.fst).find? (fun h => key h = c) = some h) (os' : List (Hit × S)) :
    ((os ++ os').map Prod.fst).find? (fun h => key h = c) = some h := by
  rw [List.map_append, List.find?_append, hfirst]
  rfl

theorem first_append_of_notMem {os : List (Hit × S)} {c : Key} (hnew : c ∉ keys os)
    (os' : List (Hit × S)) :
    ((os ++ os').map Prod.fst).find? (fun h => key h = c) =
      (os'.map Prod.fst).find? fun h => key h = c := by
  have hnone : (os.map Prod.fst).find? (fun h => key h = c) = none := by
    rw [List.find?_eq_none]
    intro h hh heq
    obtain ⟨o, ho, rfl⟩ := List.mem_map.mp hh
    exact hnew (List.mem_map.mpr ⟨o, ho, of_decide_eq_true heq⟩)
  rw [List.map_append, List.find?_append, hnone, Option.none_or]

theorem sumsUp_of_mem_tally {add : S → S → S} {os : List (Hit × S)} {e : Hit × S}
    (he : e ∈ tally add os []) : SumsUp add os e := by
  induction os using List.reverseRecOn generalizing e with
  | nil => cases he
  | append_singleton os o ih =>
    have hlast : tally add (os ++ [o]) [] = credit add o.1 o.2 (tally add os []) :=
      tally_append add os [o] []
    rw [hlast] at he
    rcases mem_credit (nodup_keys_tally add os) he with ⟨he, hne⟩ | ⟨d, hd, hkey, rfl⟩ | ⟨hnew, rfl⟩
    · obtain ⟨hfirst, hsum⟩ := ih he
      have hother : sharesOf (key e.1) [o] = [] := by
        apply sharesOf_of_notMem
        exact fun hmem => hne (List.mem_singleton.mp hmem)
      refine ⟨first_append hfirst [o], ?_⟩
      rw [sharesOf_append, hother, List.append_nil]
      exact hsum
    · obtain ⟨hfirst, hsum⟩ := ih hd
      have hone : sharesOf (key d.1) [o] = [o.2] := by
        simp [sharesOf, hkey]
      refine ⟨first_append hfirst [o], ?_⟩
      rw [sharesOf_append, hone]
      exact total_append_singleton hsum
    · rw [keys_tally, List.mem_eraseDups] at hnew
      refine ⟨?_, ?_⟩
      · rw [first_append_of_notMem hnew]
        simp
      · rw [sharesOf_append, sharesOf_of_notMem hnew]
        simp [sharesOf, total]

end TextMemory.Ranking
